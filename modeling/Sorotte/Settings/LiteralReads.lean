import Sorotte.Settings.PythonLiterals

/-! # Reading formatted literals

  What each cursor parser does on the text its formatter writes: it returns
  the value and stops behind the text.
-/

namespace Sorotte.Settings

open Sorotte.Framework

/-- A scan that returned a value and stopped at an offset. -/
def Scans {α : Type} {index : Nat} (r : Except CursorStop (Scanned α index)) (value : α)
    (next : Nat) : Prop :=
  ∃ forward, r = .ok ⟨value, next, forward⟩

/-- A parser that reads a value off a text, whatever stands around it. -/
def Reads {α : Type} (input : Str) (parser : (index : Nat) → Except CursorStop (Scanned α index))
    (text : Str) (value : α) : Prop :=
  ∀ index rest, getFrom input index = some (text ++ rest) →
    Scans (parser index) value (index + byteLength text)

variable {input rest : Str} {index : Nat}

/-! ### White space -/

/-- A text that white space cannot be skipped in. -/
def Dense (text : Str) : Prop := ∀ c ∈ text.head?, isWhitespaceChar c = false

theorem dense_nil : Dense [] := nofun

theorem dense_cons {c : Char} (h : isWhitespaceChar c = false) (text : Str) : Dense (c :: text) :=
  fun _ hc => by cases hc; exact h

theorem skip_dense (h : getFrom input index = some rest) (hrest : Dense rest) :
    Scans (skipSerializedPythonWhitespaceCursor input index) () index := by
  refine ⟨Nat.le_refl _, ?_⟩
  rw [skipSerializedPythonWhitespaceCursor]
  cases rest with
  | nil =>
    rw [peekChar_nil h]
    rfl
  | cons c rest =>
    obtain ⟨fits, hpeek⟩ := peekChar_cons h
    have hsolid : isWhitespaceChar c = false := hrest c rfl
    rw [hpeek, ok_bind]
    dsimp only
    rw [hsolid, if_neg Bool.false_ne_true]
    rfl

theorem skip_space (h : getFrom input index = some (' ' :: rest)) (hrest : Dense rest) :
    Scans (skipSerializedPythonWhitespaceCursor input index) () (index + 1) := by
  obtain ⟨fits, hpeek⟩ := peekChar_cons h
  obtain ⟨forward, hafter⟩ := skip_dense (getFrom_next h) hrest
  refine ⟨by omega, ?_⟩
  rw [skipSerializedPythonWhitespaceCursor, hpeek, ok_bind]
  dsimp only
  rw [if_pos (by decide), hafter]
  rfl

/-! ### Quoted strings -/

/-- The text of a string between its quotes. -/
def escaped (value : Str) : Str :=
  replaceChar '\'' ['\\', '\''] (replaceChar '\\' ['\\', '\\'] value)

theorem escaped_cons (c : Char) (value : Str) :
    escaped (c :: value) =
      (if c = '\\' then ['\\', '\\'] else if c = '\'' then ['\\', '\''] else [c])
        ++ escaped value := by
  unfold escaped replaceChar
  rw [List.flatMap_cons, List.flatMap_append]
  congr 1
  by_cases hslash : c = '\\'
  · subst hslash
    rfl
  · rw [if_neg hslash, if_neg hslash, List.flatMap_singleton]

theorem formatSerializedPythonString_eq (value : Str) :
    formatSerializedPythonString value = '\'' :: (escaped value ++ ['\'']) := rfl

/-- A plain character is kept. -/
theorem quoted_plain {c : Char} {parsed value : Str} {next : Nat}
    (h : getFrom input index = some (c :: rest)) (hquote : c ≠ '\'') (hslash : c ≠ '\\')
    (hafter : Scans (parseQuotedLoop input '\'' (index + c.utf8Size) (parsed ++ [c])) value next) :
    Scans (parseQuotedLoop input '\'' index parsed) value next := by
  obtain ⟨fits, hread⟩ := nextChar_cons h
  obtain ⟨forward, hafter⟩ := hafter
  refine ⟨by omega, ?_⟩
  rw [parseQuotedLoop, hread, ok_bind]
  dsimp only
  rw [if_neg hquote, if_neg hslash, hafter]
  rfl

/-- An escaped character stands for what follows the backslash. -/
theorem quoted_escape {c : Char} {parsed value : Str} {next : Nat}
    (h : getFrom input index = some ('\\' :: c :: rest))
    (hafter : Scans (parseQuotedLoop input '\'' (index + '\\'.utf8Size + c.utf8Size)
      (parsed ++ [unescapedChar c])) value next) :
    Scans (parseQuotedLoop input '\'' index parsed) value next := by
  obtain ⟨fits, hread⟩ := nextChar_cons h
  obtain ⟨fits', hread'⟩ := nextChar_cons (getFrom_next h)
  obtain ⟨forward, hafter⟩ := hafter
  refine ⟨by omega, ?_⟩
  rw [parseQuotedLoop, hread, ok_bind]
  dsimp only
  rw [if_neg (by decide), if_pos rfl, hread', ok_bind]
  dsimp only
  rw [hafter]
  rfl

theorem quoted_close {parsed : Str} (h : getFrom input index = some ('\'' :: rest)) :
    Scans (parseQuotedLoop input '\'' index parsed) parsed (index + 1) := by
  obtain ⟨fits, hread⟩ := nextChar_cons h
  refine ⟨Nat.le_add_right _ _, ?_⟩
  rw [parseQuotedLoop, hread, ok_bind]
  dsimp only
  rw [if_pos rfl]
  rfl

theorem quoted_escaped (value : Str) :
    ∀ {index : Nat} {parsed : Str}, getFrom input index = some (escaped value ++ '\'' :: rest) →
      Scans (parseQuotedLoop input '\'' index parsed) (parsed ++ value)
        (index + byteLength (escaped value) + 1) := by
  induction value with
  | nil =>
    intro index parsed h
    rw [List.append_nil]
    exact quoted_close h
  | cons c value ih =>
    intro index parsed h
    rw [escaped_cons] at h ⊢
    have hsplit : parsed ++ c :: value = parsed ++ [c] ++ value := by simp
    by_cases hslash : c = '\\'
    · subst hslash
      rw [if_pos rfl] at h ⊢
      have hafter := @ih _ (parsed ++ ['\\']) (getFrom_advance ['\\', '\\'] h)
      rw [hsplit, byteLength_append, ← Nat.add_assoc]
      exact quoted_escape h hafter
    · rw [if_neg hslash] at h ⊢
      by_cases hquote : c = '\''
      · subst hquote
        rw [if_pos rfl] at h ⊢
        have hafter := @ih _ (parsed ++ ['\'']) (getFrom_advance ['\\', '\''] h)
        rw [hsplit, byteLength_append, ← Nat.add_assoc]
        exact quoted_escape h hafter
      · rw [if_neg hquote] at h ⊢
        have hafter := @ih _ (parsed ++ [c]) (getFrom_next h)
        rw [hsplit, byteLength_append, ← Nat.add_assoc, byteLength_cons, byteLength_nil,
          Nat.add_zero]
        exact quoted_plain h hquote hslash hafter

theorem string_reads (value : Str) :
    Reads input (parseSerializedPythonStringCursor input) (formatSerializedPythonString value)
      value := by
  intro index rest h
  have hopen : getFrom input index = some ('\'' :: (escaped value ++ '\'' :: rest)) := by
    rw [h, formatSerializedPythonString_eq, List.cons_append, List.append_assoc,
      List.singleton_append]
  obtain ⟨fits, hread⟩ := nextChar_cons hopen
  obtain ⟨forward, hloop⟩ := @quoted_escaped _ rest value _ [] (getFrom_next hopen)
  have hnext : index + byteLength (formatSerializedPythonString value) =
      index + '\''.utf8Size + byteLength (escaped value) + 1 := by
    rw [formatSerializedPythonString_eq, byteLength_cons, byteLength_append, ← Nat.add_assoc,
      ← Nat.add_assoc]
    rfl
  rw [hnext]
  refine ⟨by omega, ?_⟩
  rw [parseSerializedPythonStringCursor, hread, ok_bind]
  dsimp only
  rw [if_neg (by simp), hloop]
  rfl

theorem string_dense (value rest : Str) : Dense (formatSerializedPythonString value ++ rest) :=
  dense_cons (by decide) _

/-! ### Items -/

theorem joinItems_cons (a b : Str) (items : List Str) :
    joinItems (a :: b :: items) = a ++ ',' :: ' ' :: joinItems (b :: items) := by
  unfold joinItems
  rw [List.intercalate_cons_cons, List.append_assoc]
  rfl

theorem joinItems_singleton (a : Str) : joinItems [a] = a := by
  unfold joinItems
  simp

/-- A parser of items that reads what each is rendered as. -/
structure ItemFormat {α : Type} (input : Str) (close : Char)
    (item : (index : Nat) → Except CursorStop (Scanned α index)) (render : α → Str) : Prop where
  reads : ∀ a, Reads input item (render a) a
  starts : ∀ a, ∃ c text, render a = c :: text ∧ isWhitespaceChar c = false ∧ c ≠ close

section items

variable {α β : Type} {close : Char}
  {item : (index : Nat) → Except CursorStop (Scanned α index)} {insert : β → α → β}
  {render : α → Str}

theorem ItemFormat.dense (hf : ItemFormat input close item render) (a : α) (rest : Str) :
    Dense (render a ++ rest) := by
  obtain ⟨c, text, htext, hsolid, -⟩ := hf.starts a
  rw [htext]
  exact dense_cons hsolid _

/-- One space, or none, before the next item. -/
def Lead (lead : Str) : Prop := lead = [] ∨ lead = [' ']

theorem skip_lead {lead : Str} (hlead : Lead lead)
    (h : getFrom input index = some (lead ++ rest)) (hrest : Dense rest) :
    Scans (skipSerializedPythonWhitespaceCursor input index) () (index + byteLength lead) := by
  rcases hlead with rfl | rfl
  · exact skip_dense h hrest
  · exact skip_space h hrest

/-- The closing bracket ends the loop. -/
theorem items_close {lead : Str} {parsed : β} (hclose : isWhitespaceChar close = false)
    (hlead : Lead lead) (h : getFrom input index = some (lead ++ close :: rest)) :
    Scans (parseItemsLoop input close item insert index parsed) parsed
      (index + byteLength lead + 1) := by
  obtain ⟨forward, hskip⟩ := skip_lead hlead h (dense_cons hclose rest)
  obtain ⟨fits, hread⟩ := nextChar_cons (getFrom_advance lead h)
  refine ⟨by omega, ?_⟩
  rw [parseItemsLoop, hskip, ok_bind]
  dsimp only
  rw [hread, ok_bind]
  dsimp only
  rw [if_pos rfl]
  rfl

/-- An item is read, and the loop goes on behind it. -/
theorem items_item (hf : ItemFormat input close item render) {lead : Str} {parsed : β} {a : α}
    {delim : Char} (hdelim : isWhitespaceChar delim = false) (hlead : Lead lead)
    (h : getFrom input index = some (lead ++ (render a ++ delim :: rest))) :
    ∃ (gap : Nat) (hgap : index ≤ gap),
      gap = index + byteLength lead + byteLength (render a)
      ∧ getFrom input gap = some (delim :: rest)
      ∧ parseItemsLoop input close item insert index parsed =
        if delim = ',' then do
          let after ← parseItemsLoop input close item insert (gap + 1) (insert parsed a)
          pure (after.since (by omega))
        else if delim = close then pure ⟨insert parsed a, gap + 1, by omega⟩
        else .error .refused := by
  obtain ⟨forward, hskip⟩ := skip_lead hlead h (hf.dense a _)
  have hitem := getFrom_advance lead h
  obtain ⟨c, text, htext, -, hopen⟩ := hf.starts a
  have hfirst : getFrom input (index + byteLength lead) = some (c :: (text ++ delim :: rest)) := by
    rw [hitem, htext, List.cons_append]
  obtain ⟨fits, hread⟩ := nextChar_cons hfirst
  obtain ⟨forward', hvalue⟩ := hf.reads a _ _ hitem
  have hgap := getFrom_advance (render a) hitem
  obtain ⟨forward'', hafter⟩ := skip_dense hgap (dense_cons hdelim rest)
  obtain ⟨fits', hdelim'⟩ := nextChar_cons hgap
  refine ⟨_, by omega, rfl, hgap, ?_⟩
  rw [parseItemsLoop, hskip, ok_bind]
  dsimp only
  rw [hread, ok_bind]
  dsimp only
  rw [if_neg hopen, hvalue, ok_bind]
  dsimp only
  rw [hafter, ok_bind]
  dsimp only
  rw [hdelim', ok_bind]

/-- The loop reads the joined items. -/
theorem items_joined (hf : ItemFormat input close item render)
    (hclose : isWhitespaceChar close = false) (hcomma : close ≠ ',') (items : List α) :
    ∀ {index : Nat} {lead : Str} {parsed : β}, Lead lead →
      getFrom input index = some (lead ++ (joinItems (items.map render) ++ close :: rest)) →
      Scans (parseItemsLoop input close item insert index parsed) (items.foldl insert parsed)
        (index + byteLength lead + byteLength (joinItems (items.map render)) + 1) := by
  induction items with
  | nil =>
    intro index lead parsed hlead h
    exact items_close hclose hlead h
  | cons a items ih =>
    intro index lead parsed hlead h
    cases items with
    | nil =>
      rw [List.map_singleton, joinItems_singleton] at h ⊢
      obtain ⟨gap, hgap, hnext, -, hloop⟩ := items_item hf hclose hlead h
      rw [← hnext]
      refine ⟨by omega, ?_⟩
      rw [hloop, if_neg hcomma, if_pos rfl]
      rfl
    | cons b items =>
      rw [List.map_cons, List.map_cons, joinItems_cons, ← List.map_cons] at h ⊢
      rw [List.append_assoc, List.cons_append, List.cons_append] at h
      obtain ⟨gap, hgap, hnext, hrest, hloop⟩ := items_item hf (by decide) hlead h
      obtain ⟨forward, hafter⟩ :=
        @ih (gap + 1) [' '] (insert parsed a) (.inr rfl) (getFrom_next hrest)
      have hend : index + byteLength lead
            + byteLength (render a ++ ',' :: ' ' :: joinItems (List.map render (b :: items))) + 1 =
          gap + 1 + byteLength [' '] + byteLength (joinItems (List.map render (b :: items))) + 1 := by
        have hcommaSize : ','.utf8Size = 1 := rfl
        have hspaceSize : ' '.utf8Size = 1 := rfl
        simp only [byteLength_append, byteLength_cons, byteLength_nil, hcommaSize, hspaceSize]
        omega
      rw [hend]
      refine ⟨by omega, ?_⟩
      rw [hloop, if_pos rfl, hafter]
      rfl

end items

/-! ### Brackets -/

theorem append_singleton_foldl {α : Type} (items : List α) :
    ∀ acc, items.foldl (fun values value => values ++ [value]) acc = acc ++ items := by
  induction items with
  | nil => simp
  | cons a items ih =>
    intro acc
    rw [List.foldl_cons, ih]
    simp

theorem string_format (close : Char) (hclose : close ≠ '\'') :
    ItemFormat input close (parseSerializedPythonStringCursor input)
      formatSerializedPythonString where
  reads := string_reads
  starts value := ⟨'\'', _, rfl, by decide, Ne.symm hclose⟩

/-- The list parser reads a formatted list, also behind one space. -/
theorem stringList_reads {lead : Str} (hlead : Lead lead) (values : List Str) :
    Reads input (parseSerializedPythonStringListCursor input)
      (lead ++ formatSerializedStringList values) values := by
  intro index rest h
  have hlist : getFrom input index = some (lead ++
      '[' :: (joinItems (values.map formatSerializedPythonString) ++ ']' :: rest)) := by
    rw [h, formatSerializedStringList]
    simp only [List.append_assoc, List.cons_append, List.nil_append]
  obtain ⟨forward, hskip⟩ := skip_lead hlead hlist (dense_cons (by decide) _)
  have hopen := getFrom_advance lead hlist
  obtain ⟨fits, hread⟩ := nextChar_cons hopen
  obtain ⟨forward', hloop⟩ := @items_joined _ rest _ _ _ _ (fun values value => values ++ [value])
    _ (string_format ']' (by decide)) (by decide) (by decide) values
    (index + byteLength lead + 1) [] [] (.inl rfl) (getFrom_next hopen)
  rw [append_singleton_foldl, List.nil_append] at hloop
  have hend : index + byteLength (lead ++ formatSerializedStringList values) =
      index + byteLength lead + 1 + byteLength ([] : Str)
        + byteLength (joinItems (values.map formatSerializedPythonString)) + 1 := by
    have hopenSize : '['.utf8Size = 1 := rfl
    have hcloseSize : ']'.utf8Size = 1 := rfl
    simp only [formatSerializedStringList, byteLength_append, byteLength_cons, byteLength_nil,
      hopenSize, hcloseSize]
    omega
  rw [hend]
  refine ⟨by omega, ?_⟩
  unfold parseSerializedPythonStringListCursor
  refine bind_eq_ok hskip (bind_eq_ok hread ?_)
  dsimp only
  rw [if_neg (by simp)]
  exact bind_eq_ok hloop rfl

theorem pair_reads (server : Str × Str) :
    Reads input (parseSerializedPythonStringPairCursor input) (formatPublicServer server)
      server := by
  intro index rest h
  obtain ⟨label, address⟩ := server
  have hopen : getFrom input index = some ('[' :: (formatSerializedPythonString label
      ++ (',' :: ' ' :: (formatSerializedPythonString address ++ ']' :: rest)))) := by
    rw [h, formatPublicServer]
    simp only [List.append_assoc, List.cons_append, List.nil_append]
  obtain ⟨forward, hskip⟩ := skip_dense hopen (dense_cons (by decide) _)
  obtain ⟨fits, hread⟩ := nextChar_cons hopen
  have hlabel := getFrom_next hopen
  obtain ⟨forward₁, hlead⟩ := skip_dense hlabel (string_dense label _)
  obtain ⟨forward₂, hlabel'⟩ := string_reads label _ _ hlabel
  have hcomma := getFrom_advance _ hlabel
  obtain ⟨forward₃, hgap⟩ := skip_dense hcomma (dense_cons (by decide) _)
  obtain ⟨fits₁, hcomma'⟩ := nextChar_cons hcomma
  have hspace := getFrom_next hcomma
  obtain ⟨forward₄, hsecond⟩ := skip_space hspace (string_dense address _)
  have haddress := getFrom_next hspace
  obtain ⟨forward₅, haddress'⟩ := string_reads address _ _ haddress
  have hclosing := getFrom_advance _ haddress
  obtain ⟨forward₆, htrail⟩ := skip_dense hclosing (dense_cons (by decide) _)
  obtain ⟨fits₂, hclosing'⟩ := nextChar_cons hclosing
  have hend : index + byteLength (formatPublicServer (label, address)) =
      index + '['.utf8Size + byteLength (formatSerializedPythonString label) + ','.utf8Size
        + ' '.utf8Size + byteLength (formatSerializedPythonString address) + ']'.utf8Size := by
    simp only [formatPublicServer, byteLength_append, byteLength_cons, byteLength_nil]
    omega
  rw [hend]
  refine ⟨by omega, ?_⟩
  unfold parseSerializedPythonStringPairCursor
  refine bind_eq_ok hskip (bind_eq_ok hread ?_)
  refine bind_eq_ok (show closingFor '[' = .ok ']' from rfl) ?_
  refine bind_eq_ok hlead (bind_eq_ok hlabel' (bind_eq_ok hgap (bind_eq_ok hcomma' ?_)))
  dsimp only
  rw [if_neg (by simp)]
  refine bind_eq_ok hsecond (bind_eq_ok haddress' (bind_eq_ok htrail (bind_eq_ok hclosing' ?_)))
  dsimp only
  rw [if_neg (by simp)]
  rfl

theorem entry_reads (entry : Str × List Str) :
    Reads input (parsePerPlayerArgumentsCursor input) (formatPerPlayerArguments entry) entry := by
  intro index rest h
  obtain ⟨key, args⟩ := entry
  have hkey : getFrom input index = some (formatSerializedPythonString key
      ++ (':' :: ' ' :: (formatSerializedStringList args ++ rest))) := by
    rw [h, formatPerPlayerArguments]
    simp only [List.append_assoc, List.cons_append, List.nil_append]
  obtain ⟨forward, hkey'⟩ := string_reads key _ _ hkey
  have hcolon := getFrom_advance _ hkey
  obtain ⟨forward₁, hgap⟩ := skip_dense hcolon (dense_cons (by decide) _)
  obtain ⟨fits, hcolon'⟩ := nextChar_cons hcolon
  have hspace := getFrom_next hcolon
  obtain ⟨forward₂, hargs⟩ := stringList_reads (.inr rfl) args _ _ hspace
  have hend : index + byteLength (formatPerPlayerArguments (key, args)) =
      index + byteLength (formatSerializedPythonString key) + ':'.utf8Size
        + byteLength (' ' :: formatSerializedStringList args) := by
    simp only [formatPerPlayerArguments, byteLength_append, byteLength_cons, byteLength_nil]
    omega
  rw [hend]
  refine ⟨by omega, ?_⟩
  unfold parsePerPlayerArgumentsCursor
  refine bind_eq_ok hkey' (bind_eq_ok hgap (bind_eq_ok hcolon' ?_))
  dsimp only
  rw [if_neg (by simp)]
  exact bind_eq_ok hargs rfl

end Sorotte.Settings
