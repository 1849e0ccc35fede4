import Sorotte.Framework.Maps
import Sorotte.Settings.IniEscapes
import Sorotte.Settings.LiteralBoundaries
import Sorotte.Settings.LiteralReads

/-! # Setting literals round trip

  A formatted literal is read back as it was, also through the escapes of the
  ini file, and no input leads a cursor inside a character.
-/

namespace Sorotte.Settings

open Sorotte.Framework

/-! ### Bracketed texts -/

theorem trim_between {a b : Char} (ha : isWhitespaceChar a = false)
    (hb : isWhitespaceChar b = false) (middle : Str) :
    trim (a :: (middle ++ [b])) = a :: (middle ++ [b]) := by
  unfold trim
  rw [List.dropWhile_cons_of_neg (by simp [ha]), ← List.cons_append, List.reverse_append,
    List.reverse_singleton, List.singleton_append, List.dropWhile_cons_of_neg (by simp [hb])]
  simp

/-- A character the ini escapes leave alone, and no white space. -/
structure Plain (c : Char) : Prop where
  escape : escapeIniChar c = [c]
  solid : isWhitespaceChar c = false

theorem escape_between {a b : Char} (ha : Plain a) (hb : Plain b) (middle : Str) :
    escapeSorotteIniValue (a :: (middle ++ [b])) =
      a :: (escapeSorotteIniValue middle ++ [b]) := by
  unfold escapeSorotteIniValue
  rw [List.flatMap_cons, List.flatMap_append, List.flatMap_singleton, ha.escape, hb.escape,
    List.singleton_append]

/-- Trimming an escaped bracketed text takes nothing away. -/
theorem unescape_trim_escape {a b : Char} (ha : Plain a) (hb : Plain b) (middle : Str) :
    unescapeSorotteIniValue (trim (escapeSorotteIniValue (a :: (middle ++ [b])))) =
      a :: (middle ++ [b]) := by
  rw [escape_between ha hb, trim_between ha.solid hb.solid, ← escape_between ha hb,
    unescape_escape]

theorem plain_brackets : Plain '[' ∧ Plain ']' ∧ Plain '\x7b' ∧ Plain '\x7d' := by
  refine ⟨⟨?_, ?_⟩, ⟨?_, ?_⟩, ⟨?_, ?_⟩, ?_, ?_⟩ <;> decide

theorem stripAround_between (a b : Char) (middle : Str) :
    stripAround a b (a :: (middle ++ [b])) = some middle := by
  simp [stripAround, stripPrefix, stripSuffix]

/-! ### Whole values -/

theorem atEnd_end {α : Type} {input : Str} {index next : Nat} {value : α} {forward : index ≤ next}
    (h : getFrom input next = some []) :
    atEnd input (⟨value, next, forward⟩ : Scanned α index) = .ok value := by
  obtain ⟨front, hinput, hfront⟩ := getFrom_eq_some.mp h
  have hnext : next = byteLength input := by
    rw [hinput, List.append_nil, hfront]
  obtain ⟨forward', hskip⟩ := skip_dense h dense_nil
  unfold atEnd
  refine bind_eq_ok hskip ?_
  dsimp only
  rw [if_neg (not_not.mpr hnext)]
  rfl

theorem getFrom_whole (input : Str) : getFrom input (byteLength input) = some [] := by
  refine getFrom_eq_some.mpr ⟨input, ?_, rfl⟩
  rw [List.append_nil]

theorem quotedStringList_format (values : List Str) :
    quotedStringList (formatSerializedStringList values) = .ok values := by
  generalize hinput : formatSerializedStringList values = input
  have hstart : getFrom input 0 = some ([] ++ formatSerializedStringList values ++ []) := by
    rw [hinput, List.nil_append, List.append_nil]
    exact getFrom_eq_some.mpr ⟨[], rfl, rfl⟩
  obtain ⟨forward, hread⟩ := stringList_reads (.inl rfl) values 0 [] hstart
  unfold quotedStringList
  refine bind_eq_ok hread (atEnd_end ?_)
  rw [List.nil_append, hinput, Nat.zero_add]
  exact getFrom_whole input

/-- The items behind an opening bracket are read back, and nothing follows them. -/
theorem bracketedItems_format {α β : Type} {opening close : Char} {input : Str}
    {item : (index : Nat) → Except CursorStop (Scanned α index)} {render : α → Str}
    (hf : ItemFormat input close item render) (insert : β → α → β) (empty : β)
    (hopening : isWhitespaceChar opening = false ∧ opening.utf8Size = 1)
    (hclose : isWhitespaceChar close = false ∧ close.utf8Size = 1) (hcomma : close ≠ ',')
    (items : List α)
    (hinput : input = opening :: (joinItems (items.map render) ++ [close])) :
    bracketedItems input opening close item insert empty = .ok (items.foldl insert empty) := by
  have hstart : getFrom input 0 = some (opening :: (joinItems (items.map render) ++ [close])) := by
    refine getFrom_eq_some.mpr ⟨[], hinput, rfl⟩
  obtain ⟨forward, hskip⟩ := skip_dense hstart (dense_cons hopening.1 _)
  obtain ⟨fits, hread⟩ := nextChar_cons hstart
  have hitems := getFrom_next hstart
  rw [hopening.2] at hitems
  obtain ⟨forward', hloop⟩ := @items_joined _ [] _ _ _ _ insert _ hf hclose.1 hcomma items _ []
    empty (.inl rfl) hitems
  have hend : 0 + 1 + byteLength ([] : Str) + byteLength (joinItems (items.map render)) + 1 =
      byteLength input := by
    rw [hinput]
    simp only [byteLength_append, byteLength_cons, byteLength_nil, hopening.2, hclose.2]
    omega
  unfold bracketedItems
  refine bind_eq_ok hskip (bind_eq_ok hread ?_)
  dsimp only
  rw [if_neg (by simp)]
  refine bind_eq_ok hloop (atEnd_end ?_)
  rw [hend]
  exact getFrom_whole input

theorem entry_format (input : Str) :
    ItemFormat input '\x7d' (parsePerPlayerArgumentsCursor input) formatPerPlayerArguments where
  reads := entry_reads
  starts _ := ⟨'\'', _, rfl, by decide, by decide⟩

theorem quotedPerPlayerArgumentsMap_format (values : BTreeMap Str (List Str)) :
    quotedPerPlayerArgumentsMap (formatSerializedPerPlayerArgumentsMap values) = .ok values := by
  have hread := bracketedItems_format (entry_format (formatSerializedPerPlayerArgumentsMap values))
    (fun (parsed : BTreeMap Str (List Str)) entry => parsed.insert entry.1 entry.2) ∅
    (show isWhitespaceChar '\x7b' = false ∧ _ by decide) (by decide) (by decide) values.toList rfl
  rw [foldl_insert_toList] at hread
  exact hread

theorem server_format (input : Str) :
    ItemFormat input ']' (parseSerializedPythonStringPairCursor input) formatPublicServer where
  reads := pair_reads
  starts _ := ⟨'[', _, rfl, by decide, by decide⟩

theorem quotedPublicServersList_format (values : List (Str × Str)) :
    quotedPublicServersList (formatSerializedPublicServersList values) = .ok values := by
  have hread := bracketedItems_format (server_format (formatSerializedPublicServersList values))
    (fun parsed pair => parsed ++ [pair]) []
    (show isWhitespaceChar '[' = false ∧ _ by decide) (by decide) (by decide) values rfl
  rw [append_singleton_foldl, List.nil_append] at hread
  exact hread

/-! ### Round trips -/

/-- **Setting literals round trip**, directly and through the ini escapes; the
    unquoted reading is not needed; and cursors stay between characters. -/
theorem setting_literals_round_trip :
    (∀ values : List Str,
        parseSerializedStringList (formatSerializedStringList values) = some values
          ∧ parseSerializedStringList (unescapeSorotteIniValue
              (trim (escapeSorotteIniValue (formatSerializedStringList values)))) = some values
          ∧ quotedStringList (trim (formatSerializedStringList values)) = .ok values)
      ∧ (∀ values : BTreeMap Str (List Str),
        parseSerializedPerPlayerArgumentsMap (formatSerializedPerPlayerArgumentsMap values) =
            some values
          ∧ parseSerializedPerPlayerArgumentsMap (unescapeSorotteIniValue
              (trim (escapeSorotteIniValue (formatSerializedPerPlayerArgumentsMap values)))) =
            some values)
      ∧ (∀ values : List (Str × Str),
        parseSerializedPublicServersList (formatSerializedPublicServersList values) = some values
          ∧ parseSerializedPublicServersList (unescapeSorotteIniValue
              (trim (escapeSorotteIniValue (formatSerializedPublicServersList values)))) =
            some values)
      ∧ ∀ trimmed : Str,
        quotedStringList trimmed ≠ .error .offBoundary
          ∧ quotedPerPlayerArgumentsMap trimmed ≠ .error .offBoundary
          ∧ quotedPublicServersList trimmed ≠ .error .offBoundary := by
  obtain ⟨hopen, hclose, hbrace, hbrace'⟩ := plain_brackets
  refine ⟨fun values => ?_, fun values => ?_, fun values => ?_, fun trimmed => ?_⟩
  · have hread := quotedStringList_format values
    have htrim : trim (formatSerializedStringList values) = formatSerializedStringList values :=
      trim_between hopen.solid hclose.solid _
    have hback := unescape_trim_escape hopen hclose
      (joinItems (values.map formatSerializedPythonString))
    have hinner : stripAround '[' ']' (formatSerializedStringList values) =
        some (joinItems (values.map formatSerializedPythonString)) := stripAround_between _ _ _
    have hparse : parseSerializedStringList (formatSerializedStringList values) = some values := by
      unfold parseSerializedStringList
      dsimp only
      rw [htrim, if_neg (by simp [formatSerializedStringList]), hinner, hread]
    refine ⟨hparse, ?_, ?_⟩
    · exact (congrArg parseSerializedStringList hback).trans hparse
    · rw [htrim, hread]
  · have hread := quotedPerPlayerArgumentsMap_format values
    have htrim : trim (formatSerializedPerPlayerArgumentsMap values) =
        formatSerializedPerPlayerArgumentsMap values := trim_between hbrace.solid hbrace'.solid _
    have hback := unescape_trim_escape hbrace hbrace'
      (joinItems (values.toList.map formatPerPlayerArguments))
    have hparse : parseSerializedPerPlayerArgumentsMap
        (formatSerializedPerPlayerArgumentsMap values) = some values := by
      unfold parseSerializedPerPlayerArgumentsMap
      dsimp only
      rw [htrim, hread, if_neg (by simp [formatSerializedPerPlayerArgumentsMap])]
      rfl
    exact ⟨hparse, (congrArg parseSerializedPerPlayerArgumentsMap hback).trans hparse⟩
  · have hread := quotedPublicServersList_format values
    have htrim : trim (formatSerializedPublicServersList values) =
        formatSerializedPublicServersList values := trim_between hopen.solid hclose.solid _
    have hback := unescape_trim_escape hopen hclose (joinItems (values.map formatPublicServer))
    have hparse : parseSerializedPublicServersList
        (formatSerializedPublicServersList values) = some values := by
      unfold parseSerializedPublicServersList
      dsimp only
      rw [htrim, hread, if_neg (by simp [formatSerializedPublicServersList])]
      rfl
    exact ⟨hparse, (congrArg parseSerializedPublicServersList hback).trans hparse⟩
  · exact ⟨quotedStringList_onBoundary trimmed,
      bracketedItems_onBoundary careful_entry rfl rfl _ _,
      bracketedItems_onBoundary careful_pair rfl rfl _ _⟩

end Sorotte.Settings
