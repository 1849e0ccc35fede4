import Sorotte.Settings.PythonLiterals

/-! # Literal cursors stay on boundaries

  On any input, a cursor that starts between two characters is only ever asked
  for offsets between two characters.
-/

namespace Sorotte.Settings

open Sorotte.Framework

variable {input : Str}

/-- A cursor parser that never asks for an offset inside a character. -/
def Careful {α : Type} (input : Str)
    (parser : (index : Nat) → Except CursorStop (Scanned α index)) : Prop :=
  ∀ index, OnBoundary input index → StaysOn (parser index) (Scanned.Ends input)

/-- An offset that differs only in how its width was counted. -/
theorem ends_one {index : Nat} {c : CharAt input index} (h : c.Ends)
    (hsize : c.char.utf8Size = 1) : OnBoundary input (index + 1) := by
  unfold CharAt.Ends at h
  rw [hsize] at h
  exact h

theorem careful_skip : Careful input (skipSerializedPythonWhitespaceCursor input) := by
  intro index
  induction index using skipSerializedPythonWhitespaceCursor.induct input with
  | case1 index ih =>
    intro hindex
    rw [skipSerializedPythonWhitespaceCursor]
    refine staysOn_bind (staysOn_peekChar hindex) fun found hfound => ?_
    cases found with
    | none => exact staysOn_ok hindex
    | some found =>
      obtain ⟨ch, fits⟩ := found
      have hends := hfound _ rfl
      dsimp only
      split
      · exact staysOn_bind (ih ch fits hends) fun after hafter => staysOn_ok hafter
      · exact staysOn_ok hindex

theorem staysOn_quotedLoop (quote : Char) (index : Nat) (parsed : Str) :
    OnBoundary input index →
      StaysOn (parseQuotedLoop input quote index parsed) (Scanned.Ends input) := by
  induction index, parsed using parseQuotedLoop.induct input with
  | case1 index parsed ihEscape ihPlain =>
    intro hindex
    rw [parseQuotedLoop]
    refine staysOn_bind (staysOn_nextChar hindex) fun found hfound => ?_
    obtain ⟨ch, fits⟩ := found
    dsimp only
    split
    · exact staysOn_ok hfound
    · split
      · refine staysOn_bind (staysOn_nextChar hfound) fun escaped hescaped => ?_
        obtain ⟨escaped, fits'⟩ := escaped
        exact staysOn_bind (ihEscape ch fits escaped fits' hescaped) fun after hafter =>
          staysOn_ok hafter
      · exact staysOn_bind (ihPlain ch fits hfound) fun after hafter => staysOn_ok hafter

theorem careful_string : Careful input (parseSerializedPythonStringCursor input) := by
  intro index hindex
  unfold parseSerializedPythonStringCursor
  refine staysOn_bind (staysOn_nextChar hindex) fun found hfound => ?_
  dsimp only
  split
  · exact staysOn_refused
  · exact staysOn_bind (staysOn_quotedLoop _ _ _ hfound) fun after hafter => staysOn_ok hafter

theorem staysOn_itemsLoop {α β : Type} {close : Char}
    {item : (index : Nat) → Except CursorStop (Scanned α index)} (hitem : Careful input item)
    (hclose : close.utf8Size = 1) (insert : β → α → β) (index : Nat) (parsed : β) :
    OnBoundary input index →
      StaysOn (parseItemsLoop input close item insert index parsed) (Scanned.Ends input) := by
  induction index, parsed using parseItemsLoop.induct (α := α) input insert with
  | case1 index parsed ih =>
    intro hindex
    rw [parseItemsLoop]
    refine staysOn_bind (careful_skip index hindex) fun start hstart => ?_
    refine staysOn_bind (staysOn_nextChar hstart) fun next hnext => ?_
    obtain ⟨next, fits⟩ := next
    dsimp only
    split
    · next hsame =>
      subst hsame
      exact staysOn_ok (ends_one hnext hclose)
    · refine staysOn_bind (hitem _ hstart) fun value hvalue => ?_
      refine staysOn_bind (careful_skip _ hvalue) fun gap hgap => ?_
      refine staysOn_bind (staysOn_nextChar hgap) fun delim hdelim => ?_
      obtain ⟨delim, fits'⟩ := delim
      dsimp only
      split
      · next hcomma =>
        subst hcomma
        exact staysOn_bind (ih start next value gap ',' fits' (ends_one hdelim rfl))
          fun after hafter => staysOn_ok hafter
      · split
        · next hsame =>
          subst hsame
          exact staysOn_ok (ends_one hdelim hclose)
        · exact staysOn_refused

theorem careful_stringList : Careful input (parseSerializedPythonStringListCursor input) := by
  intro index hindex
  unfold parseSerializedPythonStringListCursor
  refine staysOn_bind (careful_skip index hindex) fun start hstart => ?_
  refine staysOn_bind (staysOn_nextChar hstart) fun first hfirst => ?_
  obtain ⟨first, fits⟩ := first
  dsimp only
  split
  · exact staysOn_refused
  · next hopen =>
    have hsame : first = '[' := not_not.mp hopen
    subst hsame
    exact staysOn_bind (staysOn_itemsLoop careful_string rfl _ _ _ (ends_one hfirst rfl))
      fun after hafter => staysOn_ok hafter

theorem staysOn_closingFor (opening : Char) : StaysOn (closingFor opening) fun _ => True := by
  unfold closingFor
  split
  · exact staysOn_ok trivial
  · exact staysOn_ok trivial
  · exact staysOn_refused

theorem careful_pair : Careful input (parseSerializedPythonStringPairCursor input) := by
  intro index hindex
  unfold parseSerializedPythonStringPairCursor
  refine staysOn_bind (careful_skip index hindex) fun start hstart => ?_
  refine staysOn_bind (staysOn_nextChar hstart) fun opening hopening => ?_
  refine staysOn_bind (staysOn_closingFor _) fun close _ => ?_
  refine staysOn_bind (careful_skip _ hopening) fun lead hlead => ?_
  refine staysOn_bind (careful_string _ hlead) fun label hlabel => ?_
  refine staysOn_bind (careful_skip _ hlabel) fun gap hgap => ?_
  refine staysOn_bind (staysOn_nextChar hgap) fun comma hcomma => ?_
  obtain ⟨comma, fits⟩ := comma
  dsimp only
  split
  · exact staysOn_refused
  · next hsame =>
    have hsame : comma = ',' := not_not.mp hsame
    subst hsame
    refine staysOn_bind (careful_skip _ (ends_one hcomma rfl)) fun second hsecond => ?_
    refine staysOn_bind (careful_string _ hsecond) fun address haddress => ?_
    refine staysOn_bind (careful_skip _ haddress) fun trail htrail => ?_
    refine staysOn_bind (staysOn_nextChar htrail) fun closing hclosing => ?_
    split
    · exact staysOn_refused
    · exact staysOn_ok hclosing

theorem careful_entry : Careful input (parsePerPlayerArgumentsCursor input) := by
  intro index hindex
  unfold parsePerPlayerArgumentsCursor
  refine staysOn_bind (careful_string index hindex) fun key hkey => ?_
  refine staysOn_bind (careful_skip _ hkey) fun gap hgap => ?_
  refine staysOn_bind (staysOn_nextChar hgap) fun colon hcolon => ?_
  obtain ⟨colon, fits⟩ := colon
  dsimp only
  split
  · exact staysOn_refused
  · next hsame =>
    have hsame : colon = ':' := not_not.mp hsame
    subst hsame
    exact staysOn_bind (careful_stringList _ (ends_one hcolon rfl)) fun args hargs => staysOn_ok hargs

/-! ### Whole values -/

theorem staysOn_atEnd {α : Type} {index : Nat} {scanned : Scanned α index}
    (h : scanned.Ends input) : StaysOn (atEnd input scanned) fun _ => True := by
  refine staysOn_bind (careful_skip _ h) fun after _ => ?_
  split
  · exact staysOn_refused
  · exact staysOn_ok trivial

theorem quotedStringList_onBoundary (trimmed : Str) :
    quotedStringList trimmed ≠ .error .offBoundary :=
  (staysOn_bind (careful_stringList 0 (onBoundary_zero trimmed))
    fun _ hvalues => staysOn_atEnd hvalues).1

theorem bracketedItems_onBoundary {α β : Type} {opening close : Char}
    {item : (index : Nat) → Except CursorStop (Scanned α index)} (hitem : Careful input item)
    (hopening : opening.utf8Size = 1) (hclose : close.utf8Size = 1) (insert : β → α → β)
    (empty : β) : bracketedItems input opening close item insert empty ≠ .error .offBoundary := by
  have hstays : StaysOn (bracketedItems input opening close item insert empty) fun _ => True := by
    refine staysOn_bind (careful_skip 0 (onBoundary_zero input)) fun start hstart => ?_
    refine staysOn_bind (staysOn_nextChar hstart) fun first hfirst => ?_
    obtain ⟨first, fits⟩ := first
    dsimp only
    split
    · exact staysOn_refused
    · next hsame =>
      have hsame : first = opening := not_not.mp hsame
      subst hsame
      exact staysOn_bind (staysOn_itemsLoop hitem hclose insert _ _ (ends_one hfirst hopening))
        fun parsed hparsed => staysOn_atEnd hparsed
  exact hstays.1

end Sorotte.Settings
