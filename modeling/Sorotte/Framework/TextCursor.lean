import Mathlib

/-! # Cursors over a text

  A parser that holds a text and a byte offset into it reads a character with
  `get(index..)`, which is absent off a character boundary.  Here that absence
  is an outcome of its own, so that a parser can be shown never to meet it.
-/

namespace Sorotte.Framework

/-- Bytes of a text in UTF-8. -/
def byteLength (text : List Char) : Nat := (text.map Char.utf8Size).sum

@[simp] theorem byteLength_nil : byteLength [] = 0 := rfl

@[simp] theorem byteLength_cons (c : Char) (text : List Char) :
    byteLength (c :: text) = c.utf8Size + byteLength text := by
  simp [byteLength]

@[simp] theorem byteLength_append (front rest : List Char) :
    byteLength (front ++ rest) = byteLength front + byteLength rest := by
  simp [byteLength]

/-- What follows a byte offset, when no character is cut by it. -/
def getFrom : List Char → Nat → Option (List Char)
  | text, 0 => some text
  | [], _ + 1 => none
  | c :: text, index + 1 =>
      if index + 1 < c.utf8Size then none else getFrom text (index + 1 - c.utf8Size)

theorem getFrom_cons (c : Char) (text : List Char) (index : Nat) :
    getFrom (c :: text) (c.utf8Size + index) = getFrom text index := by
  have hsize := c.utf8Size_pos
  obtain ⟨n, hn⟩ : ∃ n, c.utf8Size + index = n + 1 := ⟨c.utf8Size + index - 1, by omega⟩
  rw [hn, getFrom, if_neg (by omega)]
  congr 1
  omega

/-- The offsets `get` answers are the lengths of the prefixes. -/
theorem getFrom_eq_some {input : List Char} {index : Nat} {rest : List Char} :
    getFrom input index = some rest ↔
      ∃ front, input = front ++ rest ∧ byteLength front = index := by
  constructor
  · intro h
    induction input generalizing index with
    | nil =>
      cases index with
      | zero =>
        cases h
        exact ⟨[], rfl, rfl⟩
      | succ index => cases h
    | cons c text ih =>
      cases index with
      | zero =>
        cases h
        exact ⟨[], rfl, rfl⟩
      | succ index =>
        rw [getFrom] at h
        split at h
        · cases h
        · next hfits =>
          obtain ⟨front, htext, hfront⟩ := ih h
          refine ⟨c :: front, by rw [htext, List.cons_append], ?_⟩
          rw [byteLength_cons]
          omega
  · rintro ⟨front, rfl, rfl⟩
    induction front with
    | nil => cases rest <;> rfl
    | cons c front ih =>
      rw [List.cons_append, byteLength_cons, getFrom_cons]
      exact ih

/-- The offset falls between two characters, or at an end. -/
def OnBoundary (input : List Char) (index : Nat) : Prop := ∃ rest, getFrom input index = some rest

theorem onBoundary_zero (input : List Char) : OnBoundary input 0 :=
  ⟨input, getFrom_eq_some.mpr ⟨[], rfl, rfl⟩⟩

theorem getFrom_advance {input : List Char} {index : Nat} (read : List Char) {rest : List Char}
    (h : getFrom input index = some (read ++ rest)) :
    getFrom input (index + byteLength read) = some rest := by
  obtain ⟨front, hinput, hfront⟩ := getFrom_eq_some.mp h
  refine getFrom_eq_some.mpr ⟨front ++ read, ?_, ?_⟩
  · rw [hinput, List.append_assoc]
  · rw [byteLength_append, hfront]

theorem getFrom_next {input : List Char} {index : Nat} {c : Char} {rest : List Char}
    (h : getFrom input index = some (c :: rest)) :
    getFrom input (index + c.utf8Size) = some rest := by
  have hadvance := getFrom_advance [c] h
  simpa using hadvance

/-! ### Reading -/

inductive CursorStop where
  /-- The parser's own refusal. -/
  | refused
  /-- `get` was asked for an offset inside a character, or past the end. -/
  | offBoundary
  deriving DecidableEq, Repr

@[simp] theorem ok_bind {α β : Type} (a : α) (f : α → Except CursorStop β) :
    (Except.ok a >>= f) = f a := rfl

theorem bind_eq_ok {α β : Type} {r : Except CursorStop α} {f : α → Except CursorStop β} {a : α}
    {b : β} (hr : r = .ok a) (hf : f a = .ok b) : (r >>= f) = .ok b := by
  rw [hr, ok_bind, hf]

/-- A character of the text that begins at an offset. -/
structure CharAt (input : List Char) (index : Nat) where
  char : Char
  fits : index + char.utf8Size ≤ byteLength input

/-- What a parser read from an offset on, and the offset it stopped at. -/
structure Scanned (α : Type) (index : Nat) where
  value : α
  next : Nat
  forward : index ≤ next

def Scanned.since {α : Type} {earlier index : Nat} (s : Scanned α index)
    (h : earlier ≤ index) : Scanned α earlier :=
  ⟨s.value, s.next, h.trans s.forward⟩

/-- `input.get(index..).and_then(|rest| rest.chars().next())`. -/
def peekChar (input : List Char) (index : Nat) : Except CursorStop (Option (CharAt input index)) :=
  match h : getFrom input index with
  | none => .error .offBoundary
  | some [] => .ok none
  | some (c :: _) => .ok (some ⟨c, by
      obtain ⟨front, rfl, rfl⟩ := getFrom_eq_some.mp h
      simp⟩)

/-- The character there, or the parser's refusal. -/
def nextChar (input : List Char) (index : Nat) : Except CursorStop (CharAt input index) := do
  match ← peekChar input index with
  | none => .error .refused
  | some c => pure c

theorem peekChar_cons {input : List Char} {index : Nat} {c : Char} {rest : List Char}
    (h : getFrom input index = some (c :: rest)) :
    ∃ fits, peekChar input index = .ok (some ⟨c, fits⟩) := by
  have hfits : index + c.utf8Size ≤ byteLength input := by
    obtain ⟨front, rfl, rfl⟩ := getFrom_eq_some.mp h
    simp
  refine ⟨hfits, ?_⟩
  unfold peekChar
  split
  · next hnone => rw [h] at hnone; cases hnone
  · next hend => rw [h] at hend; cases hend
  · next c' rest' hsome => rw [h] at hsome; cases hsome; rfl

theorem peekChar_nil {input : List Char} {index : Nat} (h : getFrom input index = some []) :
    peekChar input index = .ok none := by
  unfold peekChar
  split
  · next hnone => rw [h] at hnone; cases hnone
  · rfl
  · next c' rest' hsome => rw [h] at hsome; cases hsome

theorem nextChar_cons {input : List Char} {index : Nat} {c : Char} {rest : List Char}
    (h : getFrom input index = some (c :: rest)) :
    ∃ fits, nextChar input index = .ok ⟨c, fits⟩ := by
  obtain ⟨fits, hpeek⟩ := peekChar_cons h
  refine ⟨fits, ?_⟩
  unfold nextChar
  rw [hpeek]
  rfl

/-! ### Never off a boundary -/

/-- A result that is not a stop off a boundary, and that satisfies `P` if it is a value. -/
def StaysOn {α : Type} (r : Except CursorStop α) (P : α → Prop) : Prop :=
  r ≠ .error .offBoundary ∧ ∀ a, r = .ok a → P a

section staysOn

variable {α β : Type} {P : α → Prop} {Q : β → Prop}

theorem staysOn_ok {a : α} (h : P a) : StaysOn (.ok a) P :=
  ⟨nofun, fun _ ha => by cases ha; exact h⟩

theorem staysOn_refused : StaysOn (.error .refused) P :=
  ⟨nofun, nofun⟩

theorem staysOn_bind {r : Except CursorStop α} {f : α → Except CursorStop β}
    (hr : StaysOn r P) (hf : ∀ a, P a → StaysOn (f a) Q) : StaysOn (r >>= f) Q := by
  cases r with
  | error stop =>
    have hstop : stop ≠ .offBoundary := fun h => hr.1 (congrArg _ h)
    exact ⟨fun h => hstop (Except.error.inj h), nofun⟩
  | ok a => exact hf a (hr.2 a rfl)

end staysOn

variable {input : List Char} {index : Nat}

/-- A character that was read is followed by a boundary. -/
def CharAt.Ends (c : CharAt input index) : Prop := OnBoundary input (index + c.char.utf8Size)

theorem staysOn_peekChar (h : OnBoundary input index) :
    StaysOn (peekChar input index) fun c => ∀ found, c = some found → found.Ends := by
  obtain ⟨rest, hrest⟩ := h
  cases rest with
  | nil =>
    rw [peekChar_nil hrest]
    exact staysOn_ok nofun
  | cons c rest =>
    obtain ⟨fits, hpeek⟩ := peekChar_cons hrest
    rw [hpeek]
    refine staysOn_ok fun found hfound => ?_
    cases hfound
    exact ⟨rest, getFrom_next hrest⟩

theorem staysOn_nextChar (h : OnBoundary input index) :
    StaysOn (nextChar input index) CharAt.Ends := by
  refine staysOn_bind (staysOn_peekChar h) fun c hc => ?_
  cases c with
  | none => exact staysOn_refused
  | some found => exact staysOn_ok (hc found rfl)

/-- A scan that stopped on a boundary. -/
def Scanned.Ends {α : Type} (input : List Char) (s : Scanned α index) : Prop :=
  OnBoundary input s.next

end Sorotte.Framework
