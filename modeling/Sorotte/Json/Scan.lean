import Sorotte.Json.Syntax

/-! # String-aware scanners

  A scanner reads a text byte by byte and knows only whether it is inside of a
  string.  It reports whole strings and the bytes outside of strings, and may
  stop early.  Nested values pass through a scanner that treats everything at
  their depth alike: `scan_tree` says so once for all such scanners.
-/

namespace Sorotte.Json

/-! ### Scanners -/

/-- The outcome of a step: go on, or stop with a result. -/
inductive Flow (σ ρ : Type) where
  | next (state : σ)
  | stop (result : ρ)

namespace Flow

variable {σ τ ρ : Type}

def bind (flow : Flow σ ρ) (f : σ → Flow τ ρ) : Flow τ ρ :=
  match flow with
  | .next state => f state
  | .stop result => .stop result

def map (f : σ → τ) (flow : Flow σ ρ) : Flow τ ρ := flow.bind fun state => .next (f state)

@[simp] theorem next_bind (state : σ) (f : σ → Flow τ ρ) : (next state).bind f = f state := rfl

@[simp] theorem stop_bind (result : ρ) (f : σ → Flow τ ρ) :
    (stop result : Flow σ ρ).bind f = stop result := rfl

@[simp] theorem map_next (f : σ → τ) (state : σ) :
    (next state : Flow σ ρ).map f = next (f state) := rfl

@[simp] theorem map_stop (f : σ → τ) (result : ρ) :
    (stop result : Flow σ ρ).map f = stop result := rfl

@[simp] theorem bind_next (flow : Flow σ ρ) : flow.bind next = flow := by
  cases flow <;> rfl

end Flow

/-- Whether the scanner is inside of a string, where that string's content
    starts and whether a backslash precedes the next byte. -/
inductive Mode where
  | outside
  | inside (start : Nat) (escaped : Bool)
  deriving DecidableEq, Repr

section scanners

variable {σ ρ : Type} (onString : Nat → Nat → σ → Flow σ ρ) (onByte : Nat → UInt8 → σ → Flow σ ρ)

/-- One byte.  `onString` gets the start and the end of a string's content. -/
def scanByte (index : Nat) (byte : UInt8) (mode : Mode) (state : σ) : Flow (Mode × σ) ρ :=
  match mode with
  | .inside start escaped =>
      if escaped then .next (.inside start false, state)
      else if byte = backslash then .next (.inside start true, state)
      else if byte = quote then (onString start index state).map fun state => (.outside, state)
      else .next (.inside start false, state)
  | .outside =>
      if byte = quote then .next (.inside (index + 1) false, state)
      else (onByte index byte state).map fun state => (.outside, state)

def scan : Nat → Bytes → Mode → σ → Flow (Mode × σ) ρ
  | _, [], mode, state => .next (mode, state)
  | index, byte :: rest, mode, state =>
      (scanByte onString onByte index byte mode state).bind fun found =>
        scan (index + 1) rest found.1 found.2

variable {onString onByte}

theorem scan_append (a b : Bytes) (index : Nat) (mode : Mode) (state : σ) :
    scan onString onByte index (a ++ b) mode state =
      (scan onString onByte index a mode state).bind fun found =>
        scan onString onByte (index + a.length) b found.1 found.2 := by
  induction a generalizing index mode state with
  | nil => rfl
  | cons byte a ih =>
    rw [List.cons_append, scan, scan]
    cases scanByte onString onByte index byte mode state with
    | stop result => rfl
    | next found =>
      rw [Flow.next_bind, Flow.next_bind, ih, List.length_cons]
      congr 1
      funext found'
      rw [Nat.add_right_comm, Nat.add_assoc]

/-- A scanner that leaves a text as it came to it goes on behind it. -/
theorem scan_append_of_next {a : Bytes} {index : Nat} {mode mode' : Mode} {state state' : σ}
    (h : scan onString onByte index a mode state = .next (mode', state')) (b : Bytes) :
    scan onString onByte index (a ++ b) mode state =
      scan onString onByte (index + a.length) b mode' state' := by
  rw [scan_append, h, Flow.next_bind]

/-! ### Strings -/

/-- Bytes that neither end a string nor escape in it. -/
theorem scan_content {bytes : Bytes} (h : ∀ byte ∈ bytes, byte ≠ quote ∧ byte ≠ backslash)
    (index start : Nat) (state : σ) :
    scan onString onByte index bytes (.inside start false) state =
      .next (.inside start false, state) := by
  induction bytes generalizing index with
  | nil => rfl
  | cons byte bytes ih =>
    obtain ⟨hquote, hbackslash⟩ := h byte List.mem_cons_self
    have hstep : scanByte onString onByte index byte (.inside start false) state =
        .next (.inside start false, state) := by
      simp [scanByte, hquote, hbackslash]
    rw [scan, hstep, Flow.next_bind]
    exact ih (fun b hb => h b (List.mem_cons_of_mem _ hb)) (index + 1)

theorem scan_escape (index start : Nat) (byte : UInt8) (state : σ) :
    scan onString onByte index [backslash, byte] (.inside start false) state =
      .next (.inside start false, state) := by
  simp [scan, scanByte]

end scanners

/-- No byte of a character is an ASCII byte of another character. -/
theorem utf8EncodeChar_ne {c ascii : Char} (hascii : ascii.toNat < 0x80) (hc : c ≠ ascii) :
    ∀ byte ∈ String.utf8EncodeChar c, byte ≠ UInt8.ofNat ascii.toNat := by
  have hval : c.toNat ≠ ascii.toNat := fun h => hc (Char.toNat_inj.mp h)
  have hother : ∀ n : Nat, n < 256 → n ≠ ascii.toNat →
      UInt8.ofNat n ≠ UInt8.ofNat ascii.toNat := by
    intro n hn hne h
    have hnat := congrArg UInt8.toNat h
    rw [UInt8.toNat_ofNat_of_lt' hn,
      UInt8.toNat_ofNat_of_lt' (show ascii.toNat < 256 by omega)] at hnat
    exact hne hnat
  intro byte hbyte
  unfold String.utf8EncodeChar at hbyte
  change byte ∈ (if c.toNat ≤ 0x7f then [UInt8.ofNat c.toNat] else _) at hbyte
  split at hbyte
  · rw [List.mem_singleton] at hbyte
    subst hbyte
    exact hother _ (by omega) hval
  · -- every other byte has its high bit set
    split at hbyte
    · simp only [List.mem_cons, List.not_mem_nil, or_false] at hbyte
      rcases hbyte with rfl | rfl <;> exact hother _ (by omega) (by omega)
    · split at hbyte
      · simp only [List.mem_cons, List.not_mem_nil, or_false] at hbyte
        rcases hbyte with rfl | rfl | rfl <;> exact hother _ (by omega) (by omega)
      · simp only [List.mem_cons, List.not_mem_nil, or_false] at hbyte
        rcases hbyte with rfl | rfl | rfl | rfl <;> exact hother _ (by omega) (by omega)

theorem HexDigit.byte_content (digit : HexDigit) :
    digit.byte ≠ quote ∧ digit.byte ≠ backslash := by
  cases digit with
  | digit digit =>
    revert digit
    decide
  | letter upper letter =>
    revert upper letter
    decide

section scanners

variable {σ ρ : Type} {onString : Nat → Nat → σ → Flow σ ρ} {onByte : Nat → UInt8 → σ → Flow σ ρ}

theorem scan_piece (piece : Piece) (index start : Nat) (state : σ) :
    scan onString onByte index piece.render (.inside start false) state =
      .next (.inside start false, state) := by
  cases piece with
  | plain c h =>
    refine scan_content (fun byte hbyte => ⟨?_, ?_⟩) index start state
    · exact @utf8EncodeChar_ne c '"' (by decide) h.2.1 byte hbyte
    · exact @utf8EncodeChar_ne c '\\' (by decide) h.2.2 byte hbyte
  | escape letter => exact scan_escape index start letter.byte state
  | unicode a b c d =>
    show scan onString onByte index ([backslash, 0x75] ++ [a.byte, b.byte, c.byte, d.byte]) _ _ = _
    rw [scan_append_of_next (scan_escape index start 0x75 state)]
    refine scan_content (fun byte hbyte => ?_) _ start state
    simp only [List.mem_cons, List.not_mem_nil, or_false] at hbyte
    rcases hbyte with rfl | rfl | rfl | rfl <;> exact HexDigit.byte_content _

theorem scan_pieces (pieces : Pieces) (index start : Nat) (state : σ) :
    scan onString onByte index (renderPieces pieces) (.inside start false) state =
      .next (.inside start false, state) := by
  induction pieces generalizing index with
  | nil => rfl
  | cons piece pieces ih =>
    show scan onString onByte index (piece.render ++ renderPieces pieces) _ _ = _
    rw [scan_append_of_next (scan_piece piece index start state)]
    exact ih _

/-- A string is reported as a whole. -/
theorem scan_string (pieces : Pieces) (index : Nat) (state : σ) :
    scan onString onByte index (renderString pieces) .outside state =
      (onString (index + 1) (index + 1 + (renderPieces pieces).length) state).map
        fun state => (.outside, state) := by
  unfold renderString
  have hopen : scan onString onByte index [quote] .outside state =
      .next (.inside (index + 1) false, state) := by
    simp [scan, scanByte]
  rw [List.append_assoc, scan_append_of_next hopen,
    scan_append_of_next (scan_pieces pieces _ _ state)]
  simp only [scan, scanByte, List.length_singleton, show quote ≠ backslash by decide, if_false,
    if_true, Bool.false_eq_true]
  exact Flow.bind_next _

/-! ### Outside of strings -/

/-- Bytes that stand outside of strings and are no quote. -/
theorem scan_bytes {bytes : Bytes} {state : σ}
    (h : ∀ byte ∈ bytes, byte ≠ quote ∧ ∀ index, onByte index byte state = .next state)
    (index : Nat) :
    scan onString onByte index bytes .outside state = .next (.outside, state) := by
  induction bytes generalizing index with
  | nil => rfl
  | cons byte bytes ih =>
    obtain ⟨hquote, hbyte⟩ := h byte List.mem_cons_self
    have hstep : scanByte onString onByte index byte .outside state = .next (.outside, state) := by
      simp [scanByte, hquote, hbyte]
    rw [scan, hstep, Flow.next_bind]
    exact ih (fun b hb => h b (List.mem_cons_of_mem _ hb)) (index + 1)

theorem scan_byte {byte : UInt8} {index : Nat} {state : σ} (hquote : byte ≠ quote) :
    scan onString onByte index [byte] .outside state =
      (onByte index byte state).map fun state => (.outside, state) := by
  rw [scan]
  simp only [scanByte, hquote, if_false, scan]
  cases onByte index byte state <;> rfl

end scanners

/-! ### Bytes with a structure -/

/-- Bytes that open, close or separate. -/
def Structural (byte : UInt8) : Prop :=
  byte = quote ∨ byte = comma ∨ byte = colon ∨ byte = leftBracket ∨ byte = rightBracket
    ∨ byte = leftBrace ∨ byte = rightBrace

instance (byte : UInt8) : Decidable (Structural byte) := by
  unfold Structural
  infer_instance

theorem Blank.byte_scalar (blank : Blank) : ¬ Structural blank.byte := by
  cases blank <;> decide

theorem blanks_scalar (blanks : Blanks) : ∀ byte ∈ renderBlanks blanks, ¬ Structural byte := by
  intro byte hbyte
  obtain ⟨blank, -, rfl⟩ := List.mem_map.mp hbyte
  exact blank.byte_scalar

theorem Literal.scalar (word : Literal) : ∀ byte ∈ word.render, ¬ Structural byte := by
  cases word <;> decide +kernel

theorem Digit.byte_scalar (digit : Digit) : ¬ Structural digit.byte := by
  revert digit
  decide

theorem Digits.scalar (digits : Digits) : ∀ byte ∈ digits.render, ¬ Structural byte := by
  intro byte hbyte
  rcases List.mem_cons.mp hbyte with rfl | hbyte
  · exact Digit.byte_scalar _
  · obtain ⟨digit, -, rfl⟩ := List.mem_map.mp hbyte
    exact Digit.byte_scalar digit

theorem Whole.scalar (whole : Whole) : ∀ byte ∈ whole.render, ¬ Structural byte := by
  cases whole with
  | zero => decide +kernel
  | positive first rest =>
    intro byte hbyte
    have hfirst : ∀ first : Fin 9, ¬ Structural (UInt8.ofNat (0x31 + first.val)) := by decide
    rcases List.mem_cons.mp hbyte with rfl | hbyte
    · exact hfirst first
    · obtain ⟨digit, -, rfl⟩ := List.mem_map.mp hbyte
      exact Digit.byte_scalar digit

theorem Exponent.scalar (exponent : Exponent) :
    ∀ byte ∈ exponent.render, ¬ Structural byte := by
  obtain ⟨upper, sign, digits⟩ := exponent
  have hletter : ∀ upper : Bool, ¬ Structural (if upper then 0x45 else 0x65) := by decide
  intro byte hbyte
  rcases List.mem_append.mp hbyte with hbyte | hbyte
  · rcases List.mem_append.mp hbyte with hbyte | hbyte
    · rw [List.mem_singleton] at hbyte
      subst hbyte
      exact hletter upper
    · rcases sign with - | - | - <;>
        first | exact (List.not_mem_nil hbyte).elim
              | (rw [List.mem_singleton] at hbyte; subst hbyte; decide)
  · exact digits.scalar byte hbyte

theorem Number.scalar (number : Number) : ∀ byte ∈ number.render, ¬ Structural byte := by
  obtain ⟨minus, whole, fraction, exponent⟩ := number
  intro byte hbyte
  rcases List.mem_append.mp hbyte with hbyte | hbyte
  · rcases List.mem_append.mp hbyte with hbyte | hbyte
    · rcases List.mem_append.mp hbyte with hbyte | hbyte
      · cases minus
        · exact (List.not_mem_nil hbyte).elim
        · rw [if_pos rfl, List.mem_singleton] at hbyte
          subst hbyte
          decide
      · exact whole.scalar byte hbyte
    · cases fraction with
      | none => exact (List.not_mem_nil hbyte).elim
      | some digits =>
        rcases List.mem_cons.mp hbyte with rfl | hbyte
        · decide
        · exact digits.scalar byte hbyte
  · cases exponent with
    | none => exact (List.not_mem_nil hbyte).elim
    | some exponent => exact exponent.scalar byte hbyte

/-! ### Nested values -/

section nested

variable {σ ρ : Type} {onString : Nat → Nat → σ → Flow σ ρ} {onByte : Nat → UInt8 → σ → Flow σ ρ}
  {passes nested : σ → Prop} {enter : UInt8 → σ → σ}

/-- A scanner that lets values pass in the states of `passes`, and separators
    too in the states of `nested`, which are those inside of brackets. -/
structure Skips (onString : Nat → Nat → σ → Flow σ ρ) (onByte : Nat → UInt8 → σ → Flow σ ρ)
    (passes nested : σ → Prop) (enter : UInt8 → σ → σ) : Prop where
  inner : ∀ s, nested s → passes s
  string : ∀ s start stop, passes s → onString start stop s = .next s
  scalar : ∀ s index byte, passes s → ¬ Structural byte → onByte index byte s = .next s
  separator : ∀ s index byte, nested s → byte = comma ∨ byte = colon →
    onByte index byte s = .next s
  opens : ∀ s index byte, passes s → byte = leftBracket ∨ byte = leftBrace →
    onByte index byte s = .next (enter byte s)
  enters : ∀ s byte, passes s → byte = leftBracket ∨ byte = leftBrace → nested (enter byte s)
  closesArray : ∀ s index, passes s → onByte index rightBracket (enter leftBracket s) = .next s
  closesObject : ∀ s index, passes s → onByte index rightBrace (enter leftBrace s) = .next s

namespace Skips

variable (h : Skips onString onByte passes nested enter)

include h

theorem scan_scalars {bytes : Bytes} (hbytes : ∀ byte ∈ bytes, ¬ Structural byte) {s : σ}
    (hs : passes s) (index : Nat) :
    scan onString onByte index bytes .outside s = .next (.outside, s) :=
  scan_bytes (fun byte hbyte => ⟨fun hquote => hbytes byte hbyte (.inl hquote),
    fun index => h.scalar s index byte hs (hbytes byte hbyte)⟩) index

theorem scan_separator {byte : UInt8} (hbyte : byte = comma ∨ byte = colon) {s : σ}
    (hs : nested s) (index : Nat) :
    scan onString onByte index [byte] .outside s = .next (.outside, s) := by
  rw [scan_byte (by rcases hbyte with rfl | rfl <;> decide), h.separator s index byte hs hbyte]
  rfl

theorem scan_name (pieces : Pieces) {s : σ} (hs : passes s) (index : Nat) :
    scan onString onByte index (renderString pieces) .outside s = .next (.outside, s) := by
  rw [scan_string, h.string s _ _ hs]
  rfl

/-- The brackets around a text that passes. -/
theorem scan_brackets {left right : UInt8} (hleft : left = leftBracket ∨ left = leftBrace)
    (hright : right = rightBracket ∨ right = rightBrace) {s : σ} (hs : passes s)
    (hcloses : ∀ index, onByte index right (enter left s) = .next s) {inner : Bytes}
    (hinner : ∀ index, scan onString onByte index inner .outside (enter left s) =
      .next (.outside, enter left s)) (lead : Blanks) (index : Nat) :
    scan onString onByte index ([left] ++ renderBlanks lead ++ inner ++ [right]) .outside s =
      .next (.outside, s) := by
  have hopen : scan onString onByte index [left] .outside s = .next (.outside, enter left s) := by
    rw [scan_byte (by rcases hleft with rfl | rfl <;> decide), h.opens s index left hs hleft]
    rfl
  rw [List.append_assoc, List.append_assoc, scan_append_of_next hopen,
    scan_append_of_next (h.scan_scalars (blanks_scalar lead)
      (h.inner _ (h.enters s left hs hleft)) _),
    scan_append_of_next (hinner _), scan_byte (by rcases hright with rfl | rfl <;> decide),
    hcloses]
  rfl

/-- What stands between two parts of a list. -/
theorem scan_rest {separator rest : Bytes} (hseparator : separator = [] ∨ separator = [comma])
    {s : σ} (hs : nested s)
    (hrest : ∀ index, scan onString onByte index rest .outside s = .next (.outside, s))
    (index : Nat) :
    scan onString onByte index (separator ++ rest) .outside s = .next (.outside, s) := by
  rcases hseparator with rfl | rfl
  · exact hrest index
  · rw [scan_append_of_next (h.scan_separator (.inl rfl) hs index)]
    exact hrest _

end Skips

theorem Elements.separator_cases (elements : Elements) :
    elements.separator = [] ∨ elements.separator = [comma] := by
  cases elements <;> simp [Elements.separator]

theorem Members.separator_cases (members : Members) :
    members.separator = [] ∨ members.separator = [comma] := by
  cases members <;> simp [Members.separator]

mutual

/-- **Values pass.** -/
theorem scan_tree (h : Skips onString onByte passes nested enter) (tree : Tree) {s : σ}
    (hs : passes s) (index : Nat) :
    scan onString onByte index tree.render .outside s = .next (.outside, s) := by
  cases tree with
  | literal word => exact h.scan_scalars word.scalar hs index
  | number number => exact h.scan_scalars number.scalar hs index
  | string pieces => exact h.scan_name pieces hs index
  | array lead elements =>
    exact h.scan_brackets (.inl rfl) (.inl rfl) hs (fun i => h.closesArray s i hs)
      (fun i => scan_elements h elements (h.enters s leftBracket hs (.inl rfl)) i) lead index
  | object lead members =>
    exact h.scan_brackets (.inr rfl) (.inr rfl) hs (fun i => h.closesObject s i hs)
      (fun i => scan_members h members (h.enters s leftBrace hs (.inr rfl)) i) lead index

theorem scan_elements (h : Skips onString onByte passes nested enter) (elements : Elements)
    {s : σ} (hs : nested s) (index : Nat) :
    scan onString onByte index elements.render .outside s = .next (.outside, s) := by
  cases elements with
  | nil => rfl
  | cons before value after rest =>
    have hpasses := h.inner s hs
    rw [Elements.render, List.append_assoc, List.append_assoc, List.append_assoc,
      scan_append_of_next (h.scan_scalars (blanks_scalar before) hpasses _),
      scan_append_of_next (scan_tree h value hpasses _),
      scan_append_of_next (h.scan_scalars (blanks_scalar after) hpasses _)]
    exact h.scan_rest rest.separator_cases hs (fun i => scan_elements h rest hs i) _

theorem scan_members (h : Skips onString onByte passes nested enter) (members : Members)
    {s : σ} (hs : nested s) (index : Nat) :
    scan onString onByte index members.render .outside s = .next (.outside, s) := by
  cases members with
  | nil => rfl
  | cons before name gap lead value after rest =>
    have hpasses := h.inner s hs
    rw [Members.render]
    simp only [List.append_assoc]
    rw [scan_append_of_next (h.scan_scalars (blanks_scalar before) hpasses _),
      scan_append_of_next (h.scan_name name hpasses _),
      scan_append_of_next (h.scan_scalars (blanks_scalar gap) hpasses _),
      scan_append_of_next (h.scan_separator (.inr rfl) hs _),
      scan_append_of_next (h.scan_scalars (blanks_scalar lead) hpasses _),
      scan_append_of_next (scan_tree h value hpasses _),
      scan_append_of_next (h.scan_scalars (blanks_scalar after) hpasses _)]
    exact h.scan_rest rest.separator_cases hs (fun i => scan_members h rest hs i) _

end

end nested

end Sorotte.Json
