import Sorotte.Settings.PythonLiterals

/-! # Escapes of ini values

  `escape_sorotte_ini_value` doubles percent signs and spells control
  characters in hexadecimal; `unescape_sorotte_ini_value` undoes both and
  leaves alone what it cannot read.
-/

namespace Sorotte.Settings

open Sorotte.Framework

/-- `char::is_control`: the general category `Cc`. -/
def isControl (c : Char) : Bool :=
  let n := c.toNat
  n < 32 || (127 ≤ n && n < 160)

/-! ### Hexadecimal -/

def upperHexDigit (n : Nat) : Char :=
  Char.ofNat (if n < 10 then '0'.toNat + n else 'A'.toNat + (n - 10))

/-- `format!("{:X}")`. -/
def upperHex (n : Nat) : Str :=
  if n < 16 then [upperHexDigit n] else upperHex (n / 16) ++ [upperHexDigit (n % 16)]

/-- `char::to_digit(16)`. -/
def hexDigitValue (c : Char) : Option Nat :=
  let n := c.toNat
  if '0'.toNat ≤ n ∧ n ≤ '9'.toNat then some (n - '0'.toNat)
  else if 'a'.toNat ≤ n ∧ n ≤ 'f'.toNat then some (n - 'a'.toNat + 10)
  else if 'A'.toNat ≤ n ∧ n ≤ 'F'.toNat then some (n - 'A'.toNat + 10)
  else none

def readHexDigits : Nat → Str → Option Nat
  | value, [] => some value
  | value, c :: rest => do
      let digit ← hexDigitValue c
      let value := value * 16 + digit
      if value < 2 ^ 32 then readHexDigits value rest else none

/-- `u32::from_str_radix(hex, 16)`. -/
def u32FromHex (hex : Str) : Option Nat :=
  match hex with
  | [] => none
  | ['+'] => none
  | '+' :: digits => readHexDigits 0 digits
  | digits => readHexDigits 0 digits

/-- `char::from_u32`. -/
def charFromU32 (n : Nat) : Option Char :=
  if h : n.isValidChar then some (Char.ofNatAux n h) else none

/-! ### The codec -/

def escapeIniChar (c : Char) : Str :=
  if c = '%' then ['%', '%']
  else if isControl c then ['%', '\x7b'] ++ upperHex c.toNat ++ ['\x7d']
  else [c]

def escapeSorotteIniValue (value : Str) : Str := value.flatMap escapeIniChar

/-- The control character between the braces, and what follows them. -/
def encodedControl (body : Str) : Option (Char × Str) :=
  match body.dropWhile (· != '\x7d') with
  | [] => none
  | _ :: after => do
      let n ← u32FromHex (body.takeWhile (· != '\x7d'))
      let decoded ← charFromU32 n
      if isControl decoded then some (decoded, after) else none

theorem encodedControl_shorter {body after : Str} {decoded : Char}
    (h : encodedControl body = some (decoded, after)) : after.length < body.length := by
  unfold encodedControl at h
  split at h
  · cases h
  · next close rest hrest =>
    have hlength : (close :: rest).length ≤ body.length := by
      rw [← hrest]
      exact List.length_dropWhile_le _ _
    have hafter : rest = after := by
      simp only [Option.bind_eq_bind, Option.bind_eq_some_iff] at h
      obtain ⟨n, -, c, -, hc⟩ := h
      split at hc
      · cases hc
        rfl
      · cases hc
    rw [List.length_cons] at hlength
    rw [← hafter]
    omega

def unescapeSorotteIniValue (value : Str) : Str :=
  match value with
  | [] => []
  | character :: rest =>
      if character ≠ '%' then character :: unescapeSorotteIniValue rest
      else
        match rest with
        | [] => ['%']
        | next :: body =>
            if next = '%' then '%' :: unescapeSorotteIniValue body
            else if next ≠ '\x7b' then '%' :: unescapeSorotteIniValue (next :: body)
            else
              match _h : encodedControl body with
              | none => '%' :: unescapeSorotteIniValue (next :: body)
              | some (decoded, after) => decoded :: unescapeSorotteIniValue after
termination_by value.length
decreasing_by
  all_goals simp_wf
  all_goals try have hshorter := encodedControl_shorter _h
  all_goals omega

/-! ### The round trip -/

theorem upperHex_control {c : Char} (h : isControl c = true) :
    (∀ x ∈ upperHex c.toNat, x ≠ '\x7d') ∧ u32FromHex (upperHex c.toNat) = some c.toNat := by
  have hbound : c.toNat < 160 := by
    simp only [isControl, Bool.or_eq_true, Bool.and_eq_true, decide_eq_true_eq] at h
    omega
  have hall : (List.range 160).all (fun n =>
      (upperHex n).all (· != '\x7d') && u32FromHex (upperHex n) == some n) = true := by
    decide +kernel
  have hself := List.all_eq_true.mp hall c.toNat (List.mem_range.mpr hbound)
  rw [Bool.and_eq_true, List.all_eq_true] at hself
  exact ⟨fun x hx => by simpa using hself.1 x hx, by simpa using hself.2⟩

theorem charFromU32_toNat (c : Char) : charFromU32 c.toNat = some c := by
  have hvalid : c.toNat.isValidChar := c.valid
  unfold charFromU32
  rw [dif_pos hvalid]
  rfl

theorem encodedControl_escaped {c : Char} (h : isControl c = true) (after : Str) :
    encodedControl (upperHex c.toNat ++ '\x7d' :: after) = some (c, after) := by
  obtain ⟨hopen, hread⟩ := upperHex_control h
  have hall : ∀ x ∈ upperHex c.toNat, (x != '\x7d') = true := by
    intro x hx
    simpa using hopen x hx
  unfold encodedControl
  rw [List.dropWhile_append_of_pos hall, List.takeWhile_append_of_pos hall]
  simp [hread, charFromU32_toNat, h]

theorem unescape_escapeIniChar (c : Char) (rest : Str) :
    unescapeSorotteIniValue (escapeIniChar c ++ rest) = c :: unescapeSorotteIniValue rest := by
  unfold escapeIniChar
  by_cases hpercent : c = '%'
  · subst hpercent
    rw [if_pos rfl, List.cons_append, List.cons_append, List.nil_append]
    rw [unescapeSorotteIniValue]
    simp
  · rw [if_neg hpercent]
    by_cases hcontrol : isControl c = true
    · rw [if_pos hcontrol, List.append_assoc, List.append_assoc]
      have hencoded := encodedControl_escaped hcontrol rest
      show unescapeSorotteIniValue ('%' :: '\x7b' :: (upperHex c.toNat ++ '\x7d' :: rest)) = _
      rw [unescapeSorotteIniValue]
      simp only [ne_eq, not_true_eq_false, if_false]
      rw [if_neg (by decide)]
      split
      · next hnone => rw [hencoded] at hnone; cases hnone
      · next decoded after hsome => rw [hencoded] at hsome; cases hsome; rfl
    · rw [if_neg hcontrol, List.singleton_append, unescapeSorotteIniValue.eq_def]
      dsimp only
      rw [if_pos hpercent]

/-- Unescaping undoes escaping. -/
theorem unescape_escape (value : Str) :
    unescapeSorotteIniValue (escapeSorotteIniValue value) = value := by
  induction value with
  | nil => rw [escapeSorotteIniValue, List.flatMap_nil, unescapeSorotteIniValue]
  | cons c value ih =>
    rw [escapeSorotteIniValue, List.flatMap_cons, unescape_escapeIniChar]
    exact congrArg _ ih

end Sorotte.Settings
