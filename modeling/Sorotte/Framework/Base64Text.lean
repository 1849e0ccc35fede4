import Mathlib.Data.List.Basic

/-! # Base64

  The standard alphabet with padding.  Three bytes are four digits of six bits;
  one or two bytes at the end are two or three digits and padding.
-/

namespace Sorotte.Framework

def base64Alphabet : List Char :=
  "ABCDEFGHIJKLMNOPQRSTUVWXYZabcdefghijklmnopqrstuvwxyz0123456789+/".toList

/-- The character of a digit. -/
def base64Char (digit : Nat) : Char := base64Alphabet.getD digit '='

/-- The digit of a character. -/
def base64Digit (c : Char) : Option Nat :=
  if c ∈ base64Alphabet then some (base64Alphabet.idxOf c) else none

theorem base64Digit_char {digit : Nat} (h : digit < 64) :
    base64Digit (base64Char digit) = some digit := by
  have hall : ∀ d : Fin 64, base64Digit (base64Char d) = some d.val := by decide +kernel
  exact hall ⟨digit, h⟩

theorem base64Char_ne_padding {digit : Nat} (h : digit < 64) : base64Char digit ≠ '=' := by
  have hall : ∀ d : Fin 64, base64Char d ≠ '=' := by decide +kernel
  exact hall ⟨digit, h⟩

def base64Encode : List UInt8 → List Char
  | [] => []
  | [a] =>
    [base64Char (a.toNat / 4), base64Char (a.toNat % 4 * 16), '=', '=']
  | [a, b] =>
    [base64Char (a.toNat / 4), base64Char (a.toNat % 4 * 16 + b.toNat / 16),
      base64Char (b.toNat % 16 * 4), '=']
  | a :: b :: c :: rest =>
    base64Char (a.toNat / 4) :: base64Char (a.toNat % 4 * 16 + b.toNat / 16)
      :: base64Char (b.toNat % 16 * 4 + c.toNat / 64) :: base64Char (c.toNat % 64)
      :: base64Encode rest

/-- The bytes of a text; padding ends it, and the bits under the padding are zero. -/
def base64Decode : List Char → Option (List UInt8)
  | [] => some []
  | p :: q :: r :: s :: rest => do
    let first ← base64Digit p
    let second ← base64Digit q
    let a := UInt8.ofNat (first * 4 + second / 16)
    if r = '=' then
      if s = '=' ∧ rest = [] ∧ second % 16 = 0 then some [a] else none
    else
      let third ← base64Digit r
      let b := UInt8.ofNat (second % 16 * 16 + third / 4)
      if s = '=' then
        if rest = [] ∧ third % 4 = 0 then some [a, b] else none
      else
        let fourth ← base64Digit s
        let c := UInt8.ofNat (third % 4 * 64 + fourth)
        return a :: b :: c :: (← base64Decode rest)
  | _ => none

/-! ### The round trip -/

theorem ofNat_of_eq {a : UInt8} {n : Nat} (h : n = a.toNat) : UInt8.ofNat n = a := by
  rw [h, UInt8.ofNat_toNat]

variable {first second third fourth : Nat}

theorem base64Decode_one (hfirst : first < 64) (hsecond : second < 64)
    (hpadding : second % 16 = 0) :
    base64Decode [base64Char first, base64Char second, '=', '='] =
      some [UInt8.ofNat (first * 4 + second / 16)] := by
  unfold base64Decode
  rw [base64Digit_char hfirst, base64Digit_char hsecond]
  simp only [Option.bind_eq_bind, Option.bind_some, if_true, hpadding, and_self]

theorem base64Decode_two (hfirst : first < 64) (hsecond : second < 64) (hthird : third < 64)
    (hpadding : third % 4 = 0) :
    base64Decode [base64Char first, base64Char second, base64Char third, '='] =
      some [UInt8.ofNat (first * 4 + second / 16),
        UInt8.ofNat (second % 16 * 16 + third / 4)] := by
  unfold base64Decode
  rw [base64Digit_char hfirst, base64Digit_char hsecond, base64Digit_char hthird]
  simp only [Option.bind_eq_bind, Option.bind_some, if_true, hpadding, and_self,
    base64Char_ne_padding hthird, if_false]

theorem base64Decode_three (hfirst : first < 64) (hsecond : second < 64) (hthird : third < 64)
    (hfourth : fourth < 64) (rest : List Char) :
    base64Decode (base64Char first :: base64Char second :: base64Char third :: base64Char fourth
      :: rest) = (base64Decode rest).map fun bytes =>
        UInt8.ofNat (first * 4 + second / 16) :: UInt8.ofNat (second % 16 * 16 + third / 4)
          :: UInt8.ofNat (third % 4 * 64 + fourth) :: bytes := by
  rw [base64Decode, base64Digit_char hfirst, base64Digit_char hsecond, base64Digit_char hthird,
    base64Digit_char hfourth]
  simp only [Option.bind_eq_bind, Option.bind_some, base64Char_ne_padding hthird,
    base64Char_ne_padding hfourth, if_false]
  cases base64Decode rest with
  | none => rfl
  | some bytes => rfl

theorem base64Decode_encode (bytes : List UInt8) :
    base64Decode (base64Encode bytes) = some bytes := by
  fun_induction base64Encode bytes with
  | case1 => rfl
  | case2 a =>
    have ha := a.toNat_lt
    rw [base64Decode_one (by omega) (by omega) (by omega), ofNat_of_eq (a := a) (by omega)]
  | case3 a b =>
    have ha := a.toNat_lt
    have hb := b.toNat_lt
    rw [base64Decode_two (by omega) (by omega) (by omega) (by omega), ofNat_of_eq (a := a) (by omega),
      ofNat_of_eq (a := b) (by omega)]
  | case4 a b c rest ih =>
    have ha := a.toNat_lt
    have hb := b.toNat_lt
    have hc := c.toNat_lt
    rw [base64Decode_three (by omega) (by omega) (by omega) (by omega), ih, Option.map_some,
      ofNat_of_eq (a := a) (by omega), ofNat_of_eq (a := b) (by omega),
      ofNat_of_eq (a := c) (by omega)]

end Sorotte.Framework
