import Mathlib.Data.List.Basic

/-! # Percent-encoding

  A byte is written as itself, as a percent sign and two hexadecimal digits of
  either case, or, if it is a space, as a plus sign.  A relation, because there
  are many ways to encode the same bytes; a full encoder is one of them.
-/

namespace Sorotte.Framework

/-- The UTF-8 of a text. -/
def utf8Bytes (text : String) : List UInt8 := text.toList.flatMap String.utf8EncodeChar

def percentSign : UInt8 := 0x25

def plusSign : UInt8 := 0x2B

def spaceByte : UInt8 := 0x20

/-! ### Digits -/

def lowerHexDigit (digit : Fin 16) : UInt8 :=
  if digit.val < 10 then UInt8.ofNat (0x30 + digit.val) else UInt8.ofNat (0x57 + digit.val)

def upperHexDigit (digit : Fin 16) : UInt8 :=
  if digit.val < 10 then UInt8.ofNat (0x30 + digit.val) else UInt8.ofNat (0x37 + digit.val)

/-- A digit in either case. -/
def WritesDigit (digit : Fin 16) (byte : UInt8) : Prop :=
  byte = lowerHexDigit digit ∨ byte = upperHexDigit digit

instance (digit : Fin 16) (byte : UInt8) : Decidable (WritesDigit digit byte) :=
  inferInstanceAs (Decidable (_ ∨ _))

def highDigit (byte : UInt8) : Fin 16 := ⟨byte.toNat / 16, by have := byte.toNat_lt; omega⟩

def lowDigit (byte : UInt8) : Fin 16 := ⟨byte.toNat % 16, by omega⟩

/-! ### Encodings -/

/-- `encoded` is a way to write `bytes`. -/
inductive PercentEncodes : List UInt8 → List UInt8 → Prop where
  | nil : PercentEncodes [] []
  | raw {byte : UInt8} {bytes encoded : List UInt8} (hpercent : byte ≠ percentSign)
      (hplus : byte ≠ plusSign) (rest : PercentEncodes bytes encoded) :
      PercentEncodes (byte :: bytes) (byte :: encoded)
  | plus {bytes encoded : List UInt8} (rest : PercentEncodes bytes encoded) :
      PercentEncodes (spaceByte :: bytes) (plusSign :: encoded)
  | hex {byte high low : UInt8} {bytes encoded : List UInt8} (hhigh : WritesDigit (highDigit byte) high)
      (hlow : WritesDigit (lowDigit byte) low) (rest : PercentEncodes bytes encoded) :
      PercentEncodes (byte :: bytes) (percentSign :: high :: low :: encoded)

/-- Every byte in hexadecimal. -/
def percentEncode : List UInt8 → List UInt8
  | [] => []
  | byte :: bytes =>
    percentSign :: upperHexDigit (highDigit byte) :: upperHexDigit (lowDigit byte)
      :: percentEncode bytes

theorem percentEncodes_percentEncode (bytes : List UInt8) :
    PercentEncodes bytes (percentEncode bytes) := by
  induction bytes with
  | nil => exact .nil
  | cons byte bytes ih => exact .hex (.inr rfl) (.inr rfl) ih

theorem upperHexDigit_lt (digit : Fin 16) : upperHexDigit digit < 0x80 := by
  revert digit
  decide

/-- The full encoding is ASCII. -/
theorem percentEncode_ascii {bytes : List UInt8} {byte : UInt8} (h : byte ∈ percentEncode bytes) :
    byte < 0x80 := by
  induction bytes with
  | nil => cases h
  | cons first bytes ih =>
    simp only [percentEncode, List.mem_cons] at h
    rcases h with rfl | rfl | rfl | h
    · decide
    · exact upperHexDigit_lt _
    · exact upperHexDigit_lt _
    · exact ih h

/-! ### Texts -/

/-- The text of ASCII bytes. -/
def asciiText (bytes : List UInt8) : String := String.ofList (bytes.map fun byte => Char.ofNat byte.toNat)

theorem utf8Bytes_asciiText {bytes : List UInt8} (h : ∀ byte ∈ bytes, byte < 0x80) :
    utf8Bytes (asciiText bytes) = bytes := by
  have hall : ∀ n : Fin 128, String.utf8EncodeChar (Char.ofNat n.val) = [UInt8.ofNat n.val] := by
    decide +kernel
  have hbyte : ∀ byte : UInt8, byte < 0x80 →
      String.utf8EncodeChar (Char.ofNat byte.toNat) = [byte] := by
    intro byte hbyte
    rw [hall ⟨byte.toNat, UInt8.lt_iff_toNat_lt.mp hbyte⟩, UInt8.ofNat_toNat]
  unfold utf8Bytes asciiText
  rw [String.toList_ofList]
  induction bytes with
  | nil => rfl
  | cons byte bytes ih =>
    rw [List.map_cons, List.flatMap_cons, hbyte byte (h byte List.mem_cons_self),
      ih fun other hother => h other (List.mem_cons_of_mem _ hother)]
    rfl

/-- The text of bytes that are valid UTF-8. -/
def utf8Text (bytes : List UInt8) : Option String := String.fromUTF8? bytes.toByteArray

theorem utf8Bytes_toByteArray (text : String) : (utf8Bytes text).toByteArray = text.toByteArray := by
  rw [← String.utf8Encode_toList]
  rfl

theorem utf8Text_utf8Bytes (text : String) : utf8Text (utf8Bytes text) = some text := by
  unfold utf8Text String.fromUTF8?
  rw [utf8Bytes_toByteArray, dif_pos text.isValidUTF8]
  rfl

end Sorotte.Framework
