import Mathlib

/-! # Variable-length integers

  Seven payload bits a byte, least significant first, the high bit set on every
  byte but the last.  A reader has room for 64 bits: it takes at most ten bytes
  and drops what the tenth byte has too much.
-/

namespace Sorotte.Fingerprint

/-! ### Writing and reading -/

/-- `encode_varint`. -/
def encodeVarint (value : UInt64) : List UInt8 :=
  if _large : 0x80 ≤ value then (value.toUInt8 ||| 0x80) :: encodeVarint (value >>> 7)
  else [value.toUInt8]
termination_by value.toNat
decreasing_by
  have hlarge : 128 ≤ value.toNat := by simpa [UInt64.le_iff_toNat_le] using _large
  rw [UInt64.toNat_shiftRight]
  simp [Nat.shiftRight_eq_div_pow]
  omega

/-- The loop of `decode_varint` with this many rounds left before `shift` is 64. -/
def decodeVarintRounds (bytes : List UInt8) : Nat → Nat → UInt64 → Option (UInt64 × Nat)
  | 0, _, _ => none
  | rounds + 1, cursor, value =>
    match bytes[cursor]? with
    | none => none
    | some byte =>
      let value := value ||| ((byte &&& 0x7f).toUInt64 <<< (7 * (9 - rounds)).toUInt64)
      if byte &&& 0x80 == 0 then some (value, cursor + 1)
      else decodeVarintRounds bytes rounds (cursor + 1) value

/-- `decode_varint`: the value and the cursor behind it. -/
def decodeVarint (bytes : List UInt8) (cursor : Nat) : Option (UInt64 × Nat) :=
  decodeVarintRounds bytes 10 cursor 0

/-! ### What the bytes stand for -/

/-- A byte string that one varint takes up. -/
inductive IsVarint : List UInt8 → Prop
  | last (byte : UInt8) (h : byte.toNat < 128) : IsVarint [byte]
  | more (byte : UInt8) (h : 128 ≤ byte.toNat) {rest : List UInt8} (hrest : IsVarint rest) :
      IsVarint (byte :: rest)

/-- The number that the payload bits stand for, however many there are. -/
def varintValue : List UInt8 → Nat
  | [] => 0
  | byte :: rest => byte.toNat % 128 + 128 * varintValue rest

theorem IsVarint.ne_nil {encoded : List UInt8} (h : IsVarint encoded) : encoded ≠ [] := by
  cases h <;> simp

/-! ### Bits of a byte -/

theorem forall_byte {p : UInt8 → Prop} (h : ∀ n : Fin 256, p (UInt8.ofNat n)) (byte : UInt8) :
    p byte := by
  have hbyte := h ⟨byte.toNat, byte.toNat_lt⟩
  rw [show UInt8.ofNat byte.toNat = byte from by simp] at hbyte
  exact hbyte

theorem payload_bits (byte : UInt8) : (byte &&& 0x7f).toUInt64.toNat = byte.toNat % 128 :=
  forall_byte (p := fun byte => (byte &&& 0x7f).toUInt64.toNat = byte.toNat % 128)
    (by decide +kernel) byte

theorem continuation_bit (byte : UInt8) :
    (byte &&& 0x80 == 0) = decide (byte.toNat < 128) :=
  forall_byte (p := fun byte => (byte &&& 0x80 == 0) = decide (byte.toNat < 128))
    (by decide +kernel) byte

theorem continued_byte (byte : UInt8) : (byte ||| 0x80).toNat = byte.toNat % 128 + 128 :=
  forall_byte (p := fun byte => (byte ||| 0x80).toNat = byte.toNat % 128 + 128)
    (by decide +kernel) byte

/-- Payload bits above all that has been read are added. -/
theorem or_shiftLeft_toNat {value payload : UInt64} {shift : Nat} (hshift : shift < 64)
    (hvalue : value.toNat < 2 ^ shift) :
    (value ||| (payload <<< shift.toUInt64)).toNat =
      (value.toNat + 2 ^ shift * payload.toNat) % 2 ^ 64 := by
  have hamount : shift.toUInt64.toNat % 64 = shift := by
    have hsame : shift.toUInt64.toNat = shift % 2 ^ 64 := by simp [Nat.toUInt64]
    omega
  have hpow : (2 : Nat) ^ 64 = 2 ^ shift * 2 ^ (64 - shift) := by
    rw [← Nat.pow_add]
    congr 1
    omega
  have hshifted : (payload <<< shift.toUInt64).toNat =
      2 ^ shift * (payload.toNat % 2 ^ (64 - shift)) := by
    rw [UInt64.toNat_shiftLeft, hamount, Nat.shiftLeft_eq, Nat.mul_comm, hpow,
      Nat.mul_mod_mul_left]
  have hmod : payload.toNat % 2 ^ (64 - shift) < 2 ^ (64 - shift) :=
    Nat.mod_lt _ (Nat.two_pow_pos _)
  rw [UInt64.toNat_or, hshifted, Nat.or_comm, ← Nat.two_pow_add_eq_or_of_lt hvalue]
  -- The sum does not reach the modulus, and both sides agree modulo it.
  have hsmall : 2 ^ shift * (payload.toNat % 2 ^ (64 - shift)) + value.toNat < 2 ^ 64 := by
    calc 2 ^ shift * (payload.toNat % 2 ^ (64 - shift)) + value.toNat
        < 2 ^ shift * (payload.toNat % 2 ^ (64 - shift)) + 2 ^ shift := by omega
      _ = 2 ^ shift * (payload.toNat % 2 ^ (64 - shift) + 1) := by ring
      _ ≤ 2 ^ shift * 2 ^ (64 - shift) := Nat.mul_le_mul_left _ hmod
      _ = 2 ^ 64 := hpow.symm
  have hsplit : 2 ^ shift * payload.toNat =
      2 ^ shift * (payload.toNat % 2 ^ (64 - shift))
        + 2 ^ 64 * (payload.toNat / 2 ^ (64 - shift)) := by
    conv_lhs => rw [← Nat.mod_add_div payload.toNat (2 ^ (64 - shift))]
    rw [hpow]
    ring
  rw [hsplit, ← Nat.add_assoc, Nat.add_mul_mod_self_left, Nat.add_comm value.toNat,
    Nat.mod_eq_of_lt hsmall]

/-! ### The reader -/

/-- The rounds left after reading `7 * (10 - rounds)` bits read a varint of at
    most that many bytes. -/
theorem decodeVarintRounds_of_isVarint {bytes encoded rest : List UInt8} (h : IsVarint encoded) :
    ∀ {rounds cursor : Nat} {value : UInt64}, rounds ≤ 10 → encoded.length ≤ rounds →
      bytes.drop cursor = encoded ++ rest → value.toNat < 2 ^ (7 * (10 - rounds)) →
      ∃ read, decodeVarintRounds bytes rounds cursor value = some (read, cursor + encoded.length)
        ∧ read.toNat = (value.toNat + 2 ^ (7 * (10 - rounds)) * varintValue encoded) % 2 ^ 64 := by
  induction h with
  | last byte hbyte =>
    intro rounds cursor value hrounds hlength hbytes hvalue
    cases rounds with
    | zero => simp at hlength
    | succ rounds =>
      have hget : bytes[cursor]? = some byte := by
        have hhead := congrArg (·[0]?) hbytes
        simpa using hhead
      have hshift : 7 * (10 - (rounds + 1)) = 7 * (9 - rounds) := by omega
      rw [hshift] at hvalue ⊢
      unfold decodeVarintRounds
      rw [hget]
      dsimp only
      rw [continuation_bit, decide_eq_true hbyte, if_pos rfl]
      refine ⟨_, rfl, ?_⟩
      rw [or_shiftLeft_toNat (by omega) hvalue, payload_bits]
      simp [varintValue]
  | more byte hbyte hrest ih =>
    rename_i tail
    intro rounds cursor value hrounds hlength hbytes hvalue
    cases rounds with
    | zero => simp at hlength
    | succ rounds =>
      have hget : bytes[cursor]? = some byte := by
        have hhead := congrArg (·[0]?) hbytes
        simpa using hhead
      have htail : bytes.drop (cursor + 1) = tail ++ rest := by
        have hdropped := congrArg (List.drop 1) hbytes
        simpa using hdropped
      have hpositive : 0 < tail.length := List.length_pos_iff.mpr hrest.ne_nil
      rw [List.length_cons] at hlength
      have hshift : 7 * (10 - (rounds + 1)) = 7 * (9 - rounds) := by omega
      have hnext : 7 * (10 - rounds) = 7 * (9 - rounds) + 7 := by omega
      rw [hshift] at hvalue ⊢
      have hread := @or_shiftLeft_toNat value (byte &&& 0x7f).toUInt64 (7 * (9 - rounds))
        (by omega) hvalue
      rw [payload_bits] at hread
      have hpow : (2 : Nat) ^ (7 * (9 - rounds) + 7) = 2 ^ (7 * (9 - rounds)) * 128 := by
        rw [Nat.pow_add]
      have hroom : (2 : Nat) ^ (7 * (9 - rounds)) * 128 ≤ 2 ^ 64 := by
        rw [← hpow]
        exact Nat.pow_le_pow_right (by omega) (by omega)
      have hsmall : value.toNat + 2 ^ (7 * (9 - rounds)) * (byte.toNat % 128) <
          2 ^ (7 * (9 - rounds)) * 128 := by
        calc value.toNat + 2 ^ (7 * (9 - rounds)) * (byte.toNat % 128)
            < 2 ^ (7 * (9 - rounds)) + 2 ^ (7 * (9 - rounds)) * (byte.toNat % 128) := by omega
          _ = 2 ^ (7 * (9 - rounds)) * (byte.toNat % 128 + 1) := by ring
          _ ≤ 2 ^ (7 * (9 - rounds)) * 128 := Nat.mul_le_mul_left _ (by omega)
      rw [Nat.mod_eq_of_lt (by omega)] at hread
      obtain ⟨read, hdecode, hvalue'⟩ := @ih rounds (cursor + 1)
        (value ||| ((byte &&& 0x7f).toUInt64 <<< (7 * (9 - rounds)).toUInt64)) (by omega)
        (by omega) htail (by rw [hread, hnext, hpow]; exact hsmall)
      refine ⟨read, ?_, ?_⟩
      · unfold decodeVarintRounds
        rw [hget]
        dsimp only
        rw [continuation_bit, decide_eq_false (by omega), if_neg Bool.false_ne_true, hdecode,
          List.length_cons]
        congr 2
        omega
      · rw [hvalue', hread, hnext, hpow]
        congr 1
        simp only [varintValue]
        ring

/-- What a successful read took is a varint. -/
theorem isVarint_of_decodeVarintRounds {bytes : List UInt8} {rounds cursor : Nat}
    {value read : UInt64} {after : Nat}
    (h : decodeVarintRounds bytes rounds cursor value = some (read, after)) :
    ∃ encoded, IsVarint encoded ∧ encoded.length ≤ rounds ∧ after = cursor + encoded.length
      ∧ bytes.drop cursor = encoded ++ bytes.drop after := by
  induction rounds generalizing cursor value with
  | zero => cases h
  | succ rounds ih =>
    unfold decodeVarintRounds at h
    split at h
    · cases h
    · next byte hget =>
      dsimp only at h
      have hdrop : bytes.drop cursor = byte :: bytes.drop (cursor + 1) := by
        obtain ⟨hlt, hbyte⟩ := List.getElem?_eq_some_iff.mp hget
        rw [List.drop_eq_getElem_cons hlt, hbyte]
      rw [continuation_bit] at h
      by_cases hlast : byte.toNat < 128
      · rw [decide_eq_true hlast, if_pos rfl] at h
        cases h
        exact ⟨[byte], .last byte hlast, by simp, rfl, hdrop⟩
      · rw [decide_eq_false hlast, if_neg Bool.false_ne_true] at h
        obtain ⟨encoded, hvarint, hlength, hafter, hrest⟩ := ih h
        refine ⟨byte :: encoded, .more byte (by omega) hvarint, ?_, ?_, ?_⟩
        · rw [List.length_cons]
          omega
        · rw [List.length_cons]
          omega
        · rw [hdrop, hrest]
          rfl

/-- **What `decode_varint` reads**: a varint of at most ten bytes, modulo 2^64. -/
theorem decodeVarint_spec {bytes : List UInt8} {cursor after : Nat} {read : UInt64}
    (h : decodeVarint bytes cursor = some (read, after)) :
    ∃ encoded, IsVarint encoded ∧ after = cursor + encoded.length
      ∧ bytes.drop cursor = encoded ++ bytes.drop after
      ∧ read.toNat = varintValue encoded % 2 ^ 64 := by
  obtain ⟨encoded, hvarint, hlength, hafter, hbytes⟩ := isVarint_of_decodeVarintRounds h
  obtain ⟨read', hread, hvalue⟩ := @decodeVarintRounds_of_isVarint bytes encoded _ hvarint 10 cursor
    0 (Nat.le_refl _) hlength hbytes (by decide)
  have hsame : read = read' := by
    unfold decodeVarint at h
    rw [hread] at h
    cases h
    rfl
  refine ⟨encoded, hvarint, hafter, hbytes, ?_⟩
  rw [hsame, hvalue]
  simp

/-! ### The writer -/

theorem isVarint_encodeVarint (value : UInt64) :
    IsVarint (encodeVarint value) ∧ varintValue (encodeVarint value) = value.toNat := by
  induction hsize : value.toNat using Nat.strongRecOn generalizing value with
  | ind size ih =>
    unfold encodeVarint
    have hlow : value.toUInt8.toNat = value.toNat % 256 := by simp
    by_cases hlarge : 0x80 ≤ value
    · have hlarge' : 128 ≤ value.toNat := by simpa [UInt64.le_iff_toNat_le] using hlarge
      have hshifted : (value >>> 7).toNat = value.toNat / 128 := by
        rw [UInt64.toNat_shiftRight]
        simp [Nat.shiftRight_eq_div_pow]
      obtain ⟨hvarint, hvalue⟩ := ih (value >>> 7).toNat (by omega) (value >>> 7) rfl
      rw [dif_pos hlarge]
      have hbyte := continued_byte value.toUInt8
      refine ⟨.more _ (by omega) hvarint, ?_⟩
      rw [varintValue, hvalue, hbyte, hlow, hshifted]
      omega
    · have hsmall : value.toNat < 128 := by
        by_contra hge
        exact hlarge (by
          rw [UInt64.le_iff_toNat_le]
          exact Nat.not_lt.mp hge)
      rw [dif_neg hlarge]
      refine ⟨.last _ (by omega), ?_⟩
      simp only [varintValue]
      omega

/-- Sixty-four bits fit into ten bytes. -/
theorem length_encodeVarint {bytes : Nat} : ∀ {value : UInt64}, value.toNat < 2 ^ (7 * (bytes + 1)) →
    (encodeVarint value).length ≤ bytes + 1 := by
  induction bytes with
  | zero =>
    intro value hvalue
    unfold encodeVarint
    have hsmall : ¬(0x80 ≤ value) := by
      rw [UInt64.le_iff_toNat_le]
      simpa using hvalue
    rw [dif_neg hsmall]
    rfl
  | succ bytes ih =>
    intro value hvalue
    unfold encodeVarint
    split
    · have hshifted : (value >>> 7).toNat = value.toNat / 128 := by
        rw [UInt64.toNat_shiftRight]
        simp [Nat.shiftRight_eq_div_pow]
      have hrest := @ih (value >>> 7) (by
        rw [hshifted, Nat.div_lt_iff_lt_mul (by omega)]
        have hpow : (2 : Nat) ^ (7 * (bytes + 1 + 1)) = 2 ^ (7 * (bytes + 1)) * 128 := by
          rw [show 7 * (bytes + 1 + 1) = 7 * (bytes + 1) + 7 by omega, Nat.pow_add]
        omega)
      rw [List.length_cons]
      omega
    · simp

/-- **Round trip**, wherever the varint stands. -/
theorem decodeVarint_encodeVarint {bytes rest : List UInt8} {cursor : Nat} {value : UInt64}
    (h : bytes.drop cursor = encodeVarint value ++ rest) :
    decodeVarint bytes cursor = some (value, cursor + (encodeVarint value).length) := by
  obtain ⟨hvarint, hvalue⟩ := isVarint_encodeVarint value
  have hlength : (encodeVarint value).length ≤ 10 :=
    length_encodeVarint (Nat.lt_of_lt_of_le value.toNat_lt (by decide))
  obtain ⟨read, hread, hsame⟩ := @decodeVarintRounds_of_isVarint bytes _ rest hvarint 10 cursor 0
    (Nat.le_refl _) hlength h (by decide)
  have hback : read = value := by
    apply UInt64.toNat_inj.mp
    rw [hsame, hvalue]
    have hlt := value.toNat_lt
    simp
  unfold decodeVarint
  rw [hread, hback]

end Sorotte.Fingerprint
