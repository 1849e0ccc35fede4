import Sorotte.Fingerprint.Varint

/-! # Delta-coded entries

  Both fingerprint formats hold runs of entries in the order of their time: the
  distance to the previous entry as a varint, then the rest of the entry in
  fixed width.  What a format adds is how its fixed part is written and read.
-/

namespace Sorotte.Fingerprint

/-! ### Fixed-width integers -/

/-- `u16::to_le_bytes`. -/
def le16 (value : UInt16) : List UInt8 := [value.toUInt8, (value >>> 8).toUInt8]

/-- `u32::to_le_bytes`. -/
def le32 (value : UInt32) : List UInt8 :=
  [value.toUInt8, (value >>> 8).toUInt8, (value >>> 16).toUInt8, (value >>> 24).toUInt8]

/-- `u16::from_le_bytes`. -/
def ofLe16 (b₀ b₁ : UInt8) : UInt16 := UInt16.ofNat (b₀.toNat + 256 * b₁.toNat)

/-- `u32::from_le_bytes`. -/
def ofLe32 (b₀ b₁ b₂ b₃ : UInt8) : UInt32 :=
  UInt32.ofNat (b₀.toNat + 256 * b₁.toNat + 65536 * b₂.toNat + 16777216 * b₃.toNat)

/-- `read_u16_le`. -/
def readU16Le (bytes : List UInt8) (offset : Nat) : Option UInt16 := do
  let b₀ ← bytes[offset]?
  let b₁ ← bytes[offset + 1]?
  return ofLe16 b₀ b₁

/-- `read_u32_le`, and `read_u32_le_blob` without its cursor. -/
def readU32Le (bytes : List UInt8) (offset : Nat) : Option UInt32 := do
  let b₀ ← bytes[offset]?
  let b₁ ← bytes[offset + 1]?
  let b₂ ← bytes[offset + 2]?
  let b₃ ← bytes[offset + 3]?
  return ofLe32 b₀ b₁ b₂ b₃

theorem ofLe16_le16 (value : UInt16) :
    ofLe16 value.toUInt8 (value >>> 8).toUInt8 = value := by
  apply UInt16.toNat_inj.mp
  have hlt := value.toNat_lt
  simp [ofLe16, Nat.shiftRight_eq_div_pow]
  omega

theorem ofLe32_le32 (value : UInt32) :
    ofLe32 value.toUInt8 (value >>> 8).toUInt8 (value >>> 16).toUInt8 (value >>> 24).toUInt8 =
      value := by
  apply UInt32.toNat_inj.mp
  have hlt := value.toNat_lt
  simp [ofLe32, Nat.shiftRight_eq_div_pow]
  omega

theorem le16_ofLe16 (b₀ b₁ : UInt8) : le16 (ofLe16 b₀ b₁) = [b₀, b₁] := by
  have h₀ := b₀.toNat_lt
  have h₁ := b₁.toNat_lt
  simp only [le16, ofLe16, List.cons.injEq, and_true, ← UInt8.toNat_inj]
  simp [Nat.shiftRight_eq_div_pow]
  omega

theorem le32_ofLe32 (b₀ b₁ b₂ b₃ : UInt8) : le32 (ofLe32 b₀ b₁ b₂ b₃) = [b₀, b₁, b₂, b₃] := by
  have h₀ := b₀.toNat_lt
  have h₁ := b₁.toNat_lt
  have h₂ := b₂.toNat_lt
  have h₃ := b₃.toNat_lt
  simp only [le32, ofLe32, List.cons.injEq, and_true, ← UInt8.toNat_inj]
  simp [Nat.shiftRight_eq_div_pow]
  omega

theorem drop_of_getElem? {bytes : List UInt8} {cursor : Nat} {byte : UInt8}
    (h : bytes[cursor]? = some byte) : bytes.drop cursor = byte :: bytes.drop (cursor + 1) := by
  obtain ⟨hlt, hbyte⟩ := List.getElem?_eq_some_iff.mp h
  rw [List.drop_eq_getElem_cons hlt, hbyte]

theorem getElem?_of_drop {bytes rest : List UInt8} {cursor : Nat} (offset : Nat)
    (h : bytes.drop cursor = rest) : bytes[cursor + offset]? = rest[offset]? := by
  rw [← h, List.getElem?_drop]

theorem readU16Le_of_drop {bytes rest : List UInt8} {cursor : Nat} {value : UInt16}
    (h : bytes.drop cursor = le16 value ++ rest) : readU16Le bytes cursor = some value := by
  have h₀ := getElem?_of_drop 0 h
  have h₁ := getElem?_of_drop 1 h
  simp only [Nat.add_zero] at h₀
  unfold readU16Le
  rw [h₀, h₁]
  simp [le16, ofLe16_le16]

theorem readU32Le_of_drop {bytes rest : List UInt8} {cursor : Nat} {value : UInt32}
    (h : bytes.drop cursor = le32 value ++ rest) : readU32Le bytes cursor = some value := by
  have h₀ := getElem?_of_drop 0 h
  have h₁ := getElem?_of_drop 1 h
  have h₂ := getElem?_of_drop 2 h
  have h₃ := getElem?_of_drop 3 h
  simp only [Nat.add_zero] at h₀
  unfold readU32Le
  rw [h₀, h₁, h₂, h₃]
  simp [le32, ofLe32_le32]

theorem drop_of_readU16Le {bytes : List UInt8} {cursor : Nat} {value : UInt16}
    (h : readU16Le bytes cursor = some value) :
    bytes.drop cursor = le16 value ++ bytes.drop (cursor + 2) := by
  unfold readU16Le at h
  cases h₀ : bytes[cursor]? with
  | none => simp [h₀] at h
  | some b₀ =>
    cases h₁ : bytes[cursor + 1]? with
    | none => simp [h₀, h₁] at h
    | some b₁ =>
      have hvalue : ofLe16 b₀ b₁ = value := by simpa [h₀, h₁] using h
      rw [← hvalue, le16_ofLe16, drop_of_getElem? h₀, drop_of_getElem? h₁]
      rfl

theorem drop_of_readU32Le {bytes : List UInt8} {cursor : Nat} {value : UInt32}
    (h : readU32Le bytes cursor = some value) :
    bytes.drop cursor = le32 value ++ bytes.drop (cursor + 4) := by
  unfold readU32Le at h
  cases h₀ : bytes[cursor]? with
  | none => simp [h₀] at h
  | some b₀ =>
    cases h₁ : bytes[cursor + 1]? with
    | none => simp [h₀, h₁] at h
    | some b₁ =>
      cases h₂ : bytes[cursor + 2]? with
      | none => simp [h₀, h₁, h₂] at h
      | some b₂ =>
        cases h₃ : bytes[cursor + 3]? with
        | none => simp [h₀, h₁, h₂, h₃] at h
        | some b₃ =>
          have hvalue : ofLe32 b₀ b₁ b₂ b₃ = value := by simpa [h₀, h₁, h₂, h₃] using h
          rw [← hvalue, le32_ofLe32, drop_of_getElem? h₀, drop_of_getElem? h₁,
            drop_of_getElem? h₂, drop_of_getElem? h₃]
          rfl

/-! ### Entry formats -/

/-- The time of an entry, how the rest of it is written, and how it is read at a
    cursor once its time is known. -/
structure EntryFormat (α : Type) where
  time : α → UInt32
  payload : α → List UInt8
  read : List UInt8 → Nat → UInt32 → Option (α × Nat)

/-- Reading and writing the fixed part are inverse to each other. -/
structure EntryFormat.Lawful {α : Type} (format : EntryFormat α) : Prop where
  read_payload : ∀ {bytes rest : List UInt8} {cursor : Nat} {entry : α},
    bytes.drop cursor = format.payload entry ++ rest →
      format.read bytes cursor (format.time entry) =
        some (entry, cursor + (format.payload entry).length)
  payload_read : ∀ {bytes : List UInt8} {cursor after : Nat} {tMs : UInt32} {entry : α},
    format.read bytes cursor tMs = some (entry, after) →
      format.time entry = tMs ∧ after = cursor + (format.payload entry).length
        ∧ bytes.drop cursor = format.payload entry ++ bytes.drop after

section runs

variable {α ε : Type} (format : EntryFormat α)

/-- `saturating_sub`. -/
def saturatingSub (first second : UInt32) : UInt32 := if second ≤ first then first - second else 0

/-- The loop that both encoders end with. -/
def encodeEntries (previousTMs : UInt32) : List α → List UInt8
  | [] => []
  | entry :: rest =>
    encodeVarint (saturatingSub (format.time entry) previousTMs).toUInt64
      ++ format.payload entry ++ encodeEntries (format.time entry) rest

/-- `checked_add`. -/
def checkedAdd (first second : UInt32) : Option UInt32 :=
  if first.toNat + second.toNat < 2 ^ 32 then some (first + second) else none

/-- The loop that both decoders have: the entries and the cursor behind them. -/
def decodeEntries (invalidLength overflow : ε) (bytes : List UInt8) :
    Nat → Nat → UInt32 → Except ε (List α × Nat)
  | 0, cursor, _ => .ok ([], cursor)
  | count + 1, cursor, previousTMs =>
    match decodeVarint bytes cursor with
    | none => .error invalidLength
    | some (delta, cursor) =>
      match checkedAdd previousTMs delta.toUInt32 with
      | none => .error overflow
      | some tMs =>
        match format.read bytes cursor tMs with
        | none => .error invalidLength
        | some (entry, cursor) =>
          match decodeEntries invalidLength overflow bytes count cursor tMs with
          | .error error => .error error
          | .ok (rest, cursor) => .ok (entry :: rest, cursor)

/-- The times never go back, from this one on. -/
def TimesFrom (previousTMs : UInt32) (entries : List α) : Prop :=
  (previousTMs :: entries.map format.time).Pairwise (· ≤ ·)

variable {format} {invalidLength overflow : ε} {bytes : List UInt8}

theorem checkedAdd_some {first second sum : UInt32} (h : checkedAdd first second = some sum) :
    sum.toNat = first.toNat + second.toNat := by
  unfold checkedAdd at h
  split at h
  · next hlt =>
    cases h
    rw [UInt32.toNat_add, Nat.mod_eq_of_lt hlt]
  · cases h

/-- **Round trip** for a run in the order of its times. -/
theorem decodeEntries_encodeEntries (hlawful : format.Lawful) {entries : List α} :
    ∀ {cursor : Nat} {previousTMs : UInt32} {rest : List UInt8},
      TimesFrom format previousTMs entries →
      bytes.drop cursor = encodeEntries format previousTMs entries ++ rest →
      decodeEntries format invalidLength overflow bytes entries.length cursor previousTMs =
        .ok (entries, cursor + (encodeEntries format previousTMs entries).length) := by
  induction entries with
  | nil => exact fun _ _ => rfl
  | cons entry entries ih =>
    intro cursor previousTMs rest htimes hbytes
    unfold TimesFrom at htimes
    rw [List.map_cons, List.pairwise_cons] at htimes
    have hle : previousTMs ≤ format.time entry := htimes.1 _ List.mem_cons_self
    have hleNat : previousTMs.toNat ≤ (format.time entry).toNat := UInt32.le_iff_toNat_le.mp hle
    unfold encodeEntries at hbytes ⊢
    have hsub : saturatingSub (format.time entry) previousTMs = format.time entry - previousTMs :=
      if_pos hle
    rw [hsub] at hbytes ⊢
    generalize hdelta : format.time entry - previousTMs = delta at hbytes ⊢
    have hvalue : previousTMs.toNat + delta.toNat = (format.time entry).toNat := by
      rw [← hdelta, UInt32.toNat_sub_of_le _ _ hle]
      omega
    rw [List.append_assoc, List.append_assoc] at hbytes
    have hvarint := decodeVarint_encodeVarint hbytes
    generalize hencoded : encodeVarint delta.toUInt64 = encoded at hbytes hvarint ⊢
    have hpayload : bytes.drop (cursor + encoded.length) =
        format.payload entry ++ (encodeEntries format (format.time entry) entries ++ rest) := by
      have hdropped := congrArg (List.drop encoded.length) hbytes
      simpa using hdropped
    have hread := hlawful.read_payload hpayload
    have hrest : bytes.drop (cursor + encoded.length + (format.payload entry).length) =
        encodeEntries format (format.time entry) entries ++ rest := by
      have hdropped := congrArg (List.drop (format.payload entry).length) hpayload
      simpa using hdropped
    have htail := ih htimes.2 hrest
    have hadd : checkedAdd previousTMs delta = some (format.time entry) := by
      unfold checkedAdd
      rw [if_pos (by rw [hvalue]; exact (format.time entry).toNat_lt)]
      congr 1
      apply UInt32.toNat_inj.mp
      rw [UInt32.toNat_add, hvalue, Nat.mod_eq_of_lt (format.time entry).toNat_lt]
    have hnarrow : delta.toUInt64.toUInt32 = delta := by simp
    rw [List.length_cons]
    unfold decodeEntries
    rw [hvarint]
    dsimp only
    rw [hnarrow, hadd]
    dsimp only
    rw [hread]
    dsimp only
    rw [htail]
    simp only [List.length_append, Nat.add_assoc]

/-- The bytes of a run: each delta as it was encoded, then its entry's fixed part. -/
def runBytes (format : EntryFormat α) (deltas : List (List UInt8)) (entries : List α) :
    List UInt8 :=
  (List.zipWith (fun delta entry => delta ++ format.payload entry) deltas entries).flatten

/-- What a run of entries was decoded from. -/
structure DecodedRun (format : EntryFormat α) (previousTMs : UInt32) (deltas : List (List UInt8))
    (entries : List α) : Prop where
  length : deltas.length = entries.length
  varint : ∀ delta ∈ deltas, IsVarint delta
  ordered : TimesFrom format previousTMs entries
  exact : (∀ delta ∈ deltas, varintValue delta < 2 ^ 32) → ∀ k entry, entries[k]? = some entry →
    (format.time entry).toNat =
      previousTMs.toNat + ((deltas.take (k + 1)).map varintValue).sum

/-- **What a successful decoding read.** -/
theorem decodeEntries_spec (hlawful : format.Lawful) {count : Nat} :
    ∀ {cursor after : Nat} {previousTMs : UInt32} {entries : List α},
      decodeEntries format invalidLength overflow bytes count cursor previousTMs =
        .ok (entries, after) →
      entries.length = count ∧ ∃ deltas, DecodedRun format previousTMs deltas entries
        ∧ bytes.drop cursor = runBytes format deltas entries ++ bytes.drop after := by
  induction count with
  | zero =>
    intro cursor after previousTMs entries h
    cases h
    exact ⟨rfl, [], ⟨rfl, by simp, by simp [TimesFrom], by simp⟩, rfl⟩
  | succ count ih =>
    intro cursor after previousTMs entries h
    unfold decodeEntries at h
    split at h
    · cases h
    next delta readDelta hdelta =>
    split at h
    · cases h
    next tMs hadd =>
    split at h
    · cases h
    next entry readEntry hread =>
    split at h
    · cases h
    next rest readRest hrest =>
    cases h
    obtain ⟨encoded, hvarint, hafter, hbytes, hvalue⟩ := decodeVarint_spec hdelta
    obtain ⟨htime, -, hpayload⟩ := hlawful.payload_read hread
    obtain ⟨hcount, deltas, hrun, htail⟩ := ih hrest
    have hsum := checkedAdd_some hadd
    refine ⟨by rw [List.length_cons, hcount], encoded :: deltas,
      ⟨by rw [List.length_cons, List.length_cons, hrun.length], ?_, ?_, ?_⟩, ?_⟩
    · intro d hd
      rcases List.mem_cons.mp hd with rfl | hd
      · exact hvarint
      · exact hrun.varint d hd
    · have hle : previousTMs ≤ tMs := by
        rw [UInt32.le_iff_toNat_le]
        omega
      have hordered : (tMs :: rest.map format.time).Pairwise (· ≤ ·) := hrun.ordered
      unfold TimesFrom
      rw [List.map_cons, htime, List.pairwise_cons]
      refine ⟨fun t ht => ?_, hordered⟩
      rcases List.mem_cons.mp ht with rfl | ht
      · exact hle
      · have hlater := (List.pairwise_cons.mp hordered).1 t ht
        rw [UInt32.le_iff_toNat_le] at hle hlater ⊢
        omega
    · intro hsmall k found hfound
      have hfirst := hsmall encoded List.mem_cons_self
      have hdeltaNat : delta.toUInt32.toNat = varintValue encoded := by
        rw [UInt64.toNat_toUInt32, hvalue]
        omega
      cases k with
      | zero =>
        have hsame : entry = found := by simpa using hfound
        rw [← hsame, htime, hsum, hdeltaNat]
        simp
      | succ k =>
        rw [List.getElem?_cons_succ] at hfound
        have hlater := hrun.exact (fun d hd => hsmall d (List.mem_cons_of_mem _ hd)) k found hfound
        rw [hlater, hsum, hdeltaNat, List.take_succ_cons, List.map_cons, List.sum_cons]
        omega
    · rw [hbytes, hpayload, htail]
      simp [runBytes]

end runs

end Sorotte.Fingerprint
