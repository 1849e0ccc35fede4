import Sorotte.Fingerprint.Entries

/-! # Fingerprint codecs

  The audio summary that peers exchange and the fingerprint blob that is kept on
  disk.  Both hold one run of entries; the blob wraps it in sections and carries
  the duration.
-/

namespace Sorotte.Fingerprint

/-! ### Data -/

structure AudioAnchor where
  bucket : UInt32
  tMs : UInt32
  weight : UInt16
  deriving DecidableEq

structure AudioLandmarkV3 where
  hash : UInt32
  tMs : UInt32
  weight : UInt8
  deriving DecidableEq

structure MediaFingerprintBlobV3 where
  durationMs : Option UInt64
  audioLandmarks : List AudioLandmarkV3
  deriving DecidableEq

inductive MediaWireAnchorDecodeError where
  | invalidMagic
  | unsupportedVersion (version : UInt16)
  | invalidLength
  | tooManyAnchors (count : Nat)
  deriving DecidableEq

inductive MediaFingerprintBlobV3DecodeError where
  | invalidMagic
  | unsupportedVersion (version : UInt16)
  | invalidLength
  | tooManyLandmarks (count : Nat)
  | invalidSection (section_ : UInt8)
  | nonMonotonicTime
  deriving DecidableEq

def maxWireAnchors : Nat := 1024

def maxV3Landmarks : Nat := 4096

/-- `b"SAU2"`. -/
def audioSummaryMagic : List UInt8 := [83, 65, 85, 50]

def summaryFormatVersion : UInt16 := 1

/-- `b"SMA3"`. -/
def fingerprintBlobV3Magic : List UInt8 := [83, 77, 65, 51]

def fingerprintBlobV3FormatVersion : UInt16 := 1

def fingerprintBlobV3SectionAudio : UInt8 := 1

/-! ### Orders -/

/-- The keys that the encoders sort by are compared field by field. -/
def keyLe : Nat × Nat × Nat → Nat × Nat × Nat → Prop
  | (t, h, w), (t', h', w') => t < t' ∨ t = t' ∧ (h < h' ∨ h = h' ∧ w ≤ w')

instance : DecidableRel keyLe := fun first second =>
  match first, second with
  | (_, _, _), (_, _, _) => inferInstanceAs (Decidable (_ ∨ _))

instance : Std.Total keyLe where
  total := by
    rintro ⟨t, h, w⟩ ⟨t', h', w'⟩
    simp only [keyLe]
    omega

instance : IsTrans (Nat × Nat × Nat) keyLe where
  trans := by
    rintro ⟨t, h, w⟩ ⟨t', h', w'⟩ ⟨t'', h'', w''⟩ hfirst hsecond
    simp only [keyLe] at hfirst hsecond ⊢
    omega

/-- `(anchor.t_ms, anchor.bucket, anchor.weight)`. -/
def AudioAnchor.key (anchor : AudioAnchor) : Nat × Nat × Nat :=
  (anchor.tMs.toNat, anchor.bucket.toNat, anchor.weight.toNat)

/-- `(landmark.t_ms, landmark.hash, landmark.weight)`. -/
def AudioLandmarkV3.key (landmark : AudioLandmarkV3) : Nat × Nat × Nat :=
  (landmark.tMs.toNat, landmark.hash.toNat, landmark.weight.toNat)

/-- `sort_by_key`, which is stable. -/
def sortByKey {α : Type} (key : α → Nat × Nat × Nat) (items : List α) : List α :=
  items.insertionSort fun first second => keyLe (key first) (key second)

/-! ### The audio summary -/

def anchorFormat : EntryFormat AudioAnchor where
  time := AudioAnchor.tMs
  payload anchor := le32 anchor.bucket ++ le16 anchor.weight
  read bytes cursor tMs := do
    let bucket ← readU32Le bytes cursor
    let weight ← readU16Le bytes (cursor + 4)
    return (⟨bucket, tMs, weight⟩, cursor + 6)

/-- `encode_wire_audio_anchor_summary`. -/
def encodeWireAudioAnchorSummary (anchors : List AudioAnchor) : List UInt8 :=
  let sorted := (sortByKey AudioAnchor.key anchors).take maxWireAnchors
  audioSummaryMagic ++ le16 summaryFormatVersion ++ encodeVarint sorted.length.toUInt64
    ++ encodeEntries anchorFormat 0 sorted

/-- `decode_wire_audio_anchor_summary`. -/
def decodeWireAudioAnchorSummary (bytes : List UInt8) :
    Except MediaWireAnchorDecodeError (List AudioAnchor) :=
  if bytes.length < 6 || bytes.take 4 != audioSummaryMagic then .error .invalidMagic
  else
    match readU16Le bytes 4 with
    | none => .error .invalidLength
    | some version =>
      if version != summaryFormatVersion then .error (.unsupportedVersion version)
      else
        match decodeVarint bytes 6 with
        | none => .error .invalidLength
        | some (count, cursor) =>
          if maxWireAnchors < count.toNat then .error (.tooManyAnchors count.toNat)
          else
            match decodeEntries anchorFormat MediaWireAnchorDecodeError.invalidLength
                .invalidLength bytes count.toNat cursor 0 with
            | .error error => .error error
            | .ok (anchors, cursor) =>
              if cursor != bytes.length then .error .invalidLength else .ok anchors

/-! ### The fingerprint blob -/

def landmarkFormat : EntryFormat AudioLandmarkV3 where
  time := AudioLandmarkV3.tMs
  payload landmark := le32 landmark.hash ++ [landmark.weight]
  read bytes cursor tMs := do
    let hash ← readU32Le bytes cursor
    let weight ← bytes[cursor + 4]?
    return (⟨hash, tMs, weight⟩, cursor + 5)

/-- `encode_media_fingerprint_blob_v3`. -/
def encodeMediaFingerprintBlobV3 (blob : MediaFingerprintBlobV3) : List UInt8 :=
  let audio := (sortByKey AudioLandmarkV3.key blob.audioLandmarks).take maxV3Landmarks
  fingerprintBlobV3Magic ++ le16 fingerprintBlobV3FormatVersion
    ++ encodeVarint (blob.durationMs.getD 0xFFFFFFFFFFFFFFFF)
    ++ if audio.isEmpty then [0]
      else
        [1, fingerprintBlobV3SectionAudio] ++ encodeVarint audio.length.toUInt64
          ++ encodeEntries landmarkFormat 0 audio

/-- The section loop of `decode_media_fingerprint_blob_v3`. -/
def decodeSections (bytes : List UInt8) :
    Nat → Nat → Except MediaFingerprintBlobV3DecodeError (List AudioLandmarkV3 × Nat)
  | 0, cursor => .ok ([], cursor)
  | sections + 1, cursor =>
    match bytes[cursor]? with
    | none => .error .invalidLength
    | some kind =>
      match decodeVarint bytes (cursor + 1) with
      | none => .error .invalidLength
      | some (count, cursor) =>
        if maxV3Landmarks < count.toNat then .error (.tooManyLandmarks count.toNat)
        else if kind != fingerprintBlobV3SectionAudio then .error (.invalidSection kind)
        else
          match decodeEntries landmarkFormat MediaFingerprintBlobV3DecodeError.invalidLength
              .nonMonotonicTime bytes count.toNat cursor 0 with
          | .error error => .error error
          | .ok (landmarks, cursor) =>
            match decodeSections bytes sections cursor with
            | .error error => .error error
            | .ok (rest, cursor) => .ok (landmarks ++ rest, cursor)

/-- `decode_media_fingerprint_blob_v3`. -/
def decodeMediaFingerprintBlobV3 (bytes : List UInt8) :
    Except MediaFingerprintBlobV3DecodeError MediaFingerprintBlobV3 :=
  if bytes.length < 7 || bytes.take 4 != fingerprintBlobV3Magic then .error .invalidMagic
  else
    match readU16Le bytes 4 with
    | none => .error .invalidLength
    | some version =>
      if version != fingerprintBlobV3FormatVersion then .error (.unsupportedVersion version)
      else
        match decodeVarint bytes 6 with
        | none => .error .invalidLength
        | some (duration, cursor) =>
          match bytes[cursor]? with
          | none => .error .invalidLength
          | some sectionCount =>
            match decodeSections bytes sectionCount.toNat (cursor + 1) with
            | .error error => .error error
            | .ok (audioLandmarks, cursor) =>
              if cursor != bytes.length then .error .invalidLength
              else
                .ok
                  { durationMs := if duration != 0xFFFFFFFFFFFFFFFF then some duration else none
                    audioLandmarks := audioLandmarks }

/-! ### Lawful formats and sorted entries -/

theorem anchorFormat_lawful : anchorFormat.Lawful where
  read_payload := by
    intro bytes rest cursor anchor h
    have hpayload : bytes.drop cursor = le32 anchor.bucket ++ (le16 anchor.weight ++ rest) := by
      rw [h]
      exact List.append_assoc _ _ _
    have hweight : bytes.drop (cursor + 4) = le16 anchor.weight ++ rest := by
      have hdropped := congrArg (List.drop 4) hpayload
      rw [List.drop_drop] at hdropped
      exact hdropped
    show (do
      let bucket ← readU32Le bytes cursor
      let weight ← readU16Le bytes (cursor + 4)
      return ((⟨bucket, anchor.tMs, weight⟩ : AudioAnchor), cursor + 6)) = _
    rw [readU32Le_of_drop hpayload, readU16Le_of_drop hweight]
    rfl
  payload_read := by
    intro bytes cursor after tMs anchor h
    have h : (do
      let bucket ← readU32Le bytes cursor
      let weight ← readU16Le bytes (cursor + 4)
      return ((⟨bucket, tMs, weight⟩ : AudioAnchor), cursor + 6)) = some (anchor, after) := h
    cases hbucket : readU32Le bytes cursor with
    | none => simp [hbucket] at h
    | some bucket =>
      cases hweight : readU16Le bytes (cursor + 4) with
      | none => simp [hbucket, hweight] at h
      | some weight =>
        rw [hbucket, hweight] at h
        cases h
        refine ⟨rfl, rfl, ?_⟩
        rw [drop_of_readU32Le hbucket, drop_of_readU16Le hweight]
        rfl

theorem landmarkFormat_lawful : landmarkFormat.Lawful where
  read_payload := by
    intro bytes rest cursor landmark h
    have hpayload : bytes.drop cursor = le32 landmark.hash ++ ([landmark.weight] ++ rest) := by
      rw [h]
      exact List.append_assoc _ _ _
    have hweight : bytes[cursor + 4]? = some landmark.weight := by
      rw [getElem?_of_drop 4 hpayload]
      rfl
    show (do
      let hash ← readU32Le bytes cursor
      let weight ← bytes[cursor + 4]?
      return ((⟨hash, landmark.tMs, weight⟩ : AudioLandmarkV3), cursor + 5)) = _
    rw [readU32Le_of_drop hpayload, hweight]
    rfl
  payload_read := by
    intro bytes cursor after tMs landmark h
    have h : (do
      let hash ← readU32Le bytes cursor
      let weight ← bytes[cursor + 4]?
      return ((⟨hash, tMs, weight⟩ : AudioLandmarkV3), cursor + 5)) = some (landmark, after) := h
    cases hhash : readU32Le bytes cursor with
    | none => simp [hhash] at h
    | some hash =>
      cases hweight : bytes[cursor + 4]? with
      | none => simp [hhash, hweight] at h
      | some weight =>
        rw [hhash, hweight] at h
        cases h
        refine ⟨rfl, rfl, ?_⟩
        rw [drop_of_readU32Le hhash, drop_of_getElem? hweight]
        rfl

theorem sortByKey_pairwise {α : Type} (key : α → Nat × Nat × Nat) (items : List α) :
    (sortByKey key items).Pairwise fun first second => keyLe (key first) (key second) := by
  have : Std.Total fun first second : α => keyLe (key first) (key second) :=
    ⟨fun first second => Std.Total.total (key first) (key second)⟩
  have : IsTrans α fun first second => keyLe (key first) (key second) :=
    ⟨fun _ _ _ hfirst hsecond => IsTrans.trans _ _ _ hfirst hsecond⟩
  exact List.pairwise_insertionSort _ items

theorem sortByKey_perm {α : Type} (key : α → Nat × Nat × Nat) (items : List α) :
    (sortByKey key items).Perm items := List.perm_insertionSort _ items

/-- The sorted entries, cut, are in the order of their times. -/
theorem timesFrom_sorted {α : Type} {format : EntryFormat α} {key : α → Nat × Nat × Nat}
    (hkey : ∀ entry, (key entry).1 = (format.time entry).toNat) (items : List α) (limit : Nat) :
    TimesFrom format 0 ((sortByKey key items).take limit) := by
  unfold TimesFrom
  rw [List.pairwise_cons]
  refine ⟨fun t _ => ?_, ?_⟩
  · rw [UInt32.le_iff_toNat_le]
    exact Nat.zero_le _
  · rw [List.pairwise_map]
    refine ((sortByKey_pairwise key items).sublist (List.take_sublist _ _)).imp ?_
    intro first second hle
    rw [UInt32.le_iff_toNat_le, ← hkey first, ← hkey second]
    rcases hfirst : key first with ⟨t, h, w⟩
    rcases hsecond : key second with ⟨t', h', w'⟩
    rw [hfirst, hsecond] at hle
    simp only [keyLe] at hle ⊢
    omega

end Sorotte.Fingerprint
