import Sorotte.Fingerprint.Codecs

/-! # Fingerprint codecs round trip

  What an encoder writes its decoder reads back, sorted and cut; and what a
  decoder accepts is a run of entries whose times add up.
-/

namespace Sorotte.Fingerprint

/-! ### Headers -/

theorem drop_header {magic bytes rest : List UInt8} {version : UInt16} (hmagic : magic.length = 4)
    (h : bytes = magic ++ le16 version ++ rest) :
    bytes.take 4 = magic ∧ readU16Le bytes 4 = some version ∧ bytes.drop 6 = rest
      ∧ bytes.length = 6 + rest.length := by
  have hfour : bytes.drop 4 = le16 version ++ rest := by
    rw [h, List.append_assoc, ← hmagic, List.drop_left]
  refine ⟨?_, readU16Le_of_drop hfour, ?_, ?_⟩
  · rw [h, List.append_assoc, ← hmagic, List.take_left]
  · have hdropped := congrArg (List.drop 2) hfour
    rw [List.drop_drop] at hdropped
    exact hdropped
  · rw [h]
    simp [le16, hmagic]
    omega

theorem header_of_checks {magic bytes : List UInt8} {version : UInt16}
    (hmagic : bytes.take 4 = magic) (hversion : readU16Le bytes 4 = some version) :
    bytes = magic ++ le16 version ++ bytes.drop 6 := by
  rw [List.append_assoc, ← drop_of_readU16Le hversion, ← hmagic, List.take_append_drop]

theorem toUInt64_length {n limit : Nat} (h : n ≤ limit) (hlimit : limit < 2 ^ 64) :
    n.toUInt64.toNat = n := by
  simp [Nat.toUInt64]
  omega

/-! ### The audio summary -/

theorem decode_encode_summary (anchors : List AudioAnchor) :
    decodeWireAudioAnchorSummary (encodeWireAudioAnchorSummary anchors) =
      .ok ((sortByKey AudioAnchor.key anchors).take maxWireAnchors) := by
  unfold encodeWireAudioAnchorSummary
  dsimp only
  generalize hsorted : (sortByKey AudioAnchor.key anchors).take maxWireAnchors = sorted
  have htimes : TimesFrom anchorFormat 0 sorted := by
    rw [← hsorted]
    exact timesFrom_sorted (fun _ => rfl) anchors maxWireAnchors
  have hlength : sorted.length ≤ maxWireAnchors := by
    rw [← hsorted, List.length_take]
    exact Nat.min_le_left _ _
  generalize hbytes : audioSummaryMagic ++ le16 summaryFormatVersion
    ++ encodeVarint sorted.length.toUInt64 ++ encodeEntries anchorFormat 0 sorted = bytes
  rw [List.append_assoc] at hbytes
  obtain ⟨hmagic, hversion, hrest, hsize⟩ := drop_header rfl hbytes.symm
  have hcount := decodeVarint_encodeVarint hrest
  have hentries : bytes.drop (6 + (encodeVarint sorted.length.toUInt64).length) =
      encodeEntries anchorFormat 0 sorted ++ [] := by
    rw [← List.drop_drop, hrest, List.drop_left, List.append_nil]
  have hread := @decodeEntries_encodeEntries _ _ anchorFormat
    MediaWireAnchorDecodeError.invalidLength .invalidLength bytes anchorFormat_lawful sorted _ _ _
    htimes hentries
  have hnat := toUInt64_length hlength (by decide)
  unfold decodeWireAudioAnchorSummary
  rw [if_neg (by simp [hmagic]; omega), hversion]
  dsimp only
  rw [if_neg (by simp), hcount]
  dsimp only
  rw [hnat, if_neg (by omega), hread]
  dsimp only
  rw [if_neg (by
    rw [hsize, List.length_append]
    simp only [bne_iff_ne, ne_eq, not_not]
    omega)]

/-- What the summary decoder accepts. -/
theorem decode_summary_spec {bytes : List UInt8} {anchors : List AudioAnchor}
    (h : decodeWireAudioAnchorSummary bytes = .ok anchors) :
    anchors.length ≤ maxWireAnchors ∧ ∃ count deltas, IsVarint count
      ∧ DecodedRun anchorFormat 0 deltas anchors
      ∧ bytes = audioSummaryMagic ++ le16 summaryFormatVersion ++ count
        ++ runBytes anchorFormat deltas anchors := by
  unfold decodeWireAudioAnchorSummary at h
  split at h
  · cases h
  next hheader =>
  split at h
  · cases h
  next version hversion =>
  split at h
  · cases h
  next hsupported =>
  split at h
  · cases h
  next count afterCount hcount =>
  split at h
  · cases h
  next hbounded =>
  split at h
  · cases h
  next read after hread =>
  split at h
  · cases h
  next hend =>
  cases h
  have hmagic : bytes.take 4 = audioSummaryMagic := by
    by_contra hne
    exact hheader (by simp [hne])
  have hsame : version = summaryFormatVersion := by simpa using hsupported
  have hlast : after = bytes.length := by simpa using hend
  subst hsame
  obtain ⟨encoded, hvarint, -, hafterCount, -⟩ := decodeVarint_spec hcount
  obtain ⟨hlength, deltas, hrun, hbytes⟩ := decodeEntries_spec anchorFormat_lawful hread
  refine ⟨by omega, encoded, deltas, hvarint, hrun, ?_⟩
  calc bytes = audioSummaryMagic ++ le16 summaryFormatVersion ++ bytes.drop 6 :=
        header_of_checks hmagic hversion
    _ = _ := by
        rw [hafterCount, hbytes, hlast, List.drop_length, List.append_nil]
        simp only [List.append_assoc]

/-! ### The fingerprint blob -/

theorem decode_encode_blob (blob : MediaFingerprintBlobV3)
    (hduration : blob.durationMs ≠ some 0xFFFFFFFFFFFFFFFF) :
    decodeMediaFingerprintBlobV3 (encodeMediaFingerprintBlobV3 blob) =
      .ok { blob with
        audioLandmarks :=
          (sortByKey AudioLandmarkV3.key blob.audioLandmarks).take maxV3Landmarks } := by
  unfold encodeMediaFingerprintBlobV3
  dsimp only
  generalize hsorted : (sortByKey AudioLandmarkV3.key blob.audioLandmarks).take maxV3Landmarks
    = sorted
  have htimes : TimesFrom landmarkFormat 0 sorted := by
    rw [← hsorted]
    exact timesFrom_sorted (fun _ => rfl) blob.audioLandmarks maxV3Landmarks
  have hlength : sorted.length ≤ maxV3Landmarks := by
    rw [← hsorted, List.length_take]
    exact Nat.min_le_left _ _
  have hback : (if blob.durationMs.getD 0xFFFFFFFFFFFFFFFF != 0xFFFFFFFFFFFFFFFF then
      some (blob.durationMs.getD 0xFFFFFFFFFFFFFFFF) else none) = blob.durationMs := by
    cases hsome : blob.durationMs with
    | none => rfl
    | some duration =>
      have hne : duration ≠ 0xFFFFFFFFFFFFFFFF := by
        rintro rfl
        exact hduration hsome
      rw [Option.getD_some, if_pos (by simpa using hne)]
  generalize blob.durationMs.getD 0xFFFFFFFFFFFFFFFF = duration at hback
  generalize htail : (if sorted.isEmpty then [0]
    else [1, fingerprintBlobV3SectionAudio] ++ encodeVarint sorted.length.toUInt64
      ++ encodeEntries landmarkFormat 0 sorted) = tail
  generalize hbytes : fingerprintBlobV3Magic ++ le16 fingerprintBlobV3FormatVersion
    ++ encodeVarint duration ++ tail = bytes
  rw [List.append_assoc] at hbytes
  obtain ⟨hmagic, hversion, hrest, hsize⟩ := drop_header rfl hbytes.symm
  have hduration' := decodeVarint_encodeVarint hrest
  generalize hcursor : 6 + (encodeVarint duration).length = cursor at hduration'
  have hdropped : bytes.drop cursor = tail := by
    rw [← hcursor, ← List.drop_drop, hrest, List.drop_left]
  have hnonempty : 0 < (encodeVarint duration).length :=
    List.length_pos_iff.mpr (isVarint_encodeVarint duration).1.ne_nil
  -- The sections decode to the sorted landmarks and end with the bytes.
  have hsections : ∃ sectionCount : UInt8, bytes[cursor]? = some sectionCount
      ∧ decodeSections bytes sectionCount.toNat (cursor + 1) = .ok (sorted, bytes.length) := by
    rw [List.length_append, ← Nat.add_assoc, hcursor] at hsize
    cases hempty : sorted with
    | nil =>
      rw [hempty, List.isEmpty_nil, if_pos rfl] at htail
      refine ⟨0, ?_, ?_⟩
      · have hhead := getElem?_of_drop 0 hdropped
        rw [← htail] at hhead
        exact hhead
      · rw [hsize, ← htail]
        rfl
    | cons first others =>
      rw [← hempty]
      have hsome : sorted.isEmpty = false := by rw [hempty]; rfl
      rw [hsome, if_neg Bool.false_ne_true] at htail
      have hsplit : bytes.drop cursor = [1, fingerprintBlobV3SectionAudio]
          ++ (encodeVarint sorted.length.toUInt64 ++ encodeEntries landmarkFormat 0 sorted) := by
        rw [hdropped, ← htail]
        exact List.append_assoc _ _ _
      refine ⟨1, ?_, ?_⟩
      · have hhead := getElem?_of_drop 0 hsplit
        exact hhead
      · have hkind : bytes[cursor + 1]? = some fingerprintBlobV3SectionAudio :=
          getElem?_of_drop 1 hsplit
        have hcount : bytes.drop (cursor + 2) =
            encodeVarint sorted.length.toUInt64 ++ encodeEntries landmarkFormat 0 sorted := by
          rw [← List.drop_drop, hsplit]
          rfl
        have hvarint := decodeVarint_encodeVarint hcount
        have hentries : bytes.drop (cursor + 2 + (encodeVarint sorted.length.toUInt64).length) =
            encodeEntries landmarkFormat 0 sorted ++ [] := by
          rw [← List.drop_drop, hcount, List.drop_left, List.append_nil]
        have hread := @decodeEntries_encodeEntries _ _ landmarkFormat
          MediaFingerprintBlobV3DecodeError.invalidLength .nonMonotonicTime bytes
          landmarkFormat_lawful sorted _ _ _ htimes hentries
        have hnat := toUInt64_length hlength (by decide)
        have hend : bytes.length = cursor + 2 + (encodeVarint sorted.length.toUInt64).length
            + (encodeEntries landmarkFormat 0 sorted).length := by
          rw [hsize, ← htail]
          simp only [List.length_append, List.length_cons, List.length_nil]
          omega
        show decodeSections bytes 1 (cursor + 1) = _
        unfold decodeSections
        rw [hkind]
        dsimp only
        rw [hvarint]
        dsimp only
        rw [hnat, if_neg (by omega), if_neg (by simp), hread]
        dsimp only
        unfold decodeSections
        dsimp only
        rw [List.append_nil, hend]
  obtain ⟨sectionCount, hsectionCount, hdecoded⟩ := hsections
  have hlong : 7 ≤ bytes.length := by
    rw [hsize, List.length_append]
    omega
  unfold decodeMediaFingerprintBlobV3
  rw [if_neg (by simp [hmagic]; omega), hversion]
  dsimp only
  rw [if_neg (by simp), hduration']
  dsimp only
  rw [hsectionCount]
  dsimp only
  rw [hdecoded]
  dsimp only
  rw [if_neg (by simp), hback]

/-- A section of a blob: its count and its run of landmarks, as they were encoded. -/
structure AudioSection where
  count : List UInt8
  deltas : List (List UInt8)
  landmarks : List AudioLandmarkV3

def AudioSection.bytes (s : AudioSection) : List UInt8 :=
  [fingerprintBlobV3SectionAudio] ++ s.count ++ runBytes landmarkFormat s.deltas s.landmarks

/-- What a section was decoded from. -/
structure AudioSection.Decoded (s : AudioSection) : Prop where
  count : IsVarint s.count
  run : DecodedRun landmarkFormat 0 s.deltas s.landmarks
  bounded : s.landmarks.length ≤ maxV3Landmarks

theorem decodeSections_spec {bytes : List UInt8} {sectionCount : Nat} :
    ∀ {cursor after : Nat} {landmarks : List AudioLandmarkV3},
      decodeSections bytes sectionCount cursor = .ok (landmarks, after) →
      ∃ sections : List AudioSection, sections.length = sectionCount
        ∧ (∀ s ∈ sections, s.Decoded) ∧ landmarks = sections.flatMap (·.landmarks)
        ∧ bytes.drop cursor = sections.flatMap (·.bytes) ++ bytes.drop after := by
  induction sectionCount with
  | zero =>
    intro cursor after landmarks h
    cases h
    exact ⟨[], rfl, by simp, rfl, rfl⟩
  | succ sectionCount ih =>
    intro cursor after landmarks h
    unfold decodeSections at h
    split at h
    · cases h
    next kind hkind =>
    split at h
    · cases h
    next count afterCount hcount =>
    split at h
    · cases h
    next hbounded =>
    split at h
    · cases h
    next haudio =>
    split at h
    · cases h
    next read afterRun hread =>
    split at h
    · cases h
    next rest afterRest hrest =>
    cases h
    have hsame : kind = fingerprintBlobV3SectionAudio := by simpa using haudio
    obtain ⟨encoded, hvarint, -, hafterCount, -⟩ := decodeVarint_spec hcount
    obtain ⟨hlength, deltas, hrun, hbytes⟩ := decodeEntries_spec landmarkFormat_lawful hread
    obtain ⟨sections, hnumber, hdecoded, hlandmarks, htail⟩ := ih hrest
    refine ⟨⟨encoded, deltas, read⟩ :: sections, by rw [List.length_cons, hnumber], ?_, ?_, ?_⟩
    · intro s hs
      rcases List.mem_cons.mp hs with rfl | hs
      · have hshort : read.length ≤ maxV3Landmarks := by omega
        exact ⟨hvarint, hrun, hshort⟩
      · exact hdecoded s hs
    · rw [List.flatMap_cons, hlandmarks]
    · rw [drop_of_getElem? hkind, hafterCount, hbytes, htail, hsame, List.flatMap_cons]
      simp [AudioSection.bytes, List.append_assoc]

/-- Sections of which at most one holds landmarks are as good as one. -/
theorem single_section {sections : List AudioSection} (hdecoded : ∀ s ∈ sections, s.Decoded)
    (hsingle : sections.countP (fun s => !s.landmarks.isEmpty) ≤ 1) :
    (sections.flatMap (·.landmarks)).length ≤ maxV3Landmarks
      ∧ DecodedRun landmarkFormat 0 (sections.flatMap (·.deltas))
        (sections.flatMap (·.landmarks)) := by
  induction sections with
  | nil => exact ⟨Nat.zero_le _, rfl, by simp, by simp [TimesFrom], by simp⟩
  | cons s rest ih =>
    have hself := hdecoded s List.mem_cons_self
    have hothers := fun t ht => hdecoded t (List.mem_cons_of_mem s ht)
    rw [List.countP_cons] at hsingle
    rw [List.flatMap_cons, List.flatMap_cons]
    cases hlandmarks : s.landmarks with
    | nil =>
      have hdeltas : s.deltas = [] := by
        have hlength := hself.run.length
        rw [hlandmarks] at hlength
        exact List.length_eq_zero_iff.mp hlength
      rw [hdeltas, List.nil_append, List.nil_append]
      exact ih hothers (by omega)
    | cons first others =>
      rw [hlandmarks] at hsingle
      have hnone : rest.countP (fun s => !s.landmarks.isEmpty) = 0 := by
        simp at hsingle
        rw [List.countP_eq_zero]
        intro t ht
        simpa using hsingle t ht
      have hempty : ∀ t ∈ rest, t.landmarks = [] ∧ t.deltas = [] := by
        intro t ht
        have hlandmarks : t.landmarks = [] := by
          simpa using List.countP_eq_zero.mp hnone t ht
        have hlength := (hothers t ht).run.length
        rw [hlandmarks] at hlength
        exact ⟨hlandmarks, List.length_eq_zero_iff.mp hlength⟩
      have hlandmarks' : rest.flatMap (·.landmarks) = [] :=
        List.flatMap_eq_nil_iff.mpr fun t ht => (hempty t ht).1
      have hdeltas' : rest.flatMap (·.deltas) = [] :=
        List.flatMap_eq_nil_iff.mpr fun t ht => (hempty t ht).2
      rw [hlandmarks', hdeltas', List.append_nil, List.append_nil, ← hlandmarks]
      exact ⟨hself.bounded, hself.run⟩

/-- What the blob decoder accepts. -/
theorem decode_blob_spec {bytes : List UInt8} {blob : MediaFingerprintBlobV3}
    (h : decodeMediaFingerprintBlobV3 bytes = .ok blob) :
    blob.durationMs ≠ some 0xFFFFFFFFFFFFFFFF
      ∧ ∃ (duration : List UInt8) (sectionCount : UInt8) (sections : List AudioSection),
        IsVarint duration ∧ sections.length = sectionCount.toNat ∧ (∀ s ∈ sections, s.Decoded)
        ∧ blob.audioLandmarks = sections.flatMap (·.landmarks)
        ∧ bytes = fingerprintBlobV3Magic ++ le16 fingerprintBlobV3FormatVersion ++ duration
          ++ [sectionCount] ++ sections.flatMap (·.bytes) := by
  unfold decodeMediaFingerprintBlobV3 at h
  split at h
  · cases h
  next hheader =>
  split at h
  · cases h
  next version hversion =>
  split at h
  · cases h
  next hsupported =>
  split at h
  · cases h
  next duration afterDuration hduration =>
  split at h
  · cases h
  next sectionCount hsectionCount =>
  split at h
  · cases h
  next landmarks after hsections =>
  split at h
  · cases h
  next hend =>
  cases h
  have hmagic : bytes.take 4 = fingerprintBlobV3Magic := by
    by_contra hne
    exact hheader (by simp [hne])
  have hsame : version = fingerprintBlobV3FormatVersion := by simpa using hsupported
  have hlast : after = bytes.length := by simpa using hend
  subst hsame
  obtain ⟨encoded, hvarint, -, hafterDuration, -⟩ := decodeVarint_spec hduration
  obtain ⟨sections, hnumber, hdecoded, hlandmarks, hbytes⟩ := decodeSections_spec hsections
  refine ⟨?_, encoded, sectionCount, sections, hvarint, hnumber, hdecoded, hlandmarks, ?_⟩
  · dsimp only
    split
    · next hne =>
      intro heq
      cases heq
      simp at hne
    · exact nofun
  · calc bytes = fingerprintBlobV3Magic ++ le16 fingerprintBlobV3FormatVersion ++ bytes.drop 6 :=
          header_of_checks hmagic hversion
      _ = _ := by
          rw [hafterDuration, drop_of_getElem? hsectionCount, hbytes, hlast, List.drop_length,
            List.append_nil]
          simp only [List.append_assoc, List.singleton_append]

/-! ### The codecs -/

/-- **Fingerprint codecs round trip**, and what they accept adds up as long as no
    delta needs more than 32 bits and no second section holds landmarks. -/
theorem fingerprint_codecs_round_trip :
    (∀ anchors, decodeWireAudioAnchorSummary (encodeWireAudioAnchorSummary anchors) =
        .ok ((sortByKey AudioAnchor.key anchors).take maxWireAnchors))
      ∧ (∀ blob : MediaFingerprintBlobV3, blob.durationMs ≠ some 0xFFFFFFFFFFFFFFFF →
        decodeMediaFingerprintBlobV3 (encodeMediaFingerprintBlobV3 blob) =
          .ok { blob with
            audioLandmarks :=
              (sortByKey AudioLandmarkV3.key blob.audioLandmarks).take maxV3Landmarks })
      ∧ (∀ bytes anchors, decodeWireAudioAnchorSummary bytes = .ok anchors →
        anchors.length ≤ maxWireAnchors
          ∧ (anchors.map (·.tMs)).Pairwise (· ≤ ·)
          ∧ (∃ count deltas, IsVarint count ∧ deltas.length = anchors.length
            ∧ (∀ delta ∈ deltas, IsVarint delta)
            ∧ bytes = audioSummaryMagic ++ le16 summaryFormatVersion ++ count
              ++ runBytes anchorFormat deltas anchors
            ∧ ((∀ delta ∈ deltas, varintValue delta < 2 ^ 32) →
              ∀ k anchor, anchors[k]? = some anchor →
                anchor.tMs.toNat = ((deltas.take (k + 1)).map varintValue).sum))
          ∧ decodeWireAudioAnchorSummary (encodeWireAudioAnchorSummary anchors) =
            .ok (sortByKey AudioAnchor.key anchors))
      ∧ ∀ bytes blob, decodeMediaFingerprintBlobV3 bytes = .ok blob →
        ∃ (duration : List UInt8) (sectionCount : UInt8) (sections : List AudioSection),
          IsVarint duration ∧ sections.length = sectionCount.toNat
          ∧ bytes = fingerprintBlobV3Magic ++ le16 fingerprintBlobV3FormatVersion ++ duration
            ++ [sectionCount] ++ sections.flatMap (·.bytes)
          ∧ blob.audioLandmarks = sections.flatMap (·.landmarks)
          ∧ (sections.countP (fun s => !s.landmarks.isEmpty) ≤ 1 →
            blob.audioLandmarks.length ≤ maxV3Landmarks
              ∧ (blob.audioLandmarks.map (·.tMs)).Pairwise (· ≤ ·)
              ∧ ((∀ s ∈ sections, ∀ delta ∈ s.deltas, varintValue delta < 2 ^ 32) →
                ∀ k landmark, blob.audioLandmarks[k]? = some landmark → landmark.tMs.toNat =
                  (((sections.flatMap (·.deltas)).take (k + 1)).map varintValue).sum)
              ∧ decodeMediaFingerprintBlobV3 (encodeMediaFingerprintBlobV3 blob) =
                .ok { blob with
                  audioLandmarks := sortByKey AudioLandmarkV3.key blob.audioLandmarks }) := by
  refine ⟨decode_encode_summary, decode_encode_blob, fun bytes anchors h => ?_,
    fun bytes blob h => ?_⟩
  · obtain ⟨hlength, count, deltas, hcount, hrun, hbytes⟩ := decode_summary_spec h
    refine ⟨hlength, (List.pairwise_cons.mp hrun.ordered).2,
      ⟨count, deltas, hcount, hrun.length, hrun.varint, hbytes, fun hsmall k anchor hanchor => ?_⟩,
      ?_⟩
    · have hexact := hrun.exact hsmall k anchor hanchor
      rw [show (0 : UInt32).toNat = 0 from rfl, Nat.zero_add] at hexact
      exact hexact
    · rw [decode_encode_summary, List.take_of_length_le]
      rw [(sortByKey_perm _ anchors).length_eq]
      exact hlength
  · obtain ⟨hduration, duration, sectionCount, sections, hvarint, hnumber, hdecoded, hlandmarks,
      hbytes⟩ := decode_blob_spec h
    refine ⟨duration, sectionCount, sections, hvarint, hnumber, hbytes, hlandmarks,
      fun hsingle => ?_⟩
    obtain ⟨hlength, hrun⟩ := single_section hdecoded hsingle
    rw [← hlandmarks] at hlength hrun
    refine ⟨hlength, (List.pairwise_cons.mp hrun.ordered).2, fun hsmall k landmark hlandmark => ?_,
      ?_⟩
    · have hexact := hrun.exact (fun delta hdelta => by
        obtain ⟨s, hs, hdelta⟩ := List.mem_flatMap.mp hdelta
        exact hsmall s hs delta hdelta) k landmark hlandmark
      rw [show (0 : UInt32).toNat = 0 from rfl, Nat.zero_add] at hexact
      exact hexact
    · rw [decode_encode_blob blob hduration, List.take_of_length_le]
      rw [(sortByKey_perm _ blob.audioLandmarks).length_eq]
      exact hlength

/-- A summary of two anchors, one second apart. -/
theorem fingerprint_codecs_round_trip_two :
    decodeWireAudioAnchorSummary
        (encodeWireAudioAnchorSummary [⟨99, 2000, 7⟩, ⟨42, 1000, 3⟩]) =
      .ok [⟨42, 1000, 3⟩, ⟨99, 2000, 7⟩]
    ∧ decodeMediaFingerprintBlobV3 (encodeMediaFingerprintBlobV3 ⟨some 5, []⟩) =
      .ok ⟨some 5, []⟩ :=
  ⟨fingerprint_codecs_round_trip.1 _, fingerprint_codecs_round_trip.2.1 ⟨some 5, []⟩ nofun⟩

/-- A delta of 2^32 is read as zero; two anchors of one time come back in the
    order of their buckets; and a second section restarts the clock. -/
theorem fingerprint_decoders_accept_more :
    decodeWireAudioAnchorSummary
        [83, 65, 85, 50, 1, 0, 1, 0x80, 0x80, 0x80, 0x80, 0x10, 7, 0, 0, 0, 1, 0] =
      .ok [⟨7, 0, 1⟩]
    ∧ decodeWireAudioAnchorSummary
        [83, 65, 85, 50, 1, 0, 2, 5, 2, 0, 0, 0, 1, 0, 0, 1, 0, 0, 0, 1, 0] =
      .ok [⟨2, 5, 1⟩, ⟨1, 5, 1⟩]
    ∧ decodeWireAudioAnchorSummary (encodeWireAudioAnchorSummary [⟨2, 5, 1⟩, ⟨1, 5, 1⟩]) =
      .ok [⟨1, 5, 1⟩, ⟨2, 5, 1⟩]
    ∧ decodeMediaFingerprintBlobV3
        [83, 77, 65, 51, 1, 0, 0, 2, 1, 1, 9, 7, 0, 0, 0, 1, 1, 1, 3, 8, 0, 0, 0, 1] =
      .ok ⟨some 0, [⟨7, 9, 1⟩, ⟨8, 3, 1⟩]⟩ := by
  decide +kernel

end Sorotte.Fingerprint
