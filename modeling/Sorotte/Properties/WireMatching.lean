import Sorotte.Fingerprint.OffsetBins
import Sorotte.Fingerprint.Wire
import Sorotte.Framework.Base64Text
import Sorotte.Properties.Fingerprints

/-! # Matching a peer's wire signature

  A wire profile decodes to the record's own profile with its anchors sorted,
  and nothing a decision reads depends on the order of the anchors.
-/

namespace Sorotte.Fingerprint

open Sorotte.Framework

variable {base64 : Base64} {V : Type} {json : SignatureJson V}
variable {query candidate query' candidate' : List AudioAnchor}

/-! ### What a wire profile decodes to -/

/-- A profile with the anchors in the order of the wire. -/
def MediaAnchorProfile.sorted (profile : MediaAnchorProfile) : MediaAnchorProfile :=
  { profile with audioAnchors := sortByKey AudioAnchor.key profile.audioAnchors }

theorem anchors_nonempty {record : MediaFingerprintRecord} (h : record.audioAnchors ≠ []) :
    (mediaAnchorProfileFromRecord record).audioAnchors.isEmpty = false :=
  List.isEmpty_eq_false_iff.mpr h

theorem signature_of_record (base64 : Base64) {record : MediaFingerprintRecord}
    (hnonempty : record.audioAnchors ≠ []) :
    ∃ profile, mediaMatchWireAnchorProfileFromAnchorProfile base64
        (mediaAnchorProfileFromRecord record) = some profile
      ∧ (mediaMatchWireSignatureFromRecords base64 [record]).profiles = [profile] := by
  have hsome : ∃ profile, mediaMatchWireAnchorProfileFromAnchorProfile base64
      (mediaAnchorProfileFromRecord record) = some profile := by
    unfold mediaMatchWireAnchorProfileFromAnchorProfile
    rw [anchors_nonempty hnonempty]
    exact ⟨_, rfl⟩
  obtain ⟨profile, hprofile⟩ := hsome
  refine ⟨profile, hprofile, ?_⟩
  unfold mediaMatchWireSignatureFromRecords
  rw [List.filterMap_cons, hprofile, List.filterMap_nil]

/-- A profile as it is read back. -/
theorem wire_profile_read (hbase64 : base64.RoundTrips) {record : MediaFingerprintRecord}
    (hnonempty : record.audioAnchors ≠ []) (hsmall : record.audioAnchors.length ≤ maxWireAnchors)
    {profile : MediaMatchWireProfile}
    (h : mediaMatchWireAnchorProfileFromAnchorProfile base64
      (mediaAnchorProfileFromRecord record) = some profile) :
    mediaAnchorProfileFromWireProfile base64 profile =
      .ok (mediaAnchorProfileFromRecord record).sorted := by
  have hanchors := anchors_nonempty hnonempty
  have htake : (sortByKey AudioAnchor.key record.audioAnchors).take maxWireAnchors =
      sortByKey AudioAnchor.key record.audioAnchors := by
    apply List.take_of_length_le
    rw [(sortByKey_perm _ _).length_eq]
    exact hsmall
  have hdecode : decodeWireAudioAnchorSummary (encodeWireAudioAnchorSummary record.audioAnchors) =
      .ok (sortByKey AudioAnchor.key record.audioAnchors) := by
    rw [decode_encode_summary, htake]
  unfold mediaMatchWireAnchorProfileFromAnchorProfile at h
  simp only [hanchors, Bool.false_eq_true, if_false, Option.map_some, Option.some.injEq] at h
  subst h
  have hsummary : wireAudioSummary base64
      { profile := (mediaAnchorProfileFromRecord record).profile
        algorithmVersion := (mediaAnchorProfileFromRecord record).version
        durationMs := (mediaAnchorProfileFromRecord record).durationMs
        audio := some
          { algorithm := mediaMatchV3AudioAlgorithm
            timeBaseMs := 1
            anchors := base64.encode (encodeWireAudioAnchorSummary
              (mediaAnchorProfileFromRecord record).audioAnchors) } } =
      .ok (some (encodeWireAudioAnchorSummary record.audioAnchors)) := by
    unfold wireAudioSummary validateWireAnchorBlock
    simp only [ne_eq, not_true_eq_false, if_false, hbase64 _]
    rfl
  unfold mediaAnchorProfileFromWireProfile
  rw [hsummary]
  simp only [mediaAnchorProfileFromWireSummaries, hdecode]
  rfl

/-! ### What a decision reads of the anchors -/

theorem uniqueAudioAnchorCount_perm {anchors anchors' : List AudioAnchor}
    (h : anchors'.Perm anchors) :
    uniqueAudioAnchorCount anchors' = uniqueAudioAnchorCount anchors := by
  unfold uniqueAudioAnchorCount
  exact ((h.map _).dedup).length_eq

theorem decide_sorted {query candidate : MediaAnchorProfile}
    (hquery : Distinct query.audioAnchors) (hcandidate : Distinct candidate.audioAnchors)
    (settings : MediaMatchSettings) :
    decideMediaMatchAnchors query candidate.sorted settings =
      decideMediaMatchAnchors query candidate settings := by
  have hperm : candidate.sorted.audioAnchors.Perm candidate.audioAnchors := sortByKey_perm _ _
  have halign := alignAudioAnchors_perm hquery hcandidate (List.Perm.refl _) hperm
  have hcount := uniqueAudioAnchorCount_perm hperm
  have hduration : candidate.sorted.durationMs = candidate.durationMs := rfl
  unfold decideMediaMatchAnchors decideMediaMatchAnchorsWithEvidence
  rw [halign, hcount, hduration]

/-- A signature of one profile is decided on that profile. -/
theorem decide_against_one {signature : MediaMatchWireSignature} {profile : MediaMatchWireProfile}
    {candidate : MediaAnchorProfile} (query : MediaFingerprintRecord)
    (hprofiles : signature.profiles = [profile])
    (hread : mediaAnchorProfileFromWireProfile base64 profile = .ok candidate)
    (settings : MediaMatchSettings) :
    decideMediaMatchAgainstWireSignature base64 query signature settings =
      decideMediaMatchAnchors (mediaAnchorProfileFromRecord query) candidate settings := by
  unfold decideMediaMatchAgainstWireSignature
  rw [hprofiles]
  simp only [List.filterMap_cons, List.filterMap_nil, hread]
  rfl

/-! ### The wire value -/

theorem mapM_ok {α β ε : Type} {f : α → Except ε β} {items : List α}
    (h : ∀ item ∈ items, ∃ result, f item = .ok result) :
    ∃ results, items.mapM f = .ok results := by
  induction items with
  | nil => exact ⟨[], rfl⟩
  | cons item items ih =>
    obtain ⟨result, hresult⟩ := h item List.mem_cons_self
    obtain ⟨results, hresults⟩ := ih fun other hother => h other (List.mem_cons_of_mem _ hother)
    rw [List.mapM_cons, hresult, hresults]
    exact ⟨result :: results, rfl⟩

/-- A wire value that was built from records is read as their signature. -/
theorem signature_read (hjson : json.RoundTrips) {records : List MediaFingerprintRecord}
    {value : V} (h : mediaMatchWireValueFromRecords base64 json records = some value)
    (hread : ∀ profile ∈ (mediaMatchWireSignatureFromRecords base64 records).profiles,
      ∃ candidate, mediaAnchorProfileFromWireProfile base64 profile = .ok candidate) :
    mediaMatchWireSignatureFromValue base64 json value =
      .ok (mediaMatchWireSignatureFromRecords base64 records) := by
  obtain ⟨results, hresults⟩ := mapM_ok hread
  have hschema : (mediaMatchWireSignatureFromRecords base64 records).schema =
      mediaMatchWireSchemaV3 := rfl
  unfold mediaMatchWireValueFromRecords at h
  generalize mediaMatchWireSignatureFromRecords base64 records = signature at *
  by_cases hempty : signature.profiles.isEmpty
  · rw [if_pos hempty] at h
    cases h
  simp only [hempty, Bool.false_eq_true, if_false] at h
  cases hvalue : json.toValue signature with
  | error error =>
    rw [hvalue] at h
    cases h
  | ok built =>
    cases hbytes : json.toVec built with
    | error error =>
      rw [hvalue] at h
      simp [hbytes, Except.toOption] at h
    | ok bytes =>
      rw [hvalue] at h
      simp only [Except.toOption, Option.bind_eq_bind, Option.bind_some, hbytes] at h
      by_cases hlimit : bytes.length ≤ mediaMatchWireMaxBytes
      · rw [if_pos hlimit] at h
        cases h
        obtain ⟨hfrom, hof⟩ := hjson signature value hvalue
        unfold mediaMatchWireSignatureFromValue
        rw [hbytes]
        simp only [Nat.not_lt.mpr hlimit, if_false, hof, hschema, ne_eq, not_true_eq_false, hfrom,
          hempty, Bool.false_eq_true, hresults]
      · rw [if_neg hlimit] at h
        cases h

/-! ### Agreement -/

/-- **Matching a wire signature** of one record decides as matching the record does; an
    alignment does not depend on the order of the anchors, and its pairs are those of the bin
    with the largest score. -/
theorem wire_matching_agrees (hbase64 : base64.RoundTrips) (hjson : json.RoundTrips) :
    (∀ (q r : MediaFingerprintRecord) (settings : MediaMatchSettings) (value : V),
      Distinct q.audioAnchors → Distinct r.audioAnchors → r.audioAnchors ≠ [] →
      r.audioAnchors.length ≤ maxWireAnchors →
      mediaMatchWireValueFromRecords base64 json [r] = some value →
        mediaMatchWireSignatureFromValue base64 json value =
          .ok (mediaMatchWireSignatureFromRecords base64 [r])
        ∧ decideMediaMatchAgainstWireSignature base64 q
            (mediaMatchWireSignatureFromRecords base64 [r]) settings =
          decideMediaMatchAnchors (mediaAnchorProfileFromRecord q)
            (mediaAnchorProfileFromRecord r) settings)
    ∧ (∀ query candidate query' candidate' : List AudioAnchor,
      Distinct query → Distinct candidate → query'.Perm query → candidate'.Perm candidate →
        alignAudioAnchors query' candidate' = alignAudioAnchors query candidate)
    ∧ ∀ (query candidate : List AudioAnchor) (alignment : MediaTimelineAlignment),
      Distinct query → Distinct candidate →
      alignAudioAnchors query candidate = some alignment →
        ∃ bin : Int, alignment.offsetSeconds = (bin : ℚ) / 1000
          ∧ (∀ other, binScore query candidate other ≤ binScore query candidate bin)
          ∧ alignment.alignedPairs = (binKeys query candidate bin).card := by
  refine ⟨?_, ?_, ?_⟩
  · intro q r settings value hq hr hnonempty hsmall hvalue
    obtain ⟨profile, hprofile, hprofiles⟩ := signature_of_record base64 hnonempty
    have hread := wire_profile_read hbase64 hnonempty hsmall hprofile
    constructor
    · apply signature_read hjson hvalue
      intro other hother
      rw [hprofiles, List.mem_singleton] at hother
      exact ⟨_, hother ▸ hread⟩
    · rw [decide_against_one q hprofiles hread settings]
      exact decide_sorted hq hr settings
  · intro query candidate query' candidate' hquery hcandidate hquery' hcandidate'
    exact alignAudioAnchors_perm hquery hcandidate hquery' hcandidate'
  · intro query candidate alignment hquery hcandidate h
    exact alignedPairs_eq hquery hcandidate h

/-! ### Two files -/

def standardBase64 : Base64 where
  encode bytes := String.ofList (base64Encode bytes)
  decode text := match base64Decode text.toList with
    | some bytes => .ok bytes
    | none => .error "invalid base64"

theorem standardBase64_roundTrips : standardBase64.RoundTrips := by
  intro bytes
  simp only [standardBase64, String.toList_ofList, base64Decode_encode]

def MediaMatchWireAnchorBlock.text (block : MediaMatchWireAnchorBlock) : String :=
  "\x7b\"algorithm\":\"" ++ block.algorithm ++ "\",\"anchors\":\"" ++ block.anchors
    ++ "\",\"timeBaseMs\":" ++ block.timeBaseMs.repr ++ "\x7d"

def MediaMatchWireProfile.text (profile : MediaMatchWireProfile) : String :=
  "\x7b\"algorithmVersion\":" ++ profile.algorithmVersion.repr
    ++ ",\"audio\":" ++ (profile.audio.elim "null" MediaMatchWireAnchorBlock.text)
    ++ ",\"durationMs\":" ++ (profile.durationMs.elim "null" Nat.repr)
    ++ ",\"profile\":\"" ++ profile.profile ++ "\"\x7d"

/-- The text of a signature whose strings need no escapes. -/
def MediaMatchWireSignature.text (signature : MediaMatchWireSignature) : String :=
  "\x7b\"profiles\":[" ++ ",".intercalate (signature.profiles.map MediaMatchWireProfile.text)
    ++ "],\"schema\":\"" ++ signature.schema ++ "\"\x7d"

/-- Signatures as they are, with their texts. -/
def signatureJson : SignatureJson MediaMatchWireSignature where
  toValue := .ok
  fromValue := .ok
  toVec signature := .ok (signature.text.toList.map fun c => UInt8.ofNat c.toNat)
  schemaOf signature := some signature.schema

theorem signatureJson_roundTrips : signatureJson.RoundTrips := by
  intro signature value h
  cases h
  exact ⟨rfl, rfl⟩

/-- Twelve anchors, three seconds apart. -/
def spacedRecord (start : Nat) : MediaFingerprintRecord :=
  { durationSeconds := none
    audioAnchors := (List.range 12).map fun k =>
      { tMs := UInt32.ofNat (start + 3000 * (11 - k)), bucket := UInt32.ofNat (k + 7)
        weight := 2 } }

/-- A file against one that starts five seconds later. -/
theorem wire_matching_agrees_shifted :
    (∃ value, mediaMatchWireValueFromRecords standardBase64 signatureJson [spacedRecord 5000] =
        some value
      ∧ mediaMatchWireSignatureFromValue standardBase64 signatureJson value =
        .ok (mediaMatchWireSignatureFromRecords standardBase64 [spacedRecord 5000])
      ∧ decideMediaMatchAgainstWireSignature standardBase64 (spacedRecord 0)
          (mediaMatchWireSignatureFromRecords standardBase64 [spacedRecord 5000]) {} =
        decideMediaMatchAnchors (mediaAnchorProfileFromRecord (spacedRecord 0))
          (mediaAnchorProfileFromRecord (spacedRecord 5000)) {})
    ∧ alignAudioAnchors (spacedRecord 0).audioAnchors.reverse (spacedRecord 5000).audioAnchors =
      alignAudioAnchors (spacedRecord 0).audioAnchors (spacedRecord 5000).audioAnchors
    ∧ ∃ alignment, alignAudioAnchors (spacedRecord 0).audioAnchors
        (spacedRecord 5000).audioAnchors = some alignment
      ∧ ∃ bin : Int, alignment.offsetSeconds = (bin : ℚ) / 1000
        ∧ alignment.alignedPairs = (binKeys (spacedRecord 0).audioAnchors
          (spacedRecord 5000).audioAnchors bin).card := by
  obtain ⟨hdecide, horder, hpairs⟩ :=
    wire_matching_agrees standardBase64_roundTrips signatureJson_roundTrips
  have hq : Distinct (spacedRecord 0).audioAnchors := by decide +kernel
  have hr : Distinct (spacedRecord 5000).audioAnchors := by decide +kernel
  have hvalue : (mediaMatchWireValueFromRecords standardBase64 signatureJson
      [spacedRecord 5000]).isSome := by decide +kernel
  have halign : (alignAudioAnchors (spacedRecord 0).audioAnchors
      (spacedRecord 5000).audioAnchors).isSome := by decide +kernel
  obtain ⟨value, hvalue⟩ := Option.isSome_iff_exists.mp hvalue
  obtain ⟨alignment, halign⟩ := Option.isSome_iff_exists.mp halign
  refine ⟨⟨value, hvalue, hdecide _ _ {} value hq hr (by decide) (by decide) hvalue⟩,
    horder _ _ _ _ hq hr (List.reverse_perm _) (List.Perm.refl _), alignment, halign, ?_⟩
  obtain ⟨bin, hoffset, -, hcard⟩ := hpairs _ _ alignment hq hr halign
  exact ⟨bin, hoffset, hcard⟩

end Sorotte.Fingerprint
