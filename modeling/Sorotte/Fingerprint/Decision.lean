import Mathlib.Algebra.Order.Floor.Ring
import Mathlib.Data.Rat.Floor
import Sorotte.Fingerprint.Alignment

/-! # Media match decisions

  An alignment of the audio is classified by how far it reaches and how clear it
  is, and the durations of the two files may take the class down.  A decision
  carries the evidence it rests on.
-/

namespace Sorotte.Fingerprint

/-! ### Data -/

inductive MediaMatchTier where
  | exact | strong | probable | weak | reject | unknown
  deriving DecidableEq, Repr

inductive MatchClassV3 where
  | sameCutStrong | sameCutProbable | sameMediaDifferentCut | partialOverlap
  | sharedIntroOutroOnly | reject | unknown
  deriving DecidableEq, Repr

inductive MediaDurationCompatibility where
  | unknown | sameCutCompatible | nearCompatible | containedOrPartial | incompatibleSameCut
  deriving DecidableEq, Repr

/-- The notes of a decision, with what their texts are formatted from. -/
inductive MatchNote where
  /-- "no coherent sampled-fast audio offset" -/
  | noCoherentOffset
  /-- "duration compatible delta=…s" -/
  | durationCompatible (delta : Seconds)
  /-- "duration near-compatible delta=…s" -/
  | durationNearCompatible (delta : Seconds)
  /-- "duration suggests contained/partial overlap delta=…s ratio=…" -/
  | durationContained (delta : Seconds) (ratio : Option ℚ)
  /-- "extension match", or "extension mismatch" -/
  | extension (match_ : Bool)
  /-- "filename stem similarity=…" -/
  | filenameStemSimilarity (similarity : ℚ)
  /-- "duration near mismatch delta=…s downgraded same-cut audio to different-cut" -/
  | nearMismatch (delta : Seconds)
  /-- "duration contained/partial delta=…s downgraded same-cut audio to partial-overlap" -/
  | containedDowngrade (delta : Seconds)
  /-- "duration mismatch delta=…s downgraded same-cut audio to partial-overlap" -/
  | mismatchDowngrade (delta : Seconds)
  /-- "duration mismatch delta=…s rejected weak sampled-fast audio" -/
  | mismatchReject (delta : Seconds)
  /-- "sampled-fast audio aligned pairs=… span=…s offset=…s margin=…" -/
  | aligned (pairs : Nat) (span offset : Seconds) (margin : ℚ)
  | reason (text : String)
  deriving DecidableEq

structure MetadataMatchEvidence where
  sameNormalizedPath : Bool := false
  sameSize : Option Bool := none
  durationDeltaSeconds : Option Seconds := none
  durationWithinTolerance : Option Bool := none
  extensionMatch : Option Bool := none
  durationCompatibility : Option MediaDurationCompatibility := none
  durationRatio : Option ℚ := none
  filenameStemSimilarity : Option ℚ := none
  deriving DecidableEq

structure AudioMatchEvidence where
  similarity : ℚ
  sharedAnchorRatio : ℚ
  durationDeltaSeconds : Option Seconds
  deriving DecidableEq

structure AlignedSegmentV3 where
  queryStartMs : Nat
  queryEndMs : Nat
  candidateStartMs : Nat
  candidateEndMs : Nat
  scalePpm : Int
  audioPairs : Nat
  weightedScore : Nat
  residualMs : ℚ
  audioScore : ℚ
  confidence : ℚ
  deriving DecidableEq

structure MediaTimelineMapV3 where
  globalClass : MatchClassV3
  currentPositionClass : MatchClassV3
  segments : List AlignedSegmentV3
  totalAlignedSpanMs : Nat
  largestGapMs : Nat
  edgeOnly : Bool
  bestSegmentScore : Nat
  secondBestSegmentScore : Nat
  deriving DecidableEq

structure MediaMatchEvidence where
  metadata : MetadataMatchEvidence := {}
  audio : Option AudioMatchEvidence := none
  alignment : Option MediaTimelineAlignment := none
  v3Class : Option MatchClassV3 := none
  timelineMapV3 : Option MediaTimelineMapV3 := none
  notes : List MatchNote := []
  deriving DecidableEq

structure MediaMatchDecision where
  tier : MediaMatchTier
  evidence : MediaMatchEvidence
  explanation : String
  deriving DecidableEq

/-- `MediaMatchDecision::unknown`. -/
def MediaMatchDecision.ofUnknown (reason : String) : MediaMatchDecision :=
  { tier := .unknown, evidence := { notes := [.reason reason] }, explanation := reason }

structure MediaAnchorProfile where
  version : Nat
  profile : String
  durationMs : Option Nat
  audioAnchors : List AudioAnchor
  deriving DecidableEq

/-- The setting that decisions read. -/
structure MediaMatchSettings where
  runtimeToleranceSeconds : Seconds := 3

/-! ### Durations -/

def orderedPositiveDurations (left right : Option Nat) : Option (Nat × Nat) :=
  match left, right with
  | some left, some right =>
    if left = 0 || right = 0 then none
    else some (if left ≤ right then (left, right) else (right, left))
  | _, _ => none

/-- `media_duration_compatibility_ms`. -/
def mediaDurationCompatibilityMs (left right : Option Nat) : MediaDurationCompatibility :=
  match orderedPositiveDurations left right with
  | none => .unknown
  | some (shorter, longer) =>
    let delta := longer - shorter
    let sameCutThreshold := max 3000 ⌈(shorter : ℚ) * (5 / 1000)⌉.toNat
    let nearThreshold := max 10000 ⌈(shorter : ℚ) * (1 / 100)⌉.toNat
    let ratio : ℚ := shorter / longer
    let largeFullLengthMismatch :=
      10 * 60 * 1000 ≤ shorter && 20 * 60 * 1000 ≤ longer && 5 * 60 * 1000 ≤ delta
    if delta ≤ sameCutThreshold then .sameCutCompatible
    else if delta ≤ nearThreshold then .nearCompatible
    else if largeFullLengthMismatch && 45 / 100 ≤ ratio then .incompatibleSameCut
    else if 8 / 100 ≤ ratio || 60000 ≤ shorter then .containedOrPartial
    else .incompatibleSameCut

/-- `media_duration_ratio_ms`. -/
def mediaDurationRatioMs (left right : Option Nat) : Option ℚ :=
  (orderedPositiveDurations left right).map fun durations => (durations.1 : ℚ) / durations.2

/-- The seconds between two durations in milliseconds. -/
def durationDelta (left right : Option Nat) : Option Seconds :=
  match left, right with
  | some left, some right => some ((max left right - min left right : Nat) / 1000)
  | _, _ => none

/-- `metadata_evidence_for_duration_ms`. -/
def metadataEvidenceForDurationMs (queryDurationMs candidateDurationMs : Option Nat)
    (settings : MediaMatchSettings) : MetadataMatchEvidence :=
  let durationDeltaSeconds := durationDelta queryDurationMs candidateDurationMs
  { sameNormalizedPath := false
    sameSize := none
    durationDeltaSeconds
    durationWithinTolerance :=
      durationDeltaSeconds.map fun delta => decide (delta ≤ settings.runtimeToleranceSeconds)
    extensionMatch := none
    durationCompatibility := some (mediaDurationCompatibilityMs queryDurationMs candidateDurationMs)
    durationRatio := mediaDurationRatioMs queryDurationMs candidateDurationMs
    filenameStemSimilarity := none }

/-- What `push_metadata_notes` pushes. -/
def metadataNotes (metadata : MetadataMatchEvidence) : List MatchNote :=
  let durationNotes := match metadata.durationCompatibility, metadata.durationDeltaSeconds with
    | some .sameCutCompatible, some delta => [.durationCompatible delta]
    | some .nearCompatible, some delta => [.durationNearCompatible delta]
    | some .containedOrPartial, some delta => [.durationContained delta metadata.durationRatio]
    | _, _ => []
  durationNotes ++ (metadata.extensionMatch.map MatchNote.extension).toList
    ++ (metadata.filenameStemSimilarity.map MatchNote.filenameStemSimilarity).toList

/-! ### Classes -/

/-- `classify_sampled_audio_alignment`. -/
def classifySampledAudioAlignment (alignment : MediaTimelineAlignment) : MatchClassV3 :=
  let enoughSpan := 20 ≤ alignment.alignedSpanSeconds
  let enoughPairs := 16 ≤ alignment.alignedPairs
  let marginOk := 115 / 100 ≤ alignment.secondBestOffsetMargin
  if enoughSpan && enoughPairs && marginOk then .sameCutProbable
  else if enoughPairs && 5 ≤ alignment.alignedSpanSeconds then .partialOverlap
  else .sharedIntroOutroOnly

/-- `sampled_audio_strong_enough_for_near_duration`. -/
def sampledAudioStrongEnoughForNearDuration (alignment : MediaTimelineAlignment) : Bool :=
  20 ≤ alignment.alignedSpanSeconds && 24 ≤ alignment.alignedPairs
    && 115 / 100 ≤ alignment.secondBestOffsetMargin

/-- `apply_duration_compatibility`, with the notes that it pushes. -/
def applyDurationCompatibility (class_ : MatchClassV3) (alignment : MediaTimelineAlignment)
    (metadata : MetadataMatchEvidence) : MatchClassV3 × List MatchNote :=
  let noted (note : Seconds → MatchNote) := (metadata.durationDeltaSeconds.map note).toList
  match metadata.durationCompatibility.getD .unknown with
  | .unknown | .sameCutCompatible => (class_, [])
  | .nearCompatible =>
    if class_ = .sameCutProbable && sampledAudioStrongEnoughForNearDuration alignment then
      (class_, [])
    else if class_ = .sameCutProbable then (.sameMediaDifferentCut, noted .nearMismatch)
    else (class_, [])
  | .containedOrPartial =>
    match class_ with
    | .sameCutStrong | .sameCutProbable | .sameMediaDifferentCut | .partialOverlap =>
      (.partialOverlap, noted .containedDowngrade)
    | .sharedIntroOutroOnly | .reject | .unknown => (class_, [])
  | .incompatibleSameCut =>
    match class_ with
    | .sameCutStrong | .sameCutProbable => (.partialOverlap, noted .mismatchDowngrade)
    | .sameMediaDifferentCut | .partialOverlap | .sharedIntroOutroOnly =>
      (.reject, noted .mismatchReject)
    | .reject | .unknown => (class_, [])

/-- `(seconds * 1000.0).round().clamp(0.0, u32::MAX) as u32`, of seconds that are not
    negative. -/
def roundedMillis (seconds : Seconds) : Nat := min ⌊seconds * 1000 + 1 / 2⌋.toNat u32Max

/-- `timeline_map_from_alignment`. -/
def timelineMapFromAlignment (alignment : MediaTimelineAlignment) (class_ : MatchClassV3) :
    MediaTimelineMapV3 :=
  let queryStartMs := roundedMillis alignment.firstQuerySecond
  let candidateStartMs := roundedMillis alignment.firstCandidateSecond
  let spanMs := roundedMillis alignment.alignedSpanSeconds
  let scalePpm := 1000000 + alignment.scalePpm
  let affineScalePpm := if scalePpm ≤ 2 ^ 31 - 1 && 0 < scalePpm then scalePpm else 0
  { globalClass := class_
    currentPositionClass := class_
    segments :=
      [{ queryStartMs
         queryEndMs := min (queryStartMs + spanMs) u32Max
         candidateStartMs
         candidateEndMs := min (candidateStartMs + spanMs) u32Max
         scalePpm := affineScalePpm
         audioPairs := alignment.alignedAudioAnchors
         weightedScore := alignment.alignedAudioAnchors % 2 ^ 32
         residualMs := 0
         audioScore := 1
         confidence := 75 / 100 }]
    totalAlignedSpanMs := spanMs
    largestGapMs := 0
    edgeOnly := false
    bestSegmentScore := alignment.alignedAudioAnchors % 2 ^ 32
    secondBestSegmentScore := 0 }

/-- `unique_audio_anchor_count`. -/
def uniqueAudioAnchorCount (anchors : List AudioAnchor) : Nat :=
  (anchors.map fun anchor => (anchor.bucket, anchor.tMs)).dedup.length

def tierOfClass : MatchClassV3 → MediaMatchTier
  | .sameCutStrong | .sameCutProbable => .probable
  | .sameMediaDifferentCut | .partialOverlap | .sharedIntroOutroOnly => .weak
  | .reject | .unknown => .reject

def explanationOfTier : MediaMatchTier → String
  | .probable =>
    "sampled-fast audio suggests same media; full autoplay verification is not available"
  | .weak => "sampled-fast audio found only partial/shared evidence"
  | _ => "sampled-fast audio rejected candidate"

/-! ### Decisions -/

/-- `decide_media_match_anchors_with_evidence`. -/
def decideMediaMatchAnchorsWithEvidence (query candidate : MediaAnchorProfile)
    (evidence : MediaMatchEvidence) : MediaMatchDecision :=
  match alignAudioAnchors query.audioAnchors candidate.audioAnchors with
  | none =>
    { tier := .reject
      evidence :=
        { evidence with
          v3Class := some .reject
          notes := evidence.notes ++ [.noCoherentOffset] }
      explanation := "sampled-fast audio did not align" }
  | some alignment =>
    let queryCount := max (uniqueAudioAnchorCount query.audioAnchors) 1
    let candidateCount := max (uniqueAudioAnchorCount candidate.audioAnchors) 1
    let sharedAnchorRatio : ℚ :=
      alignment.alignedAudioAnchors / (max (min queryCount candidateCount) 1 : Nat)
    let (class_, durationNotes) := applyDurationCompatibility
      (classifySampledAudioAlignment alignment) alignment evidence.metadata
    let tier := tierOfClass class_
    { tier
      evidence :=
        { metadata := evidence.metadata
          audio := some
            { similarity := sharedAnchorRatio
              sharedAnchorRatio
              durationDeltaSeconds := durationDelta query.durationMs candidate.durationMs }
          alignment := some alignment
          v3Class := some class_
          timelineMapV3 := some (timelineMapFromAlignment alignment class_)
          notes := evidence.notes ++ metadataNotes evidence.metadata ++ durationNotes
            ++ [.aligned alignment.alignedPairs alignment.alignedSpanSeconds
              alignment.offsetSeconds alignment.secondBestOffsetMargin] }
      explanation := explanationOfTier tier }

/-- `decide_media_match_anchors`. -/
def decideMediaMatchAnchors (query candidate : MediaAnchorProfile)
    (settings : MediaMatchSettings) : MediaMatchDecision :=
  decideMediaMatchAnchorsWithEvidence query candidate
    { metadata :=
        metadataEvidenceForDurationMs query.durationMs candidate.durationMs settings }

/-- `media_match_tier_rank`. -/
def mediaMatchTierRank : MediaMatchTier → Nat
  | .exact => 5
  | .strong => 4
  | .probable => 3
  | .weak => 2
  | .unknown => 1
  | .reject => 0

end Sorotte.Fingerprint
