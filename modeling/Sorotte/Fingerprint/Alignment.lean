import Mathlib.Algebra.Order.Field.Rat
import Sorotte.Fingerprint.Codecs
import Sorotte.Framework.Maps

/-! # Aligning two fingerprints

  Anchors that share a bucket vote for the offset between their times.  The
  votes are counted in bins of a second, and the bin with the largest score is
  the alignment, if enough anchors stand behind it.
-/

namespace Sorotte.Fingerprint

/-- `DEFAULT_ANCHOR_OFFSET_BIN_MS`. -/
def defaultAnchorOffsetBinMs : Int := 1000

/-- Largest `u32`. -/
def u32Max : Nat := 2 ^ 32 - 1

structure MediaTimelineAlignment where
  offsetSeconds : Seconds
  scalePpm : Int
  driftRatio : Seconds
  alignedPairs : Nat
  alignedAudioAnchors : Nat
  alignedSpanSeconds : Seconds
  secondBestOffsetMargin : ℚ
  firstQuerySecond : Seconds
  lastQuerySecond : Seconds
  firstCandidateSecond : Seconds
  lastCandidateSecond : Seconds
  deriving DecidableEq

structure OffsetBin where
  score : Nat := 0
  pairCount : Nat := 0
  queryTimes : BTreeSet Nat := ∅
  candidateTimes : BTreeSet Nat := ∅

/-- `rounded_offset_bin`. -/
def roundedOffsetBin (offsetMs : Int) : Int :=
  let bin := max defaultAnchorOffsetBinMs 1
  (offsetMs + bin / 2) / bin * bin

/-- What tells two pairs apart: the bucket and both times. -/
abbrev PairKey := UInt32 × UInt32 × UInt32

def pairKey (pair : AudioAnchor × AudioAnchor) : PairKey :=
  (pair.1.bucket, pair.1.tMs, pair.2.tMs)

/-- The bin that a pair votes for. -/
def pairBin (pair : AudioAnchor × AudioAnchor) : Int :=
  roundedOffsetBin ((pair.2.tMs.toNat : Int) - pair.1.tMs.toNat)

def pairWeight (pair : AudioAnchor × AudioAnchor) : Nat :=
  max (min pair.1.weight pair.2.weight).toNat 1

/-- A bin with one more vote. -/
def OffsetBin.vote (entry : OffsetBin) (pair : AudioAnchor × AudioAnchor) : OffsetBin :=
  { score := min (entry.score + pairWeight pair) u32Max
    pairCount := entry.pairCount + 1
    queryTimes := entry.queryTimes.insert pair.1.tMs.toNat
    candidateTimes := entry.candidateTimes.insert pair.2.tMs.toNat }

/-- `candidate_by_bucket`. -/
def candidateByBucket (candidate : List AudioAnchor) : BTreeMap Nat (List AudioAnchor) :=
  candidate.foldl (fun buckets anchor =>
    buckets.insert anchor.bucket.toNat (buckets.getD anchor.bucket.toNat [] ++ [anchor])) ∅

/-- `seen` and `offset_bins`. -/
abbrev Votes := List PairKey × BTreeMap Int OffsetBin

/-- The body of the inner loop. -/
def countPair (votes : Votes) (pair : AudioAnchor × AudioAnchor) : Votes :=
  if pairKey pair ∈ votes.1 then votes
  else
    (pairKey pair :: votes.1,
      votes.2.insert (pairBin pair) ((votes.2.getD (pairBin pair) {}).vote pair))

/-- `offset_bins`, after both loops. -/
def offsetBins (query candidate : List AudioAnchor) : BTreeMap Int OffsetBin :=
  let candidateByBucket := candidateByBucket candidate
  (query.foldl (fun (votes : Votes) queryAnchor =>
    match candidateByBucket[queryAnchor.bucket.toNat]? with
    | none => votes
    | some candidateAnchors =>
      candidateAnchors.foldl (fun votes candidateAnchor =>
        countPair votes (queryAnchor, candidateAnchor)) votes) ([], ∅)).2

/-- The order of the bins: score and number of pairs descending, then the bin. -/
def BinLe (left right : Int × OffsetBin) : Prop :=
  right.2.score < left.2.score
    ∨ right.2.score = left.2.score
      ∧ (right.2.pairCount < left.2.pairCount
        ∨ right.2.pairCount = left.2.pairCount ∧ left.1 ≤ right.1)

instance : DecidableRel BinLe := fun _ _ => inferInstanceAs (Decidable (_ ∨ _))

/-- `align_audio_anchors`. -/
def alignAudioAnchors (query candidate : List AudioAnchor) : Option MediaTimelineAlignment :=
  if query.isEmpty || candidate.isEmpty then none
  else
    match (offsetBins query candidate).toList.insertionSort BinLe with
    | [] => none
    | (bestBin, best) :: rest =>
      let secondScore := match rest with
        | [] => 0
        | (_, second) :: _ => second.score
      if best.pairCount < 8 || best.score < 12 then none
      else
        let queryStart := best.queryTimes.min?.getD 0
        let queryEnd := best.queryTimes.max?.getD queryStart
        let candidateStart := best.candidateTimes.min?.getD 0
        let candidateEnd := best.candidateTimes.max?.getD candidateStart
        let spanMs := max (queryEnd - queryStart) (candidateEnd - candidateStart)
        let margin : ℚ :=
          if secondScore = 0 then best.score else (best.score : ℚ) / max secondScore 1
        some
          { offsetSeconds := bestBin / 1000
            scalePpm := 0
            driftRatio := 0
            alignedPairs := best.pairCount
            alignedAudioAnchors := best.pairCount
            alignedSpanSeconds := spanMs / 1000
            secondBestOffsetMargin := margin
            firstQuerySecond := queryStart / 1000
            lastQuerySecond := queryEnd / 1000
            firstCandidateSecond := candidateStart / 1000
            lastCandidateSecond := candidateEnd / 1000 }

end Sorotte.Fingerprint
