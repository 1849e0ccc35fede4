import Sorotte.Fingerprint.TopRanked
import Sorotte.Framework.RoundRobin
import Sorotte.Framework.Tally

/-! # Bounded landmark selection

  What of a file's landmarks goes into the index: as many as a limit allows,
  dealt from its minutes in turns.  Of a long file the body and the two edges
  are selected apart, and what they leave open is filled up.
-/

namespace Sorotte.Fingerprint

open Sorotte.Framework Sorotte.Framework.RoundRobin

/-! ### The minutes -/

/-- `by_region`.  The hash map is turned into a list sorted by its keys at once. -/
def byRegion (landmarks : List AudioLandmarkV3) : BTreeMap Nat (List AudioLandmarkV3) :=
  landmarks.foldl (fun regions landmark =>
    regions.insert landmark.region (regions.getD landmark.region [] ++ [landmark])) ∅

/-- `sort_by_key` on `(Reverse(weight), t_ms, hash)`. -/
def rankLandmarks (landmarks : List AudioLandmarkV3) : List AudioLandmarkV3 :=
  sortByKey (fun landmark => landmark.entry.rank) landmarks

/-- `regions` with `positions`, every minute sorted. -/
def regionQueues (landmarks : List AudioLandmarkV3) : List (Queue Nat AudioLandmarkV3) :=
  (byRegion landmarks).toList.map fun region =>
    { key := region.1, items := rankLandmarks region.2 }

/-- `select_time_distributed_audio_landmarks_v3`. -/
def selectTimeDistributedAudioLandmarksV3 (landmarks : List AudioLandmarkV3)
    (maxLandmarks : Nat) : List AudioLandmarkV3 :=
  if maxLandmarks = 0 || landmarks.isEmpty then []
  else if landmarks.length ≤ maxLandmarks then sortLandmarks landmarks
  else sortLandmarks (deal maxLandmarks (regionQueues landmarks) []).2

/-! ### Long files -/

/-- `Ord::clamp`, which panics when its bounds are not in order. -/
def clampUsize (value low high : Nat) : Option Nat :=
  if low ≤ high then some (max low (min value high)) else none

/-- `audio_selection_edge_region_ms`; its `round` rounds a half up. -/
def audioSelectionEdgeRegionMs (durationMs : Nat) : Nat :=
  max 120000 (min ⌊(durationMs : ℚ) * (1 / 10) + 1 / 2⌋.toNat 240000)

/-- `duration_seconds.filter(|value| value.is_finite() && *value > 600.0)`. -/
def longDuration (durationSeconds : Option F64) : Option Seconds :=
  (durationSeconds.bind F64.finite?).filter fun seconds => 600 < seconds

/-- `(duration_seconds * 1000.0).min(f64::from(u32::MAX)) as u32`. -/
def durationMillis (durationSeconds : Seconds) : Nat :=
  ⌊min (durationSeconds * 1000) (2 ^ 32 - 1)⌋.toNat

/-- The order of `fill`: `(t_ms / 60_000, Reverse(weight), t_ms, hash)`. -/
def FillLe (first second : AudioLandmarkV3) : Prop :=
  first.region < second.region
    ∨ first.region = second.region ∧ Better first.entry second.entry

instance : DecidableRel FillLe := fun _ _ => inferInstanceAs (Decidable (_ ∨ _))

/-- The loop that fills up `selected`. -/
def fillSelected (maxLandmarks : Nat) :
    List AudioLandmarkV3 → List AudioLandmarkV3 → List AudioLandmarkKeyV3 → List AudioLandmarkV3
  | [], selected, _ => selected
  | landmark :: fill, selected, selectedKeys =>
    if maxLandmarks ≤ selected.length then selected
    else if landmark.keyV3 ∈ selectedKeys then
      fillSelected maxLandmarks fill selected selectedKeys
    else
      fillSelected maxLandmarks fill (selected ++ [landmark]) (landmark.keyV3 :: selectedKeys)

/-- The three parts of a long file, each selected within its own limit. -/
def selectParts (landmarks : List AudioLandmarkV3) (durationMs maxLandmarks edgeTotalLimit : Nat) :
    List AudioLandmarkV3 :=
  let edgeMs := audioSelectionEdgeRegionMs durationMs
  let atStart (landmark : AudioLandmarkV3) : Bool := landmark.tMs.toNat < edgeMs
  let atEnd (landmark : AudioLandmarkV3) : Bool := durationMs - edgeMs ≤ landmark.tMs.toNat
  let startEdge := landmarks.filter atStart
  let endEdge := landmarks.filter fun landmark => !atStart landmark && atEnd landmark
  let body := landmarks.filter fun landmark => !atStart landmark && !atEnd landmark
  let startLimit := edgeTotalLimit / 2
  let endLimit := edgeTotalLimit - startLimit
  selectTimeDistributedAudioLandmarksV3 body (maxLandmarks - edgeTotalLimit)
    ++ selectTimeDistributedAudioLandmarksV3 startEdge startLimit
    ++ selectTimeDistributedAudioLandmarksV3 endEdge endLimit

/-- `bounded_time_distributed_audio_landmarks_v3_for_duration`; `none` when it
    panics.  Its slice is left sorted, too. -/
def boundedTimeDistributedAudioLandmarksV3ForDuration (landmarks : List AudioLandmarkV3)
    (maxLandmarks : Nat) (durationSeconds : Option F64) : Option (List AudioLandmarkV3) :=
  let landmarks := sortLandmarks landmarks
  if maxLandmarks = 0 then some []
  else if landmarks.length ≤ maxLandmarks then some landmarks
  else
    match longDuration durationSeconds with
    | none => some (selectTimeDistributedAudioLandmarksV3 landmarks maxLandmarks)
    | some duration =>
      (clampUsize (maxLandmarks / 5) 32 maxLandmarks).map fun edgeTotalLimit =>
        let selected := selectParts landmarks (durationMillis duration) maxLandmarks edgeTotalLimit
        let selected :=
          if selected.length < maxLandmarks then
            fillSelected maxLandmarks (landmarks.insertionSort FillLe) selected
              (selected.map AudioLandmarkV3.keyV3)
          else selected
        (sortLandmarks selected).take maxLandmarks

/-! ### The minutes of a list -/

theorem byRegion_tally (landmarks : List AudioLandmarkV3) : byRegion landmarks =
    tally AudioLandmarkV3.region (fun held landmark => held ++ [landmark]) [] landmarks := rfl

theorem getD_byRegion (landmarks : List AudioLandmarkV3) (region : Nat) :
    (byRegion landmarks).getD region [] =
      landmarks.filter fun landmark => landmark.region = region := by
  rw [byRegion_tally, getD_tally, List.foldl_append_eq_append, List.nil_append,
    ← List.flatMap_def, List.flatMap_singleton']

theorem mem_byRegion {landmarks : List AudioLandmarkV3} {region : Nat} :
    region ∈ byRegion landmarks ↔ ∃ landmark ∈ landmarks, landmark.region = region := by
  rw [byRegion_tally, mem_tally]

theorem rankLandmarks_perm (landmarks : List AudioLandmarkV3) :
    (rankLandmarks landmarks).Perm landmarks := sortByKey_perm _ _

theorem sortLandmarks_self (landmarks : List AudioLandmarkV3) :
    (sortLandmarks landmarks).Perm landmarks := sortByKey_perm _ _

/-- The queue of a minute holds its landmarks. -/
theorem mem_regionQueues {landmarks : List AudioLandmarkV3} {q : Queue Nat AudioLandmarkV3} :
    q ∈ regionQueues landmarks ↔ (∃ landmark ∈ landmarks, landmark.region = q.key)
      ∧ q.items = rankLandmarks (landmarks.filter fun landmark => landmark.region = q.key)
      ∧ q.position = 0 := by
  unfold regionQueues
  rw [List.mem_map]
  constructor
  · rintro ⟨⟨region, held⟩, hmem, rfl⟩
    have hlookup := Std.ExtTreeMap.mem_toList_iff_getElem?_eq_some.mp hmem
    have hheld : (byRegion landmarks).getD region [] = held := by
      rw [Std.ExtTreeMap.getD_eq_getD_getElem?, hlookup]
      rfl
    refine ⟨mem_byRegion.mp ?_, ?_, rfl⟩
    · exact Std.ExtTreeMap.mem_iff_isSome_getElem?.mpr (by simp [hlookup])
    · rw [← hheld, getD_byRegion]
  · rintro ⟨hsome, hitems, hposition⟩
    obtain ⟨held, hheld⟩ := Option.isSome_iff_exists.mp
      (Std.ExtTreeMap.mem_iff_isSome_getElem?.mp (mem_byRegion.mpr hsome))
    refine ⟨(q.key, held), Std.ExtTreeMap.mem_toList_iff_getElem?_eq_some.mpr hheld, ?_⟩
    have hfilter := getD_byRegion landmarks q.key
    rw [Std.ExtTreeMap.getD_eq_getD_getElem?, hheld] at hfilter
    cases q
    simp_all

theorem keyed_regionQueues (landmarks : List AudioLandmarkV3) :
    Keyed AudioLandmarkV3.region (regionQueues landmarks) where
  nodup := by
    unfold regionQueues
    rw [List.map_map]
    apply List.Pairwise.map _ _ Std.ExtTreeMap.distinct_keys_toList
    intro first second hdistinct hsame
    exact hdistinct (Std.LawfulEqCmp.compare_eq_iff_eq.mpr hsame)
  keyed := by
    intro q hq landmark hlandmark
    rw [(mem_regionQueues.mp hq).2.1, (rankLandmarks_perm _).mem_iff, List.mem_filter] at hlandmark
    simpa using hlandmark.2

/-- The queues hold every landmark. -/
theorem regionQueues_items {landmarks : List AudioLandmarkV3} (h : landmarks.Nodup) :
    ((regionQueues landmarks).flatMap Queue.items).Perm landmarks := by
  have hnodup : ((regionQueues landmarks).flatMap Queue.items).Nodup := by
    apply (keyed_regionQueues landmarks).nodup_items
    intro q hq
    rw [(mem_regionQueues.mp hq).2.1, (rankLandmarks_perm _).nodup_iff]
    exact h.filter _
  rw [List.perm_ext_iff_of_nodup hnodup h]
  intro landmark
  rw [List.mem_flatMap]
  constructor
  · rintro ⟨q, hq, hlandmark⟩
    rw [(mem_regionQueues.mp hq).2.1, (rankLandmarks_perm _).mem_iff] at hlandmark
    exact (List.mem_filter.mp hlandmark).1
  · intro hlandmark
    refine ⟨⟨landmark.region, rankLandmarks (landmarks.filter fun other =>
      other.region = landmark.region), 0⟩, mem_regionQueues.mpr ⟨⟨landmark, hlandmark, rfl⟩, rfl, rfl⟩,
      ?_⟩
    rw [(rankLandmarks_perm _).mem_iff, List.mem_filter]
    exact ⟨hlandmark, by simp⟩

end Sorotte.Fingerprint
