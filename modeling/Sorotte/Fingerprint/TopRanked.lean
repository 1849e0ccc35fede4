import Sorotte.Fingerprint.Reservoir

/-! # What a reservoir keeps

  The invariant of a region says that it keeps the first of the ranking; the
  landmarks a reservoir returns are therefore decided by what was pushed, in
  whatever order.
-/

namespace Sorotte.Fingerprint

open Sorotte.Framework

variable {pushed : List AudioLandmarkV3} {r : AudioLandmarkRegionReservoirV3}

/-! ### The ranking -/

theorem mem_ranking {e : AudioLandmarkHeapEntryV3} :
    e ∈ ranking pushed ↔ Contender pushed e := by
  unfold ranking
  rw [(List.perm_insertionSort Better _).mem_iff, mem_contenders]

theorem ranking_nodup (pushed : List AudioLandmarkV3) : (ranking pushed).Nodup :=
  (List.perm_insertionSort Better _).nodup_iff.mpr (List.nodup_dedup _)

theorem ranking_pairwise (pushed : List AudioLandmarkV3) :
    (ranking pushed).Pairwise Better := by
  have : Std.Total Better := ⟨better_total⟩
  have : IsTrans AudioLandmarkHeapEntryV3 Better := ⟨fun _ _ _ => better_trans⟩
  exact List.pairwise_insertionSort _ _

/-- Lists in the order of the ranking are equal when they hold the same entries. -/
theorem eq_of_ranked {first second : List AudioLandmarkHeapEntryV3}
    (hfirst : first.Pairwise Better) (hsecond : second.Pairwise Better)
    (hperm : first.Perm second) : first = second :=
  hperm.eq_of_pairwise (fun _ _ _ _ => better_antisymm) hfirst hsecond

/-- The ranking does not depend on the order of the pushes. -/
theorem ranking_perm {pushed' : List AudioLandmarkV3} (h : pushed.Perm pushed') :
    ranking pushed = ranking pushed' := by
  refine eq_of_ranked (ranking_pairwise _) (ranking_pairwise _) ?_
  rw [List.perm_ext_iff_of_nodup (ranking_nodup _) (ranking_nodup _)]
  intro e
  rw [mem_ranking, mem_ranking]
  constructor
  · rintro ⟨⟨source, hsource, hentry⟩, hheaviest⟩
    exact ⟨⟨source, h.mem_iff.mp hsource, hentry⟩, fun other hother =>
      hheaviest other (h.mem_iff.mpr hother)⟩
  · rintro ⟨⟨source, hsource, hentry⟩, hheaviest⟩
    exact ⟨⟨source, h.mem_iff.mpr hsource, hentry⟩, fun other hother =>
      hheaviest other (h.mem_iff.mp hother)⟩

/-- Sorting forgets the order in which the landmarks were enumerated. -/
theorem sortLandmarks_perm {first second : List AudioLandmarkV3} (h : first.Perm second) :
    sortLandmarks first = sortLandmarks second := by
  unfold sortLandmarks
  refine List.Perm.eq_of_pairwise ?_ (sortByKey_pairwise _ first) (sortByKey_pairwise _ second)
    ((sortByKey_perm _ first).trans (h.trans (sortByKey_perm _ second).symm))
  rintro ⟨hash, tMs, weight⟩ ⟨hash', tMs', weight'⟩ - - hle hge
  simp only [keyLe] at hle hge
  have hw := weight.toNat_lt
  have hw' := weight'.toNat_lt
  have hweight : weight.toNat = weight'.toNat := by omega
  have htime : tMs.toNat = tMs'.toNat := by omega
  have hhash : hash.toNat = hash'.toNat := by omega
  rw [UInt8.toNat_inj.mp hweight, UInt32.toNat_inj.mp htime, UInt32.toNat_inj.mp hhash]

/-! ### A region keeps the best -/

/-- A landmark of the entry's key is kept. -/
def AudioLandmarkRegionReservoirV3.keeps (r : AudioLandmarkRegionReservoirV3)
    (e : AudioLandmarkHeapEntryV3) : Bool :=
  (r.landmarks[e.key]?).isSome

theorem not_keeps {e : AudioLandmarkHeapEntryV3} (h : (!r.keeps e) = true) :
    r.landmarks[e.key]? = none := by
  unfold AudioLandmarkRegionReservoirV3.keeps at h
  cases hlookup : r.landmarks[e.key]? with
  | none => rfl
  | some landmark =>
    rw [hlookup] at h
    cases h

/-- The kept contenders are as many as the kept landmarks. -/
theorem Region.length_kept (hr : Region pushed r) :
    ((ranking pushed).filter r.keeps).length = r.landmarks.size := by
  have hnodup : ((ranking pushed).filter r.keeps).Nodup := (ranking_nodup pushed).filter _
  have hkeys : (((ranking pushed).filter r.keeps).map (·.key)).Nodup := by
    refine List.Nodup.map_on (fun e he e' he' hsame => ?_) hnodup
    have hc := mem_ranking.mp (List.mem_filter.mp he).1
    have hc' := mem_ranking.mp (List.mem_filter.mp he').1
    exact hc.unique hc' hsame
  have hperm : (((ranking pushed).filter r.keeps).map (·.key)).Perm r.landmarks.keys := by
    rw [List.perm_ext_iff_of_nodup hkeys Std.ExtTreeMap.nodup_keys]
    intro key
    rw [List.mem_map, Std.ExtTreeMap.mem_keys]
    constructor
    · rintro ⟨e, he, rfl⟩
      have hkeeps := (List.mem_filter.mp he).2
      rw [Std.ExtTreeMap.mem_iff_isSome_getElem?]
      exact hkeeps
    · intro hkey
      obtain ⟨landmark, hlandmark⟩ :=
        Option.isSome_iff_exists.mp (Std.ExtTreeMap.mem_iff_isSome_getElem?.mp hkey)
      obtain ⟨hself, hcontender⟩ := hr.kept key landmark hlandmark
      refine ⟨landmark.entry, List.mem_filter.mpr ⟨mem_ranking.mpr hcontender, ?_⟩, hself.symm⟩
      unfold AudioLandmarkRegionReservoirV3.keeps
      rw [show landmark.entry.key = key from hself.symm, hlandmark]
      rfl
  have hlength := hperm.length_eq
  rw [List.length_map, Std.ExtTreeMap.length_keys] at hlength
  exact hlength

/-- The kept contenders come first in the ranking. -/
theorem Region.ranking_split (hr : Region pushed r) :
    ranking pushed = (ranking pushed).filter r.keeps
      ++ (ranking pushed).filter (fun e => !r.keeps e) := by
  have hsorted := ranking_pairwise pushed
  refine eq_of_ranked hsorted ?_ (List.filter_append_perm _ _).symm
  rw [List.pairwise_append]
  refine ⟨hsorted.filter _, hsorted.filter _, fun e he e' he' => ?_⟩
  obtain ⟨hmem, hkeeps⟩ := List.mem_filter.mp he
  obtain ⟨hmem', hdropped⟩ := List.mem_filter.mp he'
  obtain ⟨landmark, hlandmark⟩ := Option.isSome_iff_exists.mp hkeeps
  have hnone := not_keeps hdropped
  obtain ⟨hself, hcontender⟩ := hr.kept _ _ hlandmark
  rw [(mem_ranking.mp hmem).unique hcontender hself]
  exact (hr.passed e' (mem_ranking.mp hmem') hnone).2 _ _ hlandmark

theorem Region.best_eq (hr : Region pushed r) :
    best r.retainLimit pushed = (ranking pushed).filter r.keeps := by
  have hlength := hr.length_kept
  have hbounded := hr.bounded
  unfold best
  cases hdropped : (ranking pushed).filter (fun e => !r.keeps e) with
  | nil =>
    have hsplit := hr.ranking_split
    rw [hdropped, List.append_nil] at hsplit
    have hshort : (ranking pushed).length ≤ r.retainLimit := by
      rw [hsplit]
      omega
    rw [List.take_of_length_le hshort, ← hsplit]
  | cons e others =>
    have hmem : e ∈ (ranking pushed).filter (fun e => !r.keeps e) := by
      rw [hdropped]
      exact List.mem_cons_self
    obtain ⟨hranked, hgone⟩ := List.mem_filter.mp hmem
    have hnone := not_keeps hgone
    have hfull := (hr.passed e (mem_ranking.mp hranked) hnone).1
    conv_lhs => rw [hr.ranking_split]
    rw [List.take_left' (hlength.trans hfull)]

theorem entry_injective : Function.Injective AudioLandmarkV3.entry := by
  rintro ⟨hash, tMs, weight⟩ ⟨hash', tMs', weight'⟩ h
  cases h
  rfl

/-- A region keeps the best landmarks, under their keys. -/
theorem Region.lookup_iff (hr : Region pushed r) (key : AudioLandmarkKeyV3)
    (landmark : AudioLandmarkV3) :
    r.landmarks[key]? = some landmark ↔
      key = landmark.keyV3 ∧ landmark.entry ∈ best r.retainLimit pushed := by
  rw [hr.best_eq, List.mem_filter, mem_ranking]
  constructor
  · intro h
    obtain ⟨hself, hcontender⟩ := hr.kept key landmark h
    refine ⟨hself, hcontender, ?_⟩
    unfold AudioLandmarkRegionReservoirV3.keeps
    rw [show landmark.entry.key = key from hself.symm, h]
    rfl
  · rintro ⟨rfl, hcontender, hkeeps⟩
    obtain ⟨other, hother⟩ := Option.isSome_iff_exists.mp hkeeps
    obtain ⟨hself, hcontender'⟩ := hr.kept _ _ hother
    have hsame : other = landmark :=
      entry_injective (hcontender'.unique hcontender hself.symm)
    subst hsame
    exact hother

/-! ### The reservoir -/

/-- The pushes of a minute. -/
def inRegion (region : Nat) (pushed : List AudioLandmarkV3) : List AudioLandmarkV3 :=
  pushed.filter fun landmark => landmark.region == region

def AudioLandmarkReservoirV3.regionAt (s : AudioLandmarkReservoirV3) (region : Nat) :
    AudioLandmarkRegionReservoirV3 :=
  (s.regions[region]?).getD (.new v3AudioRawRegionRetainLimit)

/-- A reservoir after some pushes. -/
def reservoirAfter (pushed : List AudioLandmarkV3) : AudioLandmarkReservoirV3 :=
  pushed.foldl (·.push ·) .new

theorem regionAt_push (s : AudioLandmarkReservoirV3) (landmark : AudioLandmarkV3) (region : Nat) :
    (s.push landmark).regionAt region =
      if region = landmark.region then ((s.regionAt region).push landmark).1
      else s.regionAt region := by
  unfold AudioLandmarkReservoirV3.regionAt
  show ((s.regions.insert landmark.region _)[region]?).getD _ = _
  rw [getElem?_insert_if]
  by_cases hregion : region = landmark.region
  · rw [if_pos hregion, if_pos hregion, hregion]
    rfl
  · rw [if_neg hregion, if_neg hregion]

theorem retainLimit_push (r : AudioLandmarkRegionReservoirV3) (landmark : AudioLandmarkV3) :
    (r.push landmark).1.retainLimit = r.retainLimit := by
  unfold AudioLandmarkRegionReservoirV3.push
  split
  · rfl
  · split
    · split <;> rfl
    · split
      · rfl
      · dsimp only
        split
        · rfl
        · split <;> rfl

theorem region_after (pushed : List AudioLandmarkV3) (region : Nat) :
    Region (inRegion region pushed) ((reservoirAfter pushed).regionAt region)
      ∧ ((reservoirAfter pushed).regionAt region).retainLimit = v3AudioRawRegionRetainLimit := by
  induction pushed using List.reverseRecOn with
  | nil =>
    have hnew : (reservoirAfter []).regionAt region = .new v3AudioRawRegionRetainLimit := by
      simp [reservoirAfter, AudioLandmarkReservoirV3.new, AudioLandmarkReservoirV3.regionAt]
    rw [hnew]
    exact ⟨region_new _, rfl⟩
  | append_singleton pushed landmark ih =>
    have hafter : reservoirAfter (pushed ++ [landmark]) = (reservoirAfter pushed).push landmark := by
      unfold reservoirAfter
      rw [List.foldl_append]
      rfl
    rw [hafter, regionAt_push]
    have hfilter : inRegion region (pushed ++ [landmark]) =
        inRegion region pushed ++ if landmark.region = region then [landmark] else [] := by
      unfold inRegion
      rw [List.filter_append, List.filter_singleton]
      congr 1
      by_cases h : landmark.region = region
      · simp [h]
      · rw [if_neg h, beq_false_of_ne h]
        rfl
    rw [hfilter]
    by_cases hregion : region = landmark.region
    · rw [if_pos hregion, if_pos hregion.symm]
      exact ⟨ih.1.push landmark, (retainLimit_push _ _).trans ih.2⟩
    · rw [if_neg hregion, if_neg (Ne.symm hregion), List.append_nil]
      exact ih

/-- What is kept of a minute is the best of its pushes. -/
theorem kept_after (pushed : List AudioLandmarkV3) (region : Nat) (key : AudioLandmarkKeyV3)
    (landmark : AudioLandmarkV3) :
    ((reservoirAfter pushed).regionAt region).landmarks[key]? = some landmark ↔
      key = landmark.keyV3
        ∧ landmark.entry ∈ best v3AudioRawRegionRetainLimit (inRegion region pushed) := by
  obtain ⟨hr, hlimit⟩ := region_after pushed region
  rw [hr.lookup_iff, hlimit]

end Sorotte.Fingerprint
