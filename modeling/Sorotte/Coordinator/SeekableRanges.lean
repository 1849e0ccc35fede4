import Sorotte.Coordinator.State
import Sorotte.Framework.Intervals

/-! # Seekable ranges

  Normalised ranges are the reported ones, merged: seen as intervals,
  `normalizeSeekableRanges` absorbs the valid ranges in the order of their
  starts.  The buffered target nearest to a point is the closest point of the
  safe parts of the ranges.
-/

namespace Sorotte.Coordinator

open Sorotte.Framework Sorotte.Framework.Intervals

namespace PlayerSeekableRange

/-- The range as an interval. -/
def ends (range : PlayerSeekableRange Seconds) : Seconds × Seconds :=
  (range.startSeconds, range.endSeconds)

/-- The range as a player reports it. -/
def reported (range : PlayerSeekableRange Seconds) : PlayerSeekableRange F64 where
  startSeconds := .finite range.startSeconds
  endSeconds := .finite range.endSeconds

/-- A reported range with finite ends in their order, not all of it negative. -/
def Valid (range : PlayerSeekableRange F64) (r : PlayerSeekableRange Seconds) : Prop :=
  range.finite? = some r ∧ r.startSeconds ≤ r.endSeconds ∧ 0 ≤ r.endSeconds

@[simp] theorem contains_iff {range : PlayerSeekableRange Seconds} {t : Seconds} :
    range.contains t = true ↔ t ∈ Set.Icc range.startSeconds range.endSeconds := by
  simp [contains]

theorem ends_injective : Function.Injective ends := by
  intro first second h
  cases first
  cases second
  simp_all [ends]

end PlayerSeekableRange

open PlayerSeekableRange

/-! ### The valid ranges -/

/-- What the first pass of `normalize_seekable_ranges` keeps of a range. -/
def keptRange (range : PlayerSeekableRange F64) : Option (PlayerSeekableRange Seconds) :=
  range.finite?.bind fun range =>
    if range.startSeconds ≤ range.endSeconds && 0 ≤ range.endSeconds then
      some { range with startSeconds := max range.startSeconds 0 }
    else none

theorem keptRange_eq_some {range : PlayerSeekableRange F64} {kept : PlayerSeekableRange Seconds} :
    keptRange range = some kept ↔
      ∃ r, Valid range r ∧ kept = { r with startSeconds := max r.startSeconds 0 } := by
  unfold keptRange Valid
  cases hfinite : range.finite? with
  | none => simp
  | some r =>
    simp only [Option.bind_some, Bool.and_eq_true, decide_eq_true_eq, Option.ite_none_right_eq_some,
      Option.some.injEq]
    constructor
    · rintro ⟨⟨hordered, hend⟩, rfl⟩
      exact ⟨r, ⟨rfl, hordered, hend⟩, rfl⟩
    · rintro ⟨_, ⟨rfl, hordered, hend⟩, rfl⟩
      exact ⟨⟨hordered, hend⟩, rfl⟩

theorem keptRange_ordered {range : PlayerSeekableRange F64} {kept : PlayerSeekableRange Seconds}
    (h : keptRange range = some kept) :
    0 ≤ kept.startSeconds ∧ kept.startSeconds ≤ kept.endSeconds := by
  obtain ⟨r, ⟨-, hordered, hend⟩, rfl⟩ := keptRange_eq_some.mp h
  exact ⟨le_max_right _ _, max_le hordered hend⟩

theorem keptRange_reported {r : PlayerSeekableRange Seconds} (hstart : 0 ≤ r.startSeconds)
    (hordered : r.startSeconds ≤ r.endSeconds) : keptRange r.reported = some r := by
  rw [keptRange_eq_some]
  refine ⟨r, ⟨rfl, hordered, le_trans hstart hordered⟩, ?_⟩
  rw [max_eq_left hstart]

/-! ### The order of the ranges -/

theorem rangeLe_iff {left right : PlayerSeekableRange Seconds} :
    rangeLe left right = true ↔ left.startSeconds < right.startSeconds
      ∨ left.startSeconds = right.startSeconds ∧ left.endSeconds ≤ right.endSeconds := by
  simp [rangeLe]

theorem rangeLe_start {left right : PlayerSeekableRange Seconds} (h : rangeLe left right = true) :
    left.startSeconds ≤ right.startSeconds := by
  rcases rangeLe_iff.mp h with hlt | ⟨heq, -⟩
  · exact le_of_lt hlt
  · exact le_of_eq heq

theorem rangeLe_trans (a b c : PlayerSeekableRange Seconds) (hab : rangeLe a b = true)
    (hbc : rangeLe b c = true) : rangeLe a c = true := by
  rw [rangeLe_iff] at *
  rcases hab with hab | ⟨hab, hab'⟩
  · rcases hbc with hbc | ⟨hbc, -⟩
    · exact .inl (lt_trans hab hbc)
    · exact .inl (hbc ▸ hab)
  · rcases hbc with hbc | ⟨hbc, hbc'⟩
    · exact .inl (hab ▸ hbc)
    · exact .inr ⟨hab.trans hbc, le_trans hab' hbc'⟩

theorem rangeLe_total (a b : PlayerSeekableRange Seconds) :
    (rangeLe a b || rangeLe b a) = true := by
  rw [Bool.or_eq_true, rangeLe_iff, rangeLe_iff]
  rcases lt_trichotomy a.startSeconds b.startSeconds with hlt | heq | hgt
  · exact .inl (.inl hlt)
  · rcases le_total a.endSeconds b.endSeconds with hle | hle
    · exact .inl (.inr ⟨heq, hle⟩)
    · exact .inr (.inr ⟨heq.symm, hle⟩)
  · exact .inr (.inl hgt)

/-! ### Normalisation is merging -/

theorem ends_mergeRange (merged : List (PlayerSeekableRange Seconds))
    (range : PlayerSeekableRange Seconds) :
    (mergeRange merged range).map ends = absorb (merged.map ends) range.ends := by
  cases merged with
  | nil => rfl
  | cons previous earlier =>
    by_cases hmeets : range.startSeconds ≤ previous.endSeconds
    · simp [mergeRange, absorb, ends, hmeets]
    · simp [mergeRange, absorb, ends, hmeets]

theorem ends_foldl (ranges merged : List (PlayerSeekableRange Seconds)) :
    (ranges.foldl mergeRange merged).map ends = (ranges.map ends).foldl absorb (merged.map ends) := by
  induction ranges generalizing merged with
  | nil => rfl
  | cons range ranges ih => rw [List.foldl_cons, ih, ends_mergeRange, List.map_cons, List.foldl_cons]

/-- The valid ranges in the order in which they are merged. -/
def sortedRanges (ranges : List (PlayerSeekableRange F64)) : List (PlayerSeekableRange Seconds) :=
  (ranges.filterMap keptRange).mergeSort rangeLe

theorem ends_normalize (ranges : List (PlayerSeekableRange F64)) :
    (normalizeSeekableRanges ranges).map ends =
      (((sortedRanges ranges).map ends).foldl absorb []).reverse := by
  have hfold := ends_foldl (sortedRanges ranges) []
  unfold normalizeSeekableRanges
  rw [List.map_reverse]
  exact congrArg List.reverse hfold

theorem mem_sortedRanges {ranges : List (PlayerSeekableRange F64)}
    {kept : PlayerSeekableRange Seconds} :
    kept ∈ sortedRanges ranges ↔ ∃ range ∈ ranges, keptRange range = some kept := by
  unfold sortedRanges
  rw [(List.mergeSort_perm _ _).mem_iff, List.mem_filterMap]

theorem sortedRanges_sorted (ranges : List (PlayerSeekableRange F64)) :
    ((sortedRanges ranges).map ends).Pairwise fun i j => i.1 ≤ j.1 := by
  rw [List.pairwise_map]
  have hsorted : (sortedRanges ranges).Pairwise fun a b => rangeLe a b = true :=
    List.pairwise_mergeSort rangeLe_trans rangeLe_total _
  apply hsorted.imp
  intro first second hle
  exact rangeLe_start hle

theorem sortedRanges_ordered {ranges : List (PlayerSeekableRange F64)} {i : Seconds × Seconds}
    (hi : i ∈ (sortedRanges ranges).map ends) : 0 ≤ i.1 ∧ i.1 ≤ i.2 := by
  obtain ⟨kept, hkept, rfl⟩ := List.mem_map.mp hi
  obtain ⟨range, -, hrange⟩ := mem_sortedRanges.mp hkept
  exact keptRange_ordered hrange

/-- **Normalisation**: gapped intervals with the points of the valid ranges. -/
theorem normalize_gapped (ranges : List (PlayerSeekableRange F64)) :
    Gapped ((normalizeSeekableRanges ranges).map ends)
      ∧ covered ((normalizeSeekableRanges ranges).map ends) =
        covered ((sortedRanges ranges).map ends) := by
  obtain ⟨hgapped, hcovered⟩ := absorbed_foldl
    (fun i hi => (sortedRanges_ordered hi).2) (sortedRanges_sorted ranges) []
    (fun i _ => Absorbed.nil i.1) ⟨by simp, by simp⟩
  rw [ends_normalize]
  refine ⟨hgapped, ?_⟩
  rw [covered_reverse, hcovered, covered_nil, Set.empty_union]

theorem normalize_ordered {ranges : List (PlayerSeekableRange F64)}
    {r : PlayerSeekableRange Seconds} (hr : r ∈ normalizeSeekableRanges ranges) :
    r.startSeconds ≤ r.endSeconds :=
  (normalize_gapped ranges).1.ordered r.ends (List.mem_map_of_mem hr)

theorem mem_normalize {ranges : List (PlayerSeekableRange F64)} {t : Seconds} :
    (∃ r ∈ normalizeSeekableRanges ranges, r.contains t = true) ↔
      ∃ kept ∈ sortedRanges ranges, kept.contains t = true := by
  have hsame := Set.ext_iff.mp (normalize_gapped ranges).2 t
  simpa [ends] using hsame

/-- Every range begins at a point of a valid range, so at zero or later. -/
theorem normalize_start {ranges : List (PlayerSeekableRange F64)}
    {r : PlayerSeekableRange Seconds} (hr : r ∈ normalizeSeekableRanges ranges) :
    0 ≤ r.startSeconds := by
  have hstart : r.contains r.startSeconds = true := by
    simp [normalize_ordered hr]
  obtain ⟨kept, hkept, hcontains⟩ := mem_normalize.mp ⟨r, hr, hstart⟩
  have hkept_start := (sortedRanges_ordered (List.mem_map_of_mem hkept)).1
  exact le_trans hkept_start (contains_iff.mp hcontains).1

/-- What is normalised already comes back unchanged. -/
theorem normalize_of_gapped {ranges : List (PlayerSeekableRange Seconds)}
    (hgapped : Gapped (ranges.map ends)) (hstart : ∀ r ∈ ranges, 0 ≤ r.startSeconds) :
    normalizeSeekableRanges (ranges.map reported) = ranges := by
  have hkept : (ranges.map reported).filterMap keptRange = ranges := by
    rw [List.filterMap_map]
    conv_rhs => rw [← List.filterMap_some (l := ranges)]
    apply List.filterMap_congr
    intro r hr
    exact keptRange_reported (hstart r hr) (hgapped.ordered r.ends (List.mem_map_of_mem hr))
  have hsorted : sortedRanges (ranges.map reported) = ranges := by
    unfold sortedRanges
    rw [hkept]
    apply List.mergeSort_of_pairwise
    have hstarts := List.pairwise_map.mp hgapped.sorted
    apply hstarts.imp
    intro first second hlt
    exact rangeLe_iff.mpr (.inl hlt)
  apply List.map_injective_iff.mpr ends_injective
  rw [ends_normalize, hsorted, foldl_absorb_of_gapped (by simpa using hgapped)]
  simp

/-! ### The safe part of a range -/

/-- Where the safe part of a range ends: a live range may still be written at its
    end. -/
def safeEnd (kind : MediaTransportKind) (range : PlayerSeekableRange Seconds) : Seconds :=
  if kind = .liveSliding then safeLiveEnd range else range.endSeconds

/-- The points of a range that a seek may be answered with. -/
def safePart (kind : MediaTransportKind) (range : PlayerSeekableRange Seconds) : Set Seconds :=
  Set.Icc range.startSeconds (safeEnd kind range)

theorem safeEnd_of_ne {kind : MediaTransportKind} (h : kind ≠ .liveSliding)
    (range : PlayerSeekableRange Seconds) : safeEnd kind range = range.endSeconds := if_neg h

theorem safeEnd_mem (kind : MediaTransportKind) {range : PlayerSeekableRange Seconds}
    (h : range.startSeconds ≤ range.endSeconds) :
    safeEnd kind range ∈ Set.Icc range.startSeconds range.endSeconds := by
  unfold safeEnd
  by_cases hkind : kind = .liveSliding
  · rw [if_pos hkind]
    have hmargin : 0 ≤ min 1 (max (range.endSeconds - range.startSeconds) 0 / 4) :=
      le_min zero_le_one (div_nonneg (le_max_right _ _) (by norm_num))
    unfold safeLiveEnd
    exact ⟨le_max_right _ _, max_le (sub_le_self _ hmargin) h⟩
  · rw [if_neg hkind]
    exact ⟨h, le_refl _⟩

/-- The clamped point is the closest of the interval. -/
theorem clamp_closest {target low high : Seconds} (h : low ≤ high) :
    clamp target low high ∈ Set.Icc low high
      ∧ ∀ p ∈ Set.Icc low high, distance (clamp target low high) target ≤ distance p target := by
  unfold clamp distance
  by_cases hlow : target < low
  · rw [if_pos hlow]
    refine ⟨⟨le_refl _, h⟩, ?_⟩
    intro p hp
    exact max_le (le_max_of_le_left (sub_le_sub_right hp.1 _))
      (le_max_of_le_left (by linarith [hp.1]))
  · rw [if_neg hlow]
    by_cases hhigh : high < target
    · rw [if_pos hhigh]
      refine ⟨⟨h, le_refl _⟩, ?_⟩
      intro p hp
      exact max_le (le_max_of_le_right (by linarith [hp.2]))
        (le_max_of_le_right (sub_le_sub_left hp.2 _))
    · rw [if_neg hhigh]
      refine ⟨⟨not_lt.mp hlow, not_lt.mp hhigh⟩, ?_⟩
      intro p _
      rw [sub_self, max_self]
      by_cases hp : target ≤ p
      · exact le_max_of_le_left (sub_nonneg.mpr hp)
      · exact le_max_of_le_right (sub_nonneg.mpr (le_of_lt (not_le.mp hp)))

/-! ### The nearest buffered target -/

/-- The point of a range's safe part that is offered. -/
def offeredPoint (kind : MediaTransportKind) (target : Seconds)
    (range : PlayerSeekableRange Seconds) : Seconds :=
  clamp target range.startSeconds (safeEnd kind range)

/-- No point of the range's safe part is taken for the target itself. -/
def Distinct (kind : MediaTransportKind) (target : Seconds)
    (range : PlayerSeekableRange Seconds) : Prop :=
  ∀ p ∈ safePart kind range, epsilon < distance p target

/-- A point of a safe part than which no other is closer, where ranges that come
    too close to the target do not count. -/
structure Closest (kind : MediaTransportKind) (target : Seconds)
    (ranges : List (PlayerSeekableRange Seconds)) (c : Seconds) : Prop where
  offered : ∃ r ∈ ranges, Distinct kind target r ∧ c ∈ safePart kind r
  closest : ∀ r ∈ ranges, Distinct kind target r → ∀ p ∈ safePart kind r,
    distance c target ≤ distance p target

theorem distinct_iff {kind : MediaTransportKind} {target : Seconds}
    {range : PlayerSeekableRange Seconds} (h : range.startSeconds ≤ range.endSeconds) :
    Distinct kind target range ↔ epsilon < distance (offeredPoint kind target range) target := by
  obtain ⟨hmem, hclosest⟩ := @clamp_closest target _ _ (safeEnd_mem kind h).1
  constructor
  · intro hdistinct
    exact hdistinct _ hmem
  · intro hoffered p hp
    exact lt_of_lt_of_le hoffered (hclosest p hp)

/-- The candidates of `nearest_buffered_target`. -/
def candidates (kind : MediaTransportKind) (target : Seconds)
    (ranges : List (PlayerSeekableRange Seconds)) : List Seconds :=
  (ranges.map (offeredPoint kind target)).filter fun c => epsilon < distance c target

theorem nearestBufferedTarget_eq {kind : MediaTransportKind} {target maximum : Seconds}
    {ranges : List (PlayerSeekableRange Seconds)}
    (h : ∀ r ∈ ranges, r.contains target = false) :
    nearestBufferedTarget kind target (some ranges) maximum =
      ((candidates kind target ranges).argmin (distance · target)).filter
        fun c => distance c target ≤ maximum := by
  have hnone : ranges.any (·.contains target) = false := by
    rw [List.any_eq_false]
    intro r hr
    simp only [h r hr, Bool.false_eq_true, not_false_eq_true]
  unfold nearestBufferedTarget
  simp only [Option.bind_some, hnone, Bool.false_eq_true, if_false]
  apply congrArg (Option.filter _)
  show List.foldl _ none (candidates kind target ranges) = List.foldl _ none _
  apply List.foldl_ext
  intro best candidate _
  cases best <;> rfl

theorem mem_candidates {kind : MediaTransportKind} {target c : Seconds}
    {ranges : List (PlayerSeekableRange Seconds)}
    (hordered : ∀ r ∈ ranges, r.startSeconds ≤ r.endSeconds) :
    c ∈ candidates kind target ranges ↔
      ∃ r ∈ ranges, Distinct kind target r ∧ offeredPoint kind target r = c := by
  simp only [candidates, List.mem_filter, List.mem_map, decide_eq_true_eq]
  constructor
  · rintro ⟨⟨r, hr, rfl⟩, hdistant⟩
    exact ⟨r, hr, (distinct_iff (hordered r hr)).mpr hdistant, rfl⟩
  · rintro ⟨r, hr, hdistinct, rfl⟩
    exact ⟨⟨r, hr, rfl⟩, (distinct_iff (hordered r hr)).mp hdistinct⟩

/-- The best candidate is a closest point. -/
theorem closest_of_argmin {kind : MediaTransportKind} {target c : Seconds}
    {ranges : List (PlayerSeekableRange Seconds)}
    (hordered : ∀ r ∈ ranges, r.startSeconds ≤ r.endSeconds)
    (h : (candidates kind target ranges).argmin (distance · target) = some c) :
    Closest kind target ranges c := by
  obtain ⟨r, hr, hdistinct, hoffered⟩ := (mem_candidates hordered).mp (List.argmin_mem h)
  refine ⟨⟨r, hr, hdistinct, ?_⟩, ?_⟩
  · rw [← hoffered]
    exact (clamp_closest (safeEnd_mem _ (hordered r hr)).1).1
  · intro other hother hdistinct' p hp
    have hcandidate : offeredPoint kind target other ∈ candidates kind target ranges :=
      (mem_candidates hordered).mpr ⟨other, hother, hdistinct', rfl⟩
    calc distance c target
        ≤ distance (offeredPoint kind target other) target := List.le_of_mem_argmin hcandidate h
      _ ≤ distance p target := (clamp_closest (safeEnd_mem _ (hordered other hother)).1).2 p hp

/-- **The nearest buffered target** is a closest point within the maximum
    distance, and is found when there is one. -/
theorem nearestBufferedTarget_spec {kind : MediaTransportKind} {target maximum : Seconds}
    {ranges : List (PlayerSeekableRange Seconds)}
    (hordered : ∀ r ∈ ranges, r.startSeconds ≤ r.endSeconds)
    (h : ∀ r ∈ ranges, r.contains target = false) :
    (∀ c, nearestBufferedTarget kind target (some ranges) maximum = some c →
        Closest kind target ranges c ∧ distance c target ≤ maximum)
      ∧ ((∃ c, nearestBufferedTarget kind target (some ranges) maximum = some c) ↔
        ∃ c, Closest kind target ranges c ∧ distance c target ≤ maximum) := by
  have hfound : ∀ c, nearestBufferedTarget kind target (some ranges) maximum = some c →
      Closest kind target ranges c ∧ distance c target ≤ maximum := by
    intro c hc
    rw [nearestBufferedTarget_eq h, Option.filter_eq_some_iff, decide_eq_true_eq] at hc
    exact ⟨closest_of_argmin hordered hc.1, hc.2⟩
  refine ⟨hfound, ?_, ?_⟩
  · rintro ⟨c, hc⟩
    exact ⟨c, hfound c hc⟩
  · rintro ⟨c, ⟨⟨r, hr, hdistinct, hc⟩, -⟩, hwithin⟩
    have hcandidate : offeredPoint kind target r ∈ candidates kind target ranges :=
      (mem_candidates hordered).mpr ⟨r, hr, hdistinct, rfl⟩
    cases hbest : (candidates kind target ranges).argmin (distance · target) with
    | none =>
      rw [List.argmin_eq_none.mp hbest] at hcandidate
      cases hcandidate
    | some best =>
      refine ⟨best, ?_⟩
      rw [nearestBufferedTarget_eq h, Option.filter_eq_some_iff, decide_eq_true_eq]
      refine ⟨hbest, ?_⟩
      exact le_trans ((closest_of_argmin hordered hbest).closest r hr hdistinct c hc) hwithin

end Sorotte.Coordinator
