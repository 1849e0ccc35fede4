import Sorotte.Coordinator.SeekableRanges

/-! # Normalised ranges and buffered targets

  Normalising the reported ranges loses no point and leaves a gap between any
  two of them; the buffered target nearest to a point is a closest one.
-/

namespace Sorotte.Coordinator

open Sorotte.Framework.Intervals PlayerSeekableRange

theorem normalize_sorted (ranges : List (PlayerSeekableRange F64)) :
    (normalizeSeekableRanges ranges).Pairwise fun a b => a.startSeconds < b.startSeconds := by
  have hsorted := (normalize_gapped ranges).1.sorted
  rw [List.pairwise_map] at hsorted
  exact hsorted

theorem normalize_apart (ranges : List (PlayerSeekableRange F64)) :
    (normalizeSeekableRanges ranges).Pairwise fun a b => a.endSeconds < b.startSeconds :=
  List.pairwise_map.mp (normalize_gapped ranges).1.apart

/-- A point that is not negative is covered exactly when a valid range has it. -/
theorem normalize_points {ranges : List (PlayerSeekableRange F64)} {t : Seconds} (ht : 0 ≤ t) :
    (∃ r ∈ normalizeSeekableRanges ranges, r.contains t = true) ↔
      ∃ range ∈ ranges, ∃ r, Valid range r ∧ r.contains t = true := by
  rw [mem_normalize]
  constructor
  · rintro ⟨kept, hkept, hcontains⟩
    obtain ⟨range, hrange, hsome⟩ := mem_sortedRanges.mp hkept
    obtain ⟨r, hvalid, rfl⟩ := keptRange_eq_some.mp hsome
    obtain ⟨hlow, hhigh⟩ := contains_iff.mp hcontains
    refine ⟨range, hrange, r, hvalid, contains_iff.mpr ⟨?_, hhigh⟩⟩
    exact le_trans (le_max_left _ _) hlow
  · rintro ⟨range, hrange, r, hvalid, hcontains⟩
    obtain ⟨hlow, hhigh⟩ := contains_iff.mp hcontains
    -- the start is cut at zero, where `t` is not before it
    refine ⟨{ r with startSeconds := max r.startSeconds 0 }, ?_, ?_⟩
    · exact mem_sortedRanges.mpr ⟨range, hrange, keptRange_eq_some.mpr ⟨r, hvalid, rfl⟩⟩
    · exact contains_iff.mpr ⟨max_le hlow ht, hhigh⟩

theorem normalize_idempotent (ranges : List (PlayerSeekableRange F64)) :
    normalizeSeekableRanges ((normalizeSeekableRanges ranges).map reported) =
      normalizeSeekableRanges ranges :=
  normalize_of_gapped (normalize_gapped ranges).1 fun _ hr => normalize_start hr

/-- **Normalised ranges**: sorted, gapped, with the points of the valid ranges,
    and normalised once and for all.  **The nearest buffered target** of a point
    outside them is the closest point of a safe part, where the ranges that come
    within `epsilon` of the point are left out, and is found exactly when a
    closest point lies within the maximum distance. -/
theorem seekable_ranges_exact (ranges : List (PlayerSeekableRange F64)) :
    let normalized := normalizeSeekableRanges ranges
    normalized.Pairwise (fun a b => a.startSeconds < b.startSeconds)
      ∧ (∀ r ∈ normalized, 0 ≤ r.startSeconds ∧ r.startSeconds ≤ r.endSeconds)
      ∧ normalized.Pairwise (fun a b => a.endSeconds < b.startSeconds)
      ∧ (∀ t, 0 ≤ t → ((∃ r ∈ normalized, r.contains t = true) ↔
          ∃ range ∈ ranges, ∃ r, Valid range r ∧ r.contains t = true))
      ∧ normalizeSeekableRanges (normalized.map reported) = normalized
      ∧ ∀ kind target maximum, (∀ r ∈ normalized, r.contains target = false) →
          (∀ c, nearestBufferedTarget kind target (some normalized) maximum = some c →
            (∃ r ∈ normalized, r.contains c = true)
              ∧ Closest kind target normalized c ∧ distance c target ≤ maximum)
          ∧ ((∃ c, nearestBufferedTarget kind target (some normalized) maximum = some c) ↔
            ∃ c, Closest kind target normalized c ∧ distance c target ≤ maximum) := by
  intro normalized
  refine ⟨normalize_sorted ranges, fun r hr => ⟨normalize_start hr, normalize_ordered hr⟩,
    normalize_apart ranges, fun t ht => normalize_points ht, normalize_idempotent ranges, ?_⟩
  intro kind target maximum hoff
  have hordered : ∀ r ∈ normalized, r.startSeconds ≤ r.endSeconds := fun r hr =>
    normalize_ordered hr
  obtain ⟨hfound, hiff⟩ := nearestBufferedTarget_spec hordered hoff
  refine ⟨?_, hiff⟩
  intro c hc
  obtain ⟨hclosest, hwithin⟩ := hfound c hc
  obtain ⟨r, hr, -, hmem⟩ := hclosest.offered
  have hend := (safeEnd_mem kind (hordered r hr)).2
  exact ⟨⟨r, hr, contains_iff.mpr ⟨hmem.1, le_trans hmem.2 hend⟩⟩, hclosest, hwithin⟩

theorem normalize_single {start end_ : Seconds} (hstart : 0 ≤ start) (hordered : start ≤ end_) :
    normalizeSeekableRanges [⟨.finite start, .finite end_⟩] = [⟨start, end_⟩] := by
  have h := @normalize_of_gapped [⟨start, end_⟩]
  simp only [List.map_cons, List.map_nil, List.mem_singleton, forall_eq] at h
  exact h ⟨by simpa [ends] using hordered, by simp⟩ hstart

/-- Forty seconds, where thirty are buffered: the target is found. -/
theorem seekable_ranges_exact_buffered :
    ∃ c, nearestBufferedTarget .networkVod 40
      (some (normalizeSeekableRanges [⟨.finite 0, .finite 30⟩])) 15 = some c := by
  obtain ⟨-, -, -, -, -, hnearest⟩ := seekable_ranges_exact [⟨.finite 0, .finite 30⟩]
  have hsingle := @normalize_single 0 30 (by norm_num) (by norm_num)
  have hoff : ∀ r ∈ normalizeSeekableRanges [⟨.finite 0, .finite 30⟩],
      r.contains 40 = false := by
    rw [hsingle]
    simp [contains]
    norm_num
  apply (hnearest .networkVod 40 15 hoff).2.mpr
  have hdistance : ∀ p ∈ Set.Icc (0 : Seconds) 30, 10 ≤ distance p 40 := by
    intro p hp
    exact le_max_of_le_right (by linarith [hp.2])
  have hthirty : distance 30 40 = 10 := by norm_num [distance]
  refine ⟨30, ⟨⟨⟨0, 30⟩, by simp [hsingle], ?_, ?_⟩, ?_⟩, ?_⟩
  · intro p hp
    exact lt_of_lt_of_le (by norm_num [epsilon]) (hdistance p hp)
  · exact ⟨by norm_num, by rw [safeEnd_of_ne (by decide)]⟩
  · rw [hsingle]
    simp only [List.mem_singleton, forall_eq]
    intro _ p hp
    rw [hthirty]
    exact hdistance p hp
  · rw [hthirty]
    norm_num

/-- Closer than `epsilon` to the end of a range, the closest point is not offered
    although it lies within the maximum distance. -/
theorem buffered_target_within_epsilon :
    let normalized := normalizeSeekableRanges [⟨.finite 0, .finite (1 / 8)⟩]
    let target : Seconds := 1 / 8 + epsilon / 2
    (∀ r ∈ normalized, r.contains target = false)
      ∧ nearestBufferedTarget .networkVod target (some normalized) 15 = none
      ∧ (∃ r ∈ normalized, 1 / 8 ∈ safePart .networkVod r)
      ∧ (∀ r ∈ normalized, ∀ p ∈ safePart .networkVod r,
          distance (1 / 8) target ≤ distance p target)
      ∧ distance (1 / 8) target ≤ 15 := by
  have hsingle := @normalize_single 0 (1 / 8) (by norm_num) (by norm_num)
  rw [hsingle]
  refine ⟨by decide +kernel, by decide +kernel, ?_, ?_, by decide +kernel⟩
  · refine ⟨⟨0, 1 / 8⟩, by simp, by norm_num, ?_⟩
    rw [safeEnd_of_ne (by decide)]
  · simp only [List.mem_singleton, forall_eq]
    intro p hp
    have hp : p ≤ 1 / 8 := hp.2
    have hepsilon : 0 ≤ epsilon := by norm_num [epsilon]
    unfold distance
    apply max_le
    · exact le_max_of_le_right (by linarith)
    · exact le_max_of_le_right (by linarith)

end Sorotte.Coordinator
