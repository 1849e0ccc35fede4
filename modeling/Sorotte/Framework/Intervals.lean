import Mathlib.Data.List.MinMax
import Mathlib.Order.Interval.Set.Basic

/-! # Unions of closed intervals

  A list of closed intervals, given by their ends, stands for the union of
  them.  Absorbing the intervals one after the other, in the order of their
  lower ends, leaves the same union as intervals with gaps between them; a list
  that already has its gaps comes back unchanged.
-/

namespace Sorotte.Framework.Intervals

variable {α : Type} [LinearOrder α]

/-! ### Covered points -/

/-- The points of the intervals. -/
def covered (intervals : List (α × α)) : Set α :=
  { t | ∃ i ∈ intervals, t ∈ Set.Icc i.1 i.2 }

@[simp] theorem mem_covered {intervals : List (α × α)} {t : α} :
    t ∈ covered intervals ↔ ∃ i ∈ intervals, t ∈ Set.Icc i.1 i.2 := Iff.rfl

@[simp] theorem covered_nil : covered ([] : List (α × α)) = ∅ := by
  ext t
  simp

@[simp] theorem covered_cons (i : α × α) (rest : List (α × α)) :
    covered (i :: rest) = Set.Icc i.1 i.2 ∪ covered rest := by
  ext t
  simp only [mem_covered, List.mem_cons, exists_eq_or_imp, Set.mem_union]

theorem covered_perm {first second : List (α × α)} (h : first.Perm second) :
    covered first = covered second := by
  ext t
  simp only [mem_covered, h.mem_iff]

theorem covered_reverse (intervals : List (α × α)) :
    covered intervals.reverse = covered intervals :=
  covered_perm intervals.reverse_perm

/-! ### Gaps -/

/-- The first interval ends before the second begins. -/
def Apart (i j : α × α) : Prop := i.2 < j.1

/-- Every interval has its ends in order, and a gap parts it from all later ones. -/
structure Gapped (intervals : List (α × α)) : Prop where
  ordered : ∀ i ∈ intervals, i.1 ≤ i.2
  apart : intervals.Pairwise Apart

/-- Gapped intervals are in the order of their lower ends. -/
theorem Gapped.sorted {intervals : List (α × α)} (h : Gapped intervals) :
    intervals.Pairwise fun i j => i.1 < j.1 := by
  apply h.apart.imp_of_mem
  intro i j hi _ hapart
  exact lt_of_le_of_lt (h.ordered i hi) hapart

/-! ### Absorbing one interval -/

/-- Adds an interval to those absorbed so far, of which the last comes first: it
    extends the last one or opens the next. -/
def absorb (absorbed : List (α × α)) (next : α × α) : List (α × α) :=
  match absorbed with
  | [] => [next]
  | last :: earlier =>
    if next.1 ≤ last.2 then (last.1, max last.2 next.2) :: earlier else next :: last :: earlier

theorem absorb_meets {last next : α × α} (earlier : List (α × α)) (h : next.1 ≤ last.2) :
    absorb (last :: earlier) next = (last.1, max last.2 next.2) :: earlier := if_pos h

theorem absorb_opens {last next : α × α} (earlier : List (α × α)) (h : last.2 < next.1) :
    absorb (last :: earlier) next = next :: last :: earlier := if_neg (not_le.mpr h)

/-- What holds of the absorbed intervals, of which the last comes first, before
    intervals that begin at `bound` or later are absorbed. -/
structure Absorbed (bound : α) (absorbed : List (α × α)) : Prop where
  gapped : Gapped absorbed.reverse
  begun : ∀ i ∈ absorbed, i.1 ≤ bound

theorem Absorbed.nil (bound : α) : Absorbed bound [] where
  gapped := ⟨by simp, by simp⟩
  begun := by simp

theorem Absorbed.mono {bound later : α} {absorbed : List (α × α)} (h : Absorbed bound absorbed)
    (hle : bound ≤ later) : Absorbed later absorbed where
  gapped := h.gapped
  begun i hi := le_trans (h.begun i hi) hle

theorem Absorbed.absorb {absorbed : List (α × α)} {next : α × α}
    (h : Absorbed next.1 absorbed) (hnext : next.1 ≤ next.2) :
    Absorbed next.1 (absorb absorbed next) := by
  obtain ⟨⟨hordered, hapart⟩, hbegun⟩ := h
  cases absorbed with
  | nil => exact ⟨⟨by simpa [Intervals.absorb] using hnext, by simp [Intervals.absorb]⟩,
      by simp [Intervals.absorb]⟩
  | cons last earlier =>
    rw [List.pairwise_reverse, List.pairwise_cons] at hapart
    obtain ⟨hlast, hearlier⟩ := hapart
    have hlast_ordered : last.1 ≤ last.2 := hordered last (by simp)
    have hlast_begun : last.1 ≤ next.1 := hbegun last (by simp)
    by_cases hmeets : next.1 ≤ last.2
    · -- the last interval grows at its upper end only, so its gap stays
      rw [absorb_meets earlier hmeets]
      refine ⟨⟨?_, ?_⟩, ?_⟩
      · intro i hi
        rw [List.mem_reverse, List.mem_cons] at hi
        rcases hi with rfl | hi
        · exact le_trans hlast_ordered (le_max_left _ _)
        · exact hordered i (by simp [hi])
      · rw [List.pairwise_reverse, List.pairwise_cons]
        exact ⟨hlast, hearlier⟩
      · intro i hi
        rw [List.mem_cons] at hi
        rcases hi with rfl | hi
        · exact hlast_begun
        · exact hbegun i (by simp [hi])
    · have hgap : last.2 < next.1 := not_le.mp hmeets
      rw [absorb_opens earlier hgap]
      refine ⟨⟨?_, ?_⟩, ?_⟩
      · intro i hi
        rw [List.mem_reverse, List.mem_cons] at hi
        rcases hi with rfl | hi
        · exact hnext
        · exact hordered i (List.mem_reverse.mpr hi)
      · rw [List.pairwise_reverse, List.pairwise_cons, List.pairwise_cons]
        refine ⟨?_, hlast, hearlier⟩
        intro i hi
        rw [List.mem_cons] at hi
        rcases hi with rfl | hi
        · exact hgap
        · exact lt_trans (lt_of_lt_of_le (hlast i hi) hlast_ordered) hgap
      · intro i hi
        rw [List.mem_cons] at hi
        rcases hi with rfl | hi
        · exact le_refl _
        · exact hbegun i hi

theorem covered_absorb {absorbed : List (α × α)} {next : α × α}
    (h : Absorbed next.1 absorbed) :
    covered (absorb absorbed next) = covered absorbed ∪ Set.Icc next.1 next.2 := by
  cases absorbed with
  | nil => simp [absorb]
  | cons last earlier =>
    have hbegun : last.1 ≤ next.1 := h.begun last (by simp)
    by_cases hmeets : next.1 ≤ last.2
    · rw [absorb_meets earlier hmeets]
      -- where they meet, two intervals are one
      have hunion : Set.Icc last.1 (max last.2 next.2) =
          Set.Icc last.1 last.2 ∪ Set.Icc next.1 next.2 := by
        ext t
        simp only [Set.mem_Icc, Set.mem_union, le_max_iff]
        constructor
        · rintro ⟨hlow, hhigh | hhigh⟩
          · exact .inl ⟨hlow, hhigh⟩
          · by_cases ht : t ≤ last.2
            · exact .inl ⟨hlow, ht⟩
            · exact .inr ⟨le_trans hmeets (le_of_lt (not_le.mp ht)), hhigh⟩
        · rintro (⟨hlow, hhigh⟩ | ⟨hlow, hhigh⟩)
          · exact ⟨hlow, .inl hhigh⟩
          · exact ⟨le_trans hbegun hlow, .inr hhigh⟩
      rw [covered_cons, covered_cons, hunion, Set.union_right_comm]
    · rw [absorb_opens earlier (not_le.mp hmeets), covered_cons, Set.union_comm]

/-! ### Absorbing a sorted list -/

/-- **Merging**: intervals in the order of their lower ends are absorbed into
    gapped ones with the same points. -/
theorem absorbed_foldl {intervals : List (α × α)}
    (hordered : ∀ i ∈ intervals, i.1 ≤ i.2)
    (hsorted : intervals.Pairwise fun i j => i.1 ≤ j.1) :
    ∀ absorbed : List (α × α), (∀ i ∈ intervals, Absorbed i.1 absorbed) →
      Gapped absorbed.reverse →
      Gapped (intervals.foldl absorb absorbed).reverse
        ∧ covered (intervals.foldl absorb absorbed) = covered absorbed ∪ covered intervals := by
  induction intervals with
  | nil =>
    intro absorbed _ hgapped
    exact ⟨hgapped, by simp⟩
  | cons next rest ih =>
    intro absorbed habsorbed _
    obtain ⟨hnext, hrest⟩ := List.pairwise_cons.mp hsorted
    have hhere : Absorbed next.1 absorbed := habsorbed next (by simp)
    have hthen := hhere.absorb (hordered next (by simp))
    obtain ⟨hgapped, hcovered⟩ := ih (fun i hi => hordered i (by simp [hi])) hrest
      (absorb absorbed next) (fun i hi => hthen.mono (hnext i hi)) hthen.gapped
    refine ⟨hgapped, ?_⟩
    rw [List.foldl_cons, hcovered, covered_absorb hhere, covered_cons, Set.union_assoc]

/-- Gapped intervals are absorbed as they are. -/
theorem foldl_absorb_of_gapped {intervals absorbed : List (α × α)}
    (h : Gapped (absorbed.reverse ++ intervals)) :
    intervals.foldl absorb absorbed = intervals.reverse ++ absorbed := by
  induction intervals generalizing absorbed with
  | nil => simp
  | cons next rest ih =>
    have hopens : absorb absorbed next = next :: absorbed := by
      cases absorbed with
      | nil => rfl
      | cons last earlier =>
        have hgap : last.2 < next.1 :=
          (List.pairwise_append.mp h.apart).2.2 last (by simp) next (by simp)
        exact absorb_opens earlier hgap
    rw [List.foldl_cons, hopens, ih (by simpa using h)]
    simp

end Sorotte.Framework.Intervals
