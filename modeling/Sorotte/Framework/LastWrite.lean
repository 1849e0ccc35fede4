import Mathlib

/-! # Last writer wins

  A register keeps the most recent value that was written to it; a write may
  leave it alone.  A batch of writes followed by another batch is one batch,
  so it does not matter where a sequence of writes is cut.

  The second half singles out the longest final stretch of a list whose
  elements all have the rank of the last one.
-/

namespace Sorotte.Framework

/-! ### The most recent value -/

section latest

variable {α : Type}

/-- The most recent value that is there. -/
def latest (values : List (Option α)) : Option α :=
  values.foldl (fun held value => value.or held) none

@[simp] theorem latest_nil : latest ([] : List (Option α)) = none := rfl

@[simp] theorem latest_singleton (value : Option α) : latest [value] = value := by
  cases value <;> rfl

theorem foldl_or (values : List (Option α)) (held : Option α) :
    values.foldl (fun held value => value.or held) held = (latest values).or held := by
  induction values generalizing held with
  | nil => rfl
  | cons value values ih =>
    have hcons : latest (value :: values) = (latest values).or (value.or none) := ih _
    rw [List.foldl_cons, ih, hcons, Option.or_none, Option.or_assoc]

theorem latest_append (earlier later : List (Option α)) :
    latest (earlier ++ later) = (latest later).or (latest earlier) := by
  rw [latest, List.foldl_append, foldl_or]
  rfl

end latest

/-! ### The final stretch of one rank -/

section run

variable {α β : Type} [DecidableEq β] (rank : α → β)

/-- The longest final stretch of elements that rank like the last one. -/
def finalRun (xs : List α) : List α :=
  match xs.getLast? with
  | none => []
  | some newest => xs.rtakeWhile fun x => rank x = rank newest

@[simp] theorem finalRun_singleton (x : α) : finalRun rank [x] = [x] := by
  simp [finalRun]

theorem rtakeWhile_append_all (p : α → Bool) (xs : List α) {ys : List α}
    (h : ∀ y ∈ ys, p y = true) : (xs ++ ys).rtakeWhile p = xs.rtakeWhile p ++ ys := by
  induction ys using List.reverseRecOn with
  | nil => simp
  | append_singleton ys y ih =>
    have hy : p y = true := h y (by simp)
    have hys := ih fun z hz => h z (by simp [hz])
    rw [← List.append_assoc, List.rtakeWhile_concat_pos p _ _ hy, hys, List.append_assoc]

theorem rtakeWhile_append_not (p : α → Bool) (xs : List α) {x : α} (hx : p x = false)
    (ys : List α) : ((xs ++ [x]) ++ ys).rtakeWhile p = ys.rtakeWhile p := by
  induction ys using List.reverseRecOn with
  | nil =>
    have hneg : ¬ p x = true := by simp [hx]
    rw [List.append_nil, List.rtakeWhile_concat_neg p _ _ hneg]
    rfl
  | append_singleton ys y ih =>
    rw [← List.append_assoc]
    cases hy : p y with
    | true => rw [List.rtakeWhile_concat_pos p _ _ hy, List.rtakeWhile_concat_pos p _ _ hy, ih]
    | false =>
      rw [List.rtakeWhile_concat_neg p _ _ (by simp [hy]),
        List.rtakeWhile_concat_neg p _ _ (by simp [hy])]

/-- A stretch of the rank the list ends in prolongs its final run. -/
theorem finalRun_append_same (xs : List α) {x y : α} {ys : List α}
    (hy : ∀ z ∈ ys ++ [y], rank z = rank y) (hxy : rank x = rank y) :
    finalRun rank ((xs ++ [x]) ++ (ys ++ [y])) =
      finalRun rank (xs ++ [x]) ++ (ys ++ [y]) := by
  have hlast : ((xs ++ [x]) ++ (ys ++ [y])).getLast? = some y := by
    rw [← List.append_assoc, List.getLast?_concat]
  have hall : ∀ z ∈ ys ++ [y], decide (rank z = rank y) = true := fun z hz =>
    decide_eq_true (hy z hz)
  simp only [finalRun, hlast, List.getLast?_concat, hxy]
  exact rtakeWhile_append_all _ _ hall

/-- A list that ends in another rank than the one before it has its own final run. -/
theorem finalRun_append_other (xs : List α) {x y : α} (ys : List α)
    (hxy : rank x ≠ rank y) :
    finalRun rank ((xs ++ [x]) ++ (ys ++ [y])) = finalRun rank (ys ++ [y]) := by
  have hlast : ((xs ++ [x]) ++ (ys ++ [y])).getLast? = some y := by
    rw [← List.append_assoc, List.getLast?_concat]
  simp only [finalRun, hlast, List.getLast?_concat]
  exact rtakeWhile_append_not _ xs (decide_eq_false hxy) _

theorem finalRun_of_same {y : α} {ys : List α} (hy : ∀ z ∈ ys ++ [y], rank z = rank y) :
    finalRun rank (ys ++ [y]) = ys ++ [y] := by
  have hall : ∀ z ∈ ys ++ [y], decide (rank z = rank y) = true := fun z hz =>
    decide_eq_true (hy z hz)
  simp only [finalRun, List.getLast?_concat]
  exact List.rtakeWhile_eq_self_iff.mpr hall

end run

end Sorotte.Framework
