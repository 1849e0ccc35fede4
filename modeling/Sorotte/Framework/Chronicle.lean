import Mathlib.Data.List.Basic

/-! # Chronicles

  A chronicle is a list of entries, newest first.  `Throughout P` says that `P`
  holds of every entry and of what had been written before it; a chronicle that
  only grows keeps such a property with one obligation for each new entry.
-/

namespace Sorotte.Framework

variable {α : Type} {P Q : α → List α → Prop} {newer older : List α} {x : α}

/-- `P` holds of every entry and of its past. -/
def Throughout (P : α → List α → Prop) : List α → Prop
  | [] => True
  | x :: older => P x older ∧ Throughout P older

@[simp] theorem throughout_nil : Throughout P [] := trivial

@[simp] theorem throughout_cons : Throughout P (x :: older) ↔ P x older ∧ Throughout P older :=
  Iff.rfl

/-- What was written before an entry is its past. -/
theorem Throughout.past (h : Throughout P (newer ++ x :: older)) : P x older := by
  induction newer with
  | nil => exact h.1
  | cons y newer ih => exact ih h.2

/-- Entries that `P` says nothing about. -/
theorem Throughout.append (h : Throughout P older) (hnew : ∀ x ∈ newer, ∀ past, P x past) :
    Throughout P (newer ++ older) := by
  induction newer with
  | nil => exact h
  | cons y newer ih =>
    apply And.intro
    · exact hnew y List.mem_cons_self _
    · exact ih fun x hx => hnew x (List.mem_cons_of_mem y hx)

/-- Two entries of a chronicle, the newer one first, and what was written between them. -/
theorem split_of_getElem? {l : List α} {i j : Nat} {y : α} (hi : l[i]? = some x)
    (hj : l[j]? = some y) (hij : i < j) : ∃ newest middle oldest,
      l = newest ++ x :: (middle ++ y :: oldest) ∧
      ∀ z ∈ middle, ∃ k, i < k ∧ k < j ∧ l[k]? = some z := by
  obtain ⟨hi', rfl⟩ := List.getElem?_eq_some_iff.mp hi
  obtain ⟨hj', rfl⟩ := List.getElem?_eq_some_iff.mp hj
  have htail : (l.drop (i + 1)).drop (j - (i + 1)) = l[j] :: l.drop (j + 1) := by
    rw [List.drop_drop, List.drop_eq_getElem_cons (by omega)]
    congr 2 <;> omega
  refine ⟨l.take i, (l.drop (i + 1)).take (j - (i + 1)), l.drop (j + 1), ?_, ?_⟩
  · rw [← htail, List.take_append_drop, ← List.drop_eq_getElem_cons hi', List.take_append_drop]
  · intro z hz
    obtain ⟨n, hn, rfl⟩ := List.mem_iff_getElem.mp hz
    rw [List.length_take] at hn
    refine ⟨i + 1 + n, by omega, by omega, ?_⟩
    rw [List.getElem_take, List.getElem_drop]
    exact List.getElem?_eq_getElem _

end Sorotte.Framework
