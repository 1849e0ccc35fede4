import Mathlib.Data.List.Nodup

/-! # Sole matches

  A pair of a relation is a sole match when neither side is related to anything
  else.  Sole matches form a partial bijection whatever the relation is, and a
  relation listed as candidates for each left side can be searched for them by
  counting.
-/

namespace Sorotte.Framework

section soleMatch

variable {α β : Type}

/-- Neither `a` nor `b` is related to anything but the other. -/
structure SoleMatch (R : α → β → Prop) (a : α) (b : β) : Prop where
  related : R a b
  right : ∀ b', R a b' → b' = b
  left : ∀ a', R a' b → a' = a

theorem SoleMatch.congr {R S : α → β → Prop} (h : ∀ a b, R a b ↔ S a b) {a : α} {b : β} :
    SoleMatch R a b ↔ SoleMatch S a b := by
  have hsame : R = S := by
    funext a b
    exact propext (h a b)
  rw [hsame]

/-! ### Lists without repetitions -/

theorem eq_singleton_iff_forall {l : List α} (hnodup : l.Nodup) {a : α} :
    l = [a] ↔ a ∈ l ∧ ∀ b ∈ l, b = a := by
  constructor
  · rintro rfl
    simp
  · rintro ⟨hmem, hall⟩
    cases l with
    | nil => simp at hmem
    | cons x rest =>
      have hx : x = a := hall x (by simp)
      cases rest with
      | nil => rw [hx]
      | cons y rest =>
        have hy : y = a := hall y (by simp)
        rw [hx, hy] at hnodup
        simp at hnodup

theorem countP_eq_one_iff_forall {l : List α} (hnodup : l.Nodup) {p : α → Bool} {a : α}
    (hmem : a ∈ l) (ha : p a = true) : l.countP p = 1 ↔ ∀ b ∈ l, p b = true → b = a := by
  have hfiltered : a ∈ l.filter p := List.mem_filter.mpr ⟨hmem, ha⟩
  rw [List.countP_eq_length_filter, List.length_eq_one_iff]
  constructor
  · rintro ⟨c, hc⟩ b hb hpb
    have hb' : b ∈ l.filter p := List.mem_filter.mpr ⟨hb, hpb⟩
    rw [hc, List.mem_singleton] at hb' hfiltered
    rw [hb', hfiltered]
  · intro hall
    refine ⟨a, (eq_singleton_iff_forall (hnodup.filter p)).mpr ⟨hfiltered, fun b hb => ?_⟩⟩
    obtain ⟨hb, hpb⟩ := List.mem_filter.mp hb
    exact hall b hb hpb

/-! ### Candidate lists -/

/-- The relation that candidate lists stand for. -/
def listed (edges : List (α × List β)) (a : α) (b : β) : Prop :=
  ∃ candidates, (a, candidates) ∈ edges ∧ b ∈ candidates

variable [BEq β] [LawfulBEq β]

/-- A single candidate that no other list counts is a sole match. -/
theorem soleMatch_listed {edges : List (α × List β)} (hdistinct : (edges.map (·.1)).Nodup)
    (hcandidates : ∀ edge ∈ edges, edge.2.Nodup) {a : α} {b : β} :
    SoleMatch (listed edges) a b ↔
      (a, [b]) ∈ edges ∧ edges.countP (·.2.contains b) = 1 := by
  have hnodup : edges.Nodup := hdistinct.of_map
  have hsame : ∀ {x : α} {l l' : List β}, (x, l) ∈ edges → (x, l') ∈ edges → l = l' := by
    intro x l l' hl hl'
    have heq := List.inj_on_of_nodup_map hdistinct hl hl' rfl
    exact (Prod.mk.inj heq).2
  constructor
  · rintro ⟨⟨candidates, hmem, hb⟩, hright, hleft⟩
    have hsingle : candidates = [b] := by
      rw [eq_singleton_iff_forall (hcandidates _ hmem)]
      exact ⟨hb, fun b' hb' => hright b' ⟨candidates, hmem, hb'⟩⟩
    rw [hsingle] at hmem
    refine ⟨hmem, (countP_eq_one_iff_forall hnodup hmem (by simp)).mpr ?_⟩
    rintro ⟨a', candidates'⟩ hmem' hcontains
    have hb' : b ∈ candidates' := by simpa using hcontains
    have ha' : a' = a := hleft a' ⟨candidates', hmem', hb'⟩
    rw [ha'] at hmem' ⊢
    rw [hsame hmem' hmem]
  · rintro ⟨hmem, hcount⟩
    have hunique := (countP_eq_one_iff_forall hnodup hmem (by simp)).mp hcount
    refine ⟨⟨[b], hmem, List.mem_singleton_self b⟩, ?_, ?_⟩
    · rintro b' ⟨candidates, hmem', hb'⟩
      rw [hsame hmem' hmem] at hb'
      exact List.mem_singleton.mp hb'
    · rintro a' ⟨candidates, hmem', hb⟩
      have heq := hunique (a', candidates) hmem' (by simpa using hb)
      exact (Prod.mk.inj heq).1

end soleMatch

/-- Taking out what was found takes it from the count. -/
theorem countP_eraseP {α : Type} {p q : α → Bool} {items : List α} {found : α}
    (hfound : items.find? p = some found) :
    (items.eraseP p).countP q + (if q found then 1 else 0) = items.countP q := by
  induction items with
  | nil => cases hfound
  | cons x rest ih =>
    rw [List.find?_cons] at hfound
    rw [List.eraseP_cons, List.countP_cons]
    cases hx : p x with
    | true =>
      rw [hx] at hfound
      cases hfound
      rfl
    | false =>
      rw [hx] at hfound
      have hrest := ih hfound
      rw [cond_false, List.countP_cons]
      omega

end Sorotte.Framework
