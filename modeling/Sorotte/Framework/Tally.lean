import Sorotte.Framework.Maps

/-! # Tallies

  A loop that files every item under its key and updates what is held there.
  What a key holds is the fold over the items with that key, and when the
  updates commute, the tally does not depend on the order of the items.

  A loop that skips the items whose keys it has seen before goes over the first
  item of every key.
-/

namespace Sorotte.Framework

/-! ### Filing under keys -/

section tally

variable {K V α : Type} [Ord K] [Std.TransOrd K] {key : α → K} {vote : V → α → V} {init : V}

/-- Every item updates what is held under its key. -/
def tally (key : α → K) (vote : V → α → V) (init : V) (items : List α) : BTreeMap K V :=
  items.foldl (fun held item => held.insert (key item) (vote (held.getD (key item) init) item)) ∅

theorem tally_snoc (items : List α) (item : α) :
    tally key vote init (items ++ [item]) = (tally key vote init items).insert (key item)
      (vote ((tally key vote init items).getD (key item) init) item) := by
  simp [tally]

variable [Std.LawfulEqOrd K]

theorem mem_tally {items : List α} {k : K} :
    k ∈ tally key vote init items ↔ ∃ item ∈ items, key item = k := by
  induction items using List.reverseRecOn with
  | nil => simp [tally]
  | append_singleton items item ih =>
    rw [tally_snoc, Std.ExtTreeMap.mem_insert, ih]
    simp only [Std.LawfulEqCmp.compare_eq_iff_eq, List.mem_append, List.mem_singleton]
    constructor
    · rintro (hkey | ⟨other, hother, hkey⟩)
      · exact ⟨item, .inr rfl, hkey⟩
      · exact ⟨other, .inl hother, hkey⟩
    · rintro ⟨other, hother | rfl, hkey⟩
      · exact .inr ⟨other, hother, hkey⟩
      · exact .inl hkey

variable [DecidableEq K]

/-- A key holds the fold over its items. -/
theorem getD_tally (items : List α) (k : K) :
    (tally key vote init items).getD k init =
      (items.filter fun item => key item = k).foldl vote init := by
  induction items using List.reverseRecOn with
  | nil => simp [tally]
  | append_singleton items item ih =>
    rw [tally_snoc, List.filter_append, List.foldl_append, ← ih, Std.ExtTreeMap.getD_insert]
    by_cases hkey : key item = k
    · simp [hkey]
    · simp [hkey]

theorem getElem?_tally (items : List α) (k : K) :
    (tally key vote init items)[k]? = if ∃ item ∈ items, key item = k then
      some ((items.filter fun item => key item = k).foldl vote init) else none := by
  by_cases hsome : ∃ item ∈ items, key item = k
  · rw [if_pos hsome, ← getD_tally]
    obtain ⟨held, hheld⟩ := Option.isSome_iff_exists.mp
      (Std.ExtTreeMap.mem_iff_isSome_getElem?.mp (mem_tally.mpr hsome))
    rw [Std.ExtTreeMap.getD_eq_getD_getElem?, hheld]
    rfl
  · rw [if_neg hsome]
    exact Std.ExtTreeMap.getElem?_eq_none (mt mem_tally.mp hsome)

/-- When updates commute, the order of the items does not matter. -/
theorem tally_perm (hcomm : ∀ held a b, vote (vote held a) b = vote (vote held b) a)
    {items items' : List α} (h : items.Perm items') :
    tally key vote init items = tally key vote init items' := by
  apply Std.ExtTreeMap.ext_getElem?
  intro k
  have hsome : (∃ item ∈ items, key item = k) ↔ ∃ item ∈ items', key item = k :=
    exists_congr fun item => and_congr_left fun _ => h.mem_iff
  have hfold : (items.filter fun item => key item = k).foldl vote init =
      (items'.filter fun item => key item = k).foldl vote init :=
    (h.filter _).foldl_eq' (fun a _ b _ held => hcomm held a b) init
  rw [getElem?_tally, getElem?_tally, hfold]
  simp only [hsome]

end tally

/-! ### The first item of every key -/

section firsts

variable {K α : Type} [DecidableEq K] {key : α → K}

/-- The items whose keys were not seen before. -/
def firsts (key : α → K) : List K → List α → List α
  | _, [] => []
  | seen, item :: items =>
    if key item ∈ seen then firsts key seen items
    else item :: firsts key (key item :: seen) items

theorem firsts_of_nodup {seen : List K} {items : List α} (hnodup : (items.map key).Nodup)
    (hfresh : ∀ item ∈ items, key item ∉ seen) : firsts key seen items = items := by
  induction items generalizing seen with
  | nil => rfl
  | cons item items ih =>
    rw [List.map_cons, List.nodup_cons] at hnodup
    have hrest : ∀ other ∈ items, key other ∉ key item :: seen := by
      intro other hother hseen
      rcases List.mem_cons.mp hseen with hsame | hseen
      · exact hnodup.1 (hsame ▸ List.mem_map_of_mem hother)
      · exact hfresh other (List.mem_cons_of_mem _ hother) hseen
    unfold firsts
    rw [if_neg (hfresh item List.mem_cons_self), ih hnodup.2 hrest]

/-- A loop that skips what it has seen goes over the first items only. -/
theorem foldl_firsts {σ : Type} {f : σ → α → σ} {skip : List K × σ → α → List K × σ}
    (hseen : ∀ seen held item, key item ∈ seen → skip (seen, held) item = (seen, held))
    (hfresh : ∀ seen held item, key item ∉ seen →
      skip (seen, held) item = (key item :: seen, f held item))
    (items : List α) (seen : List K) (held : σ) :
    (items.foldl skip (seen, held)).2 = (firsts key seen items).foldl f held := by
  induction items generalizing seen held with
  | nil => rfl
  | cons item items ih =>
    unfold firsts
    rw [List.foldl_cons]
    by_cases hkey : key item ∈ seen
    · rw [hseen seen held item hkey, if_pos hkey]
      exact ih seen held
    · rw [hfresh seen held item hkey, if_neg hkey, List.foldl_cons]
      exact ih _ _

end firsts

end Sorotte.Framework
