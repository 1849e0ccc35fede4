import Sorotte.Session.LocalPlaylist

/-! # Where the selection goes

  What the two searches for the row to select find: the occurrence that
  corresponds to a row, and the nearest row that has one.
-/

namespace Sorotte.Session

/-! ### Positions and first matches -/

/-- The n-th position of a match is a match with n of them before it. -/
theorem nth_findIdxs {α : Type} {p : α → Bool} {items : List α} {start n i : Nat}
    (h : (items.findIdxs p start)[n]? = some i) :
    start ≤ i ∧ (∃ a, items[i - start]? = some a ∧ p a = true)
      ∧ (items.take (i - start)).countP p = n := by
  induction items generalizing start n with
  | nil => simp at h
  | cons x rest ih =>
    rw [List.findIdxs_cons] at h
    have hshift : start + 1 ≤ i → i - start = (i - (start + 1)) + 1 := by omega
    cases hx : p x with
    | true =>
      rw [hx, if_pos rfl] at h
      cases n with
      | zero =>
        have hi : start = i := by simpa using h
        subst hi
        refine ⟨Nat.le_refl _, ⟨x, by simp, hx⟩, by simp⟩
      | succ n =>
        rw [List.getElem?_cons_succ] at h
        obtain ⟨hle, ⟨a, ha, hpa⟩, hcount⟩ := ih h
        rw [hshift hle]
        exact ⟨by omega, ⟨a, by simpa using ha, hpa⟩, by simp [hx, hcount]⟩
    | false =>
      rw [hx, if_neg Bool.false_ne_true] at h
      obtain ⟨hle, ⟨a, ha, hpa⟩, hcount⟩ := ih h
      rw [hshift hle]
      exact ⟨by omega, ⟨a, by simpa using ha, hpa⟩, by simp [hx, hcount]⟩

/-- In an ordered search the first hit comes before all others. -/
theorem first_of_findSome? {α β : Type} {R : α → α → Prop} {f : α → Option β} {items : List α}
    (hordered : items.Pairwise R) {b : β} (h : items.findSome? f = some b) :
    ∃ a ∈ items, f a = some b ∧ ∀ x ∈ items, f x ≠ none → x = a ∨ R a x := by
  induction items with
  | nil => cases h
  | cons x rest ih =>
    obtain ⟨hfirst, hrest⟩ := List.pairwise_cons.mp hordered
    rw [List.findSome?_cons] at h
    cases hx : f x with
    | some found =>
      rw [hx] at h
      cases h
      refine ⟨x, List.mem_cons_self, hx, fun y hy hhit => ?_⟩
      rcases List.mem_cons.mp hy with rfl | hy
      · exact .inl rfl
      · exact .inr (hfirst y hy)
    | none =>
      rw [hx] at h
      obtain ⟨a, ha, hfa, hothers⟩ := ih hrest h
      refine ⟨a, List.mem_cons_of_mem _ ha, hfa, fun y hy hhit => ?_⟩
      rcases List.mem_cons.mp hy with rfl | hy
      · exact absurd hx hhit
      · exact hothers y hy hhit

/-! ### Rows and their labels -/

section rows

variable {currentFiles newFiles : List String}

/-- The row's label occurs in the new playlist. -/
def Occurs (currentFiles newFiles : List String) (index : Nat) : Prop :=
  ∃ label ∈ newFiles, currentFiles[index]? = some label

/-- The row went to this position: to the same occurrence of its label, or to the
    last one if there are fewer. -/
def RetainedAt (currentFiles newFiles : List String) (index position : Nat) : Prop :=
  ∃ label, currentFiles[index]? = some label ∧ newFiles[position]? = some label
    ∧ ((newFiles.take position).count label = (currentFiles.take index).count label
      ∨ newFiles.count label ≤ (currentFiles.take index).count label
        ∧ label ∉ newFiles.drop (position + 1))

theorem retainedIndex_of_label {index : Nat} {label : String}
    (h : currentFiles[index]? = some label) :
    retainedIndex currentFiles newFiles index =
      ((newFiles.findIdxs (· == label))[(currentFiles.take index).count label]?
        <|> (newFiles.findIdxs (· == label)).getLast?) := by
  unfold retainedIndex
  rw [h]
  rfl

/-- The last position of a label has none after it. -/
theorem last_findIdxs {label : String} {position : Nat}
    (h : (newFiles.findIdxs (· == label)).getLast? = some position) :
    newFiles[position]? = some label ∧ label ∉ newFiles.drop (position + 1) := by
  rw [List.getLast?_eq_getElem?] at h
  obtain ⟨-, ⟨a, ha, hlabel⟩, hcount⟩ := nth_findIdxs h
  rw [Nat.sub_zero] at ha hcount
  have ha' : a = label := by simpa using hlabel
  subst ha'
  refine ⟨ha, ?_⟩
  rw [List.length_findIdxs] at hcount
  obtain ⟨hlt, hget⟩ := List.getElem?_eq_some_iff.mp ha
  -- All but one of the occurrences are before the position, and one is there.
  have hsplit : newFiles.countP (· == a) = (newFiles.take position).countP (· == a)
      + (1 + (newFiles.drop (position + 1)).countP (· == a)) := by
    conv_lhs => rw [← List.take_append_drop position newFiles]
    rw [List.countP_append, List.drop_eq_getElem_cons hlt, hget, List.countP_cons]
    simp
    omega
  have hnone : (newFiles.drop (position + 1)).countP (· == a) = 0 := by omega
  intro hmem
  have hpositive : 0 < (newFiles.drop (position + 1)).countP (· == a) :=
    List.countP_pos_iff.mpr ⟨a, hmem, beq_self_eq_true a⟩
  omega

theorem retainedIndex_some {index position : Nat}
    (h : retainedIndex currentFiles newFiles index = some position) :
    RetainedAt currentFiles newFiles index position := by
  cases hlabel : currentFiles[index]? with
  | none =>
    unfold retainedIndex at h
    rw [hlabel] at h
    cases h
  | some label =>
    rw [retainedIndex_of_label hlabel] at h
    refine ⟨label, hlabel, ?_⟩
    cases hnth : (newFiles.findIdxs (· == label))[(currentFiles.take index).count label]? with
    | some found =>
      rw [hnth] at h
      cases h
      obtain ⟨-, ⟨a, ha, heq⟩, hcount⟩ := nth_findIdxs hnth
      rw [Nat.sub_zero] at ha hcount
      have ha' : a = label := by simpa using heq
      subst ha'
      exact ⟨ha, .inl hcount⟩
    | none =>
      rw [hnth] at h
      obtain ⟨hat, hlast⟩ := last_findIdxs h
      refine ⟨hat, .inr ⟨?_, hlast⟩⟩
      have hfew := List.getElem?_eq_none_iff.mp hnth
      rw [List.length_findIdxs] at hfew
      exact hfew

/-- A search for a row fails exactly when its label is gone. -/
theorem retainedIndex_ne_none {index : Nat} :
    retainedIndex currentFiles newFiles index ≠ none ↔ Occurs currentFiles newFiles index := by
  constructor
  · intro h
    obtain ⟨position, hposition⟩ := Option.ne_none_iff_exists'.mp h
    obtain ⟨label, hlabel, hat, -⟩ := retainedIndex_some hposition
    exact ⟨label, List.mem_of_getElem? hat, hlabel⟩
  · rintro ⟨label, hmem, hlabel⟩ hnone
    rw [retainedIndex_of_label hlabel] at hnone
    have hempty : (newFiles.findIdxs (· == label)).getLast? = none := by
      cases hnth : (newFiles.findIdxs (· == label))[(currentFiles.take index).count label]? with
      | some found =>
        rw [hnth] at hnone
        cases hnone
      | none =>
        rw [hnth] at hnone
        exact hnone
    have hnil := List.findIdxs_eq_nil_iff.mp (List.getLast?_eq_none_iff.mp hempty) label hmem
    simp at hnil

theorem RetainedAt.lt {index position : Nat} (h : RetainedAt currentFiles newFiles index position) :
    position < newFiles.length := by
  obtain ⟨label, -, hat, -⟩ := h
  exact (List.getElem?_eq_some_iff.mp hat).1

/-- The first search finds the nearest row from the selected one on. -/
theorem retainedFrom_some {index position : Nat}
    (h : retainedFrom currentFiles newFiles index = some position) :
    ∃ j, index ≤ j ∧ RetainedAt currentFiles newFiles j position
      ∧ ∀ k, index ≤ k → Occurs currentFiles newFiles k → j ≤ k := by
  obtain ⟨j, hj, hretained, hothers⟩ := first_of_findSome? List.pairwise_lt_range' h
  refine ⟨j, (List.mem_range'_1.mp hj).1, retainedIndex_some hretained, fun k hk hoccurs => ?_⟩
  have hlt : k < currentFiles.length := by
    obtain ⟨label, -, hlabel⟩ := hoccurs
    exact (List.getElem?_eq_some_iff.mp hlabel).1
  rcases hothers k (List.mem_range'_1.mpr ⟨hk, by omega⟩) (retainedIndex_ne_none.mpr hoccurs) with
    rfl | hlater
  · exact Nat.le_refl _
  · omega

theorem retainedFrom_none {index : Nat} (h : retainedFrom currentFiles newFiles index = none) :
    ∀ k, index ≤ k → ¬Occurs currentFiles newFiles k := by
  intro k hk hoccurs
  have hlt : k < currentFiles.length := by
    obtain ⟨label, -, hlabel⟩ := hoccurs
    exact (List.getElem?_eq_some_iff.mp hlabel).1
  have hmiss := List.findSome?_eq_none_iff.mp h k (List.mem_range'_1.mpr ⟨hk, by omega⟩)
  exact retainedIndex_ne_none.mpr hoccurs hmiss

/-- The second search finds the nearest row before the selected one, but never
    the first row. -/
theorem retainedBefore_some {index target : Nat}
    (h : retainedBefore currentFiles newFiles index = some target) :
    ∃ j p, 1 ≤ j ∧ j ≤ index ∧ RetainedAt currentFiles newFiles j p
      ∧ (target = if p + 1 < newFiles.length then p + 1 else p)
      ∧ ∀ k, 1 ≤ k → k ≤ index → Occurs currentFiles newFiles k → k ≤ j := by
  obtain ⟨p, hp, htarget⟩ := Option.map_eq_some_iff.mp h
  have hordered : (List.range' 1 index).reverse.Pairwise (fun a b => b < a) :=
    List.pairwise_reverse.mpr List.pairwise_lt_range'
  obtain ⟨j, hj, hretained, hothers⟩ := first_of_findSome? hordered hp
  obtain ⟨hone, hle⟩ := List.mem_range'_1.mp (List.mem_reverse.mp hj)
  refine ⟨j, p, hone, by omega, retainedIndex_some hretained, ?_, fun k hk hkle hoccurs => ?_⟩
  · rw [← htarget]
    have hcondition : (p < newFiles.length - 1) = (p + 1 < newFiles.length) := by
      rw [eq_iff_iff]
      omega
    simp only [hcondition]
  · rcases hothers k (List.mem_reverse.mpr (List.mem_range'_1.mpr ⟨hk, by omega⟩))
      (retainedIndex_ne_none.mpr hoccurs) with rfl | hearlier
    · exact Nat.le_refl _
    · omega

theorem retainedBefore_none {index : Nat} (h : retainedBefore currentFiles newFiles index = none) :
    ∀ k, 1 ≤ k → k ≤ index → ¬Occurs currentFiles newFiles k := by
  intro k hk hkle hoccurs
  have hmiss := List.findSome?_eq_none_iff.mp (Option.map_eq_none_iff.mp h) k
    (List.mem_reverse.mpr (List.mem_range'_1.mpr ⟨hk, by omega⟩))
  exact retainedIndex_ne_none.mpr hoccurs hmiss

/-! ### The selected row follows the media -/

/-- The row to select when the playlist changes under the selected row: where the
    row went, else where the nearest later row went, else the row after where the
    nearest earlier row went, rows before `first` aside. -/
structure FollowsMediaFrom (first : Nat) (currentFiles newFiles : List String)
    (index target : Nat) : Prop where
  valid : target < newFiles.length
  kept : Occurs currentFiles newFiles index → RetainedAt currentFiles newFiles index target
  later : ∀ j, index < j → Occurs currentFiles newFiles j →
    (∀ k, index ≤ k → k < j → ¬Occurs currentFiles newFiles k) →
      RetainedAt currentFiles newFiles j target
  earlier : (∀ k, index ≤ k → ¬Occurs currentFiles newFiles k) →
    ∀ j, first ≤ j → j < index → Occurs currentFiles newFiles j →
      (∀ k, j < k → k < index → ¬Occurs currentFiles newFiles k) →
        ∃ p, RetainedAt currentFiles newFiles j p
          ∧ target = if p + 1 < newFiles.length then p + 1 else p

/-- Every earlier row counts. -/
abbrev FollowsMedia : List String → List String → Nat → Nat → Prop := FollowsMediaFrom 0

/-- The second search stops short of the first row. -/
theorem targetIndex_followsMedia_iff (hnew : newFiles ≠ []) (index : Nat) :
    FollowsMedia currentFiles newFiles index
        (localPlaylistTargetIndexFromChangedPlaylist currentFiles newFiles (some index)) ↔
      newFiles.length = 1 ∨ index = 0 ∨ ¬Occurs currentFiles newFiles 0
        ∨ ∃ j, 1 ≤ j ∧ Occurs currentFiles newFiles j := by
  have hpositive : 0 < newFiles.length := List.length_pos_iff.mpr hnew
  unfold localPlaylistTargetIndexFromChangedPlaylist
  dsimp only
  by_cases hsingle : newFiles.length = 1
  · rw [if_pos (by omega)]
    refine ⟨fun _ => .inl hsingle, fun _ => ?_⟩
    -- The only row is the only answer.
    have hretained : ∀ j, Occurs currentFiles newFiles j →
        RetainedAt currentFiles newFiles j 0 := by
      intro j hoccurs
      obtain ⟨p, hp⟩ := Option.ne_none_iff_exists'.mp (retainedIndex_ne_none.mpr hoccurs)
      have hat := retainedIndex_some hp
      have hzero : p = 0 := by
        have hlt := hat.lt
        omega
      rw [hzero] at hat
      exact hat
    refine ⟨hpositive, hretained index, fun j _ hoccurs _ => hretained j hoccurs, ?_⟩
    intro _ j _ _ hoccurs _
    refine ⟨0, hretained j hoccurs, ?_⟩
    rw [if_neg (by omega)]
  rw [if_neg (by omega)]
  cases hfrom : retainedFrom currentFiles newFiles index with
  | some position =>
    obtain ⟨j, hj, hretained, hnearest⟩ := retainedFrom_some hfrom
    have hoccurs : Occurs currentFiles newFiles j := by
      obtain ⟨label, hlabel, hat, -⟩ := hretained
      exact ⟨label, List.mem_of_getElem? hat, hlabel⟩
    constructor
    · intro _
      by_cases hzero : index = 0
      · exact .inr (.inl hzero)
      · exact .inr (.inr (.inr ⟨j, by omega, hoccurs⟩))
    · intro _
      refine ⟨hretained.lt, fun hself => ?_, fun k hk hkoccurs hnone => ?_, fun hnone => ?_⟩
      · have heq : j = index := Nat.le_antisymm (hnearest index (Nat.le_refl _) hself) hj
        rw [← heq]
        exact hretained
      · have hle := hnearest k (Nat.le_of_lt hk) hkoccurs
        have heq : j = k := by
          by_contra hne
          exact hnone j hj (by omega) hoccurs
        rw [← heq]
        exact hretained
      · exact absurd hoccurs (hnone j hj)
  | none =>
    have hgone := retainedFrom_none hfrom
    have hnotkept : ¬Occurs currentFiles newFiles index := hgone index (Nat.le_refl _)
    have hlater : ∀ t j, index < j → Occurs currentFiles newFiles j →
        (∀ k, index ≤ k → k < j → ¬Occurs currentFiles newFiles k) →
          RetainedAt currentFiles newFiles j t :=
      fun t j hj hoccurs _ => absurd hoccurs (hgone j (Nat.le_of_lt hj))
    cases hbefore : retainedBefore currentFiles newFiles index with
    | some target =>
      obtain ⟨j, p, hone, hle, hretained, htarget, hnearest⟩ := retainedBefore_some hbefore
      have hoccurs : Occurs currentFiles newFiles j := by
        obtain ⟨label, hlabel, hat, -⟩ := hretained
        exact ⟨label, List.mem_of_getElem? hat, hlabel⟩
      refine ⟨fun _ => .inr (.inr (.inr ⟨j, hone, hoccurs⟩)), fun _ => ?_⟩
      refine ⟨?_, fun hself => absurd hself hnotkept, hlater _, ?_⟩
      · have hlt := hretained.lt
        dsimp only [Option.getD_some]
        rw [htarget]
        split <;> omega
      · intro _ k _ hk hkoccurs hnone
        have heq : j = k := by
          by_contra hne
          rcases Nat.lt_or_gt_of_ne hne with hlt | hgt
          · have hkj := hnearest k (by omega) (by omega) hkoccurs
            omega
          · have hself : j ≠ index := by
              rintro rfl
              exact hnotkept hoccurs
            exact hnone j hgt (by omega) hoccurs
        rw [← heq]
        exact ⟨p, hretained, htarget⟩
    | none =>
      have hmissed := retainedBefore_none hbefore
      constructor
      · intro hfollows
        by_contra hcondition
        simp only [not_or, not_exists, not_and, not_not] at hcondition
        obtain ⟨-, hzero, hfirst, hnone⟩ := hcondition
        obtain ⟨p, hretained, htarget⟩ := hfollows.earlier hgone 0 (by omega) (by omega) hfirst
          fun k hk _ => hnone k (by omega)
        have hlt := hretained.lt
        dsimp only [Option.getD_none] at htarget
        split at htarget <;> omega
      · intro hcondition
        refine ⟨hpositive, fun hself => absurd hself hnotkept, hlater _, ?_⟩
        intro _ j _ hj hoccurs _
        -- Only the first row is left, and the condition says it is gone too.
        have hzero : j = 0 := by
          by_contra hne
          exact hmissed j (by omega) (Nat.le_of_lt hj) hoccurs
        subst hzero
        rcases hcondition with h | h | h | ⟨k, hk, hkoccurs⟩
        · exact absurd h hsingle
        · omega
        · exact absurd hoccurs h
        · by_cases hle : k ≤ index
          · exact absurd hkoccurs (hmissed k hk hle)
          · exact absurd hkoccurs (hgone k (by omega))

/-- Where only the first row is left, if any, the new first row is selected. -/
theorem targetIndex_first {index : Nat} (hself : ¬Occurs currentFiles newFiles index)
    (hgone : ∀ k, 1 ≤ k → ¬Occurs currentFiles newFiles k) :
    localPlaylistTargetIndexFromChangedPlaylist currentFiles newFiles (some index) = 0 := by
  unfold localPlaylistTargetIndexFromChangedPlaylist
  dsimp only
  split
  · rfl
  · have hfrom : retainedFrom currentFiles newFiles index = none := by
      by_contra hsome
      obtain ⟨position, hposition⟩ := Option.ne_none_iff_exists'.mp hsome
      obtain ⟨j, hj, ⟨label, hlabel, hat, -⟩, -⟩ := retainedFrom_some hposition
      have hoccurs : Occurs currentFiles newFiles j := ⟨label, List.mem_of_getElem? hat, hlabel⟩
      by_cases hzero : j = 0
      · obtain rfl : j = index := by omega
        exact hself hoccurs
      · exact hgone j (by omega) hoccurs
    have hbefore : retainedBefore currentFiles newFiles index = none := by
      by_contra hsome
      obtain ⟨target, htarget⟩ := Option.ne_none_iff_exists'.mp hsome
      obtain ⟨j, p, hone, -, ⟨label, hlabel, hat, -⟩, -⟩ := retainedBefore_some htarget
      exact hgone j hone ⟨label, List.mem_of_getElem? hat, hlabel⟩
    rw [hfrom, hbefore]
    rfl

/-- **The selected row follows the media**, as far as the second search looks. -/
theorem targetIndex_followsMediaFrom (hnew : newFiles ≠ []) (index : Nat) :
    FollowsMediaFrom 1 currentFiles newFiles index
      (localPlaylistTargetIndexFromChangedPlaylist currentFiles newFiles (some index)) := by
  by_cases hfollows : newFiles.length = 1 ∨ index = 0 ∨ ¬Occurs currentFiles newFiles 0
      ∨ ∃ j, 1 ≤ j ∧ Occurs currentFiles newFiles j
  · obtain ⟨hvalid, hkept, hlater, hearlier⟩ := (targetIndex_followsMedia_iff hnew index).mpr hfollows
    exact ⟨hvalid, hkept, hlater, fun hnone j _ => hearlier hnone j (Nat.zero_le j)⟩
  · -- only the first row is left, which no clause speaks of
    simp only [not_or, not_exists, not_and] at hfollows
    obtain ⟨-, hindex, -, hgone⟩ := hfollows
    have hself := hgone index (by omega)
    rw [targetIndex_first hself hgone]
    refine ⟨List.length_pos_iff.mpr hnew, fun hoccurs => absurd hoccurs hself, ?_, ?_⟩
    · intro j hj hoccurs
      exact absurd hoccurs (hgone j (by omega))
    · intro _ j hone _ hoccurs
      exact absurd hoccurs (hgone j hone)

/-- A playlist that does not change keeps its selection. -/
theorem targetIndex_self {index : Nat} (h : index < currentFiles.length) :
    localPlaylistTargetIndexFromChangedPlaylist currentFiles currentFiles (some index) = index := by
  have hself : Occurs currentFiles currentFiles index :=
    ⟨currentFiles[index], List.getElem_mem h, List.getElem?_eq_getElem h⟩
  unfold localPlaylistTargetIndexFromChangedPlaylist
  dsimp only
  split
  · omega
  · cases hfrom : retainedFrom currentFiles currentFiles index with
    | none => exact absurd hself (retainedFrom_none hfrom index (Nat.le_refl _))
    | some position =>
      obtain ⟨j, hj, hretained, hnearest⟩ := retainedFrom_some hfrom
      have heq : j = index := Nat.le_antisymm (hnearest index (Nat.le_refl _) hself) hj
      subst heq
      obtain ⟨label, hlabel, hat, hcount | ⟨hfew, -⟩⟩ := hretained
      · -- Two positions with the same label and as many of it before are one.
        obtain ⟨hlt, hget⟩ := List.getElem?_eq_some_iff.mp hat
        obtain ⟨-, hget'⟩ := List.getElem?_eq_some_iff.mp hlabel
        have hgrows : ∀ a b : Nat, a < b → currentFiles[a]? = some label →
            (currentFiles.take a).count label < (currentFiles.take b).count label := by
          intro a b hab ha
          have hstep : (currentFiles.take (a + 1)).count label =
              (currentFiles.take a).count label + 1 := by
            rw [List.take_add_one, ha, List.count_append]
            simp
          have hmono : (currentFiles.take (a + 1)).count label ≤
              (currentFiles.take b).count label :=
            (List.take_sublist_take_left (by omega)).count_le label
          omega
        by_contra hne
        rcases Nat.lt_or_gt_of_ne hne with hlt' | hgt
        · have hless := hgrows position j hlt' hat
          omega
        · have hless := hgrows j position hgt hlabel
          omega
      · have hless : (currentFiles.take j).count label < currentFiles.count label := by
          have hstep : (currentFiles.take (j + 1)).count label =
              (currentFiles.take j).count label + 1 := by
            rw [List.take_add_one, hlabel, List.count_append]
            simp
          have hmono : (currentFiles.take (j + 1)).count label ≤ currentFiles.count label :=
            (List.take_sublist _ _).count_le label
          omega
        omega

end rows

end Sorotte.Session
