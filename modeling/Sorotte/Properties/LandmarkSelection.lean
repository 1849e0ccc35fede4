import Sorotte.Fingerprint.Selection

/-! # Landmark selection keeps what it must

  What is selected for the index is as much as fits, of every minute the best,
  and from the minutes in turns.  The one thing that goes wrong is a limit below
  32 on a long file.
-/

namespace Sorotte.Fingerprint

open Sorotte.Framework.RoundRobin

/-! ### Orders and counts -/

/-- By `(t_ms, hash)`. -/
def TimeLe (first second : AudioLandmarkV3) : Prop :=
  first.tMs < second.tMs ∨ first.tMs = second.tMs ∧ first.hash ≤ second.hash

/-- By weight, the larger first, then by `(t_ms, hash)`. -/
def Precedes (first second : AudioLandmarkV3) : Prop :=
  second.weight < first.weight
    ∨ first.weight = second.weight ∧ (first.tMs < second.tMs
      ∨ first.tMs = second.tMs ∧ first.hash < second.hash)

/-- How many of the landmarks are of the minute. -/
def countIn (region : Nat) (landmarks : List AudioLandmarkV3) : Nat :=
  landmarks.countP fun landmark => landmark.region = region

theorem sortLandmarks_timeLe (landmarks : List AudioLandmarkV3) :
    (sortLandmarks landmarks).Pairwise TimeLe := by
  apply (sortByKey_pairwise _ landmarks).imp
  intro first second hle
  simp only [keyLe] at hle
  rw [TimeLe, UInt32.lt_iff_toNat_lt, UInt32.le_iff_toNat_le, ← UInt32.toNat_inj]
  omega

theorem precedes_of_better {first second : AudioLandmarkV3}
    (h : Better first.entry second.entry) (hne : first ≠ second) : Precedes first second := by
  obtain ⟨hash, tMs, weight⟩ := first
  obtain ⟨hash', tMs', weight'⟩ := second
  simp only [Better, AudioLandmarkHeapEntryV3.rank, AudioLandmarkHeapEntryV3.inverseWeight,
    AudioLandmarkV3.entry, AudioLandmarkV3.keyV3, keyLe] at h
  have hw := weight.toNat_lt
  have hw' := weight'.toNat_lt
  have hdistinct : ¬ (hash.toNat = hash'.toNat ∧ tMs.toNat = tMs'.toNat
      ∧ weight.toNat = weight'.toNat) := by
    rintro ⟨hhash, htime, hweight⟩
    apply hne
    rw [UInt32.toNat_inj.mp hhash, UInt32.toNat_inj.mp htime, UInt8.toNat_inj.mp hweight]
  simp only [Precedes, UInt8.lt_iff_toNat_lt, UInt32.lt_iff_toNat_lt, ← UInt32.toNat_inj,
    ← UInt8.toNat_inj]
  omega

theorem better_of_take {landmarks : List AudioLandmarkV3} {n : Nat} {a b : AudioLandmarkV3}
    (ha : a ∈ (rankLandmarks landmarks).take n) (hb : b ∈ landmarks)
    (hnot : b ∉ (rankLandmarks landmarks).take n) : Better a.entry b.entry := by
  have hranked : (rankLandmarks landmarks).Pairwise fun first second =>
      Better first.entry second.entry := sortByKey_pairwise _ landmarks
  have hsplit := List.take_append_drop n (rankLandmarks landmarks)
  rw [← hsplit, List.pairwise_append] at hranked
  apply hranked.2.2 a ha b
  have hmem : b ∈ rankLandmarks landmarks := (rankLandmarks_perm _).mem_iff.mpr hb
  rw [← hsplit, List.mem_append] at hmem
  exact hmem.resolve_left hnot

/-! ### Selecting in turns -/

/-- What a selection in turns gives. -/
structure InTurns (landmarks : List AudioLandmarkV3) (limit : Nat)
    (selected : List AudioLandmarkV3) : Prop where
  submultiset : selected.Subperm landmarks
  length : selected.length = min limit landmarks.length
  spread : ∀ region region', countIn region selected + 2 ≤ countIn region' selected →
    countIn region selected = countIn region landmarks
  ranked : ∀ a ∈ selected, ∀ b ∈ landmarks, b ∉ selected → a.region = b.region → Precedes a b

theorem InTurns.perm {landmarks selected selected' : List AudioLandmarkV3} {limit : Nat}
    (h : InTurns landmarks limit selected) (hperm : selected'.Perm selected) :
    InTurns landmarks limit selected' := by
  have hcount : ∀ region, countIn region selected' = countIn region selected :=
    fun region => hperm.countP_eq _
  refine ⟨hperm.subperm.trans h.submultiset, hperm.length_eq.trans h.length, ?_, ?_⟩
  · intro region region' hahead
    rw [hcount, hcount] at hahead
    rw [hcount]
    exact h.spread region region' hahead
  · intro a ha b hb hnot
    rw [hperm.mem_iff] at ha hnot
    exact h.ranked a ha b hb hnot

/-- Everything is selected. -/
theorem inTurns_all {landmarks : List AudioLandmarkV3} {limit : Nat}
    (h : landmarks.length ≤ limit) : InTurns landmarks limit landmarks where
  submultiset := List.Subperm.refl _
  length := (min_eq_right h).symm
  spread _ _ _ := rfl
  ranked _ _ _ hb hnot := absurd hb hnot

theorem inTurns_none (landmarks : List AudioLandmarkV3) : InTurns landmarks 0 [] where
  submultiset := List.nil_subperm
  length := by simp
  spread region region' h := by simp [countIn] at h
  ranked := by simp

theorem inTurns_deal {landmarks : List AudioLandmarkV3} (h : landmarks.Nodup) (limit : Nat) :
    InTurns landmarks limit (deal limit (regionQueues landmarks) []).2 := by
  have hkeyed := keyed_regionQueues landmarks
  have hitems := regionQueues_items h
  obtain ⟨hlength, hfront, hfair, hsub⟩ := deal_fair hkeyed
    (fun q hq => (mem_regionQueues.mp hq).2.2) limit
  set dealt := (deal limit (regionQueues landmarks) []).2
  have hqueue : ∀ region, (∃ landmark ∈ landmarks, landmark.region = region) →
      (⟨region, rankLandmarks (landmarks.filter fun landmark => landmark.region = region), 0⟩ :
        Queue Nat AudioLandmarkV3) ∈ regionQueues landmarks := fun region hsome =>
    mem_regionQueues.mpr ⟨hsome, rfl, rfl⟩
  have hlandmark : ∀ a ∈ dealt, a ∈ landmarks := fun a ha =>
    hitems.mem_iff.mp (hsub.subset ha)
  have hsize : ∀ region, (rankLandmarks (landmarks.filter fun landmark =>
      landmark.region = region)).length = countIn region landmarks := by
    intro region
    rw [(rankLandmarks_perm _).length_eq, countIn, List.countP_eq_length_filter]
  refine ⟨hsub.trans hitems.subperm, by rw [hlength, hitems.length_eq], ?_, ?_⟩
  · intro region region' hahead
    have hle : countIn region dealt ≤ countIn region landmarks :=
      (hsub.trans hitems.subperm).countP_le _
    by_cases hsome : ∃ landmark ∈ landmarks, landmark.region = region
    · have hsome' : ∃ landmark ∈ landmarks, landmark.region = region' := by
        have hpositive : 0 < countIn region' dealt := by omega
        obtain ⟨a, ha, hregion⟩ := List.countP_pos_iff.mp hpositive
        exact ⟨a, hlandmark a ha, by simpa using hregion⟩
      have hexhausted := hfair _ (hqueue region hsome) _ (hqueue region' hsome') hahead
      rw [hsize] at hexhausted
      exact le_antisymm hle hexhausted
    · -- a minute without landmarks is exhausted from the start
      have hnone : countIn region landmarks = 0 := by
        rw [countIn, List.countP_eq_zero]
        intro landmark hlandmark
        simp only [decide_eq_true_eq]
        intro hregion
        exact hsome ⟨landmark, hlandmark, hregion⟩
      omega
  · intro a ha b hb hnot hregion
    have hfront := hfront _ (hqueue b.region ⟨b, hb, rfl⟩)
    dsimp only at hfront
    have ha' : a ∈ dealt.filter fun landmark => landmark.region = b.region := by
      simp [ha, hregion]
    have hnot' : b ∉ dealt.filter fun landmark => landmark.region = b.region := by
      simp [hnot]
    rw [hfront.mem_iff] at ha' hnot'
    apply precedes_of_better (better_of_take ha' (by simp [hb]) hnot')
    rintro rfl
    exact hnot ha

theorem inTurns_select {landmarks : List AudioLandmarkV3} (h : landmarks.Nodup) (limit : Nat) :
    InTurns landmarks limit (selectTimeDistributedAudioLandmarksV3 landmarks limit) := by
  unfold selectTimeDistributedAudioLandmarksV3
  by_cases hzero : limit = 0
  · simp only [hzero, decide_true, Bool.true_or, if_true]
    exact inTurns_none landmarks
  · by_cases hempty : landmarks = []
    · simp only [hempty, List.isEmpty_nil, Bool.or_true, if_true]
      exact inTurns_all (by simp)
    · simp only [hzero, List.isEmpty_eq_false_iff.mpr hempty, decide_false, Bool.or_self,
        Bool.false_eq_true, if_false]
      by_cases hfits : landmarks.length ≤ limit
      · rw [if_pos hfits]
        exact (inTurns_all hfits).perm (sortLandmarks_self _)
      · rw [if_neg hfits]
        exact (inTurns_deal h limit).perm (sortLandmarks_self _)

theorem select_sorted (landmarks : List AudioLandmarkV3) (limit : Nat) :
    (selectTimeDistributedAudioLandmarksV3 landmarks limit).Pairwise TimeLe := by
  unfold selectTimeDistributedAudioLandmarksV3
  split
  · exact List.Pairwise.nil
  · split
    · exact sortLandmarks_timeLe _
    · exact sortLandmarks_timeLe _

/-! ### Filling up -/

/-- The keys of the landmarks tell them apart. -/
def Told (landmarks : List AudioLandmarkV3) : Prop :=
  ∀ a ∈ landmarks, ∀ b ∈ landmarks, a.keyV3 = b.keyV3 → a = b

/-- What filling up gives: no landmark twice, no more than asked for, and with
    fewer than asked for everything there is. -/
theorem fillSelected_spec {landmarks : List AudioLandmarkV3} (htold : Told landmarks) (limit : Nat)
    {fill selected : List AudioLandmarkV3} {keys : List AudioLandmarkKeyV3}
    (hfill : ∀ landmark ∈ fill, landmark ∈ landmarks)
    (hselected : ∀ landmark ∈ selected, landmark ∈ landmarks)
    (hkeys : ∀ key, key ∈ keys ↔ ∃ landmark ∈ selected, landmark.keyV3 = key)
    (hnodup : selected.Nodup) (hbounded : selected.length ≤ limit) :
    let filled := fillSelected limit fill selected keys
    filled.Nodup ∧ filled.length ≤ limit ∧ (∀ landmark ∈ filled, landmark ∈ landmarks)
      ∧ (∀ landmark ∈ selected, landmark ∈ filled)
      ∧ (filled.length < limit → ∀ landmark ∈ fill, landmark ∈ filled) := by
  induction fill generalizing selected keys with
  | nil => exact ⟨hnodup, hbounded, hselected, fun _ h => h, fun _ _ h => by cases h⟩
  | cons landmark fill ih =>
    have hrest : ∀ other ∈ fill, other ∈ landmarks := fun other hother => hfill other (by simp [hother])
    have hhere : landmark ∈ landmarks := hfill landmark (by simp)
    unfold fillSelected
    by_cases hfull : limit ≤ selected.length
    · rw [if_pos hfull]
      exact ⟨hnodup, hbounded, hselected, fun _ h => h, fun hless => absurd hfull (not_le.mpr hless)⟩
    · rw [if_neg hfull]
      by_cases hknown : landmark.keyV3 ∈ keys
      · rw [if_pos hknown]
        obtain ⟨hn, hb, hl, hs, hall⟩ := ih hrest hselected hkeys hnodup hbounded
        refine ⟨hn, hb, hl, hs, ?_⟩
        intro hless other hother
        rcases List.mem_cons.mp hother with rfl | hother
        · obtain ⟨held, hheld, hsame⟩ := (hkeys _).mp hknown
          rw [← htold held (hselected held hheld) other hhere hsame]
          exact hs held hheld
        · exact hall hless other hother
      · rw [if_neg hknown]
        have hfresh : landmark ∉ selected := fun hmem =>
          hknown ((hkeys _).mpr ⟨landmark, hmem, rfl⟩)
        obtain ⟨hn, hb, hl, hs, hall⟩ := @ih (selected ++ [landmark]) (landmark.keyV3 :: keys) hrest
          (by
            intro other hother
            rcases List.mem_append.mp hother with hother | hother
            · exact hselected other hother
            · rw [List.mem_singleton.mp hother]
              exact hhere)
          (by
            intro key
            rw [List.mem_cons, hkeys]
            constructor
            · rintro (rfl | ⟨other, hother, hsame⟩)
              · exact ⟨landmark, by simp, rfl⟩
              · exact ⟨other, by simp [hother], hsame⟩
            · rintro ⟨other, hother, hsame⟩
              rcases List.mem_append.mp hother with hother | hother
              · exact .inr ⟨other, hother, hsame⟩
              · rw [List.mem_singleton.mp hother] at hsame
                exact .inl hsame.symm)
          (by
            rw [List.nodup_append]
            refine ⟨hnodup, List.nodup_singleton _, ?_⟩
            intro other hother fresh hmem
            rw [List.mem_singleton.mp hmem]
            rintro rfl
            exact hfresh hother)
          (by rw [List.length_append, List.length_singleton]; omega)
        refine ⟨hn, hb, hl, fun other hother => hs other (by simp [hother]), ?_⟩
        intro hless other hother
        rcases List.mem_cons.mp hother with rfl | hother
        · exact hs other (by simp)
        · exact hall hless other hother

/-! ### Long files -/

/-- The parts of a long file take no landmark twice and stay within the limit. -/
theorem selectParts_spec {landmarks : List AudioLandmarkV3} (h : landmarks.Nodup)
    (durationMs : Nat) {limit edgeTotalLimit : Nat} (hedge : edgeTotalLimit ≤ limit) :
    let selected := selectParts landmarks durationMs limit edgeTotalLimit
    selected.Nodup ∧ selected.length ≤ limit ∧ ∀ landmark ∈ selected, landmark ∈ landmarks := by
  unfold selectParts
  dsimp only
  set edgeMs := audioSelectionEdgeRegionMs durationMs
  have hpart : ∀ (p : AudioLandmarkV3 → Bool) (n : Nat),
      (selectTimeDistributedAudioLandmarksV3 (landmarks.filter p) n).Nodup
        ∧ (selectTimeDistributedAudioLandmarksV3 (landmarks.filter p) n).length ≤ n
        ∧ ∀ landmark ∈ selectTimeDistributedAudioLandmarksV3 (landmarks.filter p) n,
          landmark ∈ landmarks ∧ p landmark = true := by
    intro p n
    have hnodup := h.filter p
    have hturns := inTurns_select hnodup n
    refine ⟨?_, ?_, ?_⟩
    · obtain ⟨kept, hkept, hsub⟩ := hturns.submultiset
      exact hkept.nodup_iff.mp (hnodup.sublist hsub)
    · rw [hturns.length]
      exact min_le_left _ _
    · intro landmark hlandmark
      exact List.mem_filter.mp (hturns.submultiset.subset hlandmark)
  obtain ⟨hbody, hbody_length, hbody_mem⟩ := hpart (fun landmark =>
    !decide (landmark.tMs.toNat < edgeMs) && !decide (durationMs - edgeMs ≤ landmark.tMs.toNat))
    (limit - edgeTotalLimit)
  obtain ⟨hstart, hstart_length, hstart_mem⟩ := hpart (fun landmark =>
    decide (landmark.tMs.toNat < edgeMs)) (edgeTotalLimit / 2)
  obtain ⟨hend, hend_length, hend_mem⟩ := hpart (fun landmark =>
    !decide (landmark.tMs.toNat < edgeMs) && decide (durationMs - edgeMs ≤ landmark.tMs.toNat))
    (edgeTotalLimit - edgeTotalLimit / 2)
  refine ⟨?_, ?_, ?_⟩
  · rw [List.nodup_append, List.nodup_append]
    refine ⟨⟨hbody, hstart, ?_⟩, hend, ?_⟩
    · intro a ha b hb
      have hp := (hbody_mem a ha).2
      have hp' := (hstart_mem b hb).2
      rintro rfl
      simp_all
    · intro a ha b hb
      have hp' := (hend_mem b hb).2
      rintro rfl
      rcases List.mem_append.mp ha with ha | ha
      · have hp := (hbody_mem a ha).2
        simp_all
      · have hp := (hstart_mem a ha).2
        simp_all
  · rw [List.length_append, List.length_append]
    omega
  · intro landmark hlandmark
    rcases List.mem_append.mp hlandmark with hlandmark | hlandmark
    · rcases List.mem_append.mp hlandmark with hlandmark | hlandmark
      · exact (hbody_mem landmark hlandmark).1
      · exact (hstart_mem landmark hlandmark).1
    · exact (hend_mem landmark hlandmark).1

/-- A long file's selection, from an edge limit that is within the limit. -/
def selectLong (landmarks : List AudioLandmarkV3) (durationMs limit edgeTotalLimit : Nat) :
    List AudioLandmarkV3 :=
  let selected := selectParts landmarks durationMs limit edgeTotalLimit
  let selected :=
    if selected.length < limit then
      fillSelected limit (landmarks.insertionSort FillLe) selected (selected.map AudioLandmarkV3.keyV3)
    else selected
  (sortLandmarks selected).take limit

theorem selectLong_spec {landmarks : List AudioLandmarkV3} (h : landmarks.Nodup)
    (htold : Told landmarks) (durationMs : Nat) {limit edgeTotalLimit : Nat}
    (hedge : edgeTotalLimit ≤ limit) (hmore : limit < landmarks.length) :
    let selected := selectLong landmarks durationMs limit edgeTotalLimit
    selected.Pairwise TimeLe ∧ selected.Subperm landmarks ∧ selected.length = limit := by
  obtain ⟨hnodup, hbounded, hmem⟩ := selectParts_spec h durationMs hedge
  unfold selectLong
  dsimp only
  set parts := selectParts landmarks durationMs limit edgeTotalLimit
  obtain ⟨hn, hb, hl, -, hall⟩ := @fillSelected_spec landmarks htold limit
    (landmarks.insertionSort FillLe) parts (parts.map AudioLandmarkV3.keyV3)
    (fun landmark hlandmark => (List.mem_insertionSort FillLe).mp hlandmark) hmem
    (fun key => by rw [List.mem_map]) hnodup hbounded
  set filled := fillSelected limit (landmarks.insertionSort FillLe) parts
    (parts.map AudioLandmarkV3.keyV3)
  have hfull : filled.length = limit := by
    by_contra hne
    have hsub : landmarks ⊆ filled := fun landmark hlandmark =>
      hall (by omega) landmark ((List.mem_insertionSort FillLe).mpr hlandmark)
    have hle := (List.subperm_of_subset h hsub).length_le
    omega
  have hresult : ∀ selected : List AudioLandmarkV3, selected.Nodup →
      (∀ landmark ∈ selected, landmark ∈ landmarks) → selected.length = limit →
      ((sortLandmarks selected).take limit).Pairwise TimeLe
        ∧ ((sortLandmarks selected).take limit).Subperm landmarks
        ∧ ((sortLandmarks selected).take limit).length = limit := by
    intro selected hselected hsubset hlength
    have hwhole : (sortLandmarks selected).take limit = sortLandmarks selected := by
      apply List.take_of_length_le
      rw [(sortLandmarks_self selected).length_eq, hlength]
    rw [hwhole]
    refine ⟨sortLandmarks_timeLe _, ?_, (sortLandmarks_self selected).length_eq.trans hlength⟩
    exact (sortLandmarks_self selected).subperm.trans (List.subperm_of_subset hselected hsubset)
  by_cases hshort : parts.length < limit
  · rw [if_pos hshort]
    exact hresult filled hn hl hfull
  · rw [if_neg hshort]
    exact hresult parts hnodup hmem (by omega)

/-! ### The whole selection -/

/-- What bounded selection promises of a list of landmarks. -/
structure KeepsLandmarks (landmarks : List AudioLandmarkV3) (limit : Nat)
    (durationSeconds : Option F64) (selected : List AudioLandmarkV3) : Prop where
  sorted : selected.Pairwise TimeLe
  submultiset : selected.Subperm landmarks
  length : selected.length = min limit landmarks.length
  unordered : ∀ landmarks' : List AudioLandmarkV3, landmarks'.Perm landmarks →
    boundedTimeDistributedAudioLandmarksV3ForDuration landmarks' limit durationSeconds = some selected
  spread : (∀ d, durationSeconds = some (.finite d) → d ≤ 600) → ∀ region region',
    countIn region selected + 2 ≤ countIn region' selected →
      countIn region selected = countIn region landmarks
  ranked : (∀ d, durationSeconds = some (.finite d) → d ≤ 600) → ∀ a ∈ selected, ∀ b ∈ landmarks,
    b ∉ selected → a.region = b.region → Precedes a b

/-- The input on which the limit of the edges is clamped between bounds that are
    not in order. -/
def EdgeClampPanics (landmarks : List AudioLandmarkV3) (limit : Nat)
    (durationSeconds : Option F64) : Prop :=
  0 < limit ∧ limit < 32 ∧ limit < landmarks.length
    ∧ ∃ d, durationSeconds = some (.finite d) ∧ 600 < d

theorem longDuration_eq_some {durationSeconds : Option F64} {d : Seconds} :
    longDuration durationSeconds = some d ↔ durationSeconds = some (.finite d) ∧ 600 < d := by
  unfold longDuration
  rw [Option.filter_eq_some_iff, decide_eq_true_eq]
  apply and_congr_left
  intro _
  cases durationSeconds with
  | none => simp
  | some value => cases value <;> simp [F64.finite?]

theorem bounded_perm {landmarks landmarks' : List AudioLandmarkV3} (h : landmarks'.Perm landmarks)
    (limit : Nat) (durationSeconds : Option F64) :
    boundedTimeDistributedAudioLandmarksV3ForDuration landmarks' limit durationSeconds =
      boundedTimeDistributedAudioLandmarksV3ForDuration landmarks limit durationSeconds := by
  unfold boundedTimeDistributedAudioLandmarksV3ForDuration
  rw [sortLandmarks_perm h]

section Cases

variable {landmarks : List AudioLandmarkV3} {limit : Nat} {durationSeconds : Option F64}

theorem bounded_none (landmarks : List AudioLandmarkV3) (durationSeconds : Option F64) :
    boundedTimeDistributedAudioLandmarksV3ForDuration landmarks 0 durationSeconds = some [] := rfl

theorem bounded_all (hlimit : limit ≠ 0) (hfits : landmarks.length ≤ limit)
    (durationSeconds : Option F64) :
    boundedTimeDistributedAudioLandmarksV3ForDuration landmarks limit durationSeconds =
      some (sortLandmarks landmarks) := by
  unfold boundedTimeDistributedAudioLandmarksV3ForDuration
  dsimp only
  rw [if_neg hlimit, if_pos]
  rwa [(sortLandmarks_self landmarks).length_eq]

theorem bounded_short (hlimit : limit ≠ 0) (hmore : limit < landmarks.length)
    (hshort : longDuration durationSeconds = none) :
    boundedTimeDistributedAudioLandmarksV3ForDuration landmarks limit durationSeconds =
      some (selectTimeDistributedAudioLandmarksV3 (sortLandmarks landmarks) limit) := by
  unfold boundedTimeDistributedAudioLandmarksV3ForDuration
  dsimp only
  rw [if_neg hlimit, if_neg, hshort]
  rwa [(sortLandmarks_self landmarks).length_eq, not_le]

theorem bounded_long {d : Seconds} (hlimit : limit ≠ 0) (hmore : limit < landmarks.length)
    (hlong : longDuration durationSeconds = some d) :
    boundedTimeDistributedAudioLandmarksV3ForDuration landmarks limit durationSeconds =
      (clampUsize (limit / 5) 32 limit).map
        (selectLong (sortLandmarks landmarks) (durationMillis d) limit) := by
  unfold boundedTimeDistributedAudioLandmarksV3ForDuration
  dsimp only
  rw [if_neg hlimit, if_neg, hlong]
  · rfl
  · rwa [(sortLandmarks_self landmarks).length_eq, not_le]

end Cases

/-- A selection in turns of the sorted landmarks keeps what it must. -/
theorem keeps_of_inTurns {landmarks selected : List AudioLandmarkV3} {limit : Nat}
    {durationSeconds : Option F64} (hsorted : selected.Pairwise TimeLe)
    (hturns : InTurns (sortLandmarks landmarks) limit selected)
    (hresult : boundedTimeDistributedAudioLandmarksV3ForDuration landmarks limit durationSeconds =
      some selected) : KeepsLandmarks landmarks limit durationSeconds selected := by
  have hperm := sortLandmarks_self landmarks
  refine ⟨hsorted, hturns.submultiset.trans hperm.subperm, ?_, ?_, ?_, ?_⟩
  · rw [hturns.length, hperm.length_eq]
  · intro landmarks' h
    rw [bounded_perm h, hresult]
  · intro _ region region' hahead
    rw [hturns.spread region region' hahead]
    exact hperm.countP_eq _
  · intro _ a ha b hb
    exact hturns.ranked a ha b (hperm.mem_iff.mpr hb)

/-- **Bounded selection** terminates without panicking and keeps what it must
    exactly when the limit of a long file with more landmarks is not below 32. -/
theorem bounded_selection_keeps {landmarks : List AudioLandmarkV3}
    (hdistinct : (landmarks.map AudioLandmarkV3.keyV3).Nodup) (limit : Nat)
    (durationSeconds : Option F64) :
    (∃ selected,
        boundedTimeDistributedAudioLandmarksV3ForDuration landmarks limit durationSeconds =
            some selected
          ∧ KeepsLandmarks landmarks limit durationSeconds selected) ↔
      ¬ EdgeClampPanics landmarks limit durationSeconds := by
  have hperm := sortLandmarks_self landmarks
  have hlength := hperm.length_eq
  have hsorted := sortLandmarks_timeLe landmarks
  have hnodup : (sortLandmarks landmarks).Nodup :=
    hperm.nodup_iff.mpr (List.Nodup.of_map _ hdistinct)
  have hkeys : ((sortLandmarks landmarks).map AudioLandmarkV3.keyV3).Nodup :=
    (hperm.map _).nodup_iff.mpr hdistinct
  have htold : Told (sortLandmarks landmarks) := fun a ha b hb hsame =>
    List.inj_on_of_nodup_map hkeys ha hb hsame
  by_cases hzero : limit = 0
  · have hresult := bounded_none landmarks durationSeconds
    rw [← hzero] at hresult
    refine ⟨fun _ hpanics => ?_, fun _ => ⟨[], hresult, ?_⟩⟩
    · exact absurd hzero (Nat.pos_iff_ne_zero.mp hpanics.1)
    · apply keeps_of_inTurns List.Pairwise.nil _ hresult
      rw [hzero]
      exact inTurns_none _
  by_cases hfits : landmarks.length ≤ limit
  · have hresult := bounded_all hzero hfits durationSeconds
    refine ⟨fun _ hpanics => ?_, fun _ => ⟨_, hresult, ?_⟩⟩
    · have hmore := hpanics.2.2.1
      omega
    · exact keeps_of_inTurns hsorted (inTurns_all (hlength.trans_le hfits)) hresult
  rw [not_le] at hfits
  cases hlong : longDuration durationSeconds with
  | none =>
    have hresult := bounded_short hzero hfits hlong
    refine ⟨fun _ hpanics => ?_, fun _ => ⟨_, hresult, ?_⟩⟩
    · obtain ⟨d, hd, hlonger⟩ := hpanics.2.2.2
      have hsome := longDuration_eq_some.mpr ⟨hd, hlonger⟩
      rw [hlong] at hsome
      cases hsome
    · exact keeps_of_inTurns (select_sorted _ _) (inTurns_select hnodup limit) hresult
  | some d =>
    obtain ⟨hd, hlonger⟩ := longDuration_eq_some.mp hlong
    have hresult := bounded_long hzero hfits hlong
    by_cases hsmall : 32 ≤ limit
    · have hclamp : clampUsize (limit / 5) 32 limit = some (max 32 (min (limit / 5) limit)) :=
        if_pos hsmall
      rw [hclamp, Option.map_some] at hresult
      obtain ⟨hordered, hsub, hfull⟩ := selectLong_spec hnodup htold (durationMillis d)
        (show max 32 (min (limit / 5) limit) ≤ limit by omega) (hlength.symm ▸ hfits)
      refine ⟨fun _ hpanics => ?_, fun _ => ⟨_, hresult, ⟨hordered, hsub.trans hperm.subperm, ?_, ?_,
        ?_, ?_⟩⟩⟩
      · have hless := hpanics.2.1
        omega
      · rw [hfull]
        omega
      · intro landmarks' h
        rw [bounded_perm h, hresult]
      · intro hshort
        exact absurd (hshort d hd) (not_le.mpr hlonger)
      · intro hshort
        exact absurd (hshort d hd) (not_le.mpr hlonger)
    · have hclamp : clampUsize (limit / 5) 32 limit = none := if_neg hsmall
      rw [hclamp, Option.map_none] at hresult
      refine ⟨fun hkeeps => ?_, fun hcalm => ?_⟩
      · obtain ⟨selected, hselected, -⟩ := hkeeps
        rw [hresult] at hselected
        cases hselected
      · exact absurd ⟨by omega, by omega, hfits, d, hd, hlonger⟩ hcalm

/-- Two landmarks of a minute, one of which is asked for. -/
theorem bounded_selection_keeps_one :
    ∃ selected,
      boundedTimeDistributedAudioLandmarksV3ForDuration [⟨1, 5, 9⟩, ⟨2, 7, 3⟩] 1 none =
          some selected
        ∧ KeepsLandmarks [⟨1, 5, 9⟩, ⟨2, 7, 3⟩] 1 none selected := by
  apply (bounded_selection_keeps (by decide) 1 none).mpr
  rintro ⟨-, -, -, d, hd, -⟩
  cases hd

/-- One landmark is asked for of two of a file of 601 seconds: it panics. -/
theorem small_limit_panics :
    boundedTimeDistributedAudioLandmarksV3ForDuration [⟨1, 5, 9⟩, ⟨2, 7, 3⟩] 1
      (some (.finite 601)) = none := by
  decide +kernel

end Sorotte.Fingerprint
