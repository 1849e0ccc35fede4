import Sorotte.Lifecycle.SeekFrames

/-! # Where a system seek waits

  An accepted seek that has not been seen to arrive waits in the live map, then
  in a tombstone once its command was compacted, and, once newer tombstones
  pushed its own out, in the deadline of its uncertain generation.  Every step
  moves it from one seat to the next or leaves it there, until its retention is
  over or the attachment is replaced.
-/

namespace Sorotte.Lifecycle

open Framework

/-- The seek may still be reported: nobody has settled it. -/
def SystemSeekOwnershipState.isPending : SystemSeekOwnershipState → Bool
  | submitted | accepted | mayStillArrive => true
  | observed | invalidated => false

/-- The tick at which a seek compacted at this tick is forgotten. -/
def retentionEnd (tick : Nat) : Nat :=
  Coordinator.saturatingAdd tick seekTombstoneRetentionTicks

/-- The seat of a seek.  `accepted` says that its acceptance was observed, and
    `compacted` are the ticks at which its command may have been compacted. -/
inductive Seat (owner : SystemSeekOwnership) (accepted : Prop) (compacted : Nat → Prop)
    (l : SeekLedger) : Prop
  | live (state : SystemSeekOwnershipState)
      (h : l.seekOwnership[owner.commandId]? = some { owner with state := state })
      (hpending : state.isPending = true) (haccepted : accepted → state ≠ .submitted)
      (hepoch : owner.attachmentEpoch = l.attachmentEpoch)
  | buried (tombstone : RetiredSeekTombstone) (h : tombstone ∈ l.retiredSeekTombstones)
      (howner : tombstone.ownership = { owner with state := .mayStillArrive })
      (hepoch : owner.attachmentEpoch ≤ l.attachmentEpoch) (tick : Nat)
      (hcompacted : compacted tick) (hkept : retentionEnd tick ≤ tombstone.retireAfterTick)
  | uncertain (deadline : Nat)
      (h : l.uncertainSeekGenerations[owner.mediaGeneration]? = some deadline)
      (hepoch : owner.attachmentEpoch ≤ l.attachmentEpoch) (tick : Nat)
      (hcompacted : compacted tick) (hkept : retentionEnd tick ≤ deadline)
  | forgotten (tick : Nat) (hcompacted : compacted tick) (h : retentionEnd tick ≤ l.nowTick)
  | replaced (h : owner.attachmentEpoch < l.attachmentEpoch)

section seats

variable {owner : SystemSeekOwnership} {accepted accepted' : Prop} {compacted : Nat → Prop}
  {l l' : SeekLedger}

/-! ### Moves of the ledger -/

/-- What is left of the seek once only the live map changed. -/
theorem Seat.moved (h : Seat owner accepted compacted l)
    (hepoch : l'.attachmentEpoch = l.attachmentEpoch) (hnow : l'.nowTick = l.nowTick)
    (htombstones : l'.retiredSeekTombstones = l.retiredSeekTombstones)
    (huncertain : l'.uncertainSeekGenerations = l.uncertainSeekGenerations)
    (hlive : ∀ state, l.seekOwnership[owner.commandId]? = some { owner with state := state } →
      state.isPending = true → (accepted → state ≠ .submitted) →
      ∃ state', l'.seekOwnership[owner.commandId]? = some { owner with state := state' }
        ∧ state'.isPending = true ∧ (accepted' → state' ≠ .submitted)) :
    Seat owner accepted' compacted l' := by
  cases h with
  | live state h hpending haccepted hlepoch =>
    obtain ⟨state', h', hpending', haccepted'⟩ := hlive state h hpending haccepted
    exact .live state' h' hpending' haccepted' (hlepoch.trans hepoch.symm)
  | buried tombstone h howner hlepoch tick hcompacted hkept =>
    refine .buried tombstone ?_ howner (hlepoch.trans (Nat.le_of_eq hepoch.symm)) tick hcompacted
      hkept
    rw [htombstones]
    exact h
  | uncertain deadline h hlepoch tick hcompacted hkept =>
    refine .uncertain deadline ?_ (hlepoch.trans (Nat.le_of_eq hepoch.symm)) tick hcompacted hkept
    rw [huncertain]
    exact h
  | forgotten tick hcompacted h =>
    refine .forgotten tick hcompacted ?_
    rw [hnow]
    exact h
  | replaced h =>
    refine .replaced ?_
    rw [hepoch]
    exact h

/-- A seek's ledger entry gets a new state. -/
def SeekLedger.edit (l : SeekLedger) (commandId : PlayerCommandId)
    (edit : SystemSeekOwnershipState → SystemSeekOwnershipState) : SeekLedger :=
  { l with
    seekOwnership := l.seekOwnership.modify commandId fun owner =>
      { owner with state := edit owner.state } }

theorem SeekLedger.getElem?_edit (l : SeekLedger) (commandId k : PlayerCommandId)
    (edit : SystemSeekOwnershipState → SystemSeekOwnershipState) :
    (l.edit commandId edit).seekOwnership[k]? =
      if k = commandId then
        l.seekOwnership[k]?.map fun owner => { owner with state := edit owner.state }
      else l.seekOwnership[k]? := getElem?_modify_if _ _ _ _

/-- An edit that keeps a pending seek pending. -/
theorem Seat.edit (h : Seat owner accepted compacted l) (commandId : PlayerCommandId)
    {edit : SystemSeekOwnershipState → SystemSeekOwnershipState}
    (hkeep : commandId = owner.commandId → ∀ state, state.isPending = true →
      (accepted → state ≠ .submitted) →
      (edit state).isPending = true ∧ (accepted' → edit state ≠ .submitted))
    (hsame : commandId ≠ owner.commandId → accepted' → accepted) :
    Seat owner accepted' compacted (l.edit commandId edit) := by
  refine h.moved rfl rfl rfl rfl fun state hstate hpending haccepted => ?_
  rw [l.getElem?_edit]
  by_cases hc : owner.commandId = commandId
  · obtain ⟨hpending', haccepted'⟩ := hkeep hc.symm state hpending haccepted
    refine ⟨edit state, ?_, hpending', haccepted'⟩
    rw [if_pos hc, hstate]
    rfl
  · rw [if_neg hc]
    exact ⟨state, hstate, hpending, fun ha => haccepted (hsame (fun heq => hc heq.symm) ha)⟩

/-- An edit that settles some seek, but not this one. -/
theorem Seat.edit_settled (h : Seat owner accepted compacted l) (commandId : PlayerCommandId)
    {edit : SystemSeekOwnershipState → SystemSeekOwnershipState}
    (hother : commandId ≠ owner.commandId) :
    Seat owner accepted compacted (l.edit commandId edit) :=
  h.edit commandId (fun heq => absurd heq hother) fun _ ha => ha

theorem unobserved_isPending {state : SystemSeekOwnershipState} (h : state.isPending = true) :
    state.unobserved.isPending = true ∧ state.unobserved ≠ .submitted := by
  cases state <;> first | exact ⟨rfl, nofun⟩ | cases h

theorem Seat.edit_unobserved (h : Seat owner accepted compacted l)
    (commandId : PlayerCommandId) :
    Seat owner accepted compacted (l.edit commandId (·.unobserved)) :=
  h.edit commandId
    (fun _ _ hpending _ => ⟨(unobserved_isPending hpending).1, fun _ =>
      (unobserved_isPending hpending).2⟩) fun _ ha => ha

/-- An invalidated seek is not this one: its own record would say so. -/
theorem Seat.edit_invalidated (h : Seat owner accepted compacted l) (commandId : PlayerCommandId)
    (hvalid : (l.edit commandId fun _ => .invalidated).seekOwnership[owner.commandId]?.map (·.state)
      ≠ some .invalidated) :
    Seat owner accepted compacted (l.edit commandId fun _ => .invalidated) := by
  refine h.moved rfl rfl rfl rfl fun state hstate hpending haccepted => ?_
  rw [l.getElem?_edit] at hvalid ⊢
  by_cases hc : owner.commandId = commandId
  · rw [if_pos hc, hstate] at hvalid
    exact absurd rfl hvalid
  · rw [if_neg hc]
    exact ⟨state, hstate, hpending, haccepted⟩

/-- The clock moves on and what is past its retention goes. -/
def SeekLedger.advance (l : SeekLedger) (nowTick : Nat) : SeekLedger :=
  { l with
    nowTick := nowTick
    retiredSeekTombstones :=
      l.retiredSeekTombstones.filter fun tombstone => nowTick < tombstone.retireAfterTick
    uncertainSeekGenerations :=
      l.uncertainSeekGenerations.filter fun _ deadline => nowTick < deadline }

theorem Seat.advance (h : Seat owner accepted compacted l) {nowTick : Nat}
    (hnow : l.nowTick ≤ nowTick) : Seat owner accepted compacted (l.advance nowTick) := by
  cases h with
  | live state h hpending haccepted hepoch => exact .live state h hpending haccepted hepoch
  | buried tombstone h howner hepoch tick hcompacted hkept =>
    by_cases hlater : nowTick < tombstone.retireAfterTick
    · refine .buried tombstone ?_ howner hepoch tick hcompacted hkept
      exact List.mem_filter.mpr ⟨h, by simpa using hlater⟩
    · refine .forgotten tick hcompacted ?_
      show retentionEnd tick ≤ nowTick
      omega
  | uncertain deadline h hepoch tick hcompacted hkept =>
    by_cases hlater : nowTick < deadline
    · refine .uncertain deadline ?_ hepoch tick hcompacted hkept
      show (l.uncertainSeekGenerations.filter _)[owner.mediaGeneration]? = some deadline
      rw [Std.ExtTreeMap.getElem?_filter', h]
      simpa using hlater
    · refine .forgotten tick hcompacted ?_
      show retentionEnd tick ≤ nowTick
      omega
  | forgotten tick hcompacted h =>
    refine .forgotten tick hcompacted ?_
    show retentionEnd tick ≤ nowTick
    omega
  | replaced h => exact .replaced h

/-- The element that `eraseP` takes out is the one that `find?` finds. -/
theorem mem_eraseP_of_ne {α : Type} {p : α → Bool} {items : List α} {found a : α}
    (hfound : items.find? p = some found) (hmem : a ∈ items) (hne : a ≠ found) :
    a ∈ items.eraseP p := by
  induction items with
  | nil => cases hmem
  | cons x rest ih =>
    rw [List.find?_cons] at hfound
    rw [List.eraseP_cons]
    cases hx : p x with
    | true =>
      rw [hx] at hfound
      cases hfound
      rw [cond_true]
      exact (List.mem_cons.mp hmem).resolve_left hne
    | false =>
      rw [hx] at hfound
      rw [cond_false]
      rcases List.mem_cons.mp hmem with rfl | hrest
      · exact List.mem_cons_self
      · exact List.mem_cons_of_mem _ (ih hfound hrest)

/-- A tombstone is used up, but not this seek's. -/
theorem Seat.consumed (h : Seat owner accepted compacted l) {p : RetiredSeekTombstone → Bool}
    {found : RetiredSeekTombstone} (hfound : l.retiredSeekTombstones.find? p = some found)
    (hother : found.ownership.commandId ≠ owner.commandId) :
    Seat owner accepted compacted
      { l with retiredSeekTombstones := l.retiredSeekTombstones.eraseP p } := by
  cases h with
  | live state h hpending haccepted hepoch => exact .live state h hpending haccepted hepoch
  | buried tombstone h howner hepoch tick hcompacted hkept =>
    refine .buried tombstone (mem_eraseP_of_ne hfound h ?_) howner hepoch tick hcompacted hkept
    rintro rfl
    exact hother (by rw [howner])
  | uncertain deadline h hepoch tick hcompacted hkept =>
    exact .uncertain deadline h hepoch tick hcompacted hkept
  | forgotten tick hcompacted h => exact .forgotten tick hcompacted h
  | replaced h => exact .replaced h

end seats

/-! ### Compaction -/

namespace PlayerLifecycleState

variable {s : PlayerLifecycleState}

@[simp] theorem retireCommandRecord_seeks (commandId : PlayerCommandId) :
    (s.retireCommandRecord commandId).seeks = s.seeks := by
  unfold retireCommandRecord
  split
  · rfl
  · split <;> rfl

@[simp] theorem compactAttempt_seeks (throughSequence : Nat) (attemptId : LoadAttemptId) :
    (s.compactAttempt throughSequence attemptId).seeks = s.seeks := by
  have hclaim : ∀ (s : PlayerLifecycleState) attempt i,
      (s.dropSuccessorClaim attempt i).seeks = s.seeks := by
    intro s attempt i
    unfold dropSuccessorClaim
    split <;> rfl
  have hlink : ∀ (s : PlayerLifecycleState) attempt i,
      (s.dropPredecessorLink attempt i).seeks = s.seeks := by
    intro s attempt i
    unfold dropPredecessorLink
    split <;> rfl
  unfold compactAttempt
  split
  · rfl
  · extract_lets erased claimed unlinked terminalSequence buried
    have hburied : buried.seeks = s.seeks :=
      (hlink claimed _ _).trans (hclaim erased _ _)
    split
    · exact hburied
    · split
      · rw [retireCommandRecord_seeks]
        exact hburied
      · exact hburied

theorem foldl_seeks {α : Type} {round : PlayerLifecycleState → α → PlayerLifecycleState}
    (h : ∀ s a, (round s a).seeks = s.seeks) (items : List α) (s : PlayerLifecycleState) :
    (items.foldl round s).seeks = s.seeks := by
  induction items generalizing s with
  | nil => rfl
  | cons a items ih => exact (ih (round s a)).trans (h s a)

/-- What burying a seek does to the ledger. -/
structure Buried (l l' : SeekLedger) (ownership : SystemSeekOwnership) : Prop where
  attachmentEpoch : l'.attachmentEpoch = l.attachmentEpoch
  nowTick : l'.nowTick = l.nowTick
  seekOwnership : l'.seekOwnership = l.seekOwnership
  buried : ⟨ownership, retentionEnd l.nowTick⟩ ∈ l'.retiredSeekTombstones
  others : ∀ tombstone ∈ l.retiredSeekTombstones, tombstone ∈ l'.retiredSeekTombstones
    ∨ ∃ deadline, l'.uncertainSeekGenerations[tombstone.ownership.mediaGeneration]? = some deadline
      ∧ tombstone.retireAfterTick ≤ deadline
  uncertain : ∀ (generation : PlayerMediaGeneration) (deadline : Nat),
    l.uncertainSeekGenerations[generation]? = some deadline →
      ∃ deadline', l'.uncertainSeekGenerations[generation]? = some deadline' ∧ deadline ≤ deadline'

/-- The generation of an evicted tombstone keeps the later of its deadlines. -/
theorem rememberUncertainGeneration_lookup (evicted : RetiredSeekTombstone)
    (g : PlayerMediaGeneration) :
    (s.rememberUncertainGeneration evicted).uncertainSeekGenerations[g]? =
      if g = evicted.ownership.mediaGeneration then
        some (max (s.uncertainSeekGenerations[g]?.getD 0) evicted.retireAfterTick)
      else s.uncertainSeekGenerations[g]? := by
  unfold rememberUncertainGeneration
  dsimp only
  rw [Std.ExtTreeMap.getElem?_alter]
  by_cases hg : g = evicted.ownership.mediaGeneration
  · subst hg
    rw [if_pos Std.ReflCmp.compare_self, if_pos rfl]
    cases s.uncertainSeekGenerations[evicted.ownership.mediaGeneration]? with
    | none => simp
    | some deadline => rfl
  · rw [if_neg fun heq => hg (Std.LawfulEqCmp.eq_of_compare heq).symm, if_neg hg]

theorem pushRetiredSeekTombstone_spec (ownership : SystemSeekOwnership) :
    Buried s.seeks (s.pushRetiredSeekTombstone ownership).seeks ownership := by
  have hkeep : Buried s.seeks
      ({ s with
        retiredSeekTombstones := s.retiredSeekTombstones ++
          [⟨ownership, Coordinator.saturatingAdd s.nowTick seekTombstoneRetentionTicks⟩] }
        : PlayerLifecycleState).seeks ownership :=
    ⟨rfl, rfl, rfl, List.mem_append_right _ (List.mem_singleton_self _),
      fun t ht => .inl (List.mem_append_left _ ht), fun g d hd => ⟨d, hd, Nat.le_refl d⟩⟩
  unfold pushRetiredSeekTombstone
  dsimp only
  split
  · split
    · exact hkeep
    · next evicted rest htombstones =>
      -- The oldest tombstone makes room and leaves its deadline.
      have hlookup := fun g : PlayerMediaGeneration =>
        @rememberUncertainGeneration_lookup { s with retiredSeekTombstones := rest } evicted g
      refine ⟨rfl, rfl, rfl, List.mem_append_right _ (List.mem_singleton_self _), ?_, ?_⟩
      · intro t ht
        have hmem : t ∈ evicted :: rest := by
          rw [← htombstones]
          exact ht
        rcases List.mem_cons.mp hmem with rfl | hrest
        · refine .inr ⟨_, (hlookup _).trans (if_pos rfl), ?_⟩
          exact Nat.le_max_right _ _
        · exact .inl (List.mem_append_left _ hrest)
      · intro g d hd
        have hd' : s.uncertainSeekGenerations[g]? = some d := hd
        by_cases hg : g = evicted.ownership.mediaGeneration
        · refine ⟨_, (hlookup g).trans (if_pos hg), ?_⟩
          rw [hd']
          exact Nat.le_max_left _ _
        · refine ⟨d, (hlookup g).trans ?_, Nat.le_refl d⟩
          rw [if_neg hg, hd']
  · exact hkeep

/-- One round of the seek loop: the seek moves on to a tombstone, or stays where
    it is while others do. -/
theorem compactSeek_seat {owner : SystemSeekOwnership} {accepted : Prop} {compacted : Nat → Prop}
    (h : Seat owner accepted compacted s.seeks) {entry : PlayerCommandId × SystemSeekOwnership}
    (hretire : seekMayRetire entry.2.state = true)
    (hsame : ∀ o, s.seekOwnership[owner.commandId]? = some o → entry.1 = owner.commandId →
      entry.2 = o)
    (hcompacted : entry.1 = owner.commandId → compacted s.nowTick) :
    Seat owner accepted compacted (s.compactSeek entry).seeks := by
  unfold compactSeek
  extract_lets erased retired
  rw [retireCommandRecord_seeks]
  have hlookup : erased.seekOwnership[owner.commandId]? =
      if owner.commandId = entry.1 then none else s.seekOwnership[owner.commandId]? :=
    getElem?_erase_if _ _ _
  by_cases hstate : entry.2.state = .mayStillArrive
  · have hretired : retired = erased.pushRetiredSeekTombstone entry.2 := by
      dsimp only [retired]
      rw [if_pos (by rw [hstate]; rfl)]
    have hburied := @pushRetiredSeekTombstone_spec erased entry.2
    rw [hretired]
    cases h with
    | live state h hpending haccepted hepoch =>
      by_cases hc : owner.commandId = entry.1
      · have hentry := hsame _ h hc.symm
        rw [hentry] at hstate
        refine .buried _ hburied.buried ?_ ?_ s.nowTick (hcompacted hc.symm) (Nat.le_refl _)
        · rw [hentry]
          have hstate : state = .mayStillArrive := hstate
          rw [hstate]
        · rw [hburied.attachmentEpoch]
          exact Nat.le_of_eq hepoch
      · refine .live state ?_ hpending haccepted (hepoch.trans hburied.attachmentEpoch.symm)
        rw [hburied.seekOwnership]
        exact hlookup.trans ((if_neg hc).trans h)
    | buried tombstone h howner hepoch tick hcompacted hkept =>
      have hepoch' := hepoch.trans (Nat.le_of_eq hburied.attachmentEpoch.symm)
      rcases hburied.others tombstone h with hmem | ⟨deadline, hdeadline, hlater⟩
      · exact .buried tombstone hmem howner hepoch' tick hcompacted hkept
      · refine .uncertain deadline ?_ hepoch' tick hcompacted (hkept.trans hlater)
        rw [howner] at hdeadline
        exact hdeadline
    | uncertain deadline h hepoch tick hcompacted hkept =>
      obtain ⟨deadline', hdeadline, hlater⟩ := hburied.uncertain _ deadline h
      exact .uncertain deadline' hdeadline (hepoch.trans (Nat.le_of_eq hburied.attachmentEpoch.symm))
        tick hcompacted (hkept.trans hlater)
    | forgotten tick hcompacted h =>
      refine .forgotten tick hcompacted ?_
      rw [hburied.nowTick]
      exact h
    | replaced h =>
      refine .replaced ?_
      rw [hburied.attachmentEpoch]
      exact h
  · have hretired : retired = erased := by
      dsimp only [retired]
      rw [if_neg fun heq => hstate (eq_of_beq heq)]
    rw [hretired]
    refine h.moved rfl rfl rfl rfl fun state hlive hpending haccepted => ?_
    have hc : owner.commandId ≠ entry.1 := by
      intro hc
      -- A settled seek was not pending, and a pending one that may retire is buried.
      have hentry := hsame _ hlive hc.symm
      rw [hentry] at hstate hretire
      cases state with
      | submitted => exact absurd hretire (by simp [seekMayRetire])
      | accepted => exact absurd hretire (by simp [seekMayRetire])
      | mayStillArrive => exact hstate rfl
      | observed => cases hpending
      | invalidated => cases hpending
    exact ⟨state, hlookup.trans ((if_neg hc).trans hlive), hpending, haccepted⟩

/-- After a round the live map has lost at most the round's own seek. -/
theorem compactSeek_ownership (entry : PlayerCommandId × SystemSeekOwnership)
    (k : PlayerCommandId) :
    (s.compactSeek entry).seekOwnership[k]? =
      if k = entry.1 then none else s.seekOwnership[k]? := by
  have hlookup : (s.seekOwnership.erase entry.1)[k]? =
      if k = entry.1 then none else s.seekOwnership[k]? := getElem?_erase_if _ _ _
  have hledger : (s.compactSeek entry).seeks.seekOwnership = s.seekOwnership.erase entry.1 := by
    unfold compactSeek
    extract_lets erased retired
    rw [retireCommandRecord_seeks]
    dsimp only [retired]
    split
    · exact (@pushRetiredSeekTombstone_spec erased entry.2).seekOwnership
    · rfl
  show (s.compactSeek entry).seeks.seekOwnership[k]? = _
  rw [hledger]
  exact hlookup

theorem compactSeek_clock (entry : PlayerCommandId × SystemSeekOwnership) :
    (s.compactSeek entry).nowTick = s.nowTick := by
  show (s.compactSeek entry).seeks.nowTick = s.nowTick
  unfold compactSeek
  extract_lets erased retired
  rw [retireCommandRecord_seeks]
  dsimp only [retired]
  split
  · exact (@pushRetiredSeekTombstone_spec erased entry.2).nowTick
  · rfl

theorem compactSeeks_seat {owner : SystemSeekOwnership} {accepted : Prop} {compacted : Nat → Prop}
    (entries : List (PlayerCommandId × SystemSeekOwnership))
    (h : Seat owner accepted compacted s.seeks)
    (hretire : ∀ entry ∈ entries, seekMayRetire entry.2.state = true)
    (hsame : ∀ entry ∈ entries, ∀ o, s.seekOwnership[owner.commandId]? = some o →
      entry.1 = owner.commandId → entry.2 = o)
    (hcompacted : (∃ entry ∈ entries, entry.1 = owner.commandId) → compacted s.nowTick) :
    Seat owner accepted compacted (entries.foldl compactSeek s).seeks := by
  induction entries generalizing s with
  | nil => exact h
  | cons entry rest ih =>
    have hround : Seat owner accepted compacted (s.compactSeek entry).seeks :=
      compactSeek_seat h (hretire entry (by simp)) (hsame entry (by simp))
        fun hc => hcompacted ⟨entry, by simp, hc⟩
    refine ih hround (fun other hother => hretire other (List.mem_cons_of_mem _ hother)) ?_ ?_
    · intro other hother o ho hc
      rw [compactSeek_ownership] at ho
      split at ho
      · cases ho
      · exact hsame other (List.mem_cons_of_mem _ hother) o ho hc
    · rintro ⟨other, hother, hc⟩
      rw [compactSeek_clock]
      exact hcompacted ⟨other, List.mem_cons_of_mem _ hother, hc⟩

/-- The loop takes the seeks that it is given out of the live map. -/
theorem compactSeeks_ownership {entries : List (PlayerCommandId × SystemSeekOwnership)}
    {k : PlayerCommandId}
    (h : s.seekOwnership[k]? = none ∨ ∃ entry ∈ entries, entry.1 = k) :
    (entries.foldl compactSeek s).seekOwnership[k]? = none := by
  induction entries generalizing s with
  | nil =>
    rcases h with h | ⟨entry, hentry, -⟩
    · exact h
    · cases hentry
  | cons entry rest ih =>
    refine ih ?_
    rw [compactSeek_ownership]
    rcases h with h | ⟨other, hother, rfl⟩
    · left
      split
      · rfl
      · exact h
    · rcases List.mem_cons.mp hother with rfl | hrest
      · exact .inl (if_pos rfl)
      · exact .inr ⟨other, hrest, rfl⟩

end PlayerLifecycleState

end Sorotte.Lifecycle
