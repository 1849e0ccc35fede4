import Sorotte.Lifecycle.SeekSeats

/-! # System seeks along runs

  What every operation does to the seat of a system seek, and what a run of
  operations leaves of it.
-/

namespace Sorotte.Lifecycle

open Framework

namespace Reduction

variable {r : Reduction}

/-! ### Reports of seeks -/

theorem reported_push {effect : PlayerLifecycleEffect} (h : IsSeekReport effect = false) :
    seekReportsOf (r.push effect).effects = seekReportsOf r.effects := by
  show seekReportsOf (r.effects ++ [effect]) = _
  rw [seekReportsOf_append]
  simp [seekReportsOf, h]

theorem reported_appendEvent (event : PlayerEvent) :
    seekReportsOf (r.appendEvent event).2.effects = seekReportsOf r.effects :=
  reported_push rfl

theorem reported_markGap : seekReportsOf r.markGap.effects = seekReportsOf r.effects := by
  unfold markGap
  extract_lets invalidates marked required
  have hmarked : seekReportsOf marked.effects = seekReportsOf r.effects := by
    dsimp only [marked]
    split
    · exact reported_appendEvent _
    · rfl
  rw [reported_push rfl, ← hmarked]
  rfl

theorem reported_queueEvent (event : PlayerEvent) :
    seekReportsOf (r.queueEvent event).2.effects = seekReportsOf r.effects := by
  unfold queueEvent
  extract_lets telemetryCount passed
  have hpassed : seekReportsOf passed.effects = seekReportsOf r.effects := by
    dsimp only [passed]
    split
    · exact reported_markGap
    · rfl
  rw [reported_appendEvent, hpassed]

theorem reported_commandTerminal (commandId : PlayerCommandId) (terminal : CommandSemanticState) :
    seekReportsOf (r.commandTerminal commandId terminal).effects = seekReportsOf r.effects := by
  unfold commandTerminal
  split
  · rfl
  · split
    · rfl
    · split
      · rfl
      · exact reported_push rfl

theorem reported_emitLoadOutcome (attemptId : LoadAttemptId) (result : PlayerLoadAttemptResult)
    (loadedTarget : Option String) :
    seekReportsOf (r.emitLoadOutcome attemptId result loadedTarget).effects =
      seekReportsOf r.effects := by
  unfold emitLoadOutcome
  split
  · rfl
  · split
    · rfl
    · exact reported_push rfl

/-- A report of a seek follows what was reported before. -/
theorem reported_seek {effect : PlayerLifecycleEffect} (h : IsSeekReport effect = true) :
    seekReportsOf (r.push effect).effects = seekReportsOf r.effects ++ [effect] := by
  show seekReportsOf (r.effects ++ [effect]) = _
  rw [seekReportsOf_append]
  congr 1
  unfold seekReportsOf
  rw [List.filter_cons_of_pos h, List.filter_nil]

/-! ### The ledger after each input -/

theorem updateSeek_seeks (commandId : PlayerCommandId)
    (edit : SystemSeekOwnershipState → SystemSeekOwnershipState) :
    (r.updateSeek commandId edit).seeks = r.seeks.edit commandId edit := rfl

theorem endSeekCommand_seeks (commandId : PlayerCommandId) (terminal : CommandSemanticState)
    (edit : SystemSeekOwnershipState → SystemSeekOwnershipState) :
    (r.endSeekCommand commandId terminal edit).seeks = r.seeks.edit commandId edit := by
  show (r.commandTerminal commandId terminal).seeks.edit commandId edit = _
  rw [commandTerminal_seeks]

theorem commandCompletionNotObserved_seeks (attachmentEpoch : PlayerAttachmentEpoch)
    (commandId : PlayerCommandId) :
    (r.commandCompletionNotObserved attachmentEpoch commandId).seeks =
      if attachmentEpoch != r.attachmentEpoch then r.seeks
      else r.seeks.edit commandId (·.unobserved) := by
  unfold commandCompletionNotObserved
  split
  · rfl
  · dsimp only
    split
    · exact endSeekCommand_seeks _ _ _
    · rw [expireCommandAttempt_seeks]
      exact endSeekCommand_seeks _ _ _

theorem timerAdvanced_seeks (nowTick : Nat) :
    (r.timerAdvanced nowTick).seeks = r.seeks.advance (max r.nowTick nowTick) := by
  unfold timerAdvanced
  extract_lets advanced expiredLoadAttempts expiredLoads expiredQuiescentAttempts ended
  rw [requestDueReconciliation_own, stopReconciliation_seeks]
  show (expiredLoads.commitAll _ _).seeks = _
  rw [commitAll_seeks]
  show (expiredLoadAttempts.foldl expireLoad advanced).seeks = _
  rw [foldl_seeks (fun r i => expireLoad_seeks r i)]
  rfl

/-- The seeks of every pending command are invalidated. -/
theorem transportDisconnected_seeks {attachmentEpoch : PlayerAttachmentEpoch}
    (hepoch : attachmentEpoch = r.attachmentEpoch) :
    (r.transportDisconnected attachmentEpoch).seeks =
      r.pendingCommandIds.foldl (fun l commandId => l.edit commandId fun _ => .invalidated)
        r.seeks := by
  have hloop : ∀ (commandIds : List PlayerCommandId) (r : Reduction),
      (commandIds.foldl (fun r commandId =>
        r.endSeekCommand commandId .transportDisconnected fun _ => .invalidated) r).seeks =
      commandIds.foldl (fun l commandId => l.edit commandId fun _ => .invalidated) r.seeks := by
    intro commandIds
    induction commandIds with
    | nil => exact fun r => rfl
    | cons c rest ih =>
      intro r
      rw [List.foldl_cons, List.foldl_cons, ih, endSeekCommand_seeks]
  unfold transportDisconnected
  rw [if_neg (by simp [hepoch]), commitAll_seeks, hloop]

theorem attachmentReplaced_seeks : r.attachmentReplaced.seeks =
    { attachmentEpoch := r.attachmentEpoch + 1
      nowTick := r.nowTick
      seekOwnership := ∅
      retiredSeekTombstones := []
      uncertainSeekGenerations := ∅ } := by
  have hclosed : r.closeDelivery.seeks = r.seeks := by
    unfold closeDelivery
    split <;> rfl
  have hdisconnected : r.closeDelivery.disconnectAll.seeks = r.seeks := by
    unfold disconnectAll
    rw [commitAll_seeks, foldl_seeks (fun r c => commandTerminal_seeks r c _)]
    exact hclosed
  unfold attachmentReplaced
  rw [openNextEpoch_own]
  show SeekLedger.mk (r.closeDelivery.disconnectAll.seeks.attachmentEpoch + 1)
    r.closeDelivery.disconnectAll.seeks.nowTick ∅ [] ∅ = _
  rw [hdisconnected]
  rfl

theorem unobserved_attachmentEpoch (commandIds : List PlayerCommandId) (l : SeekLedger) :
    (commandIds.foldl (fun l c => l.edit c (·.unobserved)) l).attachmentEpoch =
      l.attachmentEpoch := by
  induction commandIds generalizing l with
  | nil => rfl
  | cons c rest ih => exact ih _

/-- The seeks of the pending seek commands turn `MayStillArrive`, and the new one
    is submitted. -/
theorem seekCommandSubmitted_seeks {commandId : PlayerCommandId}
    (hnew : r.isRetiredCommand commandId = false) (mediaGeneration : PlayerMediaGeneration)
    (rawTarget effectiveTarget : F64) (boundary : Nat) :
    ∃ superseded : List PlayerCommandId,
      let l := superseded.foldl (fun l c => l.edit c (·.unobserved)) r.seeks
      (r.seekCommandSubmitted commandId mediaGeneration rawTarget effectiveTarget boundary).seeks =
        { l with
          seekOwnership := l.seekOwnership.insert commandId
            { attachmentEpoch := r.attachmentEpoch
              mediaGeneration := mediaGeneration
              rawPlayerTargetSeconds := rawTarget
              effectiveRoomTargetSeconds := effectiveTarget
              commandId := commandId
              dispatchSequenceBoundary := boundary
              state := .submitted } } := by
  have hloop : ∀ (commandIds : List PlayerCommandId) (r : Reduction),
      (commandIds.foldl (fun r c => r.endSeekCommand c .superseded (·.unobserved)) r).seeks =
      commandIds.foldl (fun l c => l.edit c (·.unobserved)) r.seeks := by
    intro commandIds
    induction commandIds with
    | nil => exact fun r => rfl
    | cons c rest ih =>
      intro r
      rw [List.foldl_cons, List.foldl_cons, ih, endSeekCommand_seeks]
  unfold seekCommandSubmitted
  rw [if_neg (by rw [hnew]; exact Bool.false_ne_true)]
  extract_lets superseded ended
  refine ⟨superseded, ?_⟩
  have hended : ended.seeks = _ := hloop superseded r
  have hsame : ended.attachmentEpoch = r.attachmentEpoch := by
    show ended.seeks.attachmentEpoch = _
    rw [hended, unobserved_attachmentEpoch]
    rfl
  show SeekLedger.mk ended.seeks.attachmentEpoch ended.seeks.nowTick
    (ended.seeks.seekOwnership.insert commandId _) ended.seeks.retiredSeekTombstones
      ended.seeks.uncertainSeekGenerations = _
  rw [hsame, hended]

section searches

variable {reached : SystemSeekOwnership → Bool} {commandId : PlayerCommandId}
  {owner : SystemSeekOwnership}

/-- What a search among the live seeks finds is live. -/
theorem live_of_find? (h : (r.seekOwnership.toList.find? fun entry =>
      entry.2.state.awaitsArrival && reached entry.2) = some (commandId, owner)) :
    r.seekOwnership[commandId]? = some owner ∧ owner.state.awaitsArrival = true := by
  have hmem := List.mem_of_find?_eq_some h
  have hholds := List.find?_some h
  exact ⟨Std.ExtTreeMap.mem_toList_iff_getElem?_eq_some.mp hmem,
    (Bool.and_eq_true_iff.mp hholds).1⟩

/-- A search that finds none leaves no live seek that was reached. -/
theorem unreached_of_find? (h : (r.seekOwnership.toList.find? fun entry =>
      entry.2.state.awaitsArrival && reached entry.2) = none)
    (howner : r.seekOwnership[commandId]? = some owner)
    (hawaits : owner.state.awaitsArrival = true) : reached owner = false := by
  have hmem : (commandId, owner) ∈ r.seekOwnership.toList :=
    Std.ExtTreeMap.mem_toList_iff_getElem?_eq_some.mpr howner
  have hfails := List.find?_eq_none.mp h _ hmem
  rw [Bool.not_eq_true, hawaits, Bool.true_and] at hfails
  exact hfails

theorem certain_of_contains {mediaGeneration : PlayerMediaGeneration}
    (h : ¬r.uncertainSeekGenerations.contains mediaGeneration = true) :
    r.uncertainSeekGenerations[mediaGeneration]? = none := by
  have hcontains : r.uncertainSeekGenerations.contains mediaGeneration = false :=
    eq_false_of_ne_true h
  rw [Std.ExtTreeMap.contains_eq_isSome_getElem?, Option.isSome_eq_false_iff] at hcontains
  exact Option.isNone_iff_eq_none.mp hcontains

end searches

/-- A position report settles a live seek, uses a tombstone up, or reports no
    system seek. -/
theorem positionObserved_cases (attachmentEpoch : PlayerAttachmentEpoch)
    (mediaGeneration : PlayerMediaGeneration) (observedSequence : Nat)
    (positionSeconds : Seconds) :
    let r' := r.positionObserved attachmentEpoch mediaGeneration observedSequence positionSeconds
    let reached (owner : SystemSeekOwnership) : Bool :=
      owner.reachedBy attachmentEpoch mediaGeneration observedSequence positionSeconds
    (r'.seeks = r.seeks ∧ seekReportsOf r'.effects = seekReportsOf r.effects)
      ∨ (∃ commandId owner, r.seekOwnership[commandId]? = some owner
        ∧ owner.state.awaitsArrival = true
        ∧ r'.seeks = r.seeks.edit commandId (fun _ => .observed)
        ∧ seekReportsOf r'.effects =
          seekReportsOf r.effects ++ [.consumeSystemSeek commandId positionSeconds])
      ∨ (∃ tombstone,
        r.retiredSeekTombstones.find? (fun tombstone => reached tombstone.ownership)
          = some tombstone
        ∧ r'.seeks =
          { r.seeks with
            retiredSeekTombstones :=
              r.retiredSeekTombstones.eraseP fun tombstone => reached tombstone.ownership }
        ∧ seekReportsOf r'.effects = seekReportsOf r.effects
          ++ [.consumeSystemSeek tombstone.ownership.commandId positionSeconds])
      ∨ (attachmentEpoch = r.attachmentEpoch
        ∧ (∀ (commandId : PlayerCommandId) owner, r.seekOwnership[commandId]? = some owner →
          owner.state.awaitsArrival = true → reached owner = false)
        ∧ (∀ tombstone ∈ r.retiredSeekTombstones, reached tombstone.ownership = false)
        ∧ r.uncertainSeekGenerations[mediaGeneration]? = none
        ∧ r'.seeks = r.seeks
        ∧ seekReportsOf r'.effects = seekReportsOf r.effects
          ++ [.nativeSeekCandidate mediaGeneration positionSeconds]) := by
  intro r' reached
  dsimp only [r']
  unfold positionObserved
  split
  · exact .inl ⟨rfl, rfl⟩
  next hguard =>
  have hepoch : attachmentEpoch = r.attachmentEpoch := by simpa using hguard
  extract_lets progressed found
  -- a provisional end of file may be passed first, which no seek sees
  have hprogressed : progressed.seeks = r.seeks ∧ progressed.effects = r.effects := by
    dsimp only [progressed]
    split <;> exact ⟨rfl, rfl⟩
  clear_value progressed
  obtain ⟨hseeks, heffects⟩ := hprogressed
  have hown : progressed.seekOwnership = r.seekOwnership :=
    congrArg SeekLedger.seekOwnership hseeks
  have htombstones : progressed.retiredSeekTombstones = r.retiredSeekTombstones :=
    congrArg SeekLedger.retiredSeekTombstones hseeks
  have huncertain : progressed.uncertainSeekGenerations = r.uncertainSeekGenerations :=
    congrArg SeekLedger.uncertainSeekGenerations hseeks
  split
  -- a live seek arrives, and its command completes
  · next commandId owner hfound =>
    obtain ⟨howner, hawaits⟩ := live_of_find? hfound
    rw [hown] at howner
    refine .inr (.inl ⟨commandId, owner, howner, hawaits, ?_, ?_⟩)
    · show ((progressed.updateSeek commandId fun _ => .observed).commandTerminal commandId
        .completed).seeks = _
      rw [commandTerminal_seeks, updateSeek_seeks, hseeks]
    · have hcommand : seekReportsOf ((progressed.updateSeek commandId fun _ =>
          .observed).commandTerminal commandId .completed).effects = seekReportsOf r.effects := by
        rw [reported_commandTerminal, ← heffects]
        rfl
      rw [← hcommand]
      exact reported_seek rfl
  · next hnone =>
    split
    -- a seek that was retired arrives late
    · next tombstone htombstone =>
      refine .inr (.inr (.inl ⟨tombstone, ?_, ?_, ?_⟩))
      · rw [← htombstones]
        exact htombstone
      · rw [← htombstones, ← hseeks]
        rfl
      · rw [← heffects]
        exact reported_seek rfl
    · next hnotomb =>
      split
      · exact .inl ⟨hseeks, by rw [heffects]⟩
      · split
        · exact .inl ⟨hseeks, by rw [← heffects]⟩
        -- nobody asked for this seek
        · next hcertain =>
          refine .inr (.inr (.inr ⟨hepoch, ?_, ?_, ?_, hseeks, ?_⟩))
          · intro commandId owner howner hawaits
            rw [← hown] at howner
            exact unreached_of_find? hnone howner hawaits
          · intro tombstone hmem
            rw [← htombstones] at hmem
            have hfails := List.find?_eq_none.mp hnotomb _ hmem
            rw [Bool.not_eq_true] at hfails
            exact hfails
          · rw [← huncertain]
            exact certain_of_contains hcertain
          · rw [← heffects]
            exact reported_seek rfl

/-! ### The seat after each input -/

variable {owner : SystemSeekOwnership} {accepted : Prop} {compacted : Nat → Prop}

/-- What a step must not do to the seek: submit it again, complete it while it is
    live, consume it or invalidate it. -/
structure Leaves (owner : SystemSeekOwnership) (input : PlayerLifecycleInput)
    (r : Reduction) : Prop where
  submitted : ∀ mediaGeneration rawTarget effectiveTarget boundary, input ≠
    .seekCommandSubmitted owner.commandId mediaGeneration rawTarget effectiveTarget boundary
  completed : input = .commandCompleted owner.attachmentEpoch owner.commandId →
    r.seekOwnership[owner.commandId]? = none
  consumed : ∀ positionSeconds,
    .consumeSystemSeek owner.commandId positionSeconds ∉ (r.reduce input).effects
  invalidated : (r.reduce input).seeks.seekOwnership[owner.commandId]?.map (·.state)
    ≠ some .invalidated

theorem mem_effects_of_reported {effects before : List PlayerLifecycleEffect}
    {effect : PlayerLifecycleEffect}
    (h : seekReportsOf effects = seekReportsOf before ++ [effect]) : effect ∈ effects := by
  have hmem : effect ∈ seekReportsOf effects := by
    rw [h]
    exact List.mem_append_right _ (List.mem_singleton_self _)
  exact List.mem_of_mem_filter hmem

/-- Rejections and disconnects, for this epoch or not. -/
theorem seat_invalidate (h : Seat owner accepted compacted r.seeks)
    {attachmentEpoch : PlayerAttachmentEpoch} {commandId : PlayerCommandId}
    {terminal : CommandSemanticState}
    (hvalid : (if attachmentEpoch != r.attachmentEpoch then r
      else r.endSeekCommand commandId terminal fun _ => .invalidated).seeks.seekOwnership[
        owner.commandId]?.map (·.state) ≠ some .invalidated) :
    Seat owner accepted compacted (if attachmentEpoch != r.attachmentEpoch then r
      else r.endSeekCommand commandId terminal fun _ => .invalidated).seeks := by
  split
  · exact h
  · next hepoch =>
    rw [if_neg hepoch] at hvalid
    rw [endSeekCommand_seeks] at hvalid ⊢
    exact h.edit_invalidated commandId hvalid

theorem seat_unobserved (h : Seat owner accepted compacted r.seeks)
    (attachmentEpoch : PlayerAttachmentEpoch) (commandId : PlayerCommandId)
    (terminal : CommandSemanticState) :
    Seat owner accepted compacted (if attachmentEpoch != r.attachmentEpoch then r
      else r.endSeekCommand commandId terminal (·.unobserved)).seeks := by
  split
  · exact h
  · rw [endSeekCommand_seeks]
    exact h.edit_unobserved commandId

theorem seat_commandCompleted (h : Seat owner accepted compacted r.seeks)
    {attachmentEpoch : PlayerAttachmentEpoch} {commandId : PlayerCommandId}
    (hother : attachmentEpoch = owner.attachmentEpoch → commandId = owner.commandId →
      r.seekOwnership[owner.commandId]? = none) :
    Seat owner accepted compacted (r.commandCompleted attachmentEpoch commandId).seeks := by
  unfold commandCompleted
  split
  · exact h
  · next hepoch =>
    have hepoch : attachmentEpoch = r.attachmentEpoch := by simpa using hepoch
    rw [commandTerminal_seeks, updateSeek_seeks]
    by_cases hc : commandId = owner.commandId
    · -- The seek is not in the live map any more.
      cases h with
      | live state h hpending haccepted hlive =>
        have hsame : owner.attachmentEpoch = r.attachmentEpoch := hlive
        have hnone := hother (hepoch.trans hsame.symm) hc
        have hsome : r.seekOwnership[owner.commandId]? = some { owner with state := state } := h
        rw [hnone] at hsome
        cases hsome
      | buried tombstone h howner hlive tick hcompacted hkept =>
        exact .buried tombstone h howner hlive tick hcompacted hkept
      | uncertain deadline h hlive tick hcompacted hkept =>
        exact .uncertain deadline h hlive tick hcompacted hkept
      | forgotten tick hcompacted h => exact .forgotten tick hcompacted h
      | replaced h => exact .replaced h
    · exact h.edit_settled commandId hc

/-- Accepting some seek. -/
theorem seat_seekCommandAccepted (h : Seat owner accepted compacted r.seeks)
    (attachmentEpoch : PlayerAttachmentEpoch) (commandId : PlayerCommandId) :
    Seat owner accepted compacted (r.seekCommandAccepted attachmentEpoch commandId).seeks := by
  unfold seekCommandAccepted
  split
  · exact h
  · rw [updateSeek_seeks, acceptCommand_seeks]
    refine h.edit commandId (fun _ state hpending haccepted => ?_) fun _ ha => ha
    cases state <;> first | exact ⟨rfl, fun _ => nofun⟩ | cases hpending

/-- Accepting this seek. -/
theorem seat_accepted (h : Seat owner accepted compacted r.seeks) :
    Seat owner True compacted
      (r.seekCommandAccepted owner.attachmentEpoch owner.commandId).seeks := by
  unfold seekCommandAccepted
  split
  · next hepoch =>
    cases h with
    | live state h hpending haccepted hlive =>
      have hsame : owner.attachmentEpoch = r.attachmentEpoch := hlive
      exact absurd hsame (by simpa using hepoch)
    | buried tombstone h howner hlive tick hcompacted hkept =>
      exact .buried tombstone h howner hlive tick hcompacted hkept
    | uncertain deadline h hlive tick hcompacted hkept =>
      exact .uncertain deadline h hlive tick hcompacted hkept
    | forgotten tick hcompacted h => exact .forgotten tick hcompacted h
    | replaced h => exact .replaced h
  · rw [updateSeek_seeks, acceptCommand_seeks]
    refine h.edit owner.commandId (fun _ state hpending haccepted => ?_)
      fun hne => absurd rfl hne
    cases state <;> first | exact ⟨rfl, fun _ => nofun⟩ | cases hpending

theorem seat_transportDisconnected (h : Seat owner accepted compacted r.seeks)
    (attachmentEpoch : PlayerAttachmentEpoch)
    (hvalid : (r.transportDisconnected attachmentEpoch).seeks.seekOwnership[
      owner.commandId]?.map (·.state) ≠ some .invalidated) :
    Seat owner accepted compacted (r.transportDisconnected attachmentEpoch).seeks := by
  have hloop : ∀ (commandIds : List PlayerCommandId) (l : SeekLedger),
      let l' := commandIds.foldl (fun l c => l.edit c fun _ => .invalidated) l
      l'.attachmentEpoch = l.attachmentEpoch ∧ l'.nowTick = l.nowTick
        ∧ l'.retiredSeekTombstones = l.retiredSeekTombstones
        ∧ l'.uncertainSeekGenerations = l.uncertainSeekGenerations
        ∧ (l'.seekOwnership[owner.commandId]? = l.seekOwnership[owner.commandId]?
          ∨ ∀ o, l.seekOwnership[owner.commandId]? = some o →
            l'.seekOwnership[owner.commandId]? = some { o with state := .invalidated }) := by
    intro commandIds
    induction commandIds with
    | nil => exact fun l => ⟨rfl, rfl, rfl, rfl, .inl rfl⟩
    | cons c rest ih =>
      intro l
      obtain ⟨hepoch, hnow, htombstones, huncertain, hmap⟩ := ih (l.edit c fun _ => .invalidated)
      refine ⟨hepoch, hnow, htombstones, huncertain, ?_⟩
      have hedit := l.getElem?_edit c owner.commandId fun _ => .invalidated
      by_cases hc : owner.commandId = c
      · rw [if_pos hc] at hedit
        right
        intro o ho
        rw [ho, Option.map_some] at hedit
        rcases hmap with hmap | hmap
        · exact hmap.trans hedit
        · exact hmap { o with state := .invalidated } hedit
      · rw [if_neg hc] at hedit
        rcases hmap with hmap | hmap
        · exact .inl (hmap.trans hedit)
        · refine .inr fun o ho => hmap o ?_
          rw [hedit]
          exact ho
  by_cases hepoch : attachmentEpoch = r.attachmentEpoch
  · rw [transportDisconnected_seeks hepoch] at hvalid ⊢
    obtain ⟨hepoch, hnow, htombstones, huncertain, hmap⟩ := hloop r.pendingCommandIds r.seeks
    refine h.moved hepoch hnow htombstones huncertain fun state hstate hpending haccepted => ?_
    rcases hmap with hmap | hmap
    · exact ⟨state, hmap.trans hstate, hpending, haccepted⟩
    · rw [hmap _ hstate] at hvalid
      exact absurd rfl hvalid
  · unfold transportDisconnected
    rw [if_pos (by simpa using hepoch)]
    exact h

/-- A seek that another one supersedes. -/
theorem seat_seekCommandSubmitted (h : Seat owner accepted compacted r.seeks)
    {commandId : PlayerCommandId} (hother : commandId ≠ owner.commandId)
    (mediaGeneration : PlayerMediaGeneration) (rawTarget effectiveTarget : F64) (boundary : Nat) :
    Seat owner accepted compacted (r.seekCommandSubmitted commandId mediaGeneration rawTarget
      effectiveTarget boundary).seeks := by
  cases hretired : r.isRetiredCommand commandId with
  | true =>
    unfold seekCommandSubmitted
    rw [if_pos hretired]
    exact h
  | false =>
    obtain ⟨superseded, heq⟩ :=
      seekCommandSubmitted_seeks hretired mediaGeneration rawTarget effectiveTarget boundary
    have hloop : ∀ (commandIds : List PlayerCommandId) (l : SeekLedger),
        Seat owner accepted compacted l → Seat owner accepted compacted
          (commandIds.foldl (fun l c => l.edit c (·.unobserved)) l) := by
      intro commandIds
      induction commandIds with
      | nil => exact fun l hl => hl
      | cons c rest ih => exact fun l hl => ih _ (hl.edit_unobserved c)
    rw [heq]
    refine (hloop superseded r.seeks h).moved rfl rfl rfl rfl
      fun state hstate hpending haccepted => ⟨state, ?_, hpending, haccepted⟩
    refine (getElem?_insert_if _ _ _ _).trans ?_
    rw [if_neg (Ne.symm hother)]
    exact hstate

theorem seat_positionObserved (h : Seat owner accepted compacted r.seeks)
    (attachmentEpoch : PlayerAttachmentEpoch) (mediaGeneration : PlayerMediaGeneration)
    (observedSequence : Nat) (positionSeconds : Seconds)
    (hconsumed : .consumeSystemSeek owner.commandId positionSeconds ∉
      (r.positionObserved attachmentEpoch mediaGeneration observedSequence positionSeconds).effects) :
    Seat owner accepted compacted
      (r.positionObserved attachmentEpoch mediaGeneration observedSequence positionSeconds).seeks := by
  rcases positionObserved_cases (r := r) attachmentEpoch mediaGeneration observedSequence
    positionSeconds with ⟨hseeks, -⟩ | ⟨commandId, o, -, -, hseeks, hreport⟩
      | ⟨tombstone, hfound, hseeks, hreport⟩ | ⟨-, -, -, -, hseeks, -⟩
  · rw [hseeks]
    exact h
  · have hmem := mem_effects_of_reported hreport
    have hother : commandId ≠ owner.commandId := by
      rintro rfl
      exact hconsumed hmem
    rw [hseeks]
    exact h.edit_settled commandId hother
  · have hmem := mem_effects_of_reported hreport
    have hother : tombstone.ownership.commandId ≠ owner.commandId := by
      intro heq
      rw [heq] at hmem
      exact hconsumed hmem
    rw [hseeks]
    exact h.consumed hfound hother
  · rw [hseeks]
    exact h

/-- Every input leaves the seek in a seat. -/
theorem seat_reduce (h : Seat owner accepted compacted r.seeks) {input : PlayerLifecycleInput}
    (hleaves : Leaves owner input r) : Seat owner accepted compacted (r.reduce input).seeks := by
  cases hchanges : changesSeeks input with
  | false =>
    rw [reduce_seeks r hchanges]
    exact h
  | true =>
    cases input with
    | commandRejected => exact seat_invalidate h hleaves.invalidated
    | commandSuperseded epoch c => exact seat_unobserved h epoch c .superseded
    | commandTransportDisconnected => exact seat_invalidate h hleaves.invalidated
    | commandCompleted epoch c =>
      refine seat_commandCompleted h ?_
      rintro rfl rfl
      exact hleaves.completed rfl
    | commandCompletionNotObserved epoch c =>
      have hreduce : r.reduce (.commandCompletionNotObserved epoch c) =
          r.commandCompletionNotObserved epoch c := rfl
      rw [hreduce, commandCompletionNotObserved_seeks]
      split
      · exact h
      · exact h.edit_unobserved c
    | positionObserved epoch generation sequence position =>
      exact seat_positionObserved h epoch generation sequence position (hleaves.consumed position)
    | seekCommandSubmitted c generation raw effective boundary =>
      refine seat_seekCommandSubmitted h ?_ generation raw effective boundary
      rintro rfl
      exact hleaves.submitted _ _ _ _ rfl
    | seekCommandAccepted epoch c => exact seat_seekCommandAccepted h epoch c
    | seekCommandRejected => exact seat_invalidate h hleaves.invalidated
    | seekCommandCompletionNotObserved epoch c =>
      exact seat_unobserved h epoch c .completionNotObserved
    | timerAdvanced nowTick =>
      have hreduce : r.reduce (.timerAdvanced nowTick) = r.timerAdvanced nowTick := rfl
      rw [hreduce, timerAdvanced_seeks]
      exact h.advance (Nat.le_max_left _ _)
    | transportDisconnected epoch => exact seat_transportDisconnected h epoch hleaves.invalidated
    | attachmentReplaced =>
      have hreduce : r.reduce .attachmentReplaced = r.attachmentReplaced := rfl
      rw [hreduce, attachmentReplaced_seeks]
      cases h with
      | live state h hpending haccepted hlive => exact .replaced (Nat.lt_succ_of_le hlive.le)
      | buried tombstone h howner hlive => exact .replaced (Nat.lt_succ_of_le hlive)
      | uncertain deadline h hlive => exact .replaced (Nat.lt_succ_of_le hlive)
      | forgotten tick hcompacted h => exact .forgotten tick hcompacted h
      | replaced h => exact .replaced (Nat.lt_succ_of_lt h)
    | _ => exact nomatch hchanges

end Reduction

namespace PlayerLifecycleState

variable {s : PlayerLifecycleState} {owner : SystemSeekOwnership} {accepted : Prop}
  {compacted : Nat → Prop}

/-! ### The seat after each operation -/

/-- Compaction only moves seeks. -/
theorem compactAcknowledgedLifecycle_seeks (throughSequence : Nat) :
    ∃ compactedAttempts : PlayerLifecycleState, compactedAttempts.seeks = s.seeks
      ∧ (s.compactAcknowledgedLifecycle throughSequence).seeks =
        ((compactedAttempts.coveredSeeks throughSequence).foldl compactSeek
          compactedAttempts).seeks := by
  have hbound : ∀ t : PlayerLifecycleState, (t.boundTombstones throughSequence).seeks = t.seeks :=
    fun t => rfl
  unfold compactAcknowledgedLifecycle
  extract_lets attempts seeks commands
  refine ⟨attempts, foldl_seeks (fun s i => compactAttempt_seeks throughSequence i) _ s, ?_⟩
  rw [hbound]
  exact foldl_seeks (fun s c => retireCommandRecord_seeks c) _ seeks

theorem acknowledgeEventBatch_seeks (token : PlayerEventAcknowledgementToken) :
    (s.acknowledgeEventBatch token).2.seeks = s.seeks
      ∨ ∃ (s' : PlayerLifecycleState) (throughSequence : Nat), s'.seeks = s.seeks
        ∧ (s.acknowledgeEventBatch token).2 = s'.compactAcknowledgedLifecycle throughSequence := by
  unfold acknowledgeEventBatch
  split
  · exact .inl rfl
  split
  · exact .inl rfl
  split
  · exact .inl rfl
  next acknowledged hacknowledged =>
  have hdelivered : acknowledged.pruneSnapshotCoveredEvents.seeks = s.seeks := by
    show acknowledged.toLoadOwnership.seeks = _
    rw [acknowledgeDelivery_own hacknowledged]
  dsimp only
  split
  · exact .inr ⟨_, _, hdelivered, rfl⟩
  · exact .inl hdelivered

theorem peekEventBatch_seeks : s.peekEventBatch.2.seeks = s.seeks := by
  unfold peekEventBatch
  split
  · rfl
  · dsimp only
    split <;> rfl

/-- The operation spares the seek: it does not submit, complete, consume or
    invalidate it, and compacts it only at the ticks that are allowed. -/
structure Spares (owner : SystemSeekOwnership) (compacted : Nat → Prop)
    (s : PlayerLifecycleState) (operation : Operation) : Prop where
  notSubmitted : ∀ mediaGeneration rawTarget effectiveTarget boundary,
    operation ≠ .reduce (.seekCommandSubmitted owner.commandId mediaGeneration rawTarget
      effectiveTarget boundary)
  notCompleted : operation = .reduce (.commandCompleted owner.attachmentEpoch owner.commandId) →
    s.seekOwnership[owner.commandId]? = none
  notConsumed : ∀ positionSeconds,
    .consumeSystemSeek owner.commandId positionSeconds ∉ s.effectsOf operation
  notInvalidated : (s.step operation).seekOwnership[owner.commandId]?.map (·.state)
    ≠ some .invalidated
  retained : ∀ token, operation = .acknowledgeEventBatch token →
    s.seekOwnership.contains owner.commandId = true →
    (s.step operation).seekOwnership.contains owner.commandId = false → compacted s.nowTick

theorem Spares.leaves {input : PlayerLifecycleInput}
    (h : Spares owner compacted s (.reduce input)) :
    Reduction.Leaves owner input { s with effects := [] } where
  submitted mediaGeneration rawTarget effectiveTarget boundary heq :=
    h.notSubmitted mediaGeneration rawTarget effectiveTarget boundary (by rw [heq])
  completed heq := h.notCompleted (by rw [heq])
  consumed := h.notConsumed
  invalidated := h.notInvalidated

theorem contains_seekOwnership {l : SeekLedger} {k : PlayerCommandId} :
    l.seekOwnership.contains k = l.seekOwnership[k]?.isSome :=
  Std.ExtTreeMap.contains_eq_isSome_getElem?

theorem seat_compact (h : Seat owner accepted compacted s.seeks) (throughSequence : Nat)
    (hcompacted : s.seeks.seekOwnership.contains owner.commandId = true →
      (s.compactAcknowledgedLifecycle throughSequence).seeks.seekOwnership.contains owner.commandId
        = false → compacted s.nowTick) :
    Seat owner accepted compacted (s.compactAcknowledgedLifecycle throughSequence).seeks := by
  obtain ⟨s', hsame, heq⟩ := compactAcknowledgedLifecycle_seeks (s := s) throughSequence
  have hmem : ∀ entry ∈ s'.coveredSeeks throughSequence,
      s'.seekOwnership[entry.1]? = some entry.2 ∧ seekMayRetire entry.2.state = true := by
    intro entry hentry
    obtain ⟨hmem, htest⟩ := List.mem_filter.mp hentry
    exact ⟨Std.ExtTreeMap.mem_toList_iff_getElem?_eq_some.mp hmem,
      (Bool.and_eq_true_iff.mp htest).1⟩
  rw [heq] at hcompacted ⊢
  refine compactSeeks_seat _ (by rw [hsame]; exact h) (fun entry hentry => (hmem entry hentry).2)
    ?_ ?_
  · intro entry hentry o ho hc
    have hheld := (hmem entry hentry).1
    rw [hc, ho] at hheld
    exact (Option.some.inj hheld).symm
  · rintro ⟨entry, hentry, hc⟩
    have hclock : s'.nowTick = s.nowTick := by
      show s'.seeks.nowTick = s.seeks.nowTick
      rw [hsame]
    rw [hclock]
    refine hcompacted ?_ ?_
    · rw [contains_seekOwnership, ← hsame]
      show (s'.seekOwnership[owner.commandId]?).isSome = true
      rw [← hc, (hmem entry hentry).1]
      rfl
    · rw [contains_seekOwnership]
      have hgone := compactSeeks_ownership (s := s') (k := owner.commandId)
        (.inr ⟨entry, hentry, hc⟩)
      show (((s'.coveredSeeks throughSequence).foldl compactSeek s').seekOwnership[
        owner.commandId]?).isSome = false
      rw [hgone]
      rfl

theorem seat_step (h : Seat owner accepted compacted s.seeks) {operation : Operation}
    (hspares : Spares owner compacted s operation) :
    Seat owner accepted compacted (s.step operation).seeks := by
  cases operation with
  | reduce input =>
    exact Reduction.seat_reduce (r := { s with effects := [] }) h hspares.leaves
  | peekEventBatch =>
    show Seat _ _ _ s.peekEventBatch.2.seeks
    rw [peekEventBatch_seeks]
    exact h
  | acknowledgeEventBatch token =>
    have hcompaction := hspares.retained token rfl
    change _ → ((s.acknowledgeEventBatch token).2.seeks.seekOwnership.contains owner.commandId
      = false) → _ at hcompaction
    show Seat _ _ _ (s.acknowledgeEventBatch token).2.seeks
    have hcases := acknowledgeEventBatch_seeks (s := s) token
    generalize (s.acknowledgeEventBatch token).2 = acknowledged at hcompaction hcases ⊢
    rcases hcases with heq | ⟨s', throughSequence, hsame, heq⟩
    · rw [heq]
      exact h
    · subst heq
      refine seat_compact (by rw [hsame]; exact h) throughSequence fun hheld hgone => ?_
      have hclock : s'.nowTick = s.nowTick := by
        show s'.seeks.nowTick = s.seeks.nowTick
        rw [hsame]
      rw [hclock]
      rw [hsame] at hheld
      exact hcompaction hheld hgone

/-- A run that spares the seek at every step leaves it in a seat. -/
theorem seat_run (h : Seat owner accepted compacted s.seeks) {operations : List Operation}
    (hspares : Along step (Spares owner compacted) s operations) :
    Seat owner accepted compacted (runFrom step s operations).seeks :=
  @invariant_along _ _ step (fun s => Seat owner accepted compacted s.seeks) _
    (fun _ _ hseat hstep => seat_step hseat hstep) _ h _ hspares

/-- A report that a seated seek explains is not taken for a native seek. -/
theorem seat_explains (h : Seat owner True compacted s.seeks)
    (hretained : ∀ tick, compacted tick → s.nowTick < retentionEnd tick)
    {observedSequence : Nat} {positionSeconds : Seconds}
    (hreached : owner.reachedBy owner.attachmentEpoch owner.mediaGeneration observedSequence
      positionSeconds = true) (generation : PlayerMediaGeneration) (position : Seconds) :
    .nativeSeekCandidate generation position ∉ s.effectsOf
      (.reduce (.positionObserved owner.attachmentEpoch owner.mediaGeneration observedSequence
        positionSeconds)) := by
  have hstate : ∀ state : SystemSeekOwnershipState, ({ owner with state := state } :
      SystemSeekOwnership).reachedBy owner.attachmentEpoch owner.mediaGeneration observedSequence
        positionSeconds = true := fun state => hreached
  intro hmem
  have hreport : .nativeSeekCandidate generation position ∈ seekReportsOf
      (Reduction.positionObserved { s with effects := [] } owner.attachmentEpoch
        owner.mediaGeneration observedSequence positionSeconds).effects :=
    List.mem_filter.mpr ⟨hmem, rfl⟩
  rcases Reduction.positionObserved_cases (r := { s with effects := [] }) owner.attachmentEpoch
    owner.mediaGeneration observedSequence positionSeconds with
      ⟨-, hreports⟩ | ⟨c, o, -, -, -, hreports⟩ | ⟨t, -, -, hreports⟩
      | ⟨hepoch, hlive, htombstones, huncertain, -, -⟩
  · rw [hreports] at hreport
    cases hreport
  · rw [hreports] at hreport
    simp [seekReportsOf] at hreport
  · rw [hreports] at hreport
    simp [seekReportsOf] at hreport
  · -- The report was not explained, so the seek has no seat.
    cases h with
    | live state h hpending haccepted hsame =>
      have hawaits : state.awaitsArrival = true := by
        cases state with
        | submitted => exact absurd rfl (haccepted trivial)
        | accepted => rfl
        | mayStillArrive => rfl
        | observed => cases hpending
        | invalidated => cases hpending
      have hmiss := (hstate state).symm.trans (hlive owner.commandId _ h hawaits)
      cases hmiss
    | buried tombstone h howner hsame tick hcompacted hkept =>
      have hmiss := htombstones tombstone h
      rw [howner] at hmiss
      cases (hstate .mayStillArrive).symm.trans hmiss
    | uncertain deadline h hsame tick hcompacted hkept =>
      have hnone : s.uncertainSeekGenerations[owner.mediaGeneration]? = none := huncertain
      have hsome : s.uncertainSeekGenerations[owner.mediaGeneration]? = some deadline := h
      rw [hnone] at hsome
      cases hsome
    | forgotten tick hcompacted h =>
      exact absurd (hretained tick hcompacted) (Nat.not_lt.mpr h)
    | replaced h =>
      have hlater : owner.attachmentEpoch < s.attachmentEpoch := h
      have hsame : owner.attachmentEpoch = s.attachmentEpoch := hepoch
      rw [hsame] at hlater
      exact absurd hlater (Nat.lt_irrefl _)

end PlayerLifecycleState

end Sorotte.Lifecycle
