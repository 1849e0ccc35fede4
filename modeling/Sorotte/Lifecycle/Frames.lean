import Sorotte.Framework.Maps
import Sorotte.Lifecycle.Reducer

/-! # What the primitives leave alone

  Emission changes the queues and the reconciliation timer, never the attempts,
  the commands or the links between them.  A semantic outcome changes one
  record, and these lemmas say how.
-/

namespace Sorotte.Lifecycle

open Framework

/-- A load's record after its outcome went out, unless it had one. -/
def LoadAttempt.resolved (result : PlayerLoadAttemptResult) (sequence : Nat) (a : LoadAttempt) :
    LoadAttempt :=
  if a.semanticLoadResult.isSome then a
  else { a with semanticLoadResult := some result, semanticOutcomeSequence := some sequence }

/-- Resolving sets the result and its sequence, and leaves the rest of the record alone. -/
@[simp] theorem resolved_eq (result : PlayerLoadAttemptResult) (sequence : Nat) (a : LoadAttempt) :
    a.resolved result sequence =
      { a with
        semanticLoadResult := some (a.semanticLoadResult.getD result)
        semanticOutcomeSequence :=
          if a.semanticLoadResult.isSome then a.semanticOutcomeSequence else some sequence } := by
  unfold LoadAttempt.resolved
  cases hresult : a.semanticLoadResult with
  | none => rfl
  | some first =>
    simp only [Option.isSome_some, if_true, Option.getD_some]
    rw [← hresult]

/-- A command's record after its outcome went out, unless it had one. -/
def LifecycleCommand.ended (terminal : CommandSemanticState) (sequence : Nat)
    (c : LifecycleCommand) : LifecycleCommand :=
  if c.state.isTerminal then c
  else { c with state := terminal, outcomeEmitted := true, terminalSequence := some sequence }

/-- Attempts are filed under their own identity. -/
def LoadOwnership.Keyed (o : LoadOwnership) : Prop :=
  ∀ (i : LoadAttemptId) (a : LoadAttempt), o.loadAttempts[i]? = some a → a.id = i

theorem mem_attempts {s : PlayerLifecycleState} {a : LoadAttempt} :
    a ∈ s.attempts ↔ ∃ i : LoadAttemptId, s.loadAttempts[i]? = some a := mem_map_toList

/-- A listed attempt is found under its identity. -/
theorem getElem?_of_mem_attempts {s : PlayerLifecycleState} (hkeyed : s.Keyed) {a : LoadAttempt}
    (h : a ∈ s.attempts) : s.loadAttempts[a.id]? = some a := by
  obtain ⟨i, hi⟩ := mem_attempts.mp h
  rw [hkeyed i a hi]
  exact hi

namespace Reduction

variable (r : Reduction)

/-- The sequence that the next item gets. -/
def sequence : Nat := max r.nextEventSequence 1

/-! ### Emission -/

@[simp] theorem push_own (effect : PlayerLifecycleEffect) :
    (r.push effect).toLoadOwnership = r.toLoadOwnership := rfl

@[simp] theorem scheduleReconciliation_own :
    r.scheduleReconciliation.toLoadOwnership = r.toLoadOwnership := rfl

@[simp] theorem appendEvent_own (event : PlayerEvent) :
    (r.appendEvent event).2.toLoadOwnership = r.toLoadOwnership := rfl

@[simp] theorem markGap_own : r.markGap.toLoadOwnership = r.toLoadOwnership := by
  unfold markGap
  extract_lets _ r'
  show r'.toLoadOwnership = _
  dsimp only [r']
  split <;> rfl

@[simp] theorem queueEvent_own (event : PlayerEvent) :
    (r.queueEvent event).2.toLoadOwnership = r.toLoadOwnership := by
  unfold queueEvent
  extract_lets _ r'
  rw [appendEvent_own]
  dsimp only [r']
  split
  · exact markGap_own _
  · rfl

@[simp] theorem stopReconciliation_own :
    r.stopReconciliationWithoutProactiveWork.toLoadOwnership = r.toLoadOwnership := by
  unfold stopReconciliationWithoutProactiveWork
  split <;> rfl

/-- An event that is not telemetry gets the next sequence. -/
theorem queueEvent_order {event : PlayerEvent} (h : event.isTransportDelta = false) :
    (r.queueEvent event).1 = ⟨r.attachmentEpoch, r.sequence⟩ := by
  simp [queueEvent, h, appendEvent, nextOrder, sequence]

theorem queueEvent_delivery {event : PlayerEvent} (h : event.isTransportDelta = false) :
    (r.queueEvent event).2.toEventDelivery =
      { r.toEventDelivery with
        nextEventSequence := r.sequence + 1
        pendingEvents := r.pendingEvents ++ [⟨⟨r.attachmentEpoch, r.sequence⟩, event⟩] } := by
  simp [queueEvent, h, appendEvent, nextOrder, sequence]

/-! ### Semantic outcomes -/

theorem emitLoadOutcome_own (attemptId : LoadAttemptId) (result : PlayerLoadAttemptResult)
    (loadedTarget : Option String) :
    (r.emitLoadOutcome attemptId result loadedTarget).toLoadOwnership =
      { r.toLoadOwnership with
        loadAttempts := r.loadAttempts.modify attemptId (·.resolved result r.sequence) } := by
  unfold emitLoadOutcome
  split
  · next hnone =>
    rw [modify_eq_self fun v hv => absurd hv (by simp [hnone])]
  · next attempt hattempt =>
    split
    · next hresult =>
      rw [modify_eq_self fun v hv => ?_]
      rw [hattempt] at hv
      cases hv
      exact if_pos hresult
    · next hresult =>
      refine congrArg (fun m => { r.toLoadOwnership with loadAttempts := m })
        ((modify_modify r.loadAttempts attemptId _ _).trans (modify_congr fun v hv => ?_))
      rw [hattempt] at hv
      cases hv
      exact (if_neg hresult).symm

theorem commandTerminal_own (commandId : PlayerCommandId) {terminal : CommandSemanticState}
    (hterminal : terminal.isTerminal = true) :
    (r.commandTerminal commandId terminal).toLoadOwnership =
      { r.toLoadOwnership with
        commands := r.commands.modify commandId (·.ended terminal r.sequence) } := by
  unfold commandTerminal
  split
  · next hnone =>
    rw [modify_eq_self fun v hv => absurd hv (by simp [hnone])]
  · next command hcommand =>
    split
    · next hended =>
      rw [modify_eq_self fun v hv => ?_]
      rw [hcommand] at hv
      cases hv
      exact if_pos hended
    · next hended =>
      have hresult : ∃ result, terminal.publicResult = some result := by
        cases terminal <;> simp [CommandSemanticState.isTerminal,
          CommandSemanticState.publicResult] at hterminal ⊢
      obtain ⟨result, hresult⟩ := hresult
      rw [hresult]
      refine congrArg (fun m => { r.toLoadOwnership with commands := m })
        ((modify_modify r.commands commandId _ _).trans (modify_congr fun v hv => ?_))
      rw [hcommand] at hv
      cases hv
      exact (if_neg hended).symm

/-! ### Records -/

theorem getElem?_updateAttempt (attemptId k : LoadAttemptId) (edit : LoadAttempt → LoadAttempt) :
    (r.updateAttempt attemptId edit).loadAttempts[k]? =
      if k = attemptId then r.loadAttempts[k]?.map edit else r.loadAttempts[k]? :=
  getElem?_modify_if _ _ _ _

theorem getElem?_emitLoadOutcome (attemptId k : LoadAttemptId) (result : PlayerLoadAttemptResult)
    (loadedTarget : Option String) :
    (r.emitLoadOutcome attemptId result loadedTarget).loadAttempts[k]? =
      if k = attemptId then r.loadAttempts[k]?.map (·.resolved result r.sequence)
      else r.loadAttempts[k]? := by
  rw [emitLoadOutcome_own]
  exact getElem?_modify_if _ _ _ _

/-- A demotion leaves the attempt that takes the transport alone. -/
theorem getElem?_demoteActive_self (attemptId : LoadAttemptId) (held : LoadAttemptState → Bool) :
    (r.demoteActive attemptId held).loadAttempts[attemptId]? = r.loadAttempts[attemptId]? := by
  unfold demoteActive
  split
  · rfl
  · next previousId _ =>
    split
    · rfl
    · next hne =>
      have hother : attemptId ≠ previousId := fun h => hne (by rw [h]; exact beq_self_eq_true _)
      rw [getElem?_updateAttempt, if_neg hother]

/-- An attempt's record after its claim expired. -/
def expired (retireAfterTick : Nat) (ownsTransport : Bool) (attempt : LoadAttempt) : LoadAttempt :=
  if ownsTransport then { attempt with fileLoadedDeadlineTick := none }
  else
    { attempt with
      fileLoadedDeadlineTick := none
      state := .mayStillEmitQuiescent retireAfterTick
      reconcileUntilTick := none }

/-- The tick until which an attempt that turns quiescent now is kept. -/
def retention : Nat := Coordinator.saturatingAdd r.nowTick quiescentLoadAttemptRetentionTicks

theorem expireAttempt_loadAttempts (attemptId : LoadAttemptId) (ownsTransport : Bool) :
    (r.expireAttempt attemptId ownsTransport).loadAttempts =
      r.loadAttempts.modify attemptId (expired r.retention ownsTransport) := by
  unfold expireAttempt
  extract_lets retireAfterTick r'
  split <;> rfl

theorem commandTerminal_loadAttempts (commandId : PlayerCommandId)
    (terminal : CommandSemanticState) :
    (r.commandTerminal commandId terminal).loadAttempts = r.loadAttempts := by
  unfold commandTerminal
  split
  · rfl
  · split
    · rfl
    · split <;> rfl

/-! ### A physical end -/

/-- An attempt's record after its physical end, which may have been the load's end as well. -/
def endedRecord (before : LoadAttempt) (outcome : PlayerPhysicalLoadOutcome) (sequence : Nat) :
    LoadAttempt :=
  LoadAttempt.resolved (loadResultOf outcome) (sequence + 1)
    { before with
      state := .terminal outcome
      reconcileUntilTick := none
      fileLoadedDeadlineTick := none
      physicalTerminalSequence := some sequence }

/-- What `commit_physical_attempt_terminal` does to the ownership of a live attempt. -/
structure Committed (r r' : Reduction) (attemptId : LoadAttemptId)
    (outcome : PlayerPhysicalLoadOutcome) (before : LoadAttempt) : Prop where
  attachmentEpoch : r'.attachmentEpoch = r.attachmentEpoch
  loadAttempts : ∀ k : LoadAttemptId, r'.loadAttempts[k]? =
    if k = attemptId then some (endedRecord before outcome r.sequence) else r.loadAttempts[k]?
  playlistEntryAttempts : r'.playlistEntryAttempts =
    match before.playlistEntryId with
    | some entryId => r.playlistEntryAttempts.erase entryId
    | none => r.playlistEntryAttempts
  activeLoadAttempt : r'.activeLoadAttempt =
    if r.activeLoadAttempt == some attemptId then none else r.activeLoadAttempt
  commands : r'.commands =
    match before.commandId with
    | some commandId => r.commands.modify commandId
        (·.ended (loadCommandEndOf outcome)
          (if before.semanticLoadResult.isNone then r.sequence + 2 else r.sequence + 1))
    | none => r.commands
  seekOwnership : r'.seekOwnership = r.seekOwnership
  nowTick : r'.nowTick = r.nowTick
  logicalTerminal : r'.logicalTerminal =
    if r.logicalTerminalAllowed before attemptId then some (before.mediaGeneration, outcome)
    else r.logicalTerminal
  nextLoadAttemptId : r'.nextLoadAttemptId = r.nextLoadAttemptId
  terminalAttemptTombstones : r'.terminalAttemptTombstones = r.terminalAttemptTombstones
  retiredCommandTombstones : r'.retiredCommandTombstones = r.retiredCommandTombstones
  retiredSeekTombstones : r'.retiredSeekTombstones = r.retiredSeekTombstones

theorem loadCommandEndOf_terminal (outcome : PlayerPhysicalLoadOutcome) :
    (loadCommandEndOf outcome).isTerminal = true := by
  cases outcome <;> rfl

theorem endAttempt_own (before : LoadAttempt) (attemptId : LoadAttemptId)
    (outcome : PlayerPhysicalLoadOutcome) :
    (r.endAttempt before attemptId outcome).toLoadOwnership =
      { r.toLoadOwnership with
        loadAttempts := r.loadAttempts.modify attemptId fun attempt =>
          { attempt with
            state := .terminal outcome
            reconcileUntilTick := none
            fileLoadedDeadlineTick := none }
        playlistEntryAttempts :=
          match before.playlistEntryId with
          | some entryId => r.playlistEntryAttempts.erase entryId
          | none => r.playlistEntryAttempts
        activeLoadAttempt :=
          if r.activeLoadAttempt == some attemptId then none else r.activeLoadAttempt } := by
  unfold endAttempt
  extract_lets unmapped provisional updated
  have hunmapped : unmapped.toLoadOwnership =
      { r.toLoadOwnership with
        playlistEntryAttempts :=
          match before.playlistEntryId with
          | some entryId => r.playlistEntryAttempts.erase entryId
          | none => r.playlistEntryAttempts } := by
    dsimp only [unmapped]
    cases before.playlistEntryId <;> rfl
  have hprovisional : provisional.toLoadOwnership = unmapped.toLoadOwnership := by
    dsimp only [provisional]
    split <;> rfl
  have hactive : updated.activeLoadAttempt = r.activeLoadAttempt := by
    show provisional.toLoadOwnership.activeLoadAttempt = _
    rw [hprovisional, hunmapped]
  have hupdated : updated.toLoadOwnership =
      { provisional.toLoadOwnership with
        loadAttempts := provisional.toLoadOwnership.loadAttempts.modify attemptId fun attempt =>
          { attempt with
            state := .terminal outcome
            reconcileUntilTick := none
            fileLoadedDeadlineTick := none } } := rfl
  rw [hprovisional, hunmapped] at hupdated
  rw [hactive]
  split
  · show ({ updated.toLoadOwnership with activeLoadAttempt := none } : LoadOwnership) = _
    rw [hupdated]
  · rw [hupdated]

theorem endAttempt_delivery (before : LoadAttempt) (attemptId : LoadAttemptId)
    (outcome : PlayerPhysicalLoadOutcome) :
    (r.endAttempt before attemptId outcome).toEventDelivery = r.toEventDelivery := by
  unfold endAttempt
  extract_lets unmapped provisional updated
  have hunmapped : unmapped.toEventDelivery = r.toEventDelivery := by
    dsimp only [unmapped]
    cases before.playlistEntryId <;> rfl
  have hprovisional : provisional.toEventDelivery = unmapped.toEventDelivery := by
    dsimp only [provisional]
    split <;> rfl
  have hupdated : updated.toEventDelivery = r.toEventDelivery := hprovisional.trans hunmapped
  split
  · exact hupdated
  · exact hupdated

/-- An outcome that goes out takes one sequence. -/
theorem emitLoadOutcome_sequence {attemptId : LoadAttemptId} {a : LoadAttempt}
    (ha : r.loadAttempts[attemptId]? = some a) (hresult : a.semanticLoadResult = none)
    (result : PlayerLoadAttemptResult) (loadedTarget : Option String) :
    (r.emitLoadOutcome attemptId result loadedTarget).sequence = r.sequence + 1 := by
  unfold emitLoadOutcome
  split
  · next hnone => exact absurd ha (by rw [hnone]; exact nofun)
  next found hfound =>
  obtain rfl : a = found := Option.some.inj (ha.symm.trans hfound)
  rw [if_neg (by rw [hresult]; decide)]
  show max (max r.nextEventSequence 1 + 1) 1 = max r.nextEventSequence 1 + 1
  omega

/-- An event that is not telemetry takes one sequence and leaves the ownership alone. -/
theorem queueEvent_run {event : PlayerEvent} {order : PlayerEventOrder} {queued : Reduction}
    (hevent : event.isTransportDelta = false) (hqueue : r.queueEvent event = (order, queued)) :
    order.sequence = r.sequence ∧ queued.toLoadOwnership = r.toLoadOwnership
      ∧ queued.sequence = r.sequence + 1 := by
  have horder := r.queueEvent_order hevent
  have hown := r.queueEvent_own event
  have hdelivery := r.queueEvent_delivery hevent
  rw [hqueue] at horder hown hdelivery
  refine ⟨congrArg PlayerEventOrder.sequence horder, hown, ?_⟩
  show max queued.toEventDelivery.nextEventSequence 1 = _
  rw [show queued.toEventDelivery = _ from hdelivery]
  show max (r.sequence + 1) 1 = r.sequence + 1
  omega

/-- A load's outcome goes out when its record has none yet. -/
theorem emitFirstOutcome {attemptId : LoadAttemptId} {a : LoadAttempt}
    (ha : r.loadAttempts[attemptId]? = some a) (result : PlayerLoadAttemptResult)
    {resolved : Reduction}
    (hresolved : resolved =
      if a.semanticLoadResult.isNone then r.emitLoadOutcome attemptId result none else r) :
    resolved.toLoadOwnership =
        { r.toLoadOwnership with
          loadAttempts := r.loadAttempts.modify attemptId (·.resolved result r.sequence) }
      ∧ resolved.sequence =
        if a.semanticLoadResult.isNone then r.sequence + 1 else r.sequence := by
  subst hresolved
  split
  · next hnone =>
    exact ⟨emitLoadOutcome_own _ _ _ _,
      emitLoadOutcome_sequence _ ha (Option.isNone_iff_eq_none.mp hnone) _ _⟩
  · next hsome =>
    refine ⟨?_, rfl⟩
    -- a record that has a result keeps it
    rw [modify_eq_self fun v hv => ?_]
    rw [ha] at hv
    cases hv
    exact if_pos (by simpa [Option.isSome_iff_ne_none] using hsome)

/-- A command's outcome goes out when the command is still pending. -/
theorem endPendingCommand (commandId : PlayerCommandId) {terminal : CommandSemanticState}
    (hterminal : terminal.isTerminal = true) :
    (if r.commands[commandId]?.any (!·.state.isTerminal) then
        r.commandTerminal commandId terminal else r).toLoadOwnership =
      { r.toLoadOwnership with
        commands := r.commands.modify commandId (·.ended terminal r.sequence) } := by
  split
  · exact commandTerminal_own _ _ hterminal
  · next hended =>
    rw [modify_eq_self fun v hv => ?_]
    rw [hv] at hended
    exact if_pos (by simpa using hended)

/-- The record of an attempt after its end: its state, the event's sequence, and an outcome if it
    had none. -/
theorem getElem?_endedRecord {attemptId : LoadAttemptId} {before : LoadAttempt}
    (hbefore : r.loadAttempts[attemptId]? = some before) (outcome : PlayerPhysicalLoadOutcome)
    (k : LoadAttemptId) :
    (((r.loadAttempts.modify attemptId fun attempt =>
        { attempt with
          state := .terminal outcome
          reconcileUntilTick := none
          fileLoadedDeadlineTick := none }).modify attemptId fun attempt =>
        { attempt with physicalTerminalSequence := some r.sequence }).modify attemptId
          (·.resolved (loadResultOf outcome) (r.sequence + 1)))[k]? =
      if k = attemptId then some (endedRecord before outcome r.sequence)
      else r.loadAttempts[k]? := by
  rw [getElem?_modify_if, getElem?_modify_if, getElem?_modify_if]
  by_cases hk : k = attemptId
  · rw [if_pos hk, if_pos hk, if_pos hk, if_pos hk, hk, hbefore]
    rfl
  · rw [if_neg hk, if_neg hk, if_neg hk, if_neg hk]

theorem commit_spec {attemptId : LoadAttemptId} {before : LoadAttempt}
    (hbefore : r.loadAttempts[attemptId]? = some before)
    (hepoch : before.attachmentEpoch = r.attachmentEpoch)
    (hlive : before.state.isTerminal = false) (outcome : PlayerPhysicalLoadOutcome) :
    Committed r (r.commitPhysicalAttemptTerminal attemptId outcome) attemptId outcome before := by
  unfold commitPhysicalAttemptTerminal
  split
  · next hnone => exact absurd hbefore (by rw [hnone]; exact nofun)
  next found hfound =>
  obtain rfl : before = found := Option.some.inj (hbefore.symm.trans hfound)
  rw [if_neg (by simp [hepoch, hlive])]
  extract_lets allowed ended
  split
  next terminalOrder queued hqueue =>
  extract_lets sequenced resolved settled announced
  -- the record and the mapping, the terminal event, and the event's sequence
  have hended : ended.toLoadOwnership = _ := endAttempt_own r before attemptId outcome
  have hsequence : ended.sequence = r.sequence := by
    show max ended.toEventDelivery.nextEventSequence 1 = _
    rw [show ended.toEventDelivery = _ from endAttempt_delivery r before attemptId outcome]
    rfl
  obtain ⟨horder, hqueued, hnext⟩ := queueEvent_run _ rfl hqueue
  rw [hsequence] at horder hnext
  have hsequenced : sequenced.toLoadOwnership =
      { ended.toLoadOwnership with
        loadAttempts := ended.loadAttempts.modify attemptId fun attempt =>
          { attempt with physicalTerminalSequence := some r.sequence } } := by
    show ({ queued.toLoadOwnership with loadAttempts := _ } : LoadOwnership) = _
    rw [hqueued, horder]
  have hsequencedNext : sequenced.sequence = r.sequence + 1 := hnext
  have hbeforeEnded : sequenced.loadAttempts[attemptId]? = some
      { before with
        state := .terminal outcome
        reconcileUntilTick := none
        fileLoadedDeadlineTick := none
        physicalTerminalSequence := some r.sequence } := by
    show sequenced.toLoadOwnership.loadAttempts[attemptId]? = _
    rw [hsequenced, hended]
    dsimp only
    rw [getElem?_modify_if, if_pos rfl, getElem?_modify_if, if_pos rfl, hbefore]
    rfl
  -- the load's outcome, when the physical end is the first verdict
  have hfirst : resolved = if before.semanticLoadResult.isNone then
      sequenced.emitLoadOutcome attemptId (loadResultOf outcome) none else sequenced := rfl
  obtain ⟨hresolved, hafter⟩ := sequenced.emitFirstOutcome hbeforeEnded _ hfirst
  rw [hsequencedNext] at hresolved hafter
  -- the command's outcome, when its command is still pending
  have hsettled : settled.toLoadOwnership =
      { resolved.toLoadOwnership with
        commands :=
          match before.commandId with
          | some commandId => resolved.commands.modify commandId
              (·.ended (loadCommandEndOf outcome)
                (if before.semanticLoadResult.isNone then r.sequence + 2 else r.sequence + 1))
          | none => resolved.commands } := by
    dsimp only [settled]
    cases before.commandId with
    | none => rfl
    | some commandId =>
      rw [resolved.endPendingCommand commandId (loadCommandEndOf_terminal outcome), hafter]
  rw [hresolved, hsequenced, hended] at hsettled
  have hfinal : ∀ final : Reduction, final.toLoadOwnership =
        { settled.toLoadOwnership with
          logicalTerminal :=
            if allowed then some (before.mediaGeneration, outcome)
            else settled.logicalTerminal } →
      Committed r final attemptId outcome before := by
    intro final hfinal
    rw [hsettled] at hfinal
    constructor
    case loadAttempts =>
      intro k
      show final.toLoadOwnership.loadAttempts[k]? = _
      rw [hfinal]
      exact r.getElem?_endedRecord hbefore outcome k
    all_goals rw [hfinal]
  clear_value allowed
  cases allowed with
  | false =>
    simp only [Bool.not_false, if_true]
    exact hfinal settled rfl
  | true =>
    simp only [Bool.not_true, Bool.false_eq_true, if_false]
    have hannounced : announced.toLoadOwnership =
        { settled.toLoadOwnership with
          logicalTerminal := some (before.mediaGeneration, outcome) } := rfl
    split
    · refine hfinal _ ?_
      show ((announced.queueEvent _).2).toLoadOwnership = _
      rw [queueEvent_own]
      exact hannounced
    · exact hfinal announced hannounced

/-- One round of the expiry loop changes the record of its attempt only. -/
theorem getElem?_expireLoad (attemptId k : LoadAttemptId) :
    (r.expireLoad attemptId).loadAttempts[k]? =
      if k = attemptId then
        r.loadAttempts[k]?.map fun a =>
          (expired r.retention (r.ownsStartedTransport attemptId) a).resolved .indeterminate
            r.sequence
      else r.loadAttempts[k]? := by
  unfold expireLoad
  extract_lets commandId ended resolved
  have hended : ended.loadAttempts =
      r.loadAttempts.modify attemptId
        (expired r.retention (r.ownsStartedTransport attemptId)) :=
    expireAttempt_loadAttempts r attemptId _
  have hsequence : ended.sequence = r.sequence := by
    dsimp only [ended]
    unfold expireAttempt
    extract_lets _ r'
    split <;> rfl
  have hresolved : resolved.loadAttempts[k]? =
      if k = attemptId then
        r.loadAttempts[k]?.map fun a =>
          (expired r.retention (r.ownsStartedTransport attemptId) a).resolved .indeterminate
            r.sequence
      else r.loadAttempts[k]? := by
    dsimp only [resolved]
    rw [getElem?_emitLoadOutcome, hsequence, hended, getElem?_modify_if]
    split
    · rw [Option.map_map]
      rfl
    · rfl
  clear_value commandId
  cases commandId with
  | none => exact hresolved
  | some commandId =>
    rw [commandTerminal_loadAttempts]
    exact hresolved

/-! ### Deferred starts -/

/-- What the queue of deferred starts, each start and a request to reconcile preserve, replaying
    the queue preserves. -/
theorem tryDeferredStarts_preserves {r : Reduction} {P : Reduction → Prop}
    (hqueue : ∀ r files, P r → P { r with deferredStartFiles := files })
    (hstart : ∀ (r : Reduction) playlistEntryId attemptId,
      r.playlistEntryAttempts[playlistEntryId]? = some attemptId → P r →
      P (r.startAttempt attemptId playlistEntryId true))
    (hrequest : ∀ r : Reduction, P r →
      P (r.scheduleReconciliation.push .requestLifecycleReconciliation))
    (h : P r) : P r.tryDeferredStarts := by
  have hloop : ∀ (items : List DeferredStartFile) (state : List DeferredStartFile × Reduction),
      P state.2 → P (items.foldl (fun x deferred => tryDeferredStart x.2 x.1 deferred) state).2 := by
    intro items
    induction items with
    | nil => exact fun state hstate => hstate
    | cons deferred items ih =>
      intro state hstate
      refine ih _ ?_
      unfold tryDeferredStart
      dsimp only
      split
      · exact hstate
      · split
        · next attemptId howner => exact hstart _ _ _ howner hstate
        · exact hstate
  unfold tryDeferredStarts
  extract_lets deferredStarts
  split
  next retained r' hfold =>
  have hr' := hloop deferredStarts ([], { r with deferredStartFiles := [] }) (hqueue r [] h)
  rw [show (deferredStarts.foldl (fun x deferred => tryDeferredStart x.2 x.1 deferred)
    ([], { r with deferredStartFiles := [] })) = (retained, r') from hfold] at hr'
  extract_lets r''
  split
  · exact hrequest _ (hqueue r' retained hr')
  · exact hqueue r' retained hr'

end Reduction

end Sorotte.Lifecycle
