import Sorotte.Lifecycle.PlaylistBinding

/-! # Settled attempts in every reachable state

  External loads, verdicts, snapshots, timers and acknowledgements leave the
  attempts settled, so a run that starts with a new player never leaves them.
-/

namespace Sorotte.Lifecycle

open Framework

namespace Reduction

variable {r : Reduction}

/-! ### External loads -/

/-- Superseding the active attempt, which is live, for a new record. -/
theorem supersedeActive_spec (h : AttemptsSettled r.toLoadOwnership) {inserted : Reduction}
    {b : LoadAttempt} (hid : b.id = r.nextLoadAttemptId)
    (hlookup : ∀ k : LoadAttemptId, inserted.loadAttempts[k]? =
      if k = r.nextLoadAttemptId then some b else r.loadAttempts[k]?) :
    ∃ f, Superseded inserted
        (inserted.supersedeActive r.nextLoadAttemptId r.activeLoadAttempt) f
      ∧ f r.nextLoadAttemptId b = b
      ∧ ∀ (k : LoadAttemptId) (a : LoadAttempt), r.loadAttempts[k]? = some a →
        KeepsPlace a (f k a) ∧ AttemptSettled (f k a) := by
  cases hactive : r.activeLoadAttempt with
  | none =>
    refine ⟨fun _ a => a, ⟨rfl, rfl, rfl, rfl, rfl, fun k => Option.map_id'.symm⟩, rfl, ?_⟩
    exact fun k a ha => ⟨KeepsPlace.refl a, h.settled k a ha⟩
  | some predecessorId =>
    obtain ⟨predecessor, hpredecessor, hlive, -, -⟩ := h.active predecessorId hactive
    have hne : predecessorId ≠ r.nextLoadAttemptId := by
      intro heq
      have hissued := (h.issued predecessorId predecessor hpredecessor).2
      rw [heq] at hissued
      exact absurd hissued (Nat.lt_irrefl _)
    have hfound : inserted.loadAttempts[predecessorId]? = some predecessor := by
      rw [hlookup, if_neg hne]
      exact hpredecessor
    obtain ⟨sequence, hsuperseded⟩ := @supersede_spec inserted predecessor predecessor.commandId
      predecessorId r.nextLoadAttemptId
    refine ⟨supersededRecord predecessorId r.nextLoadAttemptId sequence, ?_, ?_, ?_⟩
    · unfold supersedeActive
      dsimp only
      rw [hfound]
      dsimp only
      rw [if_neg (by rw [hlive]; decide)]
      exact hsuperseded
    · -- The successor keeps its own claim.
      unfold supersededRecord withoutClaim
      rw [if_neg (Ne.symm hne), hid, if_neg (by simp)]
    · intro k a ha
      have hrecord := settled_supersededRecord (h.settled k a ha) predecessorId
        r.nextLoadAttemptId sequence k (by
          rintro rfl
          rw [hpredecessor] at ha
          cases ha
          exact hlive)
      exact ⟨hrecord.1, hrecord.2.1⟩

theorem settled_externalLoadObserved (h : AttemptsSettled r.toLoadOwnership)
    (attachmentEpoch : PlayerAttachmentEpoch) (mediaGeneration : PlayerMediaGeneration)
    (playlistEntryId : PlaylistEntryId) (observedTarget : String) (fileLoaded : Bool) :
    AttemptsSettled (r.externalLoadObserved attachmentEpoch mediaGeneration playlistEntryId
      observedTarget fileLoaded).toLoadOwnership := by
  have hnext : max r.nextLoadAttemptId 1 = r.nextLoadAttemptId := Nat.max_eq_left h.positive
  unfold externalLoadObserved
  split
  · exact h
  next hguard =>
  have hfree : r.playlistEntryAttempts[playlistEntryId]? = none := by
    simp only [Bool.or_eq_true, not_or, Bool.not_eq_true] at hguard
    have hcontains := hguard.1.2
    rw [Std.ExtTreeMap.contains_eq_isSome_getElem?, Option.isSome_eq_false_iff] at hcontains
    exact Option.isNone_iff_eq_none.mp hcontains
  extract_lets predecessorId
  split
  next attemptId allocated hallocate =>
  cases hallocate
  extract_lets inserted superseded mapped taken bound starting active
  let b := r.externalAttempt r.nextLoadAttemptId mediaGeneration playlistEntryId observedTarget
    fileLoaded
  have hlookup : ∀ k : LoadAttemptId, inserted.loadAttempts[k]? =
      if k = r.nextLoadAttemptId then some b else r.loadAttempts[k]? := by
    intro k
    refine (getElem?_insert_if _ _ _ _).trans ?_
    rw [hnext]
    rfl
  obtain ⟨f, hsuperseded, hown, hkeep⟩ := supersedeActive_spec h rfl hlookup
  have hsuperseded' : Superseded inserted superseded f := by
    dsimp only [superseded, predecessorId]
    rw [hnext]
    exact hsuperseded
  have hstarting : starting.toLoadOwnership = taken.toLoadOwnership := by
    show ((bound.queueEvent _).2).toLoadOwnership = _
    rw [queueEvent_own]
    exact queueEvent_own _ _
  have hactive : active.toLoadOwnership = taken.toLoadOwnership := by
    show ((starting.queueEvent _).2).toLoadOwnership = _
    rw [queueEvent_own]
    exact hstarting
  -- The records before the load's outcome, if it has one already.
  have htaken : ∀ k : LoadAttemptId, taken.loadAttempts[k]? =
      if k = r.nextLoadAttemptId then some b else r.loadAttempts[k]?.map (f k) := by
    intro k
    show superseded.loadAttempts[k]? = _
    rw [hsuperseded'.loadAttempts, hlookup]
    split
    · next hk =>
      rw [Option.map_some, hk, hown]
    · rfl
  have hentries : ∀ e : PlaylistEntryId, taken.playlistEntryAttempts[e]? =
      if some playlistEntryId = some e then some r.nextLoadAttemptId
      else r.playlistEntryAttempts[e]? := by
    intro e
    show (superseded.playlistEntryAttempts.insert playlistEntryId (max r.nextLoadAttemptId 1))[e]?
      = _
    rw [getElem?_insert_if, hsuperseded'.playlistEntryAttempts, hnext]
    by_cases he : e = playlistEntryId
    · rw [if_pos he, if_pos (by rw [he])]
    · rw [if_neg he, if_neg fun hsame => he (Option.some.inj hsame).symm]
  have hsettled : ∀ (final : Reduction) (c : LoadAttempt),
      final.attachmentEpoch = taken.attachmentEpoch →
      final.nextLoadAttemptId = taken.nextLoadAttemptId →
      final.playlistEntryAttempts = taken.playlistEntryAttempts →
      final.activeLoadAttempt = taken.activeLoadAttempt →
      (∀ k : LoadAttemptId, final.loadAttempts[k]? =
        if k = r.nextLoadAttemptId then some c else r.loadAttempts[k]?.map (f k)) →
      c.id = b.id → c.attachmentEpoch = b.attachmentEpoch → c.state = b.state →
      c.playlistEntryId = some playlistEntryId → AttemptSettled c →
      AttemptsSettled final.toLoadOwnership := by
    intro final c hfinalEpoch hfinalNext hfinalEntries hfinalActive hfinalLookup hid hepoch hstate
      hentry hc
    have hlive : c.state.isTerminal = false ∧ c.state.isQuiescent = false := by
      rw [hstate]
      show (if fileLoaded = true then LoadAttemptState.active else .starting).isTerminal = false
        ∧ (if fileLoaded = true then LoadAttemptState.active else .starting).isQuiescent = false
      cases fileLoaded <;> exact ⟨rfl, rfl⟩
    refine h.insert ?_ ?_ hfinalLookup hkeep hid hepoch hlive.1 hc ?_ ?_ ?_
    · rw [hfinalEpoch]
      exact hsuperseded'.attachmentEpoch
    · rw [hfinalNext]
      show superseded.nextLoadAttemptId = _
      rw [hsuperseded'.nextLoadAttemptId]
      show max r.nextLoadAttemptId 1 + 1 = _
      rw [hnext]
    · intro e
      rw [hfinalEntries, hentries, hentry]
    · intro e he
      rw [hentry] at he
      cases he
      exact hfree
    · intro k hk
      have hheld : some (max r.nextLoadAttemptId 1) = some k := by
        rw [hfinalActive] at hk
        exact hk
      rw [hnext] at hheld
      obtain rfl := Option.some.inj hheld
      refine ⟨fun _ => ⟨hlive.2, ?_⟩, fun hne => absurd rfl hne⟩
      rw [hentry]
      rfl
  have hrecord := @settled_externalAttempt r r.nextLoadAttemptId mediaGeneration playlistEntryId
    observedTarget fileLoaded
  cases hloaded : fileLoaded with
  | true =>
    rw [if_pos rfl]
    have hemit := emitLoadOutcome_own active (max r.nextLoadAttemptId 1) .loaded
      (some observedTarget)
    have hc := hrecord active.sequence
    rw [if_pos hloaded] at hc
    refine hsettled _ (b.resolved .loaded active.sequence) ?_ ?_ ?_ ?_ ?_ (by simp) (by simp)
      (by simp) (by simp [b, externalAttempt]) hc
    · rw [hemit, hactive]
    · rw [hemit, hactive]
    · rw [hemit, hactive]
    · rw [hemit, hactive]
    · intro k
      rw [hemit, hactive, hnext]
      show (taken.loadAttempts.modify r.nextLoadAttemptId _)[k]? = _
      rw [getElem?_modify_if, htaken]
      split
      · rfl
      · rfl
  | false =>
    rw [if_neg (by decide)]
    have hc := hrecord 0
    rw [if_neg (by rw [hloaded]; decide)] at hc
    refine hsettled starting b ?_ ?_ ?_ ?_ ?_ rfl rfl rfl rfl hc
    · rw [hstarting]
    · rw [hstarting]
    · rw [hstarting]
    · rw [hstarting]
    · intro k
      show starting.toLoadOwnership.loadAttempts[k]? = _
      rw [hstarting]
      exact htaken k

/-! ### Verdicts of the transport -/

theorem settled_acceptCommand (h : AttemptsSettled r.toLoadOwnership)
    (commandId : Option PlayerCommandId) :
    AttemptsSettled (match commandId with
      | some commandId => r.acceptCommand commandId
      | none => r).toLoadOwnership := by
  cases commandId with
  | none => exact h
  | some commandId => exact h.congr rfl rfl rfl rfl rfl

theorem acceptCommand_attempts (commandId : Option PlayerCommandId) :
    (match commandId with
      | some commandId => r.acceptCommand commandId
      | none => r).loadAttempts = r.loadAttempts := by
  cases commandId <;> rfl

theorem settled_loadAttemptAccepted (h : AttemptsSettled r.toLoadOwnership)
    (attachmentEpoch : PlayerAttachmentEpoch) (attemptId : LoadAttemptId) :
    AttemptsSettled (r.loadAttemptAccepted attachmentEpoch attemptId).toLoadOwnership := by
  unfold loadAttemptAccepted
  split
  · exact h
  split
  · exact h
  next attempt hattempt =>
  split
  · exact h
  next hguard =>
  have hsubmitting : attempt.state = .submitting := by
    simp only [Bool.or_eq_true, not_or, bne_iff_ne, ne_eq, Decidable.not_not] at hguard
    exact hguard.2
  extract_lets command accepted superseded cleared started
  have hcommand : AttemptsSettled command.toLoadOwnership := settled_acceptCommand h _
  have haccepted : AttemptsSettled accepted.toLoadOwnership := by
    refine settled_updateAttempt hcommand attemptId fun a ha => ?_
    have hfound : r.loadAttempts[attemptId]? = some a := by
      rw [← acceptCommand_attempts attempt.commandId]
      exact ha
    rw [hattempt] at hfound
    cases hfound
    refine ⟨⟨rfl, rfl, ?_, rfl⟩, (hcommand.settled _ _ ha).accepted hsubmitting _, nofun⟩
    rw [hsubmitting]
    rfl
  have hsuperseded : AttemptsSettled superseded.toLoadOwnership :=
    settled_supersedeReplaced haccepted _ _
  have hcleared : AttemptsSettled cleared.toLoadOwnership := hsuperseded.congr rfl rfl rfl rfl rfl
  exact settled_tryDeferredStarts hcleared

/-- A rejected load gets its outcome while its record is still a submission's:
    the record is settled again once the physical end has followed. -/
theorem settled_loadAttemptRejected (h : AttemptsSettled r.toLoadOwnership)
    (attachmentEpoch : PlayerAttachmentEpoch) (attemptId : LoadAttemptId)
    (failure : PlayerCommandFailureKind) :
    AttemptsSettled (r.loadAttemptRejected attachmentEpoch attemptId failure).toLoadOwnership := by
  unfold loadAttemptRejected
  split
  · exact h
  split
  · exact h
  next attempt hattempt =>
  split
  · exact h
  next hguard =>
  have hsubmitting : attempt.state = .submitting := by
    simp only [Bool.or_eq_true, not_or, bne_iff_ne, ne_eq, Decidable.not_not] at hguard
    exact hguard.2
  extract_lets command emitted
  have hcommand : AttemptsSettled command.toLoadOwnership
      ∧ command.loadAttempts = r.loadAttempts := by
    dsimp only [command]
    cases attempt.commandId with
    | none => exact ⟨h, rfl⟩
    | some commandId =>
      exact ⟨settled_commandTerminal h _ _, commandTerminal_loadAttempts r commandId _⟩
  obtain ⟨hsettled, hattempts⟩ := hcommand
  have hfound : command.loadAttempts[attemptId]? = some attempt := by
    rw [hattempts]
    exact hattempt
  have hnone := (hsettled.settled _ _ hfound).submitting hsubmitting
  have hlive : attempt.state.isTerminal = false := by
    rw [hsubmitting]
    rfl
  have hown : emitted.toLoadOwnership = _ :=
    emitLoadOutcome_own command attemptId .neverStarted none
  have hemitted : emitted.loadAttempts[attemptId]? =
      some (attempt.resolved .neverStarted command.sequence) := by
    rw [hown]
    show (command.loadAttempts.modify attemptId _)[attemptId]? = _
    rw [getElem?_modify_if, if_pos rfl, hfound]
    rfl
  have hcommitted := commit_spec emitted hemitted
    (by rw [resolved_eq, hown]; exact hsettled.epoch attemptId attempt hfound)
    (by rw [resolved_eq]; exact hlive) .neverStarted
  refine hsettled.terminate (i := attemptId) (a := attempt) hfound hlive ?_ ?_ ?_
    (b := endedRecord (attempt.resolved .neverStarted command.sequence) .neverStarted
      emitted.sequence) ?_ ?_ ?_ ?_ ?_ ?_
  · rw [hcommitted.attachmentEpoch, hown]
  · rw [hcommitted.nextLoadAttemptId, hown]
  · intro k
    rw [hcommitted.loadAttempts]
    split
    · rfl
    · next hk =>
      rw [hown]
      show (command.loadAttempts.modify attemptId _)[k]? = _
      rw [getElem?_modify_if, if_neg hk]
  · simp [endedRecord]
  · simp [endedRecord]
  · simp [endedRecord, LoadAttemptState.isTerminal]
  · have hterminated := (hsettled.settled _ _ hfound).terminated .neverStarted emitted.sequence
      .neverStarted command.sequence
    have hsame : endedRecord (attempt.resolved .neverStarted command.sequence) .neverStarted
        emitted.sequence = LoadAttempt.resolved .neverStarted command.sequence
          { attempt with
            state := .terminal .neverStarted
            reconcileUntilTick := none
            fileLoadedDeadlineTick := none
            physicalTerminalSequence := some emitted.sequence } := by
      simp [endedRecord, LoadAttempt.resolved, hnone]
    rw [hsame]
    exact hterminated
  · intro e
    rw [hcommitted.playlistEntryAttempts]
    simp only [resolved_eq]
    rw [(hsettled.settled _ _ hfound).unbound (.inl hsubmitting), hown]
    rw [if_neg (by simp)]
  · intro k hk
    rw [hcommitted.activeLoadAttempt] at hk
    split at hk
    · cases hk
    · next hne =>
      have hheld : command.activeLoadAttempt = some k := by
        rw [hown] at hk
        exact hk
      refine ⟨?_, hheld⟩
      rintro rfl
      obtain ⟨a, ha, -, -, hentry⟩ := hsettled.active k hheld
      rw [hfound] at ha
      cases ha
      rw [(hsettled.settled _ _ hfound).unbound (.inl hsubmitting)] at hentry
      exact absurd hentry (by decide)

theorem settled_supersedeCommands (h : AttemptsSettled r.toLoadOwnership)
    (commandIds : List PlayerCommandId) :
    AttemptsSettled (r.supersedeCommands commandIds).toLoadOwnership :=
  settled_foldl (fun _ commandId hr => settled_commandTerminal hr commandId _) commandIds h

theorem settled_commandAccepted (h : AttemptsSettled r.toLoadOwnership)
    (attachmentEpoch : PlayerAttachmentEpoch) (commandId : PlayerCommandId) :
    AttemptsSettled (r.commandAccepted attachmentEpoch commandId).toLoadOwnership := by
  unfold commandAccepted
  split
  · exact h
  split
  · exact h
  split
  · exact h
  · exact (settled_supersedeCommands h _).congr rfl rfl rfl rfl rfl

theorem ownsStartedTransport_active {attemptId : LoadAttemptId}
    (h : r.ownsStartedTransport attemptId = true) : r.activeLoadAttempt = some attemptId := by
  unfold ownsStartedTransport at h
  exact eq_of_beq (Bool.and_eq_true_iff.mp h).1

theorem settled_commandCompletionNotObserved (h : AttemptsSettled r.toLoadOwnership)
    (attachmentEpoch : PlayerAttachmentEpoch) (commandId : PlayerCommandId) :
    AttemptsSettled
      (r.commandCompletionNotObserved attachmentEpoch commandId).toLoadOwnership := by
  unfold commandCompletionNotObserved
  split
  · exact h
  extract_lets ended
  have hended : AttemptsSettled ended.toLoadOwnership := settled_endSeekCommand h _ _ _
  split
  · exact hended
  next attemptId _ =>
  unfold expireCommandAttempt
  extract_lets ownsTransport expired emitted
  split
  · exact hended
  next attempt hattempt =>
  split
  · exact hended
  next hguard =>
  have hlive : attempt.state.isTerminal = false := by
    simp only [Bool.or_eq_true, not_or, Bool.not_eq_true] at hguard
    exact hguard.1.1
  have hemitted : AttemptsSettled emitted.toLoadOwnership := by
    refine settled_expire hended attemptId ownsTransport ownsStartedTransport_active ?_ _ _
    intro a ha
    rw [hattempt] at ha
    cases ha
    exact hlive
  split
  · exact hemitted
  · rw [stopReconciliation_own]
    exact hemitted

/-! ### Physical lifecycle -/

theorem settled_startFile (h : AttemptsSettled r.toLoadOwnership)
    (attachmentEpoch : PlayerAttachmentEpoch) (playlistEntryId : PlaylistEntryId) :
    AttemptsSettled (r.startFile attachmentEpoch playlistEntryId).toLoadOwnership := by
  unfold startFile
  split
  · exact h
  split
  · next attemptId hmapped => exact settled_startAttempt h hmapped true
  · extract_lets deferred
    show AttemptsSettled deferred.toLoadOwnership
    dsimp only [deferred]
    split
    · exact h
    · exact h

theorem settled_fileLoaded (h : AttemptsSettled r.toLoadOwnership)
    (attachmentEpoch : PlayerAttachmentEpoch) (playlistEntryId : Option PlaylistEntryId)
    (loadedTarget : Option String) :
    AttemptsSettled
      (r.fileLoaded attachmentEpoch playlistEntryId loadedTarget).toLoadOwnership := by
  unfold fileLoaded
  split
  · exact h
  split
  · exact h
  next attemptId hmapped =>
  obtain ⟨e, -, hmapped⟩ := Option.bind_eq_some_iff.mp hmapped
  obtain ⟨a, ha, hlive, hentry, -, -⟩ := h.of_mapped hmapped
  split
  · exact h
  next before hbefore =>
  obtain rfl : a = before := Option.some.inj (ha.symm.trans hbefore)
  split
  · exact h
  · have hbound : a.playlistEntryId.isSome = true := by
      rw [hentry]
      rfl
    cases hrevoked : a.logicalOwnershipRevoked with
    | true => exact settled_observeRevoked h ha hbound hlive hrevoked loadedTarget
    | false => exact settled_observeOwned h ha hbound hlive hrevoked loadedTarget

theorem settled_endFile (h : AttemptsSettled r.toLoadOwnership)
    (attachmentEpoch : PlayerAttachmentEpoch) (playlistEntryId : PlaylistEntryId)
    (outcome : PlayerPhysicalLoadOutcome) :
    AttemptsSettled (r.endFile attachmentEpoch playlistEntryId outcome).toLoadOwnership := by
  unfold endFile
  split
  · exact h
  split
  · exact settled_commit h _ _
  · split
    · exact h
    · exact h

theorem settled_playlistSnapshot (h : AttemptsSettled r.toLoadOwnership)
    (attachmentEpoch : PlayerAttachmentEpoch) (entries : List AuthoritativePlaylistEntry)
    (currentPath : Option String) :
    AttemptsSettled (r.playlistSnapshot attachmentEpoch entries currentPath).toLoadOwnership := by
  unfold playlistSnapshot
  split
  · exact h
  · exact settled_reconcilePlaylist h entries currentPath

/-! ### Time and the transport's end -/

theorem settled_expireLoad (h : AttemptsSettled r.toLoadOwnership) {attemptId : LoadAttemptId}
    (hlive : ∀ a, r.loadAttempts[attemptId]? = some a → a.state.isTerminal = false) :
    AttemptsSettled (r.expireLoad attemptId).toLoadOwnership := by
  unfold expireLoad
  extract_lets commandId expired emitted
  have hemitted : AttemptsSettled emitted.toLoadOwnership :=
    settled_expire h attemptId _ ownsStartedTransport_active hlive _ _
  clear_value commandId
  cases commandId with
  | none => exact hemitted
  | some commandId => exact settled_commandTerminal hemitted _ _

/-- The expiry loop: a round ends no attempt, so what was live when the loop
    was set up is live when its turn comes. -/
theorem settled_expireLoads (attemptIds : List LoadAttemptId)
    (h : AttemptsSettled r.toLoadOwnership)
    (hlive : ∀ i ∈ attemptIds, ∀ a, r.loadAttempts[i]? = some a → a.state.isTerminal = false) :
    AttemptsSettled (attemptIds.foldl expireLoad r).toLoadOwnership := by
  induction attemptIds generalizing r with
  | nil => exact h
  | cons attemptId rest ih =>
    refine ih (settled_expireLoad h (hlive attemptId (by simp))) fun i hi a ha => ?_
    rw [getElem?_expireLoad] at ha
    split at ha
    · obtain ⟨b, hb, rfl⟩ := Option.map_eq_some_iff.mp ha
      simp only [resolved_eq]
      have hbefore := hlive i (List.mem_cons_of_mem _ hi) b hb
      unfold expired
      split
      · exact hbefore
      · rfl
    · exact hlive i (List.mem_cons_of_mem _ hi) a ha

@[simp] theorem requestDueReconciliation_own (r : Reduction) :
    r.requestDueReconciliation.toLoadOwnership = r.toLoadOwnership := by
  unfold requestDueReconciliation
  split <;> rfl

@[simp] theorem openNextEpoch_own (r : Reduction) : r.openNextEpoch.toLoadOwnership =
    { attachmentEpoch := r.attachmentEpoch + 1
      nowTick := r.nowTick
      nextLoadAttemptId := r.nextLoadAttemptId } := by
  have hretired : r.toPlayerLifecycleState.retireCurrentEpochDelivery.toLoadOwnership =
      r.toLoadOwnership := by
    unfold PlayerLifecycleState.retireCurrentEpochDelivery
    extract_lets delivery s
    split <;> rfl
  unfold openNextEpoch
  dsimp only
  rw [push_own, push_own, queueEvent_own]
  unfold startNextEpoch
  dsimp only
  rw [hretired]

theorem settled_timerAdvanced (h : AttemptsSettled r.toLoadOwnership) (nowTick : Nat) :
    AttemptsSettled (r.timerAdvanced nowTick).toLoadOwnership := by
  unfold timerAdvanced
  extract_lets advanced expiredLoadAttempts expiredLoads expiredQuiescentAttempts ended
  have hadvanced : AttemptsSettled advanced.toLoadOwnership := h.congr rfl rfl rfl rfl rfl
  have hloads : AttemptsSettled expiredLoads.toLoadOwnership := by
    refine settled_expireLoads expiredLoadAttempts hadvanced fun i hi a ha => ?_
    obtain ⟨b, hb, rfl⟩ := List.mem_map.mp hi
    obtain ⟨hmem, hexpired⟩ := List.mem_filter.mp hb
    rw [getElem?_of_mem_attempts hadvanced.keyed hmem] at ha
    cases ha
    unfold loadExpired at hexpired
    simp only [Bool.and_eq_true, Bool.not_eq_true'] at hexpired
    exact hexpired.1.1.1
  have hended : AttemptsSettled ended.toLoadOwnership := settled_commitAll _ _ hloads
  rw [requestDueReconciliation_own, stopReconciliation_own]
  exact hended

theorem settled_transportDisconnected (h : AttemptsSettled r.toLoadOwnership)
    (attachmentEpoch : PlayerAttachmentEpoch) :
    AttemptsSettled (r.transportDisconnected attachmentEpoch).toLoadOwnership := by
  unfold transportDisconnected
  split
  · exact h
  · exact settled_commitAll _ _
      (settled_foldl (fun _ commandId hr => settled_endSeekCommand hr commandId _ _) _ h)

theorem settled_attachmentReplaced (h : AttemptsSettled r.toLoadOwnership) :
    AttemptsSettled r.attachmentReplaced.toLoadOwnership := by
  have hclosed : AttemptsSettled r.closeDelivery.toLoadOwnership := by
    unfold closeDelivery
    split
    · exact h
    · exact h
  have hdisconnected : AttemptsSettled r.closeDelivery.disconnectAll.toLoadOwnership := by
    unfold disconnectAll
    exact settled_commitAll _ _
      (settled_foldl (fun _ commandId hr => settled_commandTerminal hr commandId _) _ hclosed)
  have hpositive := hdisconnected.positive
  unfold attachmentReplaced
  rw [openNextEpoch_own]
  constructor
  case positive => exact hpositive
  case keyed =>
    intro i a ha
    simp at ha
  case mapped =>
    intro e i
    unfold BoundTo
    simp
  case active => exact fun i hi => nomatch hi
  all_goals
    intro i a ha
    simp at ha

/-! ### Inputs that concern no load -/

/-- The attempts and their places are the same. -/
structure KeepsAttempts (r r' : Reduction) : Prop where
  attachmentEpoch : r'.attachmentEpoch = r.attachmentEpoch
  loadAttempts : r'.loadAttempts = r.loadAttempts
  playlistEntryAttempts : r'.playlistEntryAttempts = r.playlistEntryAttempts
  activeLoadAttempt : r'.activeLoadAttempt = r.activeLoadAttempt
  nextLoadAttemptId : r'.nextLoadAttemptId = r.nextLoadAttemptId

namespace KeepsAttempts

variable {r' r'' : Reduction}

theorem refl (r : Reduction) : KeepsAttempts r r := ⟨rfl, rfl, rfl, rfl, rfl⟩

theorem of_own (h : r'.toLoadOwnership = r.toLoadOwnership) : KeepsAttempts r r' := by
  constructor <;> rw [h]

theorem trans (h : KeepsAttempts r r') (h' : KeepsAttempts r' r'') : KeepsAttempts r r'' where
  attachmentEpoch := h'.attachmentEpoch.trans h.attachmentEpoch
  loadAttempts := h'.loadAttempts.trans h.loadAttempts
  playlistEntryAttempts := h'.playlistEntryAttempts.trans h.playlistEntryAttempts
  activeLoadAttempt := h'.activeLoadAttempt.trans h.activeLoadAttempt
  nextLoadAttemptId := h'.nextLoadAttemptId.trans h.nextLoadAttemptId

theorem settled (h : KeepsAttempts r r') (hr : AttemptsSettled r.toLoadOwnership) :
    AttemptsSettled r'.toLoadOwnership :=
  hr.congr h.attachmentEpoch h.loadAttempts h.playlistEntryAttempts h.activeLoadAttempt
    h.nextLoadAttemptId

/-- An input of another epoch changes nothing. -/
theorem guarded {ignored : Prop} [Decidable ignored] (h : KeepsAttempts r r') :
    KeepsAttempts r (if ignored then r else r') := by
  split
  · exact refl r
  · exact h

/-- A loop keeps what each of its rounds keeps. -/
theorem foldl {α : Type} {round : Reduction → α → Reduction}
    (h : ∀ r a, KeepsAttempts r (round r a)) (items : List α) (r : Reduction) :
    KeepsAttempts r (items.foldl round r) := by
  induction items generalizing r with
  | nil => exact refl r
  | cons a items ih => exact (h r a).trans (ih (round r a))

end KeepsAttempts

theorem keeps_commandTerminal (r : Reduction) (commandId : PlayerCommandId)
    (terminal : CommandSemanticState) : KeepsAttempts r (r.commandTerminal commandId terminal) := by
  unfold commandTerminal
  split
  · exact .refl r
  · split
    · exact .refl r
    · split
      · exact .refl r
      · exact ⟨rfl, rfl, rfl, rfl, rfl⟩

theorem keeps_updateSeek (r : Reduction) (commandId : PlayerCommandId)
    (edit : SystemSeekOwnershipState → SystemSeekOwnershipState) :
    KeepsAttempts r (r.updateSeek commandId edit) := ⟨rfl, rfl, rfl, rfl, rfl⟩

theorem keeps_endSeekCommand (r : Reduction) (commandId : PlayerCommandId)
    (terminal : CommandSemanticState)
    (edit : SystemSeekOwnershipState → SystemSeekOwnershipState) :
    KeepsAttempts r (r.endSeekCommand commandId terminal edit) :=
  (keeps_commandTerminal r commandId terminal).trans (keeps_updateSeek _ commandId edit)

theorem keeps_queueEvent (r : Reduction) (event : PlayerEvent) :
    KeepsAttempts r (r.queueEvent event).2 := .of_own (queueEvent_own r event)

theorem keeps_commandSubmitted (r : Reduction) (commandId : PlayerCommandId)
    (mediaGeneration : Option PlayerMediaGeneration) (kind : LifecycleCommandKind) :
    KeepsAttempts r (r.commandSubmitted commandId mediaGeneration kind) := by
  unfold commandSubmitted
  split
  · exact .refl r
  · exact ⟨rfl, rfl, rfl, rfl, rfl⟩

theorem keeps_retainedEndOfFile (r : Reduction) (attachmentEpoch : PlayerAttachmentEpoch)
    (playlistEntryId : PlaylistEntryId) :
    KeepsAttempts r (r.retainedEndOfFile attachmentEpoch playlistEntryId) := by
  unfold retainedEndOfFile
  split
  · exact .refl r
  split
  · exact .refl r
  split
  · unfold announceLogicalTerminal
    exact .of_own (by rw [push_own, queueEvent_own])
  · exact .refl r

theorem keeps_eofObserved (r : Reduction) (attachmentEpoch : PlayerAttachmentEpoch)
    (playlistEntryId : Option PlaylistEntryId) (reached : Bool)
    (positionSeconds : Option Seconds) :
    KeepsAttempts r (r.eofObserved attachmentEpoch playlistEntryId reached positionSeconds) := by
  unfold eofObserved
  split
  · exact .refl r
  · extract_lets attemptId
    clear_value attemptId
    cases reached with
    | false => exact ⟨rfl, rfl, rfl, rfl, rfl⟩
    | true =>
      cases attemptId with
      | none => exact .refl r
      | some attemptId => exact ⟨rfl, rfl, rfl, rfl, rfl⟩

theorem keeps_positionObserved (r : Reduction) (attachmentEpoch : PlayerAttachmentEpoch)
    (mediaGeneration : PlayerMediaGeneration) (observedSequence : Nat)
    (positionSeconds : Seconds) :
    KeepsAttempts r (r.positionObserved attachmentEpoch mediaGeneration observedSequence
      positionSeconds) := by
  unfold positionObserved
  split
  · exact .refl r
  extract_lets progressed reached
  have hprogressed : KeepsAttempts r progressed := by
    dsimp only [progressed]
    split
    · exact ⟨rfl, rfl, rfl, rfl, rfl⟩
    · exact .refl r
  refine hprogressed.trans ?_
  clear_value progressed
  split
  · next commandId _ _ =>
    have hended : KeepsAttempts progressed
        ((progressed.updateSeek commandId fun _ => .observed).commandTerminal commandId
          .completed) :=
      (keeps_updateSeek _ _ _).trans (keeps_commandTerminal _ _ _)
    exact hended.trans ⟨rfl, rfl, rfl, rfl, rfl⟩
  · split
    · exact ⟨rfl, rfl, rfl, rfl, rfl⟩
    · split
      · exact .refl progressed
      · split
        · exact ⟨rfl, rfl, rfl, rfl, rfl⟩
        · exact ⟨rfl, rfl, rfl, rfl, rfl⟩

theorem keeps_seekCommandSubmitted (r : Reduction) (commandId : PlayerCommandId)
    (mediaGeneration : PlayerMediaGeneration)
    (rawPlayerTargetSeconds effectiveRoomTargetSeconds : F64) (dispatchSequenceBoundary : Nat) :
    KeepsAttempts r (r.seekCommandSubmitted commandId mediaGeneration rawPlayerTargetSeconds
      effectiveRoomTargetSeconds dispatchSequenceBoundary) := by
  unfold seekCommandSubmitted
  split
  · exact .refl r
  · extract_lets superseded ended
    have hended : KeepsAttempts r ended :=
      .foldl (fun r c => keeps_endSeekCommand r c _ _) superseded r
    exact hended.trans ⟨rfl, rfl, rfl, rfl, rfl⟩

/-- Every input leaves the attempts settled. -/
theorem settled_reduce (h : AttemptsSettled r.toLoadOwnership) (input : PlayerLifecycleInput) :
    AttemptsSettled (r.reduce input).toLoadOwnership := by
  have hrecord : ∀ {r' : Reduction}, KeepsAttempts r r' → AttemptsSettled r'.toLoadOwnership :=
    fun hkept => hkept.settled h
  cases input with
  | loadAttemptSubmitted => exact settled_loadAttemptSubmitted h _ _ _ _
  | externalLoadObserved => exact settled_externalLoadObserved h _ _ _ _ _
  | loadAttemptAccepted => exact settled_loadAttemptAccepted h _ _
  | loadAttemptRejected => exact settled_loadAttemptRejected h _ _ _
  | commandSubmitted => exact hrecord (keeps_commandSubmitted r _ _ _)
  | commandAccepted => exact settled_commandAccepted h _ _
  | commandRejected => exact hrecord (keeps_endSeekCommand r _ _ _).guarded
  | commandSuperseded => exact hrecord (keeps_endSeekCommand r _ _ _).guarded
  | commandTransportDisconnected => exact hrecord (keeps_endSeekCommand r _ _ _).guarded
  | commandCompleted =>
    exact hrecord ((keeps_updateSeek r _ _).trans (keeps_commandTerminal _ _ _)).guarded
  | commandCompletionNotObserved => exact settled_commandCompletionNotObserved h _ _
  | startFile => exact settled_startFile h _ _
  | fileLoaded => exact settled_fileLoaded h _ _ _
  | endFile => exact settled_endFile h _ _ _
  | retainedEndOfFile => exact hrecord (keeps_retainedEndOfFile r _ _)
  | playlistSnapshot => exact settled_playlistSnapshot h _ _ _
  | lifecycleReconciliationFailed => exact hrecord (.guarded ⟨rfl, rfl, rfl, rfl, rfl⟩)
  | eofObserved => exact hrecord (keeps_eofObserved r _ _ _ _)
  | playbackRestart => exact hrecord (.guarded ⟨rfl, rfl, rfl, rfl, rfl⟩)
  | positionObserved => exact hrecord (keeps_positionObserved r _ _ _ _)
  | seekingObserved => exact hrecord (.guarded ⟨rfl, rfl, rfl, rfl, rfl⟩)
  | phaseObserved epoch phase =>
    have hphase : KeepsAttempts r (r.phaseObserved epoch phase) := by
      unfold phaseObserved
      split
      · exact .refl r
      · split <;> exact ⟨rfl, rfl, rfl, rfl, rfl⟩
    exact hrecord hphase
  | transportDelta => exact hrecord (keeps_queueEvent r _).guarded
  | localFileChanged epoch attemptId mediaGeneration =>
    have hchanged : KeepsAttempts r (r.localFileChanged epoch attemptId mediaGeneration) := by
      unfold localFileChanged
      split
      · exact keeps_queueEvent r _
      · exact .refl r
    exact hrecord hchanged
  | seekCommandSubmitted => exact hrecord (keeps_seekCommandSubmitted r _ _ _ _ _)
  | seekCommandAccepted => exact hrecord (.guarded ⟨rfl, rfl, rfl, rfl, rfl⟩)
  | seekCommandRejected => exact hrecord (keeps_endSeekCommand r _ _ _).guarded
  | seekCommandCompletionNotObserved => exact hrecord (keeps_endSeekCommand r _ _ _).guarded
  | eventGapDetected epoch =>
    have hgap : KeepsAttempts r (r.eventGapDetected epoch) := by
      unfold eventGapDetected
      split
      · exact .refl r
      · exact .of_own (markGap_own r)
    exact hrecord hgap
  | authoritativeSnapshotApplied snapshot =>
    have happlied : KeepsAttempts r (r.authoritativeSnapshotApplied snapshot) := by
      unfold authoritativeSnapshotApplied
      split
      · exact ⟨rfl, rfl, rfl, rfl, rfl⟩
      · exact .refl r
    exact hrecord happlied
  | timerAdvanced => exact settled_timerAdvanced h _
  | transportDisconnected => exact settled_transportDisconnected h _
  | attachmentReplaced => exact settled_attachmentReplaced h

end Reduction

/-! ### Acknowledged records -/

/-- A terminal record goes. -/
theorem AttemptsSettled.drop {o o' : LoadOwnership} (h : AttemptsSettled o) {i : LoadAttemptId}
    (hended : ∀ a, o.loadAttempts[i]? = some a → a.state.isTerminal = true)
    (hepoch : o'.attachmentEpoch = o.attachmentEpoch)
    (hnext : o'.nextLoadAttemptId = o.nextLoadAttemptId)
    (hentries : o'.playlistEntryAttempts = o.playlistEntryAttempts)
    (hactive : o'.activeLoadAttempt = o.activeLoadAttempt)
    (hlookup : ∀ k : LoadAttemptId,
      o'.loadAttempts[k]? = if k = i then none else o.loadAttempts[k]?) : AttemptsSettled o' := by
  have hfound : ∀ {k : LoadAttemptId} {a : LoadAttempt}, o'.loadAttempts[k]? = some a →
      o.loadAttempts[k]? = some a := by
    intro k a ha
    rw [hlookup] at ha
    split at ha
    · cases ha
    · exact ha
  have hkept : ∀ {k : LoadAttemptId} {a : LoadAttempt}, o.loadAttempts[k]? = some a →
      a.state.isTerminal = false → o'.loadAttempts[k]? = some a := by
    intro k a ha hlive
    rw [hlookup, if_neg, ha]
    rintro rfl
    rw [hended a ha] at hlive
    exact absurd hlive (by decide)
  constructor
  · exact fun k a ha => h.keyed k a (hfound ha)
  · rw [hnext]
    exact h.positive
  · intro k a ha
    rw [hnext]
    exact h.issued k a (hfound ha)
  · intro k a ha
    rw [hepoch]
    exact h.epoch k a (hfound ha)
  · exact fun k a ha => h.settled k a (hfound ha)
  · intro e k
    rw [hentries, h.mapped e k]
    constructor
    · rintro ⟨a, ha, hlive, hentry⟩
      exact ⟨a, hkept ha hlive, hlive, hentry⟩
    · rintro ⟨a, ha, hlive, hentry⟩
      exact ⟨a, hfound ha, hlive, hentry⟩
  · intro k hk
    rw [hactive] at hk
    obtain ⟨a, ha, hlive, hquiescent, hentry⟩ := h.active k hk
    exact ⟨a, hkept ha hlive, hlive, hquiescent, hentry⟩

/-- A record whose successor was compacted. -/
theorem AttemptSettled.unlinked {a : LoadAttempt} (h : AttemptSettled a)
    {successorId : LoadAttemptId} (hlink : a.supersededBy = some successorId) :
    AttemptSettled
      { a with
        supersededBy := none
        state :=
          if a.state == .supersededMayStillEmit successorId then .mayStillEmit else a.state } := by
  by_cases hstate : a.state = .supersededMayStillEmit successorId
  · have hsame : AttemptSettled { a with state := .mayStillEmit } := by
      refine h.withState ?_ ⟨nofun, nofun⟩ ?_ nofun nofun nofun
      · rw [hstate]
        exact ⟨nofun, nofun⟩
      · rw [hstate]
        rfl
    rw [hstate, if_pos (beq_self_eq_true _)]
    exact { hsame with superseded := nofun, supersededState := nofun }
  · rw [if_neg fun heq => hstate (eq_of_beq heq)]
    refine { h with superseded := nofun, supersededState := fun successor hs => ?_ }
    have hother := h.supersededState successor hs
    rw [hlink] at hother
    cases hother
    exact absurd hs hstate

namespace PlayerLifecycleState

variable {s : PlayerLifecycleState}

/-- A compaction round keeps every other record's place. -/
structure KeepsPlaces (s s' : PlayerLifecycleState) : Prop where
  settled : AttemptsSettled s'.toLoadOwnership
  ended : ∀ (k : LoadAttemptId) (a' : LoadAttempt), s'.loadAttempts[k]? = some a' →
    ∃ a, s.loadAttempts[k]? = some a ∧ a'.state.isTerminal = a.state.isTerminal

theorem KeepsPlaces.trans {s' s'' : PlayerLifecycleState} (h : KeepsPlaces s s')
    (h' : KeepsPlaces s' s'') : KeepsPlaces s s'' where
  settled := h'.settled
  ended := by
    intro k a'' ha''
    obtain ⟨a', ha', hstate'⟩ := h'.ended k a'' ha''
    obtain ⟨a, ha, hstate⟩ := h.ended k a' ha'
    exact ⟨a, ha, hstate'.trans hstate⟩

theorem keepsPlaces_editAttempt (h : AttemptsSettled s.toLoadOwnership)
    (attemptId : LoadAttemptId) {edit : LoadAttempt → LoadAttempt}
    (hkeep : ∀ a, s.loadAttempts[attemptId]? = some a →
      KeepsPlace a (edit a) ∧ AttemptSettled (edit a)
        ∧ ((edit a).state.isQuiescent = true → a.state.isQuiescent = true)) :
    KeepsPlaces s (s.editAttempt attemptId edit) where
  settled := Reduction.settled_updateAttempt (r := ⟨s, []⟩) h attemptId hkeep
  ended := by
    intro k a' ha'
    have hlookup : (s.loadAttempts.modify attemptId edit)[k]? = some a' := ha'
    rw [getElem?_modify_if] at hlookup
    split at hlookup
    · next hk =>
      obtain ⟨a, ha, rfl⟩ := Option.map_eq_some_iff.mp hlookup
      rw [hk] at ha ⊢
      exact ⟨a, ha, (hkeep a ha).1.terminal⟩
    · exact ⟨a', hlookup, rfl⟩

theorem keepsPlaces_dropSuccessorClaim (h : AttemptsSettled s.toLoadOwnership)
    (attempt : LoadAttempt) (attemptId : LoadAttemptId) :
    KeepsPlaces s (s.dropSuccessorClaim attempt attemptId) := by
  unfold dropSuccessorClaim
  split
  · exact ⟨h, fun k a ha => ⟨a, ha, rfl⟩⟩
  · refine keepsPlaces_editAttempt h _ fun a ha => ?_
    split
    · exact ⟨⟨rfl, rfl, rfl, rfl⟩, { h.settled _ a ha with }, fun hq => hq⟩
    · exact ⟨KeepsPlace.refl a, h.settled _ a ha, fun hq => hq⟩

theorem keepsPlaces_dropPredecessorLink (h : AttemptsSettled s.toLoadOwnership)
    (attempt : LoadAttempt) (attemptId : LoadAttemptId) :
    KeepsPlaces s (s.dropPredecessorLink attempt attemptId) := by
  unfold dropPredecessorLink
  split
  · exact ⟨h, fun k a ha => ⟨a, ha, rfl⟩⟩
  · refine keepsPlaces_editAttempt h _ fun a ha => ?_
    split
    · next hlink =>
      have hlink : a.supersededBy = some attemptId := eq_of_beq hlink
      refine ⟨⟨rfl, rfl, ?_, rfl⟩, (h.settled _ a ha).unlinked hlink, ?_⟩
      · dsimp only
        split
        · next hstate => rw [eq_of_beq hstate]; rfl
        · rfl
      · dsimp only
        split
        · exact nofun
        · exact fun hq => hq
    · exact ⟨KeepsPlace.refl a, h.settled _ a ha, fun hq => hq⟩

/-- Retiring a command's record changes no attempt. -/
theorem retireCommandRecord_attempts (commandId : PlayerCommandId) :
    (s.retireCommandRecord commandId).attachmentEpoch = s.attachmentEpoch
      ∧ (s.retireCommandRecord commandId).loadAttempts = s.loadAttempts
      ∧ (s.retireCommandRecord commandId).playlistEntryAttempts = s.playlistEntryAttempts
      ∧ (s.retireCommandRecord commandId).activeLoadAttempt = s.activeLoadAttempt
      ∧ (s.retireCommandRecord commandId).nextLoadAttemptId = s.nextLoadAttemptId := by
  unfold retireCommandRecord
  split
  · exact ⟨rfl, rfl, rfl, rfl, rfl⟩
  · split <;> exact ⟨rfl, rfl, rfl, rfl, rfl⟩

theorem settled_retireCommandRecord (h : AttemptsSettled s.toLoadOwnership)
    (commandId : PlayerCommandId) :
    AttemptsSettled (s.retireCommandRecord commandId).toLoadOwnership := by
  obtain ⟨hepoch, hattempts, hentries, hactive, hnext⟩ := @retireCommandRecord_attempts s commandId
  exact h.congr hepoch hattempts hentries hactive hnext

theorem keepsPlaces_compactAttempt (h : AttemptsSettled s.toLoadOwnership)
    {attemptId : LoadAttemptId}
    (hended : ∀ a, s.loadAttempts[attemptId]? = some a → a.state.isTerminal = true)
    (throughSequence : Nat) : KeepsPlaces s (s.compactAttempt throughSequence attemptId) := by
  unfold compactAttempt
  split
  · exact ⟨h, fun k a ha => ⟨a, ha, rfl⟩⟩
  next attempt hattempt =>
  extract_lets erased claimed unlinked terminalSequence buried
  have hlookup : ∀ k : LoadAttemptId, erased.loadAttempts[k]? =
      if k = attemptId then none else s.loadAttempts[k]? :=
    fun k => getElem?_erase_if _ _ _
  have herased : KeepsPlaces s erased := by
    refine ⟨h.drop hended rfl rfl rfl rfl hlookup, fun k a ha => ⟨a, ?_, rfl⟩⟩
    rw [hlookup] at ha
    split at ha
    · cases ha
    · exact ha
  have hclaimed : KeepsPlaces erased claimed :=
    keepsPlaces_dropSuccessorClaim herased.settled attempt attemptId
  have hunlinked : KeepsPlaces claimed unlinked :=
    keepsPlaces_dropPredecessorLink hclaimed.settled attempt attemptId
  have hburied : KeepsPlaces s buried := by
    have hall := (herased.trans hclaimed).trans hunlinked
    exact ⟨hall.settled.congr rfl rfl rfl rfl rfl, hall.ended⟩
  clear_value buried
  split
  · exact hburied
  · split
    · refine hburied.trans ⟨settled_retireCommandRecord hburied.settled _, fun k a ha => ?_⟩
      rw [(retireCommandRecord_attempts _).2.1] at ha
      exact ⟨a, ha, rfl⟩
    · exact hburied

theorem settled_compactAttempts (throughSequence : Nat) (attemptIds : List LoadAttemptId)
    (h : AttemptsSettled s.toLoadOwnership)
    (hended : ∀ i ∈ attemptIds, ∀ a, s.loadAttempts[i]? = some a → a.state.isTerminal = true) :
    AttemptsSettled (attemptIds.foldl (fun s attemptId => s.compactAttempt throughSequence attemptId)
      s).toLoadOwnership := by
  induction attemptIds generalizing s with
  | nil => exact h
  | cons attemptId rest ih =>
    have hround := keepsPlaces_compactAttempt h (hended attemptId (by simp)) throughSequence
    refine ih hround.settled fun i hi a ha => ?_
    obtain ⟨b, hb, hstate⟩ := hround.ended i a ha
    rw [hstate]
    exact hended i (List.mem_cons_of_mem _ hi) b hb

theorem settled_compactSeek (h : AttemptsSettled s.toLoadOwnership)
    (entry : PlayerCommandId × SystemSeekOwnership) :
    AttemptsSettled (s.compactSeek entry).toLoadOwnership := by
  unfold compactSeek
  extract_lets erased retired
  have herased : AttemptsSettled erased.toLoadOwnership := h.congr rfl rfl rfl rfl rfl
  have hretired : AttemptsSettled retired.toLoadOwnership := by
    dsimp only [retired]
    split
    · unfold pushRetiredSeekTombstone
      extract_lets retireAfterTick bounded
      have hbounded : AttemptsSettled bounded.toLoadOwnership := by
        dsimp only [bounded]
        split
        · split
          · exact herased
          · exact herased.congr rfl rfl rfl rfl rfl
        · exact herased
      exact hbounded.congr rfl rfl rfl rfl rfl
    · exact herased
  exact settled_retireCommandRecord hretired _

theorem settled_foldl {α : Type} {round : PlayerLifecycleState → α → PlayerLifecycleState}
    (hround : ∀ (s : PlayerLifecycleState) a, AttemptsSettled s.toLoadOwnership →
      AttemptsSettled (round s a).toLoadOwnership)
    (items : List α) (h : AttemptsSettled s.toLoadOwnership) :
    AttemptsSettled (items.foldl round s).toLoadOwnership := by
  induction items generalizing s with
  | nil => exact h
  | cons a items ih => exact ih (hround s a h)

theorem settled_compactAcknowledgedLifecycle (h : AttemptsSettled s.toLoadOwnership)
    (throughSequence : Nat) :
    AttemptsSettled (s.compactAcknowledgedLifecycle throughSequence).toLoadOwnership := by
  unfold compactAcknowledgedLifecycle
  extract_lets attempts seeks commands
  have hattempts : AttemptsSettled attempts.toLoadOwnership := by
    refine settled_compactAttempts throughSequence _ h fun i hi a ha => ?_
    obtain ⟨b, hb, rfl⟩ := List.mem_map.mp hi
    obtain ⟨hmem, hcovered⟩ := List.mem_filter.mp hb
    rw [getElem?_of_mem_attempts h.keyed hmem] at ha
    cases ha
    unfold attemptCovered at hcovered
    simp only [Bool.and_eq_true] at hcovered
    exact hcovered.1.1
  have hseeks : AttemptsSettled seeks.toLoadOwnership :=
    settled_foldl (fun s entry hs => settled_compactSeek hs entry) _ hattempts
  have hcommands : AttemptsSettled commands.toLoadOwnership :=
    settled_foldl (fun s c hs => settled_retireCommandRecord hs c) _ hseeks
  clear_value commands
  exact hcommands.congr rfl rfl rfl rfl rfl

/-- The delivery part of an acknowledgement concerns the queues only. -/
theorem acknowledgeDelivery_own {batch : PlayerEventBatch} {acknowledged : PlayerLifecycleState}
    (h : s.acknowledgeDelivery batch = some acknowledged) :
    acknowledged.toLoadOwnership = s.toLoadOwnership := by
  unfold acknowledgeDelivery at h
  extract_lets boundary acknowledgesSnapshot currentEpoch at h
  have hcurrent : currentEpoch s = some acknowledged →
      acknowledged.toLoadOwnership = s.toLoadOwnership := by
    intro hepoch
    dsimp only [currentEpoch] at hepoch
    split at hepoch
    · obtain rfl := Option.some.inj hepoch
      rfl
    · cases hepoch
  split at h
  · exact hcurrent h
  · split at h
    · obtain rfl := Option.some.inj h
      rfl
    · exact hcurrent h

theorem settled_acknowledgeEventBatch (h : AttemptsSettled s.toLoadOwnership)
    (token : PlayerEventAcknowledgementToken) :
    AttemptsSettled (s.acknowledgeEventBatch token).2.toLoadOwnership := by
  unfold acknowledgeEventBatch
  split
  · exact h
  split
  · exact h
  split
  · exact h
  next acknowledged hacknowledged =>
  have hdelivered := acknowledgeDelivery_own hacknowledged
  have hpruned : AttemptsSettled acknowledged.pruneSnapshotCoveredEvents.toLoadOwnership := by
    show AttemptsSettled acknowledged.toLoadOwnership
    rw [hdelivered]
    exact h
  dsimp only
  generalize acknowledged.pruneSnapshotCoveredEvents = pruned at hpruned
  split
  · exact settled_compactAcknowledgedLifecycle hpruned _
  · exact hpruned

theorem settled_peekEventBatch (h : AttemptsSettled s.toLoadOwnership) :
    AttemptsSettled s.peekEventBatch.2.toLoadOwnership := by
  unfold peekEventBatch
  split
  · exact h
  · extract_lets pruned dropped delivery tokenValue batch
    split
    · exact h
    · exact h

theorem settled_step (s : PlayerLifecycleState) (operation : Operation)
    (h : AttemptsSettled s.toLoadOwnership) : AttemptsSettled (s.step operation).toLoadOwnership := by
  cases operation with
  | reduce input => exact Reduction.settled_reduce (r := { s with effects := [] }) h input
  | peekEventBatch => exact settled_peekEventBatch h
  | acknowledgeEventBatch token => exact settled_acknowledgeEventBatch h token

theorem settled_new (attachmentEpoch : PlayerAttachmentEpoch) :
    AttemptsSettled (new attachmentEpoch).toLoadOwnership := by
  constructor
  case positive => exact Nat.le_refl 1
  case keyed =>
    intro i a ha
    simp [new] at ha
  case mapped =>
    intro e i
    unfold BoundTo
    simp [new]
  case active => exact fun i hi => nomatch hi
  all_goals
    intro i a ha
    simp [new] at ha

/-- The attempts of every reachable state are settled. -/
theorem settled_after (attachmentEpoch : PlayerAttachmentEpoch) (operations : List Operation) :
    AttemptsSettled (after attachmentEpoch operations).toLoadOwnership :=
  @invariant_of_step _ _ step (fun s => AttemptsSettled s.toLoadOwnership) settled_step _
    (settled_new attachmentEpoch) operations

end PlayerLifecycleState

end Sorotte.Lifecycle
