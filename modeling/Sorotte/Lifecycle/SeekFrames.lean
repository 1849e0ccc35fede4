import Sorotte.Lifecycle.SettledSteps

/-! # The seek ledger

  Which system seeks may still arrive is kept in the live ownership map, in the
  tombstones and in the uncertain generations.  Inputs about loads, commands,
  delivery and the end of file leave the ledger alone.
-/

namespace Sorotte.Lifecycle

open Framework

/-- Everything that decides whether an observation is a system seek's. -/
structure SeekLedger where
  attachmentEpoch : PlayerAttachmentEpoch
  nowTick : Nat
  seekOwnership : BTreeMap PlayerCommandId SystemSeekOwnership
  retiredSeekTombstones : List RetiredSeekTombstone
  uncertainSeekGenerations : BTreeMap PlayerMediaGeneration Nat

def LoadOwnership.seeks (o : LoadOwnership) : SeekLedger where
  attachmentEpoch := o.attachmentEpoch
  nowTick := o.nowTick
  seekOwnership := o.seekOwnership
  retiredSeekTombstones := o.retiredSeekTombstones
  uncertainSeekGenerations := o.uncertainSeekGenerations

namespace Reduction

variable (r : Reduction)

/-! ### Functions about loads -/

@[simp] theorem updateCommand_seeks (commandId : PlayerCommandId)
    (edit : LifecycleCommand → LifecycleCommand) :
    (r.updateCommand commandId edit).seeks = r.seeks := rfl

@[simp] theorem acceptCommand_seeks (commandId : PlayerCommandId) :
    (r.acceptCommand commandId).seeks = r.seeks := rfl

@[simp] theorem commandTerminal_seeks (commandId : PlayerCommandId)
    (terminal : CommandSemanticState) : (r.commandTerminal commandId terminal).seeks = r.seeks := by
  unfold commandTerminal
  split
  · rfl
  · split
    · rfl
    · split <;> rfl

@[simp] theorem emitLoadOutcome_seeks (attemptId : LoadAttemptId)
    (result : PlayerLoadAttemptResult) (loadedTarget : Option String) :
    (r.emitLoadOutcome attemptId result loadedTarget).seeks = r.seeks := by
  rw [emitLoadOutcome_own]
  rfl

@[simp] theorem revokeOwnership_seeks (predecessor : LoadAttempt)
    (predecessorId successorId : LoadAttemptId) :
    (r.revokeOwnership predecessor predecessorId successorId).seeks = r.seeks := by
  unfold revokeOwnership
  rw [queueEvent_own]
  rfl

@[simp] theorem endSuperseded_seeks (predecessorCommand : Option PlayerCommandId)
    (predecessorId : LoadAttemptId) :
    (r.endSuperseded predecessorCommand predecessorId).seeks = r.seeks := by
  unfold endSuperseded
  cases predecessorCommand <;> simp

@[simp] theorem supersedeActive_seeks (successorId : LoadAttemptId)
    (predecessorId : Option LoadAttemptId) :
    (r.supersedeActive successorId predecessorId).seeks = r.seeks := by
  unfold supersedeActive
  split
  · rfl
  · split
    · rfl
    · split
      · rfl
      · simp

@[simp] theorem supersedeReplaced_seeks (successorId : LoadAttemptId)
    (predecessorId : Option LoadAttemptId) :
    (r.supersedeReplaced successorId predecessorId).seeks = r.seeks := by
  unfold supersedeReplaced
  split
  · rfl
  · split
    · rfl
    · rw [endSuperseded_seeks]
      split
      · rfl
      · simp

@[simp] theorem demoteActive_seeks (attemptId : LoadAttemptId) (held : LoadAttemptState → Bool) :
    (r.demoteActive attemptId held).seeks = r.seeks := by
  unfold demoteActive
  split
  · rfl
  · split <;> rfl

@[simp] theorem bindAttempt_seeks (attemptId : LoadAttemptId) (playlistEntryId : PlaylistEntryId) :
    (r.bindAttempt attemptId playlistEntryId).2.seeks = r.seeks := by
  unfold bindAttempt
  split
  · rfl
  · split
    · rfl
    · split
      · rfl
      · dsimp only
        split
        · rw [queueEvent_own]
          rfl
        · rfl

@[simp] theorem startBoundAttempt_seeks (attemptId : LoadAttemptId)
    (playlistEntryId : PlaylistEntryId) (startFileObserved : Bool) :
    (r.startBoundAttempt attemptId playlistEntryId startFileObserved).seeks = r.seeks := by
  unfold startBoundAttempt
  split
  · rfl
  split
  · rfl
  extract_lets quiescent firstStart marked demoted started
  have hmarked : marked.seeks = r.seeks := by
    dsimp only [marked]
    split <;> rfl
  have hdemoted : demoted.seeks = r.seeks := (demoteActive_seeks _ _ _).trans hmarked
  have hstarted : started.seeks = r.seeks := by
    dsimp only [started]
    split
    · exact hdemoted
    · exact hdemoted
  split
  · exact hmarked
  · split
    · exact hmarked
    · split
      · rw [queueEvent_own]
        exact hstarted
      · exact hstarted

@[simp] theorem startAttempt_seeks (attemptId : LoadAttemptId) (playlistEntryId : PlaylistEntryId)
    (startFileObserved : Bool) :
    (r.startAttempt attemptId playlistEntryId startFileObserved).seeks = r.seeks := by
  have hbind := bindAttempt_seeks r attemptId playlistEntryId
  unfold startAttempt
  split
  next bound r' hr' =>
  rw [hr'] at hbind
  split
  · exact hbind
  · rw [startBoundAttempt_seeks]
    exact hbind

@[simp] theorem tryDeferredStarts_seeks : r.tryDeferredStarts.seeks = r.seeks :=
  tryDeferredStarts_preserves (P := fun r' => r'.seeks = r.seeks) (fun _ _ h => h)
    (fun _ _ _ _ h => (startAttempt_seeks _ _ _ _).trans h) (fun _ h => h) rfl

@[simp] theorem endAttempt_seeks (before : LoadAttempt) (attemptId : LoadAttemptId)
    (outcome : PlayerPhysicalLoadOutcome) :
    (r.endAttempt before attemptId outcome).seeks = r.seeks := by
  rw [endAttempt_own]
  rfl

@[simp] theorem commit_seeks (attemptId : LoadAttemptId) (outcome : PlayerPhysicalLoadOutcome) :
    (r.commitPhysicalAttemptTerminal attemptId outcome).seeks = r.seeks := by
  unfold commitPhysicalAttemptTerminal
  split
  · rfl
  split
  · rfl
  next before _ _ =>
  extract_lets allowed ended
  split
  next terminalOrder queued hqueue =>
  extract_lets sequenced resolved settled announced
  have hsequenced : sequenced.seeks = r.seeks := by
    have hqueued := queueEvent_own ended
      (.loadAttemptTerminal attemptId before.mediaGeneration outcome)
    rw [hqueue] at hqueued
    show queued.toLoadOwnership.seeks = r.seeks
    rw [show queued.toLoadOwnership = _ from hqueued]
    exact endAttempt_seeks r before attemptId outcome
  have hresolved : resolved.seeks = r.seeks := by
    dsimp only [resolved]
    split
    · rw [emitLoadOutcome_seeks]
      exact hsequenced
    · exact hsequenced
  have hsettled : settled.seeks = r.seeks := by
    dsimp only [settled]
    split
    · exact hresolved
    · split
      · rw [commandTerminal_seeks]
        exact hresolved
      · exact hresolved
  split
  · exact hsettled
  · split
    · show ((announced.queueEvent _).2).seeks = r.seeks
      rw [queueEvent_own]
      exact hsettled
    · exact hsettled

/-- A loop leaves the ledger alone when each of its rounds does. -/
theorem foldl_seeks {α : Type} {round : Reduction → α → Reduction}
    (h : ∀ r a, (round r a).seeks = r.seeks) (items : List α) (r : Reduction) :
    (items.foldl round r).seeks = r.seeks := by
  induction items generalizing r with
  | nil => rfl
  | cons a items ih => exact (ih (round r a)).trans (h r a)

@[simp] theorem commitAll_seeks (attemptIds : List LoadAttemptId)
    (outcome : PlayerPhysicalLoadOutcome) : (r.commitAll attemptIds outcome).seeks = r.seeks :=
  foldl_seeks (fun r attemptId => commit_seeks r attemptId outcome) attemptIds r

@[simp] theorem reconcilePlaylist_seeks (entries : List AuthoritativePlaylistEntry)
    (currentPath : Option String) :
    (r.reconcilePlaylist entries currentPath).seeks = r.seeks := by
  unfold reconcilePlaylist
  split
  · unfold reconcileEmptyPlaylist
    split
    · rfl
    · split
      · rfl
      · exact commitAll_seeks r _ _
  · extract_lets retired edges bound started
    have hretired : retired.seeks = r.seeks := commitAll_seeks r _ _
    have hbound : bound.seeks = retired.seeks := by
      refine foldl_seeks (fun r edge => ?_) edges retired
      unfold bindCandidate
      split
      · split
        · exact bindAttempt_seeks _ _ _
        · rfl
      · rfl
    have hstarted : started.seeks = r.seeks := by
      dsimp only [started]
      rw [tryDeferredStarts_seeks]
      unfold startCurrentEntry
      split
      · exact hbound.trans hretired
      · split
        · exact hbound.trans hretired
        · rw [startAttempt_seeks]
          exact hbound.trans hretired
    split
    · exact hstarted
    · exact hstarted

@[simp] theorem stopReconciliation_seeks :
    r.stopReconciliationWithoutProactiveWork.seeks = r.seeks := by
  rw [stopReconciliation_own]

@[simp] theorem expireAttempt_seeks (attemptId : LoadAttemptId) (ownsTransport : Bool) :
    (r.expireAttempt attemptId ownsTransport).seeks = r.seeks := by
  unfold expireAttempt
  extract_lets retireAfterTick r'
  split <;> rfl

@[simp] theorem expireCommandAttempt_seeks (attemptId : LoadAttemptId) :
    (r.expireCommandAttempt attemptId).seeks = r.seeks := by
  unfold expireCommandAttempt
  extract_lets ownsTransport expired emitted
  split
  · rfl
  split
  · rfl
  have hemitted : emitted.seeks = r.seeks :=
    (emitLoadOutcome_seeks expired attemptId _ _).trans (expireAttempt_seeks r _ _)
  split
  · exact hemitted
  · rw [stopReconciliation_seeks]
    exact hemitted

@[simp] theorem expireLoad_seeks (attemptId : LoadAttemptId) :
    (r.expireLoad attemptId).seeks = r.seeks := by
  unfold expireLoad
  dsimp only
  split
  · rw [commandTerminal_seeks, emitLoadOutcome_seeks, expireAttempt_seeks]
  · rw [emitLoadOutcome_seeks, expireAttempt_seeks]

@[simp] theorem observeFileLoaded_seeks (before : LoadAttempt) (attemptId : LoadAttemptId)
    (loadedTarget : Option String) :
    (r.observeFileLoaded before attemptId loadedTarget).seeks = r.seeks := by
  unfold observeFileLoaded
  extract_lets owns observed activated queued pushed resolved
  have hactivated : activated.seeks = r.seeks := by
    dsimp only [activated]
    split
    · exact demoteActive_seeks observed _ _
    · rfl
  have hpushed : pushed.seeks = r.seeks := by
    show queued.seeks = r.seeks
    dsimp only [queued]
    split
    · split
      · rw [queueEvent_own]
        exact hactivated
      · exact hactivated
    · exact hactivated
  have hresolved : resolved.seeks = r.seeks := (emitLoadOutcome_seeks pushed _ _ _).trans hpushed
  split
  · exact hpushed
  · split
    · rw [commandTerminal_seeks]
      exact hresolved
    · exact hresolved

/-! ### Inputs -/

theorem loadAttemptSubmitted_seeks (commandId : Option PlayerCommandId)
    (mediaGeneration : PlayerMediaGeneration) (requestedTarget : String)
    (baseline : BTreeSet PlaylistEntryId) :
    (r.loadAttemptSubmitted commandId mediaGeneration requestedTarget baseline).seeks = r.seeks := by
  unfold loadAttemptSubmitted
  split
  · rfl
  · split
    next attemptId allocated hallocate =>
    cases hallocate
    rw [push_own]
    split <;> rfl

theorem externalLoadObserved_seeks (attachmentEpoch : PlayerAttachmentEpoch)
    (mediaGeneration : PlayerMediaGeneration) (playlistEntryId : PlaylistEntryId)
    (observedTarget : String) (fileLoaded : Bool) :
    (r.externalLoadObserved attachmentEpoch mediaGeneration playlistEntryId observedTarget
      fileLoaded).seeks = r.seeks := by
  unfold externalLoadObserved
  split
  · rfl
  extract_lets predecessorId
  split
  next attemptId allocated hallocate =>
  cases hallocate
  extract_lets inserted superseded mapped taken bound starting active
  have htaken : taken.seeks = r.seeks := supersedeActive_seeks inserted _ predecessorId
  have hstarting : starting.seeks = r.seeks := by
    show ((bound.queueEvent _).2).seeks = _
    rw [queueEvent_own]
    show ((taken.queueEvent _).2).seeks = _
    rw [queueEvent_own]
    exact htaken
  split
  · rw [emitLoadOutcome_seeks]
    show ((starting.queueEvent _).2).seeks = _
    rw [queueEvent_own]
    exact hstarting
  · exact hstarting

theorem loadAttemptAccepted_seeks (attachmentEpoch : PlayerAttachmentEpoch)
    (attemptId : LoadAttemptId) :
    (r.loadAttemptAccepted attachmentEpoch attemptId).seeks = r.seeks := by
  unfold loadAttemptAccepted
  split
  · rfl
  split
  · rfl
  split
  · rfl
  next attempt _ _ =>
  extract_lets command accepted superseded cleared started
  have hcommand : command.seeks = r.seeks := by
    dsimp only [command]
    split <;> rfl
  have hsuperseded : superseded.seeks = r.seeks :=
    (supersedeReplaced_seeks accepted attemptId _).trans hcommand
  have hstarted : started.seeks = r.seeks :=
    (tryDeferredStarts_seeks cleared).trans hsuperseded
  exact hstarted

theorem loadAttemptRejected_seeks (attachmentEpoch : PlayerAttachmentEpoch)
    (attemptId : LoadAttemptId) (failure : PlayerCommandFailureKind) :
    (r.loadAttemptRejected attachmentEpoch attemptId failure).seeks = r.seeks := by
  unfold loadAttemptRejected
  split
  · rfl
  split
  · rfl
  split
  · rfl
  dsimp only
  rw [commit_seeks, emitLoadOutcome_seeks]
  split
  · rw [commandTerminal_seeks]
  · rfl

theorem commandSubmitted_seeks (commandId : PlayerCommandId)
    (mediaGeneration : Option PlayerMediaGeneration) (kind : LifecycleCommandKind) :
    (r.commandSubmitted commandId mediaGeneration kind).seeks = r.seeks := by
  unfold commandSubmitted
  split <;> rfl

theorem commandAccepted_seeks (attachmentEpoch : PlayerAttachmentEpoch)
    (commandId : PlayerCommandId) :
    (r.commandAccepted attachmentEpoch commandId).seeks = r.seeks := by
  unfold commandAccepted
  split
  · rfl
  split
  · rfl
  split
  · rfl
  · dsimp only
    rw [updateCommand_seeks]
    exact foldl_seeks (fun r c => commandTerminal_seeks r c _) _ r

theorem startFile_seeks (attachmentEpoch : PlayerAttachmentEpoch)
    (playlistEntryId : PlaylistEntryId) :
    (r.startFile attachmentEpoch playlistEntryId).seeks = r.seeks := by
  unfold startFile
  split
  · rfl
  split
  · exact startAttempt_seeks _ _ _ _
  · dsimp only
    rw [push_own, scheduleReconciliation_own]
    split <;> rfl

theorem fileLoaded_seeks (attachmentEpoch : PlayerAttachmentEpoch)
    (playlistEntryId : Option PlaylistEntryId) (loadedTarget : Option String) :
    (r.fileLoaded attachmentEpoch playlistEntryId loadedTarget).seeks = r.seeks := by
  unfold fileLoaded
  split
  · rfl
  split
  · rfl
  split
  · rfl
  split
  · rfl
  · exact observeFileLoaded_seeks _ _ _ _

theorem endFile_seeks (attachmentEpoch : PlayerAttachmentEpoch)
    (playlistEntryId : PlaylistEntryId) (outcome : PlayerPhysicalLoadOutcome) :
    (r.endFile attachmentEpoch playlistEntryId outcome).seeks = r.seeks := by
  unfold endFile
  split
  · rfl
  split
  · exact commit_seeks _ _ _
  · split <;> rfl

theorem retainedEndOfFile_seeks (attachmentEpoch : PlayerAttachmentEpoch)
    (playlistEntryId : PlaylistEntryId) :
    (r.retainedEndOfFile attachmentEpoch playlistEntryId).seeks = r.seeks := by
  unfold retainedEndOfFile
  split
  · rfl
  split
  · rfl
  split
  · unfold announceLogicalTerminal
    rw [push_own, queueEvent_own]
  · rfl

theorem playlistSnapshot_seeks (attachmentEpoch : PlayerAttachmentEpoch)
    (entries : List AuthoritativePlaylistEntry) (currentPath : Option String) :
    (r.playlistSnapshot attachmentEpoch entries currentPath).seeks = r.seeks := by
  unfold playlistSnapshot
  split
  · rfl
  · exact reconcilePlaylist_seeks _ _ _

theorem eofObserved_seeks (attachmentEpoch : PlayerAttachmentEpoch)
    (playlistEntryId : Option PlaylistEntryId) (reached : Bool)
    (positionSeconds : Option Seconds) :
    (r.eofObserved attachmentEpoch playlistEntryId reached positionSeconds).seeks = r.seeks := by
  unfold eofObserved
  split
  · rfl
  · extract_lets attemptId
    clear_value attemptId
    cases reached with
    | false => rfl
    | true => cases attemptId <;> rfl

/-- An input that may change what is known of a system seek. -/
def changesSeeks : PlayerLifecycleInput → Bool
  | .commandRejected .. | .commandSuperseded .. | .commandTransportDisconnected ..
  | .commandCompleted .. | .commandCompletionNotObserved .. | .positionObserved ..
  | .seekCommandSubmitted .. | .seekCommandAccepted .. | .seekCommandRejected ..
  | .seekCommandCompletionNotObserved .. | .timerAdvanced .. | .transportDisconnected ..
  | .attachmentReplaced => true
  | _ => false

/-- The other inputs leave the ledger alone. -/
theorem reduce_seeks {input : PlayerLifecycleInput} (h : changesSeeks input = false) :
    (r.reduce input).seeks = r.seeks := by
  have hguarded : ∀ {ignored : Prop} [Decidable ignored] {r' : Reduction}, r'.seeks = r.seeks →
      (if ignored then r else r').seeks = r.seeks := by
    intro ignored _ r' hr'
    split
    · rfl
    · exact hr'
  cases input with
  | loadAttemptSubmitted => exact loadAttemptSubmitted_seeks r _ _ _ _
  | externalLoadObserved => exact externalLoadObserved_seeks r _ _ _ _ _
  | loadAttemptAccepted => exact loadAttemptAccepted_seeks r _ _
  | loadAttemptRejected => exact loadAttemptRejected_seeks r _ _ _
  | commandSubmitted => exact commandSubmitted_seeks r _ _ _
  | commandAccepted => exact commandAccepted_seeks r _ _
  | startFile => exact startFile_seeks r _ _
  | fileLoaded => exact fileLoaded_seeks r _ _ _
  | endFile => exact endFile_seeks r _ _ _
  | retainedEndOfFile => exact retainedEndOfFile_seeks r _ _
  | playlistSnapshot => exact playlistSnapshot_seeks r _ _ _
  | lifecycleReconciliationFailed => exact hguarded rfl
  | eofObserved => exact eofObserved_seeks r _ _ _ _
  | playbackRestart => exact hguarded rfl
  | seekingObserved => exact hguarded rfl
  | phaseObserved epoch phase =>
    refine hguarded ?_
    split <;> rfl
  | transportDelta => exact hguarded (by rw [queueEvent_own])
  | localFileChanged epoch attemptId mediaGeneration =>
    show (r.localFileChanged epoch attemptId mediaGeneration).seeks = _
    unfold localFileChanged
    split
    · rw [queueEvent_own]
    · rfl
  | eventGapDetected epoch =>
    refine hguarded ?_
    show r.markGap.toLoadOwnership.seeks = _
    rw [markGap_own]
  | authoritativeSnapshotApplied snapshot =>
    show (r.authoritativeSnapshotApplied snapshot).seeks = _
    unfold authoritativeSnapshotApplied
    split <;> rfl
  | _ => exact nomatch h

end Reduction

end Sorotte.Lifecycle
