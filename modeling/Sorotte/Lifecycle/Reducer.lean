import Sorotte.Framework.Runs
import Sorotte.Lifecycle.Compaction

/-! # The mpv lifecycle reducer

  `reduce_player_lifecycle` and its inputs, and the runs in which reducer
  inputs, peeks and acknowledgements interleave.
-/

namespace Sorotte.Lifecycle

inductive PlayerTransportPhase where
  | empty | loading | prebuffering | readyPaused | playing | rebuffering | seeking | ended
  | failed
  deriving DecidableEq

inductive PlayerLifecycleInput where
  | loadAttemptSubmitted (commandId : Option PlayerCommandId)
      (mediaGeneration : PlayerMediaGeneration) (requestedTarget : String)
      (baselinePlaylistEntryIds : BTreeSet PlaylistEntryId)
  | externalLoadObserved (attachmentEpoch : PlayerAttachmentEpoch)
      (mediaGeneration : PlayerMediaGeneration) (playlistEntryId : PlaylistEntryId)
      (observedTarget : String) (fileLoaded : Bool)
  | loadAttemptAccepted (attachmentEpoch : PlayerAttachmentEpoch) (attemptId : LoadAttemptId)
  | loadAttemptRejected (attachmentEpoch : PlayerAttachmentEpoch) (attemptId : LoadAttemptId)
      (failure : PlayerCommandFailureKind)
  | commandSubmitted (commandId : PlayerCommandId)
      (mediaGeneration : Option PlayerMediaGeneration) (kind : LifecycleCommandKind)
  | commandAccepted (attachmentEpoch : PlayerAttachmentEpoch) (commandId : PlayerCommandId)
  | commandRejected (attachmentEpoch : PlayerAttachmentEpoch) (commandId : PlayerCommandId)
      (failure : PlayerCommandFailureKind)
  | commandSuperseded (attachmentEpoch : PlayerAttachmentEpoch) (commandId : PlayerCommandId)
  | commandTransportDisconnected (attachmentEpoch : PlayerAttachmentEpoch)
      (commandId : PlayerCommandId)
  | commandCompleted (attachmentEpoch : PlayerAttachmentEpoch) (commandId : PlayerCommandId)
  | commandCompletionNotObserved (attachmentEpoch : PlayerAttachmentEpoch)
      (commandId : PlayerCommandId)
  | startFile (attachmentEpoch : PlayerAttachmentEpoch) (playlistEntryId : PlaylistEntryId)
  | fileLoaded (attachmentEpoch : PlayerAttachmentEpoch)
      (playlistEntryId : Option PlaylistEntryId) (loadedTarget : Option String)
  | endFile (attachmentEpoch : PlayerAttachmentEpoch) (playlistEntryId : PlaylistEntryId)
      (outcome : PlayerPhysicalLoadOutcome)
  /-- Keep-open: the end was reached, and the physical load stays for later seeks. -/
  | retainedEndOfFile (attachmentEpoch : PlayerAttachmentEpoch)
      (playlistEntryId : PlaylistEntryId)
  | playlistSnapshot (attachmentEpoch : PlayerAttachmentEpoch)
      (entries : List AuthoritativePlaylistEntry) (currentPath : Option String)
  | lifecycleReconciliationFailed (attachmentEpoch : PlayerAttachmentEpoch)
  | eofObserved (attachmentEpoch : PlayerAttachmentEpoch)
      (playlistEntryId : Option PlaylistEntryId) (reached : Bool)
      (positionSeconds : Option Seconds)
  | playbackRestart (attachmentEpoch : PlayerAttachmentEpoch)
      (playlistEntryId : Option PlaylistEntryId)
  | positionObserved (attachmentEpoch : PlayerAttachmentEpoch)
      (mediaGeneration : PlayerMediaGeneration) (observedSequence : Nat)
      (positionSeconds : Seconds)
  | seekingObserved (attachmentEpoch : PlayerAttachmentEpoch)
      (mediaGeneration : PlayerMediaGeneration) (observedSequence : Nat) (seeking : Bool)
  | phaseObserved (attachmentEpoch : PlayerAttachmentEpoch) (phase : PlayerTransportPhase)
  | transportDelta (attachmentEpoch : PlayerAttachmentEpoch)
  | localFileChanged (attachmentEpoch : PlayerAttachmentEpoch) (attemptId : LoadAttemptId)
      (mediaGeneration : PlayerMediaGeneration)
  | seekCommandSubmitted (commandId : PlayerCommandId) (mediaGeneration : PlayerMediaGeneration)
      (rawPlayerTargetSeconds effectiveRoomTargetSeconds : F64) (dispatchSequenceBoundary : Nat)
  | seekCommandAccepted (attachmentEpoch : PlayerAttachmentEpoch) (commandId : PlayerCommandId)
  | seekCommandRejected (attachmentEpoch : PlayerAttachmentEpoch) (commandId : PlayerCommandId)
      (failure : PlayerCommandFailureKind)
  | seekCommandCompletionNotObserved (attachmentEpoch : PlayerAttachmentEpoch)
      (commandId : PlayerCommandId)
  | eventGapDetected (attachmentEpoch : PlayerAttachmentEpoch)
  | authoritativeSnapshotApplied (snapshot : PlayerAuthoritativeSnapshot)
  | timerAdvanced (nowTick : Nat)
  | transportDisconnected (attachmentEpoch : PlayerAttachmentEpoch)
  | attachmentReplaced

namespace Reduction

variable (r : Reduction)

/-! ### Submissions -/

/-- A command record as it is submitted. -/
def submittedCommand (commandId : PlayerCommandId) (mediaGeneration : Option PlayerMediaGeneration)
    (kind : LifecycleCommandKind) : LifecycleCommand where
  id := commandId
  attachmentEpoch := r.attachmentEpoch
  mediaGeneration := mediaGeneration
  kind := kind
  state := .submitted
  outcomeEmitted := false
  terminalSequence := none

/-- The newest live attempt that nothing supersedes: what a submission claims to replace. -/
def replaceableAttempt : Option LoadAttemptId :=
  (r.attempts.reverse.find? fun attempt =>
    attempt.attachmentEpoch == r.attachmentEpoch && !attempt.state.isTerminal
      && attempt.supersededBy.isNone).map (·.id)

/-- `LoadAttemptSubmitted`. -/
def loadAttemptSubmitted (commandId : Option PlayerCommandId)
    (mediaGeneration : PlayerMediaGeneration) (requestedTarget : String)
    (baselinePlaylistEntryIds : BTreeSet PlaylistEntryId) : Reduction :=
  if commandId.any fun commandId =>
      r.commands.contains commandId || r.isRetiredCommand commandId then r
  else
    let (attemptId, r) := r.allocateLoadAttemptId
    let r := { r with
      loadAttempts := r.loadAttempts.insert attemptId
        { id := attemptId
          attachmentEpoch := r.attachmentEpoch
          mediaGeneration := mediaGeneration
          commandId := commandId
          requestedTarget := requestedTarget
          playlistEntryId := none
          baselinePlaylistEntryIds := baselinePlaylistEntryIds
          replacedAttempt := r.replaceableAttempt
          state := .submitting
          startFileObserved := false
          fileLoadedObserved := false
          fileLoadedDeadlineTick := none } }
    let r :=
      match commandId with
      | some commandId =>
        { r with
          commands := r.commands.insert commandId
            (r.submittedCommand commandId (some mediaGeneration) (.load attemptId)) }
      | none => r
    r.push (.loadAttemptAllocated attemptId commandId)

/-- The record of a load that somebody else started. -/
def externalAttempt (attemptId : LoadAttemptId) (mediaGeneration : PlayerMediaGeneration)
    (playlistEntryId : PlaylistEntryId) (observedTarget : String) (fileLoaded : Bool) :
    LoadAttempt where
  id := attemptId
  attachmentEpoch := r.attachmentEpoch
  mediaGeneration := mediaGeneration
  commandId := none
  requestedTarget := observedTarget
  playlistEntryId := some playlistEntryId
  baselinePlaylistEntryIds := Std.ExtTreeSet.ofList (r.playlistEntryAttempts.toList.map (·.1))
  replacedAttempt := r.activeLoadAttempt
  state := if fileLoaded then .active else .starting
  startFileObserved := true
  fileLoadedObserved := fileLoaded
  fileLoadedDeadlineTick :=
    if fileLoaded then none
    else some (Coordinator.saturatingAdd r.nowTick acceptedLoadCompletionTicks)

/-- The attempt before an external load, when it is still live, is superseded. -/
def supersedeActive (successorId : LoadAttemptId) (predecessorId : Option LoadAttemptId) :
    Reduction :=
  match predecessorId with
  | none => r
  | some predecessorId =>
    match r.loadAttempts[predecessorId]? with
    | none => r
    | some predecessor =>
      if predecessor.state.isTerminal then r
      else
        (r.revokeOwnership predecessor predecessorId successorId).endSuperseded
          predecessor.commandId predecessorId

/-- `ExternalLoadObserved`. -/
def externalLoadObserved (attachmentEpoch : PlayerAttachmentEpoch)
    (mediaGeneration : PlayerMediaGeneration) (playlistEntryId : PlaylistEntryId)
    (observedTarget : String) (fileLoaded : Bool) : Reduction :=
  if attachmentEpoch != r.attachmentEpoch || r.playlistEntryAttempts.contains playlistEntryId
      || r.isKnownTerminalPlaylistEntry playlistEntryId then r
  else
    let predecessorId := r.activeLoadAttempt
    let (attemptId, r) := r.allocateLoadAttemptId
    let r := { r with
      loadAttempts := r.loadAttempts.insert attemptId
        (r.externalAttempt attemptId mediaGeneration playlistEntryId observedTarget fileLoaded) }
    let r := r.supersedeActive attemptId predecessorId
    let r := { r with
      playlistEntryAttempts := r.playlistEntryAttempts.insert playlistEntryId attemptId }
    let r := r.takeTransport attemptId
    let r :=
      (r.queueEvent (.loadAttemptBound attemptId mediaGeneration none playlistEntryId)).2
    let r :=
      (r.queueEvent (.loadAttemptStarting attemptId mediaGeneration none playlistEntryId true)).2
    if fileLoaded then
      let r :=
        (r.queueEvent (.loadAttemptActive attemptId mediaGeneration none playlistEntryId)).2
      r.emitLoadOutcome attemptId .loaded (some observedTarget)
    else r

/-- `CommandSubmitted`. -/
def commandSubmitted (commandId : PlayerCommandId)
    (mediaGeneration : Option PlayerMediaGeneration) (kind : LifecycleCommandKind) : Reduction :=
  if r.isRetiredCommand commandId then r
  else
    { r with
      commands := r.commands.insertIfNew commandId
        (r.submittedCommand commandId mediaGeneration kind) }

/-! ### Verdicts of the transport -/

/-- The attempt's record of an acceptance: the load now has a deadline. -/
def acceptAttempt (attemptId : LoadAttemptId) : Reduction :=
  let deadline := Coordinator.saturatingAdd r.nowTick acceptedLoadCompletionTicks
  r.updateAttempt attemptId fun attempt =>
    { attempt with
      state := .acceptedUnbound
      reconcileUntilTick := some deadline
      fileLoadedDeadlineTick := some deadline }

/-- A submitted command becomes accepted. -/
def acceptCommand (commandId : PlayerCommandId) : Reduction :=
  r.updateCommand commandId fun command =>
    if command.attachmentEpoch == r.attachmentEpoch && command.state == .submitted then
      { command with state := .accepted }
    else command

/-- The attempt that an accepted load replaces is superseded. -/
def supersedeReplaced (successorId : LoadAttemptId) (predecessorId : Option LoadAttemptId) :
    Reduction :=
  match predecessorId with
  | none => r
  | some predecessorId =>
    match r.loadAttempts[predecessorId]? with
    | none => r
    | some predecessor =>
      -- A terminal predecessor keeps its record; its command and load may only
      -- still be told that they are superseded.
      let r :=
        if predecessor.state.isTerminal then r
        else r.revokeOwnership predecessor predecessorId successorId
      r.endSuperseded predecessor.commandId predecessorId

/-- `LoadAttemptAccepted`. -/
def loadAttemptAccepted (attachmentEpoch : PlayerAttachmentEpoch) (attemptId : LoadAttemptId) :
    Reduction :=
  if attachmentEpoch != r.attachmentEpoch then r
  else
    match r.loadAttempts[attemptId]? with
    | none => r
    | some attempt =>
      if attempt.attachmentEpoch != attachmentEpoch || attempt.state != .submitting then r
      else
        let r :=
          match attempt.commandId with
          | some commandId => r.acceptCommand commandId
          | none => r
        let r := r.acceptAttempt attemptId
        let r := r.supersedeReplaced attemptId attempt.replacedAttempt
        let r := { r with logicalTerminal := none, provisionalEof := none }
        let r := r.tryDeferredStarts
        r.scheduleReconciliation.push .requestLifecycleReconciliation

/-- `LoadAttemptRejected`. -/
def loadAttemptRejected (attachmentEpoch : PlayerAttachmentEpoch) (attemptId : LoadAttemptId)
    (failure : PlayerCommandFailureKind) : Reduction :=
  if attachmentEpoch != r.attachmentEpoch then r
  else
    match r.loadAttempts[attemptId]? with
    | none => r
    | some attempt =>
      if attempt.attachmentEpoch != attachmentEpoch || attempt.state != .submitting then r
      else
        let r :=
          match attempt.commandId with
          | some commandId => r.commandTerminal commandId (.failed failure)
          | none => r
        let r := r.emitLoadOutcome attemptId .neverStarted none
        r.commitPhysicalAttemptTerminal attemptId .neverStarted

/-- Commands that end as superseded, in order. -/
def supersedeCommands (commandIds : List PlayerCommandId) : Reduction :=
  commandIds.foldl (fun r commandId => r.commandTerminal commandId .superseded) r

/-- `CommandAccepted`. -/
def commandAccepted (attachmentEpoch : PlayerAttachmentEpoch) (commandId : PlayerCommandId) :
    Reduction :=
  if attachmentEpoch != r.attachmentEpoch then r
  else
    match r.commands[commandId]? with
    | none => r
    | some accepted =>
      if accepted.attachmentEpoch != attachmentEpoch || accepted.state != .submitted then r
      else
        let superseded := (r.commandList.filter fun command =>
          command.id != commandId && command.attachmentEpoch == attachmentEpoch
            && !command.state.isTerminal
            && accepted.kind.competes command.kind).map (·.id)
        (r.supersedeCommands superseded).updateCommand commandId fun command =>
          { command with state := .accepted }

/-- A failed or disconnected command's seek can no longer be observed. -/
def endSeekCommand (commandId : PlayerCommandId) (terminal : CommandSemanticState)
    (edit : SystemSeekOwnershipState → SystemSeekOwnershipState) : Reduction :=
  (r.commandTerminal commandId terminal).updateSeek commandId edit

/-- `CommandRejected`, and `SeekCommandRejected`, which does the same. -/
def commandRejected (attachmentEpoch : PlayerAttachmentEpoch) (commandId : PlayerCommandId)
    (failure : PlayerCommandFailureKind) : Reduction :=
  if attachmentEpoch != r.attachmentEpoch then r
  else r.endSeekCommand commandId (.failed failure) fun _ => .invalidated

/-- `CommandSuperseded`. -/
def commandSuperseded (attachmentEpoch : PlayerAttachmentEpoch) (commandId : PlayerCommandId) :
    Reduction :=
  if attachmentEpoch != r.attachmentEpoch then r
  else r.endSeekCommand commandId .superseded (·.unobserved)

/-- `CommandTransportDisconnected`. -/
def commandTransportDisconnected (attachmentEpoch : PlayerAttachmentEpoch)
    (commandId : PlayerCommandId) : Reduction :=
  if attachmentEpoch != r.attachmentEpoch then r
  else r.endSeekCommand commandId .transportDisconnected fun _ => .invalidated

/-- `CommandCompleted`. -/
def commandCompleted (attachmentEpoch : PlayerAttachmentEpoch) (commandId : PlayerCommandId) :
    Reduction :=
  if attachmentEpoch != r.attachmentEpoch then r
  else
    (r.updateSeek commandId fun
      | .submitted | .accepted | .mayStillArrive => .observed
      | state => state).commandTerminal commandId .completed

/-- An attempt gives up its semantic claim: its deadline goes, and unless it
    holds the transport it turns quiescent. -/
def expireAttempt (attemptId : LoadAttemptId) (ownsTransport : Bool) : Reduction :=
  let retireAfterTick := Coordinator.saturatingAdd r.nowTick quiescentLoadAttemptRetentionTicks
  let r := r.updateAttempt attemptId fun attempt =>
    if ownsTransport then { attempt with fileLoadedDeadlineTick := none }
    else
      { attempt with
        fileLoadedDeadlineTick := none
        state := .mayStillEmitQuiescent retireAfterTick
        reconcileUntilTick := none }
  if !ownsTransport && r.activeLoadAttempt == some attemptId then
    { r with activeLoadAttempt := none, provisionalEof := none }
  else r

/-- Only a start-file gives the active attempt the transport for good. -/
def ownsStartedTransport (attemptId : LoadAttemptId) : Bool :=
  r.activeLoadAttempt == some attemptId
    && r.loadAttempts[attemptId]?.any (·.startFileObserved)

/-- The attempt part of `CommandCompletionNotObserved`. -/
def expireCommandAttempt (attemptId : LoadAttemptId) : Reduction :=
  let ownsTransport := r.ownsStartedTransport attemptId
  match r.loadAttempts[attemptId]? with
  | none => r
  | some attempt =>
    if attempt.state.isTerminal || attempt.state.isSuperseded || attempt.state.isQuiescent then r
    else
      let r := r.expireAttempt attemptId ownsTransport
      let r := r.emitLoadOutcome attemptId .indeterminate none
      if ownsTransport then r else r.stopReconciliationWithoutProactiveWork

/-- `CommandCompletionNotObserved`. -/
def commandCompletionNotObserved (attachmentEpoch : PlayerAttachmentEpoch)
    (commandId : PlayerCommandId) : Reduction :=
  if attachmentEpoch != r.attachmentEpoch then r
  else
    let r := r.endSeekCommand commandId .completionNotObserved (·.unobserved)
    match r.attemptForCommand commandId with
    | none => r
    | some attemptId => r.expireCommandAttempt attemptId

/-! ### Physical lifecycle -/

/-- `StartFile`. -/
def startFile (attachmentEpoch : PlayerAttachmentEpoch) (playlistEntryId : PlaylistEntryId) :
    Reduction :=
  if attachmentEpoch != r.attachmentEpoch || r.isKnownTerminalPlaylistEntry playlistEntryId then r
  else
    match r.strictStartOwner playlistEntryId with
    | some attemptId => r.startAttempt attemptId playlistEntryId true
    | none =>
      let r :=
        if r.deferredStartFiles.contains ⟨attachmentEpoch, playlistEntryId⟩ then r
        else
          { r with
            deferredStartFiles :=
              r.deferredStartFiles ++ [⟨attachmentEpoch, playlistEntryId⟩] }
      r.scheduleReconciliation.push .requestLifecycleReconciliation

/-- The transport change of an owned `FileLoaded`. -/
def activateLoaded (attemptId : LoadAttemptId) : Reduction :=
  let r := r.demoteActive attemptId (· == .active)
  { r with activeLoadAttempt := some attemptId }

/-- The first `FileLoaded` of a live attempt. -/
def observeFileLoaded (before : LoadAttempt) (attemptId : LoadAttemptId)
    (loadedTarget : Option String) : Reduction :=
  let ownsLogicalPlayback := !before.logicalOwnershipRevoked
  let r := r.updateAttempt attemptId fun attempt =>
    { attempt with
      fileLoadedObserved := true
      fileLoadedDeadlineTick := none
      state := if ownsLogicalPlayback then .active else attempt.state }
  let r := if ownsLogicalPlayback then r.activateLoaded attemptId else r
  let r :=
    match before.playlistEntryId with
    | some entryId =>
      if ownsLogicalPlayback then
        (r.queueEvent (.loadAttemptActive attemptId before.mediaGeneration before.commandId
          entryId)).2
      else r
    | none => r
  let r := r.push (.physicalFileLoaded attemptId ownsLogicalPlayback)
  if !ownsLogicalPlayback then r
  else
    let r := r.emitLoadOutcome attemptId .loaded loadedTarget
    match before.commandId with
    | some commandId => r.commandTerminal commandId .completed
    | none => r

/-- `FileLoaded`. -/
def fileLoaded (attachmentEpoch : PlayerAttachmentEpoch)
    (playlistEntryId : Option PlaylistEntryId) (loadedTarget : Option String) : Reduction :=
  if attachmentEpoch != r.attachmentEpoch then r
  else
    match playlistEntryId.bind (r.playlistEntryAttempts[·]?) with
    | none => r.scheduleReconciliation.push .requestLifecycleReconciliation
    | some attemptId =>
      match r.loadAttempts[attemptId]? with
      | none => r
      | some before =>
        if before.state.isTerminal || before.fileLoadedObserved then r
        else r.observeFileLoaded before attemptId loadedTarget

/-- `EndFile`. -/
def endFile (attachmentEpoch : PlayerAttachmentEpoch) (playlistEntryId : PlaylistEntryId)
    (outcome : PlayerPhysicalLoadOutcome) : Reduction :=
  if attachmentEpoch != r.attachmentEpoch then r
  else
    match r.playlistEntryAttempts[playlistEntryId]? with
    | some attemptId => r.commitPhysicalAttemptTerminal attemptId outcome
    | none =>
      if r.attempts.any fun attempt =>
          attempt.attachmentEpoch == attachmentEpoch
            && attempt.playlistEntryId == some playlistEntryId && attempt.state.isTerminal then r
      else r.scheduleReconciliation.push .requestLifecycleReconciliation

/-- `RetainedEndOfFile`. -/
def retainedEndOfFile (attachmentEpoch : PlayerAttachmentEpoch)
    (playlistEntryId : PlaylistEntryId) : Reduction :=
  if attachmentEpoch != r.attachmentEpoch then r
  else
    match r.activeAttempt with
    | none => r
    | some attempt =>
      if attempt.playlistEntryId == some playlistEntryId && attempt.fileLoadedObserved
          && !attempt.logicalOwnershipRevoked && attempt.supersededBy.isNone
          && !r.acceptedSuccessorExists attempt.id
          && r.retainedCompletionAttempt != some attempt.id then
        { r with retainedCompletionAttempt := some attempt.id }.announceLogicalTerminal
          attempt.id attempt.mediaGeneration .ended
      else r

/-- `PlaylistSnapshot`. -/
def playlistSnapshot (attachmentEpoch : PlayerAttachmentEpoch)
    (entries : List AuthoritativePlaylistEntry) (currentPath : Option String) : Reduction :=
  if attachmentEpoch != r.attachmentEpoch then r
  else r.reconcilePlaylist entries currentPath

/-- `LifecycleReconciliationFailed`. -/
def lifecycleReconciliationFailed (attachmentEpoch : PlayerAttachmentEpoch) : Reduction :=
  if attachmentEpoch != r.attachmentEpoch then r
  else { r with lastReconciliation := some .transportFailure }.scheduleReconciliation

/-! ### End of file, positions and seeks -/

/-- A provisional end of file for the attempt of this entry. -/
def provisionalEofIsFor (attemptId : Option LoadAttemptId) : Bool :=
  r.provisionalEof.any fun candidate => some candidate.attemptId == attemptId

/-- `EofObserved`. -/
def eofObserved (attachmentEpoch : PlayerAttachmentEpoch)
    (playlistEntryId : Option PlaylistEntryId) (reached : Bool)
    (positionSeconds : Option Seconds) : Reduction :=
  if attachmentEpoch != r.attachmentEpoch then r
  else
    let attemptId := playlistEntryId.bind (r.playlistEntryAttempts[·]?)
    if reached then
      match attemptId with
      | some attemptId => { r with provisionalEof := some ⟨attemptId, positionSeconds⟩ }
      | none => r
    else
      { r with
        provisionalEof := if r.provisionalEofIsFor attemptId then none else r.provisionalEof
        retainedCompletionAttempt := none }

/-- `PlaybackRestart`. -/
def playbackRestart (attachmentEpoch : PlayerAttachmentEpoch)
    (playlistEntryId : Option PlaylistEntryId) : Reduction :=
  if attachmentEpoch != r.attachmentEpoch then r
  else
    let attemptId := playlistEntryId.bind (r.playlistEntryAttempts[·]?)
    { r with
      retainedCompletionAttempt := none
      provisionalEof := if r.provisionalEofIsFor attemptId then none else r.provisionalEof }

/-- Progress past the provisional end of file withdraws it. -/
def provisionalEofPassedBy (mediaGeneration : PlayerMediaGeneration)
    (positionSeconds : Seconds) : Bool :=
  r.provisionalEof.any fun candidate =>
    r.loadAttempts[candidate.attemptId]?.any (·.mediaGeneration == mediaGeneration)
      && candidate.lastPositionSeconds.any fun previous =>
        previous + Coordinator.epsilon < positionSeconds

/-- `PositionObserved`. -/
def positionObserved (attachmentEpoch : PlayerAttachmentEpoch)
    (mediaGeneration : PlayerMediaGeneration) (observedSequence : Nat)
    (positionSeconds : Seconds) : Reduction :=
  if attachmentEpoch != r.attachmentEpoch then r
  else
    let r :=
      if r.provisionalEofPassedBy mediaGeneration positionSeconds then
        { r with provisionalEof := none }
      else r
    let reached (owner : SystemSeekOwnership) : Bool :=
      owner.reachedBy attachmentEpoch mediaGeneration observedSequence positionSeconds
    match r.seekOwnership.toList.find? fun entry =>
        entry.2.state.awaitsArrival && reached entry.2 with
    | some (commandId, _) =>
      let r := (r.updateSeek commandId fun _ => .observed).commandTerminal commandId .completed
      { r.push (.consumeSystemSeek commandId positionSeconds) with
        pendingNativeSeekGeneration := none }
    | none =>
      match r.retiredSeekTombstones.find? fun tombstone => reached tombstone.ownership with
      | some tombstone =>
        let r := { r with
          retiredSeekTombstones :=
            r.retiredSeekTombstones.eraseP fun tombstone => reached tombstone.ownership
          pendingNativeSeekGeneration := none }
        r.push (.consumeSystemSeek tombstone.ownership.commandId positionSeconds)
      | none =>
        if r.pendingNativeSeekGeneration != some mediaGeneration then r
        else
          let r := { r with pendingNativeSeekGeneration := none }
          if r.uncertainSeekGenerations.contains mediaGeneration then r
          else r.push (.nativeSeekCandidate mediaGeneration positionSeconds)

/-- `SeekingObserved`. -/
def seekingObserved (attachmentEpoch : PlayerAttachmentEpoch)
    (mediaGeneration : PlayerMediaGeneration) (observedSequence : Nat) (seeking : Bool) :
    Reduction :=
  if attachmentEpoch != r.attachmentEpoch || !seeking then r
  else
    let mayBe (owner : SystemSeekOwnership) : Bool :=
      owner.mayBe attachmentEpoch mediaGeneration observedSequence
    let mayBeSystemSeek :=
      (r.seekOwnership.toList.any fun entry => mayBe entry.2 && entry.2.state.awaitsArrival)
        || (r.retiredSeekTombstones.any fun tombstone => mayBe tombstone.ownership)
        || r.uncertainSeekGenerations.contains mediaGeneration
    { r with
      provisionalEof := none
      retainedCompletionAttempt := none
      pendingNativeSeekGeneration := if mayBeSystemSeek then none else some mediaGeneration }

/-- `PhaseObserved`. -/
def phaseObserved (attachmentEpoch : PlayerAttachmentEpoch) (phase : PlayerTransportPhase) :
    Reduction :=
  if attachmentEpoch != r.attachmentEpoch then r
  else
    match phase with
    | .playing | .prebuffering | .rebuffering | .seeking => { r with provisionalEof := none }
    | _ => r

/-- `TransportDelta`. -/
def transportDelta (attachmentEpoch : PlayerAttachmentEpoch) : Reduction :=
  if attachmentEpoch != r.attachmentEpoch then r else (r.queueEvent .transportDelta).2

/-- `LocalFileChanged`. -/
def localFileChanged (attachmentEpoch : PlayerAttachmentEpoch) (attemptId : LoadAttemptId)
    (mediaGeneration : PlayerMediaGeneration) : Reduction :=
  if attachmentEpoch == r.attachmentEpoch
      && r.loadAttempts[attemptId]?.any fun attempt =>
        attempt.attachmentEpoch == attachmentEpoch && attempt.mediaGeneration == mediaGeneration
          && !attempt.state.isTerminal then
    (r.queueEvent (.localFileChanged attemptId mediaGeneration)).2
  else r

/-- `SeekCommandSubmitted`. -/
def seekCommandSubmitted (commandId : PlayerCommandId) (mediaGeneration : PlayerMediaGeneration)
    (rawPlayerTargetSeconds effectiveRoomTargetSeconds : F64) (dispatchSequenceBoundary : Nat) :
    Reduction :=
  if r.isRetiredCommand commandId then r
  else
    let superseded := (r.commandList.filter fun command =>
      command.attachmentEpoch == r.attachmentEpoch && command.id != commandId
        && command.kind == .seek && !command.state.isTerminal).map (·.id)
    let r := superseded.foldl
      (fun r supersededId => r.endSeekCommand supersededId .superseded (·.unobserved)) r
    { r with
      commands := r.commands.insertIfNew commandId
        (r.submittedCommand commandId (some mediaGeneration) .seek)
      seekOwnership := r.seekOwnership.insert commandId
        { attachmentEpoch := r.attachmentEpoch
          mediaGeneration := mediaGeneration
          rawPlayerTargetSeconds := rawPlayerTargetSeconds
          effectiveRoomTargetSeconds := effectiveRoomTargetSeconds
          commandId := commandId
          dispatchSequenceBoundary := dispatchSequenceBoundary
          state := .submitted } }

/-- `SeekCommandAccepted`. -/
def seekCommandAccepted (attachmentEpoch : PlayerAttachmentEpoch) (commandId : PlayerCommandId) :
    Reduction :=
  if attachmentEpoch != r.attachmentEpoch then r
  else
    (r.acceptCommand commandId).updateSeek commandId fun
      | .submitted => .accepted
      | state => state

/-- `SeekCommandCompletionNotObserved`. -/
def seekCommandCompletionNotObserved (attachmentEpoch : PlayerAttachmentEpoch)
    (commandId : PlayerCommandId) : Reduction :=
  if attachmentEpoch != r.attachmentEpoch then r
  else r.endSeekCommand commandId .completionNotObserved (·.unobserved)

/-! ### Recovery, time and the transport's end -/

/-- `EventGapDetected`. -/
def eventGapDetected (attachmentEpoch : PlayerAttachmentEpoch) : Reduction :=
  if attachmentEpoch != r.attachmentEpoch then r
  else { r.markGap with pendingNativeSeekGeneration := none }

/-- `AuthoritativeSnapshotApplied`. -/
def authoritativeSnapshotApplied (snapshot : PlayerAuthoritativeSnapshot) : Reduction :=
  if snapshot.attachmentEpoch == r.attachmentEpoch
      && snapshot.sequenceBoundary.attachmentEpoch == r.attachmentEpoch
      && snapshot.sequenceBoundary.throughSequence ≤ r.lastEventSequence then
    let boundary : PlayerSequenceBoundary :=
      ⟨r.attachmentEpoch, snapshot.sequenceBoundary.throughSequence⟩
    { r with
      recoverySnapshot := some snapshot
      gapDetected := true
      pendingEvents :=
        if r.cachedBatch.isNone then
          r.pendingEvents.filter fun event => boundary.leaves event.order
        else r.pendingEvents }
  else r

/-- A load whose deadline has passed without a result. -/
def loadExpired (attempt : LoadAttempt) : Bool :=
  !attempt.state.isTerminal && !attempt.logicalOwnershipRevoked
    && attempt.semanticLoadResult.isNone
    && attempt.fileLoadedDeadlineTick.any (· ≤ r.nowTick)

/-- One round of the expiry loop of `TimerAdvanced`. -/
def expireLoad (attemptId : LoadAttemptId) : Reduction :=
  let commandId := r.loadAttempts[attemptId]?.bind (·.commandId)
  let r := r.expireAttempt attemptId (r.ownsStartedTransport attemptId)
  let r := r.emitLoadOutcome attemptId .indeterminate none
  match commandId with
  | some commandId => r.commandTerminal commandId .completionNotObserved
  | none => r

/-- A quiescent attempt past its retention. -/
def retentionExpired (attempt : LoadAttempt) : Bool :=
  match attempt.state with
  | .mayStillEmitQuiescent retireAfterTick => retireAfterTick ≤ r.nowTick
  | _ => false

/-- The reconciliation request of `TimerAdvanced`. -/
def requestDueReconciliation : Reduction :=
  if r.reconciliationRequired && r.nextReconciliationTick.all (· ≤ r.nowTick) then
    (r.push .requestLifecycleReconciliation).scheduleReconciliation
  else r

/-- The clock moves on and expired seek tombstones go. -/
def advanceClock (nowTick : Nat) : Reduction :=
  ⟨{ r with nowTick := max r.nowTick nowTick }.toPlayerLifecycleState.pruneExpiredSeekTombstones,
    r.effects⟩

/-- `TimerAdvanced`. -/
def timerAdvanced (nowTick : Nat) : Reduction :=
  let r := r.advanceClock nowTick
  let expiredLoadAttempts := (r.attempts.filter r.loadExpired).map (·.id)
  let r := expiredLoadAttempts.foldl expireLoad r
  let expiredQuiescentAttempts := (r.attempts.filter r.retentionExpired).map (·.id)
  let r := r.commitAll expiredQuiescentAttempts .neverStarted
  r.stopReconciliationWithoutProactiveWork.requestDueReconciliation

/-- `commands.values().filter(!terminal)`. -/
def pendingCommandIds : List PlayerCommandId :=
  (r.commandList.filter fun command => !command.state.isTerminal).map (·.id)

/-- `load_attempts.values().filter(!terminal)`. -/
def liveAttemptIds : List LoadAttemptId :=
  (r.attempts.filter fun attempt => !attempt.state.isTerminal).map (·.id)

/-- `TransportDisconnected`. -/
def transportDisconnected (attachmentEpoch : PlayerAttachmentEpoch) : Reduction :=
  if attachmentEpoch != r.attachmentEpoch then r
  else
    let r := r.pendingCommandIds.foldl (fun r commandId =>
      r.endSeekCommand commandId .transportDisconnected fun _ => .invalidated) r
    r.commitAll r.liveAttemptIds .transportDisconnected

/-- The reset of `AttachmentReplaced`: the next epoch starts with nothing but
    the retired queues and the counters. -/
def startNextEpoch : Reduction :=
  { r with
    attachmentEpoch := r.attachmentEpoch + 1
    loadAttempts := ∅
    playlistEntryAttempts := ∅
    activeLoadAttempt := none
    commands := ∅
    seekOwnership := ∅
    terminalAttemptTombstones := []
    retiredCommandTombstones := []
    retiredSeekTombstones := []
    uncertainSeekGenerations := ∅
    deferredStartFiles := []
    provisionalEof := none
    retainedCompletionAttempt := none
    logicalTerminal := none
    nextEventSequence := 1
    reconciliationRequired := true
    nextReconciliationTick := none
    reconciliationBackoffTicks := initialReconciliationBackoffTicks
    gapDetected := true
    recoverySnapshot := none
    pendingNativeSeekGeneration := none }

/-- A gap that was never recovered is closed by what the reducer knows. -/
def closeDelivery : Reduction :=
  if r.gapDetected && r.recoverySnapshot.isNone then
    { r with recoverySnapshot := some r.closingSnapshotForCurrentEpoch }
  else r

/-- Every pending command and every live attempt ends with the transport. -/
def disconnectAll : Reduction :=
  let r := r.pendingCommandIds.foldl (fun r commandId =>
    r.commandTerminal commandId .transportDisconnected) r
  r.commitAll r.liveAttemptIds .transportDisconnected

/-- The queues retire and the next epoch opens with its replacement event. -/
def openNextEpoch : Reduction :=
  let previousEpoch := r.attachmentEpoch
  let r := { r with
    toPlayerLifecycleState := r.toPlayerLifecycleState.retireCurrentEpochDelivery }
  let r := (r.startNextEpoch.queueEvent (.attachmentReplaced previousEpoch)).2
  (r.push .requestAuthoritativeSnapshot).push .requestLifecycleReconciliation

/-- `AttachmentReplaced`. -/
def attachmentReplaced : Reduction := r.closeDelivery.disconnectAll.openNextEpoch

/-! ### The reducer -/

/-- The `match` of `reduce_player_lifecycle_inner`. -/
def reduce : PlayerLifecycleInput → Reduction
  | .loadAttemptSubmitted commandId mediaGeneration requestedTarget baseline =>
    r.loadAttemptSubmitted commandId mediaGeneration requestedTarget baseline
  | .externalLoadObserved epoch mediaGeneration entryId observedTarget fileLoaded =>
    r.externalLoadObserved epoch mediaGeneration entryId observedTarget fileLoaded
  | .loadAttemptAccepted epoch attemptId => r.loadAttemptAccepted epoch attemptId
  | .loadAttemptRejected epoch attemptId failure => r.loadAttemptRejected epoch attemptId failure
  | .commandSubmitted commandId mediaGeneration kind =>
    r.commandSubmitted commandId mediaGeneration kind
  | .commandAccepted epoch commandId => r.commandAccepted epoch commandId
  | .commandRejected epoch commandId failure => r.commandRejected epoch commandId failure
  | .commandSuperseded epoch commandId => r.commandSuperseded epoch commandId
  | .commandTransportDisconnected epoch commandId => r.commandTransportDisconnected epoch commandId
  | .commandCompleted epoch commandId => r.commandCompleted epoch commandId
  | .commandCompletionNotObserved epoch commandId => r.commandCompletionNotObserved epoch commandId
  | .startFile epoch entryId => r.startFile epoch entryId
  | .fileLoaded epoch entryId loadedTarget => r.fileLoaded epoch entryId loadedTarget
  | .endFile epoch entryId outcome => r.endFile epoch entryId outcome
  | .retainedEndOfFile epoch entryId => r.retainedEndOfFile epoch entryId
  | .playlistSnapshot epoch entries currentPath => r.playlistSnapshot epoch entries currentPath
  | .lifecycleReconciliationFailed epoch => r.lifecycleReconciliationFailed epoch
  | .eofObserved epoch entryId reached positionSeconds =>
    r.eofObserved epoch entryId reached positionSeconds
  | .playbackRestart epoch entryId => r.playbackRestart epoch entryId
  | .positionObserved epoch mediaGeneration observedSequence positionSeconds =>
    r.positionObserved epoch mediaGeneration observedSequence positionSeconds
  | .seekingObserved epoch mediaGeneration observedSequence seeking =>
    r.seekingObserved epoch mediaGeneration observedSequence seeking
  | .phaseObserved epoch phase => r.phaseObserved epoch phase
  | .transportDelta epoch => r.transportDelta epoch
  | .localFileChanged epoch attemptId mediaGeneration =>
    r.localFileChanged epoch attemptId mediaGeneration
  | .seekCommandSubmitted commandId mediaGeneration rawTarget effectiveTarget boundary =>
    r.seekCommandSubmitted commandId mediaGeneration rawTarget effectiveTarget boundary
  | .seekCommandAccepted epoch commandId => r.seekCommandAccepted epoch commandId
  | .seekCommandRejected epoch commandId failure => r.commandRejected epoch commandId failure
  | .seekCommandCompletionNotObserved epoch commandId =>
    r.seekCommandCompletionNotObserved epoch commandId
  | .eventGapDetected epoch => r.eventGapDetected epoch
  | .authoritativeSnapshotApplied snapshot => r.authoritativeSnapshotApplied snapshot
  | .timerAdvanced nowTick => r.timerAdvanced nowTick
  | .transportDisconnected epoch => r.transportDisconnected epoch
  | .attachmentReplaced => r.attachmentReplaced

end Reduction

/-- `reduce_player_lifecycle`. -/
def reducePlayerLifecycle (state : PlayerLifecycleState) (input : PlayerLifecycleInput) :
    PlayerLifecycleState × List PlayerLifecycleEffect :=
  let reduction := Reduction.reduce { state with effects := [] } input
  (reduction.toPlayerLifecycleState, reduction.effects)

/-! ### Runs -/

/-- What the adapter and its consumer do to the state. -/
inductive Operation where
  | reduce (input : PlayerLifecycleInput)
  | peekEventBatch
  | acknowledgeEventBatch (token : PlayerEventAcknowledgementToken)

namespace PlayerLifecycleState

def step (s : PlayerLifecycleState) : Operation → PlayerLifecycleState
  | .reduce input => (reducePlayerLifecycle s input).1
  | .peekEventBatch => s.peekEventBatch.2
  | .acknowledgeEventBatch token => (s.acknowledgeEventBatch token).2

/-- The effects an operation returns. -/
def effectsOf (s : PlayerLifecycleState) : Operation → List PlayerLifecycleEffect
  | .reduce input => (reducePlayerLifecycle s input).2
  | .peekEventBatch | .acknowledgeEventBatch _ => []

/-- The state after a sequence of operations on a new player. -/
def after (attachmentEpoch : PlayerAttachmentEpoch) (operations : List Operation) :
    PlayerLifecycleState :=
  Framework.runFrom step (new attachmentEpoch) operations

end PlayerLifecycleState

end Sorotte.Lifecycle
