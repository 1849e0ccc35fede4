import Sorotte.Lifecycle.Delivery

/-! # Load attempts and commands

  The helper methods of `PlayerLifecycleState` that change an attempt or a
  command: semantic outcomes, binding to a playlist entry, starting, physical
  termination and playlist reconciliation.
-/

namespace Sorotte.Lifecycle

namespace Reduction

variable (r : Reduction)

/-! ### Edits of one record -/

/-- `load_attempts.get_mut(&id)` followed by an edit. -/
def updateAttempt (attemptId : LoadAttemptId) (edit : LoadAttempt → LoadAttempt) : Reduction :=
  { r with loadAttempts := r.loadAttempts.modify attemptId edit }

/-- `commands.get_mut(&id)` followed by an edit. -/
def updateCommand (commandId : PlayerCommandId) (edit : LifecycleCommand → LifecycleCommand) :
    Reduction :=
  { r with commands := r.commands.modify commandId edit }

/-- `seek_ownership.get_mut(&id)` followed by an edit of the state. -/
def updateSeek (commandId : PlayerCommandId)
    (edit : SystemSeekOwnershipState → SystemSeekOwnershipState) : Reduction :=
  { r with
    seekOwnership := r.seekOwnership.modify commandId fun owner =>
      { owner with state := edit owner.state } }

/-- `allocate_load_attempt_id`. -/
def allocateLoadAttemptId : LoadAttemptId × Reduction :=
  let value := max r.nextLoadAttemptId 1
  (value, { r with nextLoadAttemptId := value + 1 })

/-- `retain_only_selected_successor_claim`. -/
def retainOnlySelectedSuccessorClaim (predecessorId selectedSuccessorId : LoadAttemptId) :
    Reduction :=
  { r with
    loadAttempts := r.loadAttempts.map fun _ attempt =>
      if attempt.id != selectedSuccessorId && attempt.replacedAttempt == some predecessorId then
        { attempt with replacedAttempt := none }
      else attempt }

/-! ### Semantic outcomes -/

/-- `command_terminal`. -/
def commandTerminal (commandId : PlayerCommandId) (terminal : CommandSemanticState) :
    Reduction :=
  match r.commands[commandId]? with
  | none => r
  | some command =>
    if command.state.isTerminal then r
    else
      match terminal.publicResult with
      | none => r
      | some result =>
        let r := r.updateCommand commandId fun command =>
          { command with state := terminal, outcomeEmitted := true }
        let (order, r) := r.retainOutcome (.command
          { attachmentEpoch := command.attachmentEpoch
            commandId := commandId
            mediaGeneration := command.mediaGeneration
            result := result })
        r.updateCommand commandId fun command =>
          { command with terminalSequence := some order.sequence }

/-- `emit_load_outcome`. -/
def emitLoadOutcome (attemptId : LoadAttemptId) (result : PlayerLoadAttemptResult)
    (loadedTarget : Option String) : Reduction :=
  match r.loadAttempts[attemptId]? with
  | none => r
  | some attempt =>
    if attempt.semanticLoadResult.isSome then r
    else
      let r := r.updateAttempt attemptId fun attempt =>
        { attempt with semanticLoadResult := some result }
      let (order, r) := r.retainOutcome (.loadAttempt
        { attachmentEpoch := attempt.attachmentEpoch
          attemptId := attemptId
          mediaGeneration := attempt.mediaGeneration
          commandId := attempt.commandId
          requestedTarget := attempt.requestedTarget
          loadedTarget := loadedTarget
          result := result })
      r.updateAttempt attemptId fun attempt =>
        { attempt with semanticOutcomeSequence := some order.sequence }

/-- The end of a live attempt's claim to logical playback, as an accepted load
    and an external load both make it: the two records are linked and the
    revocation is published. -/
def revokeOwnership (predecessor : LoadAttempt) (predecessorId successorId : LoadAttemptId) :
    Reduction :=
  let r := r.retainOnlySelectedSuccessorClaim predecessorId successorId
  let r := r.updateAttempt predecessorId fun predecessor =>
    { predecessor with
      supersededBy := some successorId
      logicalOwnershipRevoked := true
      state := .supersededMayStillEmit successorId
      reconcileUntilTick := none
      fileLoadedDeadlineTick := none }
  (r.queueEvent (.loadAttemptLogicalOwnershipRevoked predecessorId predecessor.mediaGeneration
    successorId)).2

/-- The predecessor's command and load end as superseded. -/
def endSuperseded (predecessorCommand : Option PlayerCommandId) (predecessorId : LoadAttemptId) :
    Reduction :=
  let r :=
    match predecessorCommand with
    | some commandId => r.commandTerminal commandId .superseded
    | none => r
  r.emitLoadOutcome predecessorId .superseded none

/-- `previous.superseded_by.map_or(MayStillEmit, ...)`. -/
def demotedState (previous : LoadAttempt) : LoadAttemptState :=
  match previous.supersededBy with
  | none => .mayStillEmit
  | some successor => .supersededMayStillEmit successor

/-- Another attempt takes the transport: the active attempt, when its state is
    one of those the caller names, may still emit. -/
def demoteActive (attemptId : LoadAttemptId) (held : LoadAttemptState → Bool) : Reduction :=
  match r.activeLoadAttempt with
  | none => r
  | some previousId =>
    if previousId == attemptId then r
    else
      r.updateAttempt previousId fun previous =>
        if held previous.state then { previous with state := demotedState previous } else previous

/-! ### Binding and starting -/

/-- `bind_attempt`. -/
def bindAttempt (attemptId : LoadAttemptId) (playlistEntryId : PlaylistEntryId) :
    Bool × Reduction :=
  if r.playlistEntryAttempts[playlistEntryId]?.any (· != attemptId) then
    (false, r.scheduleReconciliation.push .requestLifecycleReconciliation)
  else
    match r.loadAttempts[attemptId]? with
    | none => (false, r)
    | some attempt =>
      if attempt.attachmentEpoch != r.attachmentEpoch || attempt.state.isTerminal
          || attempt.playlistEntryId.any (· != playlistEntryId) then (false, r)
      else
        let r := r.updateAttempt attemptId fun attempt =>
          { attempt with
            playlistEntryId := some playlistEntryId
            reconcileUntilTick := none
            state :=
              if attempt.state == .acceptedUnbound || attempt.state == .mayStillEmit then .bound
              else attempt.state }
        let r := { r with
          playlistEntryAttempts := r.playlistEntryAttempts.insert playlistEntryId attemptId }
        if attempt.playlistEntryId.isNone then
          (true, (r.queueEvent (.loadAttemptBound attemptId attempt.mediaGeneration
            attempt.commandId playlistEntryId)).2)
        else (true, r)

/-- The attempt holds the transport and nothing has ended. -/
def takeTransport (attemptId : LoadAttemptId) : Reduction :=
  { r with activeLoadAttempt := some attemptId, logicalTerminal := none, provisionalEof := none }

/-- `start_attempt` past a successful bind. -/
def startBoundAttempt (attemptId : LoadAttemptId) (playlistEntryId : PlaylistEntryId)
    (startFileObserved : Bool) : Reduction :=
  match r.loadAttempts[attemptId]? with
  | none => r
  | some attempt =>
    if attempt.state.isTerminal then r
    else
      let quiescent := attempt.state.isQuiescent
      -- A snapshot may bind a quiescent attempt, but only a raw or deferred
      -- start-file publishes its `Starting` event.
      let firstStartObservation :=
        !attempt.startFileObserved && (startFileObserved || !quiescent)
      let r :=
        if startFileObserved then
          r.updateAttempt attemptId fun attempt => { attempt with startFileObserved := true }
        else r
      if attempt.logicalOwnershipRevoked then r
      else if attempt.state == .starting || attempt.state == .active then
        r.takeTransport attemptId
      else
        let r := r.demoteActive attemptId fun state => state == .starting || state == .active
        let r :=
          if quiescent then r
          else
            (r.updateAttempt attemptId fun attempt =>
              { attempt with state := .starting }).takeTransport attemptId
        if firstStartObservation then
          (r.queueEvent (.loadAttemptStarting attemptId attempt.mediaGeneration
            attempt.commandId playlistEntryId !quiescent)).2
        else r

/-- `start_attempt`. -/
def startAttempt (attemptId : LoadAttemptId) (playlistEntryId : PlaylistEntryId)
    (startFileObserved : Bool) : Reduction :=
  let (bound, r) := r.bindAttempt attemptId playlistEntryId
  if !bound then r else r.startBoundAttempt attemptId playlistEntryId startFileObserved

/-- One round of the loop of `try_deferred_starts`: the queue is taken out before
    the loop and what stays deferred is collected. -/
def tryDeferredStart (retained : List DeferredStartFile) (deferred : DeferredStartFile) :
    List DeferredStartFile × Reduction :=
  if deferred.attachmentEpoch != r.attachmentEpoch then (retained, r)
  else
    match r.strictStartOwner deferred.playlistEntryId with
    | some attemptId => (retained, r.startAttempt attemptId deferred.playlistEntryId true)
    | none => (retained ++ [deferred], r)

/-- `try_deferred_starts`. -/
def tryDeferredStarts : Reduction :=
  let deferredStarts := r.deferredStartFiles
  let (retained, r) := deferredStarts.foldl
    (fun (retained, r) deferred => tryDeferredStart r retained deferred)
    ([], { r with deferredStartFiles := [] })
  let r := { r with deferredStartFiles := retained }
  if !r.deferredStartFiles.isEmpty && r.hasProactiveUnboundLoadAttempt then
    r.scheduleReconciliation.push .requestLifecycleReconciliation
  else r

/-- The reset of the reconciliation timer. -/
def clearReconciliation : Reduction :=
  { r with
    reconciliationRequired := false
    nextReconciliationTick := none
    reconciliationBackoffTicks := initialReconciliationBackoffTicks }

/-- `stop_reconciliation_without_proactive_work`. -/
def stopReconciliationWithoutProactiveWork : Reduction :=
  if r.hasProactiveUnboundLoadAttempt || !r.deferredStartFiles.isEmpty
      || r.lastReconciliation == some .incompleteSnapshot
      || r.lastReconciliation == some .transportFailure then r
  else r.clearReconciliation

/-! ### Physical termination -/

/-- The load result that stands for a physical outcome nobody explained earlier. -/
def loadResultOf : PlayerPhysicalLoadOutcome → PlayerLoadAttemptResult
  | .ended | .stopped => .indeterminate
  | .failed kind => .failed kind
  | .neverStarted => .neverStarted
  | .transportDisconnected => .transportDisconnected

/-- The end of a load command whose attempt ended first. -/
def loadCommandEndOf : PlayerPhysicalLoadOutcome → CommandSemanticState
  | .transportDisconnected => .transportDisconnected
  | .neverStarted => .failed .unknown
  | .ended | .stopped | .failed _ => .failed .mediaEnded

/-- The record, mapping and transport part of `commit_physical_attempt_terminal`. -/
def endAttempt (before : LoadAttempt) (attemptId : LoadAttemptId)
    (outcome : PlayerPhysicalLoadOutcome) : Reduction :=
  let r :=
    match before.playlistEntryId with
    | some entryId => { r with playlistEntryAttempts := r.playlistEntryAttempts.erase entryId }
    | none => r
  let r :=
    if r.provisionalEofAttempt == some attemptId then { r with provisionalEof := none } else r
  let r := r.updateAttempt attemptId fun attempt =>
    { attempt with
      state := .terminal outcome
      reconcileUntilTick := none
      fileLoadedDeadlineTick := none }
  if r.activeLoadAttempt == some attemptId then { r with activeLoadAttempt := none } else r

/-- The announcement that closes `commit_physical_attempt_terminal` for the
    attempt that owned logical playback. -/
def announceLogicalTerminal (attemptId : LoadAttemptId)
    (mediaGeneration : PlayerMediaGeneration) (outcome : PlayerPhysicalLoadOutcome) : Reduction :=
  (r.queueEvent (.logicalPlaybackTerminal mediaGeneration attemptId outcome)).2.push
    (.logicalPlaybackTerminal mediaGeneration attemptId outcome)

/-- `logical_terminal_allowed`. -/
def logicalTerminalAllowed (before : LoadAttempt) (attemptId : LoadAttemptId) : Bool :=
  r.activeLoadAttempt == some attemptId && !r.acceptedSuccessorExists attemptId
    && before.supersededBy.isNone && !before.logicalOwnershipRevoked

/-- `commit_physical_attempt_terminal`. -/
def commitPhysicalAttemptTerminal (attemptId : LoadAttemptId)
    (outcome : PlayerPhysicalLoadOutcome) : Reduction :=
  match r.loadAttempts[attemptId]? with
  | none => r
  | some before =>
    if before.attachmentEpoch != r.attachmentEpoch || before.state.isTerminal then r
    else
      let logicalTerminalAllowed := r.logicalTerminalAllowed before attemptId
      let r := r.endAttempt before attemptId outcome
      let (terminalOrder, r) :=
        r.queueEvent (.loadAttemptTerminal attemptId before.mediaGeneration outcome)
      let r := r.updateAttempt attemptId fun attempt =>
        { attempt with physicalTerminalSequence := some terminalOrder.sequence }
      let r :=
        if before.semanticLoadResult.isNone then
          r.emitLoadOutcome attemptId (loadResultOf outcome) none
        else r
      let r :=
        match before.commandId with
        | none => r
        | some commandId =>
          if r.commands[commandId]?.any (!·.state.isTerminal) then
            r.commandTerminal commandId (loadCommandEndOf outcome)
          else r
      if !logicalTerminalAllowed then r
      else
        let r := { r with logicalTerminal := some (before.mediaGeneration, outcome) }
        if r.retainedCompletionAttempt != some attemptId || outcome != .ended then
          r.announceLogicalTerminal attemptId before.mediaGeneration outcome
        else r

/-- A loop that commits the same physical outcome for several attempts. -/
def commitAll (attemptIds : List LoadAttemptId) (outcome : PlayerPhysicalLoadOutcome) :
    Reduction :=
  attemptIds.foldl (fun r attemptId => r.commitPhysicalAttemptTerminal attemptId outcome) r

/-! ### Playlist reconciliation -/

/-- Awaited by an empty playlist: a load that has been handed over and may
    still appear. -/
def awaitsEmptyPlaylist (attempt : LoadAttempt) : Bool :=
  attempt.attachmentEpoch == r.attachmentEpoch && !attempt.state.isTerminal
    && attempt.playlistEntryId.isNone
    && (attempt.state == .submitting
      || ((attempt.state == .acceptedUnbound || attempt.state == .mayStillEmit)
        && attempt.reconcileUntilTick.any fun deadline => r.nowTick < deadline))

/-- Stopped by an empty playlist: every state but `Submitting`,
    `AcceptedUnbound` and `Terminal`. -/
def stoppedByEmptyPlaylist : LoadAttemptState → Bool
  | .bound | .starting | .active | .mayStillEmit | .mayStillEmitQuiescent _
  | .supersededMayStillEmit _ => true
  | .submitting | .acceptedUnbound | .terminal _ => false

/-- `reconcile_playlist` given no entry. -/
def reconcileEmptyPlaylist (currentPath : Option String) : Reduction :=
  if currentPath.isSome then
    ({ r with lastReconciliation := some .incompleteSnapshot }.scheduleReconciliation).push
      .requestLifecycleReconciliation
  else if r.attempts.any r.awaitsEmptyPlaylist then
    ({ r with lastReconciliation := some .awaitingAcceptedAttempt }.scheduleReconciliation).push
      .requestLifecycleReconciliation
  else
    let terminalAttempts :=
      (r.attempts.filter fun attempt => stoppedByEmptyPlaylist attempt.state).map (·.id)
    let r := r.commitAll terminalAttempts .stopped
    { r with
      deferredStartFiles := []
      lastReconciliation := some .authoritativeIdle }.clearReconciliation

/-- The active attempt, when the entries name a current one and its own entry is
    not among them. -/
def contradictedAttempts (entries : List AuthoritativePlaylistEntry) : List LoadAttemptId :=
  if !entries.any (·.current) then []
  else
    r.activeLoadAttempt.toList.filter fun attemptId =>
      r.loadAttempts[attemptId]?.any fun attempt =>
        attempt.attachmentEpoch == r.attachmentEpoch && !attempt.state.isTerminal
          && attempt.playlistEntryId.any fun entryId => !(entries.map (·.id)).contains entryId

/-- The entries that may be an unbound attempt's. -/
def candidateEntries (entries : List AuthoritativePlaylistEntry) (attempt : LoadAttempt) :
    List PlaylistEntryId :=
  (entries.filter fun entry =>
    !r.playlistEntryAttempts.contains entry.id
      && !attempt.baselinePlaylistEntryIds.contains entry.id
      && entry.originalFilename == some attempt.requestedTarget).map (·.id)

/-- `candidate_edges`. -/
def candidateEdges (entries : List AuthoritativePlaylistEntry) :
    List (LoadAttemptId × List PlaylistEntryId) :=
  (r.attempts.filter fun attempt =>
    attempt.attachmentEpoch == r.attachmentEpoch && attempt.state.mayReceiveLifecycle
      && attempt.state != .submitting && attempt.playlistEntryId.isNone).map
    fun attempt => (attempt.id, r.candidateEntries entries attempt)

/-- One candidate edge: bind when the entry is the attempt's only candidate and
    no other attempt's. -/
def bindCandidate (edges : List (LoadAttemptId × List PlaylistEntryId))
    (edge : LoadAttemptId × List PlaylistEntryId) : Reduction :=
  match edge.2 with
  | [entryId] =>
    if edges.countP (·.2.contains entryId) == 1 then (r.bindAttempt edge.1 entryId).2 else r
  | _ => r

/-- The current entry's attempt starts. -/
def startCurrentEntry (entries : List AuthoritativePlaylistEntry) : Reduction :=
  match entries.find? (·.current) with
  | none => r
  | some current =>
    match r.playlistEntryAttempts[current.id]? with
    | none => r
    | some attemptId => r.startAttempt attemptId current.id false

/-- An accepted load whose entry has not shown up before its deadline. -/
def isUnresolved (attempt : LoadAttempt) : Bool :=
  attempt.attachmentEpoch == r.attachmentEpoch && attempt.playlistEntryId.isNone
    && (attempt.state == .acceptedUnbound || attempt.state == .mayStillEmit)
    && attempt.reconcileUntilTick.any fun deadline => r.nowTick < deadline

/-- `reconcile_playlist`. -/
def reconcilePlaylist (entries : List AuthoritativePlaylistEntry) (currentPath : Option String) :
    Reduction :=
  if entries.isEmpty then r.reconcileEmptyPlaylist currentPath
  else
    let r := r.commitAll (r.contradictedAttempts entries) .stopped
    let edges := r.candidateEdges entries
    let r := edges.foldl (fun r edge => r.bindCandidate edges edge) r
    let r := (r.startCurrentEntry entries).tryDeferredStarts
    if r.attempts.any r.isUnresolved then
      ({ r with lastReconciliation := some .awaitingAcceptedAttempt }.scheduleReconciliation).push
        .requestLifecycleReconciliation
    else
      { r with
        deferredStartFiles := []
        lastReconciliation := some .resolved }.clearReconciliation

end Reduction

end Sorotte.Lifecycle
