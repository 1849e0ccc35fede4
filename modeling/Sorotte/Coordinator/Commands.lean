import Sorotte.Coordinator.State

/-! # Commands, the rate override and the life of an episode

  The parts of `PlaybackCoordinator` that the observation pass is built from:
  issuing and completing commands, requesting and reconciling the reset of a
  catch-up speed, opening and closing recovery episodes and seek preparations.

  A function that pushes to `actions` works on a `Coordination`, the coordinator
  with the actions collected so far.
-/

namespace Sorotte.Coordinator

/-- `self` and `actions`. -/
structure Coordination where
  coordinator : PlaybackCoordinator
  actions : List PlaybackCoordinatorAction

namespace PlaybackCoordinator

/-- A reset supersedes the catch-up commands in flight. -/
def requestRateReset (c : PlaybackCoordinator) : PlaybackCoordinator :=
  match c.rateOverride with
  | none => c
  | some rateOverride =>
    if rateOverride.resetRequested then c
    else
      { c with
        rateOverride := some
          { rateOverride with
            resetRequested := true
            resetCommandObservationSequence := none }
        pendingCommands := c.pendingCommands.filter fun command => !command.kind.isCatchupRate }

def closeRecoveryWithoutMetrics (c : PlaybackCoordinator) : PlaybackCoordinator :=
  { c.requestRateReset with recovery := none }

def closeRecoveryWithMetrics (c : PlaybackCoordinator) (nowSeconds : Seconds) :
    PlaybackCoordinator :=
  let c := c.requestRateReset
  let c :=
    match c.recovery with
    | none => c
    | some episode =>
      { c with
        recovery := none
        metrics :=
          { c.metrics with
            totalBufferDurationSeconds :=
              c.metrics.totalBufferDurationSeconds + max (nowSeconds - episode.enteredAtSeconds) 0 } }
  { c with diagnostic := .playing }

/-- Headroom measured before a seek says nothing about its destination. -/
def invalidateCacheMetricsForSeek (c : PlaybackCoordinator) : PlaybackCoordinator :=
  { c with
    metrics :=
      { c.metrics with
        lastBufferedAheadSeconds := none
        lastInputRateBytesPerSecond := none }
    observed := c.observed.map fun observed =>
      { observed with
        cacheBufferingPercent := none
        bufferedAheadSeconds := none } }

def clearParticipantStatusTransportMetrics (c : PlaybackCoordinator) : PlaybackCoordinator :=
  { c with
    metrics :=
      { c.metrics with
        steadyStateSkewSeconds := none
        lastBufferedAheadSeconds := none
        lastInputRateBytesPerSecond := none } }

def transportBlocksCorrection (observed : ObservedState) : Bool :=
  observed.pausedForCache || observed.seeking
    || match observed.phase with
      | .empty | .loading | .prebuffering | .rebuffering | .seeking | .ended | .failed => true
      | .readyPaused | .playing => false

def observedSeekable (c : PlaybackCoordinator) (observed : ObservedState) : Bool :=
  observed.seekable.getD (c.media.any (·.kind.defaultSeekable))

def desiredSeekIsSatisfied (c : PlaybackCoordinator) (desired : DesiredRoomPlayback Seconds) :
    Bool :=
  !desired.forceSeek || c.desiredSeekSatisfiedRevision == some desired.stateRevision

/-- Within the tolerance of the target, if the position is known. -/
def nearTarget (c : PlaybackCoordinator) (position : Option Seconds) (target : Seconds) : Bool :=
  position.any fun position => distance position target ≤ c.config.positionToleranceSeconds

def clampSeekTarget (c : PlaybackCoordinator) (target : Seconds) (observed : ObservedState) :
    Seconds :=
  let target := max target 0
  if rangesContain c.cachedSeekableRanges target then target
  else if c.media.all (·.kind ≠ .liveSliding) then target
  else (clampToLiveSeekableWindow target observed.knownLiveSeekableWindow).getD target

def isDegradedHold (desired : DesiredRoomPlayback Seconds) (terminal : SeekPreparationSnapshot) :
    Bool :=
  terminal.mediaGeneration == desired.mediaGeneration
    && terminal.latestRoomRevision == desired.stateRevision
    && terminal.terminalOutcome.any (·.isDegraded)

def isTerminalHold (desired : DesiredRoomPlayback Seconds) (terminal : SeekPreparationSnapshot) :
    Bool :=
  terminal.mediaGeneration == desired.mediaGeneration
    && terminal.latestRoomRevision == desired.stateRevision
    && terminal.terminalOutcome.any (·.holdsRevision)

def degradedSeekPreparationHoldsCurrentRevision (c : PlaybackCoordinator) : Bool :=
  c.desired.any fun desired => c.lastSeekPreparationTerminal.any (isDegradedHold desired)

def terminalSeekPreparationHoldsCurrentRevision (c : PlaybackCoordinator) : Bool :=
  c.desired.any fun desired => c.lastSeekPreparationTerminal.any (isTerminalHold desired)

def authoritativeAlignmentGuardsActivePreparation (c : PlaybackCoordinator) : Bool :=
  c.seekPreparation.any fun episode =>
    c.authoritativeAlignmentGuardRevision == some episode.latestRoomRevision

/-! ### Seek preparation -/

def finishSeekPreparation (c : PlaybackCoordinator) (outcome : SeekPreparationTerminalOutcome) :
    PlaybackCoordinator :=
  match c.seekPreparation with
  | none => c
  | some episode =>
    let ready := outcome = .ready
    let episode := if ready then { episode with phase := .readyToJoin } else episode
    { c with
      seekPreparation := none
      metrics :=
        if ready then
          { c.metrics with
            lastBufferedAheadSeconds := episode.bufferedAheadSeconds
            lastInputRateBytesPerSecond := episode.inputRateBytesPerSecond }
        else c.metrics
      pendingCommands := c.pendingCommands.filter fun command =>
        episode.primarySeekCommandId.all (command.id ≠ ·)
      lastSeekPreparationTerminal := some (episode.snapshot (some outcome)) }

def cancelSeekPreparationForLifecycle (c : PlaybackCoordinator) : PlaybackCoordinator :=
  if c.seekPreparation.isSome then
    { c.finishSeekPreparation .cancelled with
      desiredSeekSatisfiedRevision := c.desired.map (·.stateRevision) }
  else c

def clearSeekPreparationTerminal (c : PlaybackCoordinator) : PlaybackCoordinator :=
  { c with lastSeekPreparationTerminal := none }

/-- The primary seek was issued: evidence counts from the next observation. -/
def primaryIssued (observationSequence : Nat) (commandId : Option CoordinatorCommandId)
    (episode : SeekPreparationEpisode) : SeekPreparationEpisode :=
  { episode with
    primarySeekIssued := true
    primarySeekCommandId := commandId
    primarySeekObservationSequence := some observationSequence
    cacheBufferingPercent := none
    bufferedAheadSeconds := none
    inputRateBytesPerSecond := none
    refillStartedObservationSequence := none
    refillReleasedAfterSeek := false
    stablePlayableSince := none }

def markSeekPreparationPrimaryIssued (c : PlaybackCoordinator)
    (commandId : Option CoordinatorCommandId) : PlaybackCoordinator :=
  let c :=
    { c with
      seekPreparation := c.seekPreparation.map (primaryIssued c.observationSequence commandId) }
  c.invalidateCacheMetricsForSeek

/-- Whether `begin_seek_preparation_if_needed` looks for a nearby cached point. -/
def nearestCandidate (c : PlaybackCoordinator) (kind : MediaTransportKind)
    (availability : SeekTargetAvailability) (requestedTarget : Seconds) : Option Seconds :=
  if availability = .fetchRequired || availability = .unknown then
    nearestBufferedTarget kind requestedTarget c.cachedSeekableRanges
      c.config.nearestBufferedTargetLimitSeconds
  else none

def targetAvailability (c : PlaybackCoordinator) (kind : MediaTransportKind)
    (observed : Option ObservedState) (requestedTarget : Seconds) : SeekTargetAvailability :=
  classifySeekTarget kind (observed.bind (·.seekable)) c.cachedSeekableRanges
    (observed.bind (·.knownLiveSeekableWindow)) requestedTarget

/-- The episode that `begin_seek_preparation_if_needed` opens. -/
def openedSeekPreparation (c : PlaybackCoordinator) (media : MediaState)
    (desired : DesiredRoomPlayback Seconds) (availability : SeekTargetAvailability) :
    SeekPreparationEpisode :=
  let requestedTarget := desired.positionAt desired.anchorObservedAtSeconds
  { id := nextIdentifier c.nextSeekPreparationId
    mediaGeneration := media.generation
    loadAttempt := media.loadAttempt
    roomRevision := desired.stateRevision
    latestRoomRevision := desired.stateRevision
    latestRoomPaused := desired.paused
    requestedTargetSeconds := requestedTarget
    frozenTargetSeconds :=
      if media.kind = .liveSliding then
        (clampToLiveSeekableWindow requestedTarget
          (c.observed.bind (·.knownLiveSeekableWindow))).getD requestedTarget
      else requestedTarget
    frozenRoomAnchorPositionSeconds := desired.anchorPositionSeconds
    frozenRoomAnchorObservedAtSeconds := desired.anchorObservedAtSeconds
    latestRoomPositionSeconds := requestedTarget
    availability
    phase := .seeking
    cacheBufferingPercent := none
    bufferedAheadSeconds := none
    inputRateBytesPerSecond := none
    nearestSafeBufferedPositionSeconds :=
      c.nearestCandidate media.kind availability requestedTarget
    startedAtSeconds := desired.anchorObservedAtSeconds
    deadlineSeconds := desired.anchorObservedAtSeconds + c.config.seekPreparationTimeoutSeconds
    primarySeekCommandId := none
    primarySeekIssued := false
    primarySeekObservationSequence := none
    refillStartedObservationSequence := none
    refillReleasedAfterSeek := false
    stablePlayableSince := none }

def beginSeekPreparationIfNeeded (c : PlaybackCoordinator)
    (desired : DesiredRoomPlayback Seconds) : PlaybackCoordinator :=
  match c.media with
  | none => c
  | some media =>
    if media.kind = .localFile then c
    else
      let availability := c.targetAvailability media.kind c.observed
        (desired.positionAt desired.anchorObservedAtSeconds)
      if availability = .cached then c
      else
        let opened :=
          { c with
            nextSeekPreparationId := nextIdentifier c.nextSeekPreparationId
            seekPreparation := some (c.openedSeekPreparation media desired availability) }
        let opened := opened.closeRecoveryWithoutMetrics
        if availability = .nonSeekable then
          opened.finishSeekPreparation (.degraded .nonSeekable)
        else if availability = .outsideLiveWindow
            && opened.cachedSeekableRanges.any (·.isEmpty) then
          opened.finishSeekPreparation (.degraded .outsideLiveWindow)
        else opened

/-! ### Recovery episodes -/

/-- A recovery episode that starts at this moment. -/
def openedRecovery (c : PlaybackCoordinator) (nowSeconds : Seconds)
    (postCacheBaselineAtSeconds : Option Seconds) (cacheMetricsFrozenUntilDecision : Bool) :
    RecoveryEpisode :=
  { id := nextIdentifier c.nextRecoveryEpisodeId
    mediaGeneration := c.currentMediaGeneration.getD 0
    enteredAtSeconds := nowSeconds
    hardSeekAttempts := 0
    postCacheBaselineAtSeconds
    stableSinceSeconds := none
    catchupDeadlineSeconds := none
    decisionMade := false
    cacheMetricsFrozenUntilDecision
    catchupActive := false
    seekActive := false
    gentleCatchupOnly := false
    degraded := false }

def beginRecoveryHandoff (c : PlaybackCoordinator) (nowSeconds : Seconds) : PlaybackCoordinator :=
  if c.recovery.isSome then c
  else
    { c with
      nextRecoveryEpisodeId := nextIdentifier c.nextRecoveryEpisodeId
      recovery := some (c.openedRecovery nowSeconds (some nowSeconds) true) }

/-- What an adapter epoch or a refreshed transport leaves of an episode. -/
def restartedRecovery (episode : RecoveryEpisode) : RecoveryEpisode :=
  { episode with
    postCacheBaselineAtSeconds := none
    stableSinceSeconds := none
    catchupDeadlineSeconds := none
    decisionMade := episode.degraded
    catchupActive := false
    seekActive := false }

/-! ### Pending actions -/

/-- `take_pending_actions`: the degradation that is reported first. -/
def pendingActions (c : PlaybackCoordinator) : List PlaybackCoordinatorAction :=
  (c.pendingDegradedReason.map fun reason =>
    .degraded (c.currentMediaGeneration.getD 0) none reason).toList

def withoutPendingActions (c : PlaybackCoordinator) : PlaybackCoordinator :=
  { c with pendingDegradedReason := none }

def withOutcome (outcome : SeekPreparationTerminalOutcome) (terminal : SeekPreparationSnapshot) :
    SeekPreparationSnapshot :=
  { terminal with terminalOutcome := some outcome }

/-- A cached point chosen by the user could not be reached. -/
def degradeFailedBufferedAlternative (c : PlaybackCoordinator) (commandId : CoordinatorCommandId) :
    PlaybackCoordinator :=
  match c.pendingCommands.find? fun command =>
      command.id == commandId && command.kind.isBufferedAlternative with
  | none => c
  | some command =>
    let c :=
      { c with
        lastSeekPreparationTerminal :=
          c.lastSeekPreparationTerminal.map (withOutcome (.degraded .transportFailed))
        desiredSeekSatisfiedRevision := some command.revision
        requiredSeekDispatchRevision := none }
    { c.closeRecoveryWithoutMetrics with
      diagnostic := .degraded
      pendingDegradedReason := some .transportFailed }

end PlaybackCoordinator

namespace Coordination

/-- Run a part of the coordinator that pushes no action. -/
def update (k : Coordination) (change : PlaybackCoordinator → PlaybackCoordinator) : Coordination :=
  { k with coordinator := change k.coordinator }

def push (k : Coordination) (action : PlaybackCoordinatorAction) : Coordination :=
  { k with actions := k.actions ++ [action] }

/-- A `Rate` to the normal speed that an override asked for: it is outside the
    retry budget. -/
def isBaselineRateReset (c : PlaybackCoordinator) (kind : PendingCommandKind) : Bool :=
  kind.isBaselineRate && c.rateOverride.any (·.resetRequested)

/-- The reasons for which `issue_command` issues nothing. -/
def commandRefused (c : PlaybackCoordinator) (nowSeconds : Seconds) (kind : PendingCommandKind) :
    Bool :=
  (!isBaselineRateReset c kind && !kind.isPause
      && (c.commandBudgetDegraded || c.config.commandRetryBudget < c.failedCommandAttempts))
    || nowSeconds < c.retryNotBeforeSeconds
    || c.pendingCommands.any fun pending => pending.kind.sameKind kind

/-- The effect of `issue_command` on the coordinator, when it issues. -/
def issued (c : PlaybackCoordinator) (revision : Nat) (nowSeconds : Seconds)
    (kind : PendingCommandKind) : PlaybackCoordinator :=
  let baselineRateReset := isBaselineRateReset c kind
  let c := if kind.isSeek then c.invalidateCacheMetricsForSeek else c
  let commandId := nextIdentifier c.nextCommandId
  { c with
    nextCommandId := commandId
    pendingCommands := c.pendingCommands ++
      [{ id := commandId
         revision
         issuedAtSeconds := nowSeconds
         accepted := false
         kind }]
    rateOverride :=
      if baselineRateReset then
        c.rateOverride.map fun rateOverride =>
          { rateOverride with resetCommandObservationSequence := some c.observationSequence }
      else c.rateOverride }

/-- `issue_command`, with the identifier that it returns. -/
def issueCommand (k : Coordination) (revision : Nat) (nowSeconds : Seconds)
    (kind : PendingCommandKind) (command : CoordinatorPlayerCommand) :
    Option CoordinatorCommandId × Coordination :=
  if commandRefused k.coordinator nowSeconds kind then (none, k)
  else
    let c := issued k.coordinator revision nowSeconds kind
    (some c.nextCommandId,
      { coordinator := c
        actions := k.actions ++ [.execute c.nextCommandId command] })

/-- The `SetPaused(true)` that several paths issue. -/
def issuePause (k : Coordination) (desired : DesiredRoomPlayback Seconds)
    (observed : ObservedState) : Coordination :=
  (k.issueCommand desired.stateRevision observed.observedAtSeconds .pause (.setPaused true)).2

/-- `issuePause` unless the player reports a logical pause. -/
def issuePauseUnlessPaused (k : Coordination) (desired : DesiredRoomPlayback Seconds)
    (observed : ObservedState) : Coordination :=
  if observed.logicalPause ≠ some true then k.issuePause desired observed else k

def reconcileRateOverride (k : Coordination) (observed : ObservedState)
    (commandNowSeconds : Seconds) : Coordination :=
  match k.coordinator.rateOverride with
  | none => k
  | some rateOverride =>
    let owningEpisodeActive := k.coordinator.recovery.any (·.id == rateOverride.episodeId)
    if !rateOverride.resetRequested && owningEpisodeActive then k
    else
      let k :=
        if !rateOverride.resetRequested then k.update (·.requestRateReset) else k
      match k.coordinator.rateOverride with
      | none => k
      | some rateOverride =>
        let baselineConfirmedAfterResetCommand :=
          rateOverride.resetCommandObservationSequence.any fun issuedAfterSequence =>
            k.coordinator.lastPlaybackRateObservationSequence.any (issuedAfterSequence < ·)
              && observed.playbackRate.any (distance · normalPlaybackRate ≤ 1 / 1000)
        if baselineConfirmedAfterResetCommand then
          k.update fun c => { c with rateOverride := none }
        else
          let revision := (k.coordinator.desired.map (·.stateRevision)).getD 0
          (k.issueCommand revision commandNowSeconds (.rate normalPlaybackRate)
            (.setPlaybackRate normalPlaybackRate)).2

/-- Reconcile with the last observation, if there is one. -/
def reconcileWithObserved (k : Coordination) : Coordination :=
  match k.coordinator.observed with
  | none => k
  | some observed => k.reconcileRateOverride observed observed.observedAtSeconds

/-- The state of a recovery that `enter_degraded_recovery` degrades. -/
def degradedEpisode (episode : RecoveryEpisode) : RecoveryEpisode :=
  { episode with
    degraded := true
    decisionMade := true
    catchupActive := false
    seekActive := false
    catchupDeadlineSeconds := none }

def enterDegradedRecovery (k : Coordination) (reason : DegradedPlaybackReason) : Coordination :=
  if k.coordinator.recovery.any (·.degraded) then k
  else
    let c :=
      { k.coordinator with
        recovery := k.coordinator.recovery.map degradedEpisode
        metrics :=
          { k.coordinator.metrics with
            degradedRecoveryCount := saturatingAdd k.coordinator.metrics.degradedRecoveryCount 1 } }
    let c := { c.requestRateReset with diagnostic := .degraded }
    { coordinator := c
      actions := k.actions ++
        [.degraded (c.currentMediaGeneration.getD 0) (c.recovery.map (·.id)) reason] }

/-- `mark_revision_applied` up to the `started` part. -/
def markApplied (k : Coordination) (desired : DesiredRoomPlayback Seconds) : Coordination :=
  let c :=
    { k.coordinator with
      appliedObservationRevision := some (desired.mediaGeneration, desired.stateRevision) }
  if c.lastAppliedRevision = some desired.stateRevision then { k with coordinator := c }
  else
    { coordinator :=
        { c with
          lastAppliedRevision := some desired.stateRevision
          metrics :=
            { c.metrics with
              appliedRevisionCount := saturatingAdd c.metrics.appliedRevisionCount 1 } }
      actions := k.actions ++ [.revisionApplied desired.mediaGeneration desired.stateRevision] }

/-- The latencies that a start records. -/
def startLatencies (c : PlaybackCoordinator) (desired : DesiredRoomPlayback Seconds)
    (observed : ObservedState) : PlaybackCoordinatorMetrics :=
  let firstFrameLatencySeconds :=
    match c.media with
    | none => c.metrics.firstFrameLatencySeconds
    | some media =>
      let latency := observed.observedAtSeconds - media.preparedAtSeconds
      if c.metrics.firstFrameLatencySeconds.isNone && 0 ≤ latency then some latency
      else c.metrics.firstFrameLatencySeconds
  let startLatency := observed.observedAtSeconds - desired.anchorObservedAtSeconds
  { c.metrics with
    firstFrameLatencySeconds
    startedAckLatencySeconds :=
      if 0 ≤ startLatency then some startLatency else c.metrics.startedAckLatencySeconds }

def markRevisionApplied (k : Coordination) (desired : DesiredRoomPlayback Seconds)
    (observed : ObservedState) (started : Bool) : Coordination :=
  let k := k.markApplied desired
  let c := k.coordinator
  if started && c.lastStartedRevision ≠ some desired.stateRevision then
    let guarded := c.authoritativeAlignmentGuardRevision = some desired.stateRevision
    { coordinator :=
        { c with
          lastStartedRevision := some desired.stateRevision
          authoritativeAlignmentGuardRevision :=
            if guarded then none else c.authoritativeAlignmentGuardRevision
          requiredSeekDispatchRevision :=
            if guarded then none else c.requiredSeekDispatchRevision
          metrics := startLatencies c desired observed }
      actions := k.actions ++
        [.started desired.mediaGeneration desired.stateRevision
          (observed.positionSeconds.getD 0)] }
  else k

end Coordination

end Sorotte.Coordinator
