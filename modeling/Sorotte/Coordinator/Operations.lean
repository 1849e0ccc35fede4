import Sorotte.Coordinator.Coordination

/-! # The operations of the playback coordinator

  The methods through which the client runtime drives a `PlaybackCoordinator`,
  one definition each, and `CoordinatorOp`, the sum of them.
-/

namespace Sorotte.Coordinator

namespace PlaybackCoordinator

/-! ### Media -/

/-- The preparation after the transport it was fetching from was lost. -/
def restartedPreparation (episode : SeekPreparationEpisode) : SeekPreparationEpisode :=
  { episode with
    primarySeekCommandId := none
    availability := .unknown
    phase := .seeking
    cacheBufferingPercent := none
    bufferedAheadSeconds := none
    inputRateBytesPerSecond := none
    nearestSafeBufferedPositionSeconds := none
    refillStartedObservationSequence := none
    refillReleasedAfterSeek := false
    stablePlayableSince := none }

/-- What an adapter epoch leaves of a preparation. -/
def preparationAfterAdapterEpoch (observationSequence : Nat) (episode : SeekPreparationEpisode) :
    SeekPreparationEpisode :=
  { restartedPreparation episode with
    primarySeekObservationSequence := some observationSequence }

/-- What a refreshed transport leaves of a preparation. -/
def preparationAfterRefresh (loadAttempt : Nat) (deadlineSeconds : Seconds)
    (episode : SeekPreparationEpisode) : SeekPreparationEpisode :=
  { restartedPreparation episode with
    loadAttempt
    primarySeekIssued := false
    primarySeekObservationSequence := none
    deadlineSeconds }

def setConfig (c : PlaybackCoordinator) (config : PlaybackCoordinatorConfig F64) :
    PlaybackCoordinator :=
  { c with config := config.normalized }

def resetTransportAdapterEpoch (c : PlaybackCoordinator) (nowSeconds : F64) :
    PlaybackCoordinator :=
  let c :=
    { c.clearParticipantStatusTransportMetrics with
      observed := none
      cachedSeekableRanges := none
      pendingCommands := []
      recovery := c.recovery.map restartedRecovery }
  let c := c.requestRateReset
  { c with
    completedSeekRestartBaseline := none
    seekPreparation :=
      c.seekPreparation.map (preparationAfterAdapterEpoch c.observationSequence)
    retryNotBeforeSeconds := 0
    failedCommandAttempts := 0
    commandBudgetDegraded := false
    pendingDegradedReason := none
    media := c.media.map fun media =>
      { media with
        loadRestartBaseline := 0
        preparedAtSeconds := nowSeconds.finite?.getD media.preparedAtSeconds }
    diagnostic := if c.media.isSome then .loading else .empty }

/-- The intent that `prepare_media_with_intent_internal` settles on. -/
def settledLoadIntent (sameLogicalMedia : Bool) (requestedIntent : MediaLoadIntent)
    (preserveChangedIdentityTransportRefresh : Bool) : MediaLoadIntent :=
  match sameLogicalMedia, requestedIntent with
  | true, .transportRefresh => .transportRefresh
  | true, _ => .replay
  | false, .transportRefresh =>
    if preserveChangedIdentityTransportRefresh then .transportRefresh else .newPlayback
  | false, _ => .newPlayback

/-- A finished preparation whose handover a refreshed transport interrupts. -/
def readyHandoffToRearm (c : PlaybackCoordinator) (kind : MediaTransportKind) :
    Option SeekPreparationSnapshot :=
  c.lastSeekPreparationTerminal.filter fun terminal =>
    terminal.terminalOutcome = some .ready && c.recovery.isSome && kind ≠ .localFile

/-- The preparation that continues such a handover. -/
def rearmedPreparation (c : PlaybackCoordinator) (media : MediaState) (nowSeconds : Seconds)
    (terminal : SeekPreparationSnapshot) : SeekPreparationEpisode :=
  { id := terminal.id
    mediaGeneration := media.generation
    loadAttempt := media.loadAttempt
    roomRevision := terminal.roomRevision
    latestRoomRevision := (c.desired.map (·.stateRevision)).getD terminal.latestRoomRevision
    latestRoomPaused := c.desired.any (·.paused)
    requestedTargetSeconds := terminal.requestedTargetSeconds
    frozenTargetSeconds := terminal.frozenTargetSeconds
    frozenRoomAnchorPositionSeconds := terminal.frozenRoomAnchorPositionSeconds
    frozenRoomAnchorObservedAtSeconds := terminal.frozenRoomAnchorObservedAtSeconds
    latestRoomPositionSeconds :=
      (c.desired.map (·.positionAt nowSeconds)).getD terminal.latestRoomPositionSeconds
    availability := .unknown
    phase := .seeking
    cacheBufferingPercent := none
    bufferedAheadSeconds := none
    inputRateBytesPerSecond := none
    nearestSafeBufferedPositionSeconds := none
    startedAtSeconds := terminal.startedAtSeconds
    deadlineSeconds := nowSeconds + c.config.seekPreparationTimeoutSeconds
    primarySeekCommandId := none
    primarySeekIssued := false
    primarySeekObservationSequence := none
    refillStartedObservationSequence := none
    refillReleasedAfterSeek := false
    stablePlayableSince := none }

/-- The media state after one more load attempt. -/
def refreshedMedia (c : PlaybackCoordinator) (media : MediaState) (kind : MediaTransportKind)
    (nowSeconds : Seconds) : MediaState :=
  { media with
    loadAttempt := saturatingAdd media.loadAttempt 1
    kind
    preparedAtSeconds := nowSeconds
    loadRestartBaseline := (c.observed.map (·.playbackRestartSequence)).getD 0 }

/-- A new transport attempt for the same logical media. -/
def refreshTransport (c : PlaybackCoordinator) (media : MediaState) (kind : MediaTransportKind)
    (nowSeconds : Seconds) : PlaybackCoordinator :=
  let rearm := c.readyHandoffToRearm kind
  let media := c.refreshedMedia media kind nowSeconds
  let c :=
    if c.lastSeekPreparationTerminal.any (·.terminalOutcome ≠ some .cancelled) then
      { c with lastSeekPreparationTerminal := none }
    else c
  let c :=
    if c.recovery.isSome then
      PlaybackCoordinator.requestRateReset { c with recovery := c.recovery.map restartedRecovery }
    else c.closeRecoveryWithoutMetrics
  let deadlineSeconds := nowSeconds + c.config.seekPreparationTimeoutSeconds
  { c.clearParticipantStatusTransportMetrics with
    media := some media
    observed := none
    cachedSeekableRanges := none
    pendingCommands := []
    seekPreparation :=
      match c.seekPreparation with
      | some episode => some (preparationAfterRefresh media.loadAttempt deadlineSeconds episode)
      | none => rearm.map (c.rearmedPreparation media nowSeconds)
    desiredSeekSatisfiedRevision := none
    completedSeekRestartBaseline := none
    lastAppliedRevision := none
    lastStartedRevision := none
    retryNotBeforeSeconds := 0
    failedCommandAttempts := 0
    commandBudgetDegraded := false
    pendingDegradedReason := none
    desired := c.desired.map fun desired => { desired with forceSeek := true }
    diagnostic := .loading }

/-- A new playback episode. -/
def replaceMedia (c : PlaybackCoordinator) (logicalId : LogicalMediaId) (kind : MediaTransportKind)
    (nowSeconds : Seconds) : PlaybackCoordinator :=
  let loadRestartBaseline := (c.observed.map (·.playbackRestartSequence)).getD 0
  let c := (c.finishSeekPreparation .cancelled).clearSeekPreparationTerminal
  let c := c.closeRecoveryWithoutMetrics
  let generation := nextIdentifier c.nextMediaGeneration
  { c.clearParticipantStatusTransportMetrics with
    nextMediaGeneration := generation
    media := some
      { logicalId
        generation
        loadAttempt := 1
        kind
        preparedAtSeconds := nowSeconds
        loadRestartBaseline }
    desired := none
    observed := none
    cachedSeekableRanges := none
    pendingCommands := []
    lastAppliedRevision := none
    lastStartedRevision := none
    desiredSeekSatisfiedRevision := none
    requiredSeekDispatchRevision := none
    authoritativeAlignmentGuardRevision := none
    completedSeekRestartBaseline := none
    failedCommandAttempts := 0
    commandBudgetDegraded := false
    pendingDegradedReason := none
    diagnostic := .loading }

def prepareMediaWithIntentInternal (c : PlaybackCoordinator) (logicalId : LogicalMediaId)
    (kind : MediaTransportKind) (requestedIntent : MediaLoadIntent) (nowSeconds : Seconds)
    (preserveChangedIdentityTransportRefresh : Bool) : MediaLoadPlan × PlaybackCoordinator :=
  let sameLogicalMedia := c.media.any (·.logicalId = logicalId)
  let loadIntent := settledLoadIntent sameLogicalMedia requestedIntent
    preserveChangedIdentityTransportRefresh
  let refreshed := c.media.filter fun _ => sameLogicalMedia && loadIntent = .transportRefresh
  match refreshed with
  | some media =>
    ({ mediaGeneration := media.generation
       loadAttempt := saturatingAdd media.loadAttempt 1
       logicalMediaChanged := false
       playbackEpisodeChanged := false
       loadIntent },
      c.refreshTransport media kind nowSeconds)
  | none =>
    ({ mediaGeneration := nextIdentifier c.nextMediaGeneration
       loadAttempt := 1
       logicalMediaChanged := !sameLogicalMedia
       playbackEpisodeChanged := true
       loadIntent },
      c.replaceMedia logicalId kind nowSeconds)

def prepareMediaWithIntent (c : PlaybackCoordinator) (logicalId : LogicalMediaId)
    (kind : MediaTransportKind) (requestedIntent : MediaLoadIntent) (nowSeconds : Seconds) :
    MediaLoadPlan × PlaybackCoordinator :=
  c.prepareMediaWithIntentInternal logicalId kind requestedIntent nowSeconds false

def prepareMedia (c : PlaybackCoordinator) (logicalId : LogicalMediaId)
    (kind : MediaTransportKind) (nowSeconds : Seconds) : MediaLoadPlan × PlaybackCoordinator :=
  let inferredIntent :=
    if c.media.any (·.logicalId = logicalId) then MediaLoadIntent.transportRefresh
    else MediaLoadIntent.newPlayback
  c.prepareMediaWithIntent logicalId kind inferredIntent nowSeconds

def prepareMediaForRoomParticipation (c : PlaybackCoordinator) (logicalId : LogicalMediaId)
    (kind : MediaTransportKind) (nowSeconds : Seconds) : MediaLoadPlan × PlaybackCoordinator :=
  c.prepareMediaWithIntentInternal logicalId kind .transportRefresh nowSeconds true

/-! ### Interruption and retirement -/

/-- `interrupt_recovery` up to the reconciliation. -/
def interrupted (c : PlaybackCoordinator) : PlaybackCoordinator :=
  let c := c.cancelSeekPreparationForLifecycle
  let c :=
    if c.degradedSeekPreparationHoldsCurrentRevision then
      { c.clearSeekPreparationTerminal with
        desired := none
        desiredSeekSatisfiedRevision := none
        requiredSeekDispatchRevision := none }
    else c
  c.closeRecoveryWithoutMetrics

/-- What `retire_media` forgets after the interruption. -/
def retired (c : PlaybackCoordinator) : PlaybackCoordinator :=
  let c := c.finishSeekPreparation .cancelled
  let c :=
    { c with
      lastSeekPreparationTerminal := none
      media := none
      desired := none
      observed := none
      cachedSeekableRanges := none
      pendingCommands := []
      lastAppliedRevision := none
      lastStartedRevision := none
      desiredSeekSatisfiedRevision := none
      requiredSeekDispatchRevision := none
      authoritativeAlignmentGuardRevision := none
      completedSeekRestartBaseline := none
      rateOverride := none
      lastPlaybackRateObservationSequence := none
      retryNotBeforeSeconds := 0
      failedCommandAttempts := 0
      commandBudgetDegraded := false
      pendingDegradedReason := none
      diagnostic := .empty }
  c.clearParticipantStatusTransportMetrics

end PlaybackCoordinator

namespace Coordination

def interruptRecovery (c : PlaybackCoordinator) : Coordination :=
  reconcileWithObserved { coordinator := c.interrupted, actions := [] }

def retireMedia (c : PlaybackCoordinator) : Coordination :=
  (interruptRecovery c).update (·.retired)

end Coordination

/-! ### The desired room state -/

namespace PlaybackCoordinator

def isExplicitSeek : DesiredRoomPlaybackUpdateKind → Bool
  | .explicitSeek | .explicitSeekAlreadyDispatched => true
  | .ordinary | .authoritativeSeekAfterSupersededDispatch => false

/-- The update replaces a seek that has already gone out. -/
def supersedesDispatchedSeek (c : PlaybackCoordinator) (desired : DesiredRoomPlayback Seconds)
    (explicitSeek : Bool) : Bool :=
  (explicitSeek || desired.forceSeek)
    && (c.seekPreparation.any (·.primarySeekIssued)
      || c.pendingCommands.any fun command =>
        command.revision < desired.stateRevision && command.kind.isSeek)

/-- Whether a new revision is fenced against an older seek that may still land. -/
def guardsRevision (c : PlaybackCoordinator) (desired : DesiredRoomPlayback Seconds)
    (updateKind : DesiredRoomPlaybackUpdateKind) (explicitSeek : Bool) : Bool :=
  updateKind = .authoritativeSeekAfterSupersededDispatch
    || c.supersedesDispatchedSeek desired explicitSeek
    || (updateKind = .ordinary && c.authoritativeAlignmentGuardRevision.isSome)

/-- The fence of a new revision. -/
def fenceRevision (c : PlaybackCoordinator) (desired : DesiredRoomPlayback Seconds)
    (guarded : Bool) : PlaybackCoordinator :=
  { c with
    metrics := { c.metrics with steadyStateSkewSeconds := none }
    requiredSeekDispatchRevision := if guarded then some desired.stateRevision else none
    authoritativeAlignmentGuardRevision := if guarded then some desired.stateRevision else none }

/-- An explicit seek replaces the preparation in progress. -/
def restartSeekPreparation (c : PlaybackCoordinator) (desired : DesiredRoomPlayback Seconds)
    (updateKind : DesiredRoomPlaybackUpdateKind) : PlaybackCoordinator :=
  let c := if c.seekPreparation.isNone then c.clearSeekPreparationTerminal else c
  let c := (c.finishSeekPreparation .superseded).beginSeekPreparationIfNeeded desired
  if updateKind = .explicitSeekAlreadyDispatched && c.seekPreparation.isSome then
    c.markSeekPreparationPrimaryIssued none
  else c

/-- Any other update only moves the room position of the preparation. -/
def followRoom (desired : DesiredRoomPlayback Seconds) (episode : SeekPreparationEpisode) :
    SeekPreparationEpisode :=
  { episode with
    latestRoomRevision := desired.stateRevision
    latestRoomPaused := desired.paused
    latestRoomPositionSeconds := desired.positionAt desired.anchorObservedAtSeconds }

def terminalHoldRebinds (desired : DesiredRoomPlayback Seconds)
    (terminal : SeekPreparationSnapshot) : Bool :=
  terminal.mediaGeneration == desired.mediaGeneration
    && terminal.terminalOutcome.any (·.holdsRevision)

def terminalIsOlder (desired : DesiredRoomPlayback Seconds) (terminal : SeekPreparationSnapshot) :
    Bool :=
  terminal.mediaGeneration == desired.mediaGeneration
    && terminal.latestRoomRevision < desired.stateRevision

/-- The terminal preparation under a new revision: a hold moves along with an
    ordinary update, an older terminal is forgotten. -/
def rebindTerminal (c : PlaybackCoordinator) (desired : DesiredRoomPlayback Seconds)
    (updateKind : DesiredRoomPlaybackUpdateKind) : PlaybackCoordinator :=
  if c.seekPreparation.isSome then c
  else if updateKind = .ordinary
      && c.lastSeekPreparationTerminal.any (terminalHoldRebinds desired) then
    { c with
      lastSeekPreparationTerminal := c.lastSeekPreparationTerminal.map fun terminal =>
        { terminal with
          latestRoomRevision := desired.stateRevision
          latestRoomPositionSeconds := desired.positionAt desired.anchorObservedAtSeconds } }
  else if c.lastSeekPreparationTerminal.any (terminalIsOlder desired) then
    c.clearSeekPreparationTerminal
  else c

/-- What a new revision resets. -/
def adoptRevision (c : PlaybackCoordinator) (desired : DesiredRoomPlayback Seconds) :
    PlaybackCoordinator :=
  let preparationSeekCommand := c.seekPreparation.bind (·.primarySeekCommandId)
  let terminalSeekHeld := c.lastSeekPreparationTerminal.any (isTerminalHold desired)
  let c :=
    { c with
      pendingCommands := c.pendingCommands.filter fun command =>
        desired.stateRevision ≤ command.revision || preparationSeekCommand == some command.id
      desiredSeekSatisfiedRevision :=
        if c.seekPreparation.isSome then none
        else if terminalSeekHeld || !desired.forceSeek then some desired.stateRevision
        else none }
  let c :=
    if desired.forceSeek then
      PlaybackCoordinator.closeRecoveryWithoutMetrics { c with completedSeekRestartBaseline := none }
    else c
  { c with
    retryNotBeforeSeconds := 0
    failedCommandAttempts := 0
    commandBudgetDegraded := false
    pendingDegradedReason := none }

/-- `update_desired_room_state_with_kind` after its checks and before the
    reconciliation. -/
def adoptDesired (c : PlaybackCoordinator) (desired : DesiredRoomPlayback Seconds)
    (updateKind : DesiredRoomPlaybackUpdateKind) : PlaybackCoordinator :=
  let revisionChanged := c.desired.all (·.stateRevision ≠ desired.stateRevision)
  let explicitSeek := revisionChanged && isExplicitSeek updateKind
  let guarded := revisionChanged && c.guardsRevision desired updateKind explicitSeek
  let desired := { desired with forceSeek := desired.forceSeek || guarded }
  let c := if revisionChanged then c.fenceRevision desired guarded else c
  let c :=
    if explicitSeek then c.restartSeekPreparation desired updateKind
    else { c with seekPreparation := c.seekPreparation.map (followRoom desired) }
  let c :=
    if revisionChanged then (c.rebindTerminal desired updateKind).adoptRevision desired else c
  let c := if desired.paused then c.closeRecoveryWithoutMetrics else c
  { c with desired := some desired }

/-- The checks of `update_desired_room_state_with_kind`. -/
def acceptedDesired (c : PlaybackCoordinator) (desired : DesiredRoomPlayback F64) :
    Option (DesiredRoomPlayback Seconds) :=
  desired.finite?.filter fun desired =>
    c.currentMediaGeneration == some desired.mediaGeneration
      && c.desired.all (·.stateRevision ≤ desired.stateRevision)

end PlaybackCoordinator

namespace Coordination

def updateDesiredRoomStateWithKind (c : PlaybackCoordinator) (desired : DesiredRoomPlayback F64)
    (updateKind : DesiredRoomPlaybackUpdateKind) : Coordination :=
  match c.acceptedDesired desired with
  | none => { coordinator := c, actions := [] }
  | some desired =>
    reconcileWithObserved { coordinator := c.adoptDesired desired updateKind, actions := [] }

end Coordination

/-! ### Observations -/

namespace PlaybackCoordinator

def observedPosition (observation : PlayerTransportObservation) : Option Seconds :=
  (sourcePosition observation).filter (0 ≤ ·)

def observedPlaybackRate (observation : PlayerTransportObservation) : Option Seconds :=
  (observation.playbackRate.bind (·.finite?)).filter (0 < ·)

def observedBufferedAhead (observation : PlayerTransportObservation) : Option Seconds :=
  (observation.bufferedAheadSeconds.bind (·.finite?)).filter (0 ≤ ·)

def observedLiveWindow (observation : PlayerTransportObservation) :
    Option (PlayerSeekableRange Seconds) :=
  (observation.knownLiveSeekableWindow.bind (·.finite?)).filter fun window =>
    0 ≤ window.startSeconds && window.startSeconds ≤ window.endSeconds

/-- The previous state overlaid with the fields that the observation carries. -/
def overlaid (base : ObservedState) (observation : PlayerTransportObservation)
    (observedAtSeconds : Seconds) (observationSequence : Nat) (evidenceIsFresh : Bool) :
    ObservedState :=
  let position := observedPosition observation
  let normalized := observation.seekableRanges.map normalizeSeekableRanges
  let liveWindow := observedLiveWindow observation
  { observedAtSeconds
    phase := observation.phase.getD base.phase
    positionSeconds := position.or base.positionSeconds
    positionSample :=
      match position with
      | some positionSeconds =>
        if evidenceIsFresh then
          some { observationSequence, observedAtSeconds, positionSeconds }
        else base.positionSample
      | none => base.positionSample
    playbackRate := (observedPlaybackRate observation).or base.playbackRate
    logicalPause := observation.logicalPause.or base.logicalPause
    pausedForCache := observation.pausedForCache.getD base.pausedForCache
    seeking := observation.seeking.getD base.seeking
    seekable := observation.seekable.or base.seekable
    seekableWindow :=
      match normalized with
      | some ranges => latestValidSeekableWindow ranges
      | none => base.seekableWindow
    timelineKind := observation.timelineKind.or base.timelineKind
    knownLiveSeekableWindow :=
      if observation.timelineKind = some .slidingLive && observation.seekableRanges.isSome then
        liveWindow
      else liveWindow.or base.knownLiveSeekableWindow
    coreIdle := observation.coreIdle.or base.coreIdle
    playbackRestartSequence :=
      observation.playbackRestartSequence.getD base.playbackRestartSequence
    cacheBufferingPercent :=
      ((observation.cacheBufferingPercent.bind (·.finite?)).map (clamp · 0 100)).or
        base.cacheBufferingPercent
    bufferedAheadSeconds := (observedBufferedAhead observation).or base.bufferedAheadSeconds }

/-- The state that the observation overlays. -/
def observationBase (c : PlaybackCoordinator) (observedAtSeconds : Seconds)
    (replacePreviousState : Bool) : ObservedState :=
  if replacePreviousState then { observedAtSeconds }
  else c.observed.getD { observedAtSeconds }

/-- The media kind, promoted on positive evidence of a sliding timeline. -/
def promotedMedia (observation : PlayerTransportObservation) (media : MediaState) : MediaState :=
  if observation.timelineKind = some .slidingLive && media.kind = .networkVod then
    { media with kind := .liveSliding }
  else media

/-- The coordinator with the observation merged in. -/
def mergeObservation (c : PlaybackCoordinator) (observation : PlayerTransportObservation)
    (observedAtSeconds : Seconds) (evidenceIsFresh replacePreviousState : Bool) :
    PlaybackCoordinator :=
  let observationSequence := saturatingAdd c.observationSequence 1
  let observed := overlaid (c.observationBase observedAtSeconds replacePreviousState) observation
    observedAtSeconds observationSequence evidenceIsFresh
  { c with
    appliedObservationRevision := none
    media := c.media.map (promotedMedia observation)
    observationSequence
    observed := some observed
    cachedSeekableRanges :=
      (observation.seekableRanges.map normalizeSeekableRanges).or
        (if replacePreviousState then none else c.cachedSeekableRanges)
    lastPlaybackRateObservationSequence :=
      if (observedPlaybackRate observation).isSome then some observationSequence
      else if replacePreviousState then none
      else c.lastPlaybackRateObservationSequence
    metrics :=
      if replacePreviousState then
        { c.metrics with
          lastBufferedAheadSeconds := none
          lastInputRateBytesPerSecond := none }
      else c.metrics }

/-- The cache metrics that the observation may move. -/
def updateCacheMetrics (c : PlaybackCoordinator) (observation : PlayerTransportObservation)
    (evidenceIsFresh : Bool) : PlaybackCoordinator :=
  let recoveryCacheMetricsFrozen := c.recovery.any fun episode =>
    episode.cacheMetricsFrozenUntilDecision && !episode.decisionMade
  if evidenceIsFresh && !recoveryCacheMetricsFrozen
      && c.seekPreparation.all (!·.primarySeekIssued) then
    { c with
      metrics :=
        { c.metrics with
          lastBufferedAheadSeconds :=
            (observedBufferedAhead observation).or c.metrics.lastBufferedAheadSeconds
          lastInputRateBytesPerSecond :=
            observation.inputRateBytesPerSecond.or c.metrics.lastInputRateBytesPerSecond } }
  else c

/-- Playback moved between the previous state and this one. -/
def isAdvancing (previous : Option ObservedState) (observed : ObservedState) : Bool :=
  ((previous.bind (·.positionSeconds)).any fun before =>
      observed.positionSeconds.any fun current => minAdvancementSeconds < current - before)
    && observed.logicalPause = some false && !observed.pausedForCache && !observed.seeking

/-- The checks of an observation: its generation, its clock reading, its order. -/
def acceptedObservation (c : PlaybackCoordinator) (observation : PlayerTransportObservation) :
    Option Seconds :=
  if c.currentMediaGeneration = some observation.mediaGeneration then
    observation.observedAtSeconds.finite?.filter fun observedAtSeconds =>
      c.observed.all (·.observedAtSeconds ≤ observedAtSeconds)
  else none

/-- A refused observation is only counted. -/
def refuseObservation (c : PlaybackCoordinator) (observation : PlayerTransportObservation) :
    PlaybackCoordinator :=
  let c := { c with appliedObservationRevision := none }
  match c.currentMediaGeneration with
  | none => c
  | some generation =>
    if observation.mediaGeneration ≠ generation then
      { c with
        metrics :=
          { c.metrics with
            staleGenerationObservations :=
              saturatingAdd c.metrics.staleGenerationObservations 1 } }
    else
      { c with
        metrics :=
          { c.metrics with
            staleTimestampObservations :=
              saturatingAdd c.metrics.staleTimestampObservations 1 } }

end PlaybackCoordinator

namespace Coordination

/-- The recovery episode takes its turn, unless a preparation is in progress. -/
def updateRecovery (k : Coordination) (observed : ObservedState)
    (advancing positionSampled : Bool) : Coordination :=
  if k.coordinator.seekPreparation.isSome then k
  else
    let updated := k.coordinator.updateRecoveryEpisode observed advancing positionSampled
    let k := { k with coordinator := updated.2 }
    match updated.1 with
    | none => k
    | some reason => k.enterDegradedRecovery reason

/-- The pass over an observation that has been merged. -/
def coordinateObservation (c : PlaybackCoordinator) (previous : Option ObservedState)
    (observed : ObservedState) (observation : PlayerTransportObservation)
    (evidenceIsFresh : Bool) : Coordination :=
  let targetScopedCacheEvidence :=
    c.seekPreparationAcceptsTargetCacheEvidence observed observation evidenceIsFresh
  let positionSampled :=
    evidenceIsFresh && (PlaybackCoordinator.observedPosition observation).isSome
  let advancing := PlaybackCoordinator.isAdvancing previous observed
  let c := (c.updateCacheMetrics observation evidenceIsFresh).updateDiagnosticForObservation observed
  let k : Coordination :=
    { coordinator := c.withoutPendingActions.completeObservedCommands observed advancing
      actions := c.pendingActions }
  let k := k.updateSeekPreparation observed observation evidenceIsFresh targetScopedCacheEvidence
  let k := k.updateRecovery observed advancing positionSampled
  let k := k.coordinateDesiredState observed observation evidenceIsFresh advancing
  k.reconcileRateOverride observed observed.observedAtSeconds

def observeWithSeekPreparationEvidence (c : PlaybackCoordinator)
    (observation : PlayerTransportObservation) (evidenceIsFresh replacePreviousState : Bool) :
    Coordination :=
  match c.acceptedObservation observation with
  | none => { coordinator := c.refuseObservation observation, actions := [] }
  | some observedAtSeconds =>
    let previous := if replacePreviousState then none else c.observed
    let merged := c.mergeObservation observation observedAtSeconds evidenceIsFresh
      replacePreviousState
    match merged.observed with
    | none => { coordinator := merged, actions := [] }
    | some observed =>
      let k := coordinateObservation merged previous observed observation evidenceIsFresh
      if evidenceIsFresh then k
      else k.update fun c => { c with appliedObservationRevision := none }

def observe (c : PlaybackCoordinator) (observation : PlayerTransportObservation) : Coordination :=
  observeWithSeekPreparationEvidence c observation true false

def rebaseObservation (c : PlaybackCoordinator) (observation : PlayerTransportObservation) :
    Coordination :=
  observeWithSeekPreparationEvidence c observation true true

def replayObservation (c : PlaybackCoordinator) (observation : PlayerTransportObservation) :
    Coordination :=
  observeWithSeekPreparationEvidence c observation false false

end Coordination

/-! ### Outcomes of commands -/

namespace PlaybackCoordinator

/-- The first command with this identifier is marked. -/
def acceptFirst (commandId : CoordinatorCommandId) : List PendingCommand → List PendingCommand
  | [] => []
  | command :: commands =>
    if command.id = commandId then { command with accepted := true } :: commands
    else command :: acceptFirst commandId commands

def commandAccepted (c : PlaybackCoordinator) (commandId : CoordinatorCommandId) :
    Bool × PlaybackCoordinator :=
  if c.pendingCommands.any (·.id = commandId) then
    (true, { c with pendingCommands := acceptFirst commandId c.pendingCommands })
  else (false, c)

def withoutCommand (c : PlaybackCoordinator) (commandId : CoordinatorCommandId) :
    PlaybackCoordinator :=
  { c with pendingCommands := c.pendingCommands.filter (·.id ≠ commandId) }

def supersedeUnacceptedCommand (c : PlaybackCoordinator) (commandId : CoordinatorCommandId) :
    Bool × PlaybackCoordinator :=
  match c.pendingCommands.find? (·.id = commandId) with
  | none => (false, c)
  | some command => if command.accepted then (false, c) else (true, c.withoutCommand commandId)

def commandFailed (c : PlaybackCoordinator) (commandId : CoordinatorCommandId)
    (nowSeconds : Seconds) : Bool × PlaybackCoordinator :=
  if c.pendingCommands.any (·.id = commandId) then
    let c := c.degradeFailedBufferedAlternative commandId
    let preparationFailed := c.seekPreparation.any (·.primarySeekCommandId = some commandId)
    let c :=
      if preparationFailed then
        { c.failSeekPreparation .transportFailed with
          diagnostic := .degraded
          pendingDegradedReason := some .transportFailed }
      else c.withoutCommand commandId
    (true,
      { c with
        failedCommandAttempts := saturatingAdd32 c.failedCommandAttempts 1
        retryNotBeforeSeconds := nowSeconds + c.config.commandRetryCooldownSeconds })
  else (false, c)

end PlaybackCoordinator

/-! ### The clock -/

namespace Coordination

/-- The timeline never became known while the preparation waited. -/
def timelineWindowUnavailable (c : PlaybackCoordinator) : Bool :=
  c.seekPreparation.any fun episode =>
    !episode.primarySeekIssued && c.observed.any fun observed =>
      observed.timelineKind = some .unknown
        || (c.media.any (·.kind = .liveSliding) && observed.knownLiveSeekableWindow.isNone)

/-- A preparation past its deadline degrades. -/
def expirePreparation (k : Coordination) (nowSeconds : Seconds) : Coordination :=
  if k.coordinator.seekPreparation.any (·.deadlineSeconds ≤ nowSeconds) then
    let unavailable := timelineWindowUnavailable k.coordinator
    let k := k.update fun c =>
      { c.failSeekPreparation (if unavailable then .timelineWindowUnavailable else .timedOut) with
        diagnostic := .degraded }
    k.pushDegraded (if unavailable then .timelineWindowUnavailable else .recoveryCommandTimedOut)
  else k

/-- A cache pause hides a logical pause: it is not charged to the pause command. -/
def excuseMaskedPauses (nowSeconds : Seconds) (c : PlaybackCoordinator) : PlaybackCoordinator :=
  if c.observed.any (·.pausedForCache) then
    { c with
      pendingCommands := c.pendingCommands.map fun command =>
        if command.kind.isPause then { command with issuedAtSeconds := nowSeconds } else command }
  else c

/-- The commands whose timeout has passed, the primary seek excepted. -/
def timedOutCommands (c : PlaybackCoordinator) (nowSeconds : Seconds) :
    List CoordinatorCommandId :=
  let preparationSeekCommandId := c.seekPreparation.bind (·.primarySeekCommandId)
  (c.pendingCommands.filter fun command =>
    some command.id ≠ preparationSeekCommandId
      && c.config.commandTimeoutSeconds ≤ nowSeconds - command.issuedAtSeconds).map (·.id)

def expireCommands (k : Coordination) (nowSeconds : Seconds) : Coordination :=
  let timedOut := timedOutCommands k.coordinator nowSeconds
  if timedOut.isEmpty then k
  else
    let c := timedOut.foldl PlaybackCoordinator.degradeFailedBufferedAlternative k.coordinator
    { coordinator :=
        { c.withoutPendingActions with
          pendingCommands := c.pendingCommands.filter fun command => !timedOut.contains command.id
          metrics :=
            { c.metrics with
              commandTimeouts := saturatingAdd c.metrics.commandTimeouts timedOut.length }
          failedCommandAttempts := saturatingAdd32 c.failedCommandAttempts timedOut.length
          retryNotBeforeSeconds := nowSeconds + c.config.commandRetryCooldownSeconds }
      actions := k.actions ++ c.pendingActions ++ timedOut.map .commandTimedOut }

/-- The retry budget is spent: recovery degrades and the speed is given back. -/
def degradeSpentBudget (k : Coordination) : Coordination :=
  let c := k.coordinator
  if c.config.commandRetryBudget < c.failedCommandAttempts && !c.commandBudgetDegraded then
    { coordinator :=
        PlaybackCoordinator.requestRateReset
          { c with
            metrics :=
              { c.metrics with
                degradedRecoveryCount := saturatingAdd c.metrics.degradedRecoveryCount 1 }
            diagnostic := .degraded
            commandBudgetDegraded := true
            recovery := c.recovery.map fun episode => { episode with degraded := true } }
      actions := k.actions ++
        [.degraded (c.currentMediaGeneration.getD 0) (c.recovery.map (·.id))
          .recoveryCommandTimedOut] }
  else k

def tick (c : PlaybackCoordinator) (nowSeconds : F64) : Coordination :=
  match nowSeconds.finite? with
  | none => { coordinator := c, actions := [] }
  | some nowSeconds =>
    let k : Coordination :=
      { coordinator := c.withoutPendingActions
        actions := c.pendingActions }
    let k := (k.expirePreparation nowSeconds).update (excuseMaskedPauses nowSeconds)
    let k := (k.expireCommands nowSeconds).degradeSpentBudget
    match k.coordinator.observed with
    | none => k
    | some observed => k.reconcileRateOverride observed nowSeconds

end Coordination

/-! ### Lifecycle and seek preparation -/

namespace PlaybackCoordinator

def expireTransportObservation (c : PlaybackCoordinator) : PlaybackCoordinator :=
  { c.clearParticipantStatusTransportMetrics with
    observed := none
    cachedSeekableRanges := none }

def shiftedObserved (deltaSeconds : Seconds) (observed : ObservedState) : ObservedState :=
  { observed with
    positionSeconds := observed.positionSeconds.map fun position => max (position + deltaSeconds) 0
    positionSample := observed.positionSample.map fun sample =>
      { sample with positionSeconds := max (sample.positionSeconds + deltaSeconds) 0 }
    seekableWindow := observed.seekableWindow.map fun (start, finish) =>
      (start + deltaSeconds, finish + deltaSeconds)
    knownLiveSeekableWindow := observed.knownLiveSeekableWindow.map (·.shifted deltaSeconds) }

def shiftLocalPlayerTimeline (c : PlaybackCoordinator) (deltaSeconds : Seconds) :
    PlaybackCoordinator :=
  let c :=
    { c with
      observed := c.observed.map (shiftedObserved deltaSeconds)
      cachedSeekableRanges := c.cachedSeekableRanges.map (List.map (PlayerSeekableRange.shifted · deltaSeconds)) }
  c.cancelSeekPreparationForLifecycle.clearParticipantStatusTransportMetrics

def keepWaitingForSeekPreparation (c : PlaybackCoordinator) (nowSeconds : F64) :
    PlaybackCoordinator :=
  match nowSeconds.finite? with
  | none => c
  | some nowSeconds =>
    { c with
      seekPreparation := c.seekPreparation.map fun episode =>
        { episode with
          deadlineSeconds := nowSeconds + c.config.seekPreparationTimeoutSeconds } }

def cancelSeekPreparation (c : PlaybackCoordinator) : PlaybackCoordinator :=
  if c.seekPreparation.any (!·.primarySeekIssued) then
    { c.finishSeekPreparation .cancelled with
      desiredSeekSatisfiedRevision := c.desired.map (·.stateRevision) }
  else c

def localPlayHandoffPending (c : PlaybackCoordinator) : Bool :=
  c.seekPreparation.isSome || c.terminalSeekPreparationHoldsCurrentRevision

/-- The position sample was taken after the preparation, or after its end. -/
def postPreparationSample (c : PlaybackCoordinator) (sample : ObservedPositionSample) : Bool :=
  match c.seekPreparation with
  | some episode =>
    episode.primarySeekIssued
      && episode.primarySeekObservationSequence.any (· < sample.observationSequence)
  | none =>
    c.lastSeekPreparationTerminal.any (·.startedAtSeconds < sample.observedAtSeconds)

/-- The player plays, aligned with the confirmed position of a playing room. -/
def alignedPlay (c : PlaybackCoordinator) (observed : ObservedState)
    (desired : DesiredRoomPlayback Seconds)
    (nowSeconds confirmedRoomPositionSeconds maximumPositionAgeSeconds : Seconds) : Bool :=
  c.localPlayHandoffPending && 0 ≤ confirmedRoomPositionSeconds && !desired.paused
    && observed.phase = .playing && observed.logicalPause = some false && !observed.seeking
    && !observed.pausedForCache && observed.coreIdle ≠ some true
    && c.requiredSeekDispatchRevision.isNone
    && observed.positionSample.any fun sample =>
      let age := nowSeconds - sample.observedAtSeconds
      c.postPreparationSample sample && 0 ≤ age && age ≤ maximumPositionAgeSeconds
        && distance sample.positionSeconds (max (confirmedRoomPositionSeconds - age) 0)
          ≤ c.config.positionToleranceSeconds

def confirmAlignedLocalPlay (c : PlaybackCoordinator)
    (nowSeconds confirmedRoomPositionSeconds : F64) (maximumPositionAgeSeconds : Seconds) :
    Bool × PlaybackCoordinator :=
  match c.observed, c.desired, nowSeconds.finite?, confirmedRoomPositionSeconds.finite? with
  | some observed, some desired, some nowSeconds, some confirmed =>
    if c.alignedPlay observed desired nowSeconds confirmed maximumPositionAgeSeconds then
      let c := { c with desiredSeekSatisfiedRevision := some desired.stateRevision }
      (true,
        if c.seekPreparation.isSome then c.finishSeekPreparation .superseded
        else
          { c with
            lastSeekPreparationTerminal :=
              c.lastSeekPreparationTerminal.map (withOutcome .superseded) })
    else (false, c)
  | _, _, _, _ => (false, c)

def gentle (episode : RecoveryEpisode) : RecoveryEpisode :=
  { episode with gentleCatchupOnly := true }

/-- The nearest cached point of the preparation, with the revision it serves. -/
def nearestBufferedOffer (c : PlaybackCoordinator) : Option (Seconds × Nat) :=
  c.seekPreparation.bind fun episode =>
    if episode.latestRoomPaused then none
    else episode.nearestSafeBufferedPositionSeconds.map (·, episode.latestRoomRevision)

end PlaybackCoordinator

namespace Coordination

/-- The seek to the cached point, once it was found. -/
def joinBuffered (c : PlaybackCoordinator) (nowSeconds target : Seconds)
    (revision restartSequence : Nat) : Coordination :=
  let c := c.finishSeekPreparation .superseded
  let k : Coordination :=
    { coordinator := { c with desiredSeekSatisfiedRevision := none }, actions := [] }
  match k.issueCommand revision nowSeconds (.seek target restartSequence true)
      (.setPosition target) with
  | (some _, k) =>
    k.update fun c =>
      let c := c.beginRecoveryHandoff nowSeconds
      { c with recovery := c.recovery.map PlaybackCoordinator.gentle }
  | (none, k) =>
    let k := k.update fun c =>
      { c with
        lastSeekPreparationTerminal :=
          c.lastSeekPreparationTerminal.map
            (PlaybackCoordinator.withOutcome (.degraded .transportFailed))
        desiredSeekSatisfiedRevision := some revision
        diagnostic := .degraded }
    k.pushDegraded .transportFailed

def joinNearestBufferedSeekPreparation (c : PlaybackCoordinator) (nowSeconds : F64) :
    Coordination :=
  match nowSeconds.finite?, c.nearestBufferedOffer, c.observed with
  | some nowSeconds, some (target, revision), some observed =>
    if c.desired.all (·.paused) || c.authoritativeAlignmentGuardsActivePreparation then
      { coordinator := c, actions := [] }
    else joinBuffered c nowSeconds target revision observed.playbackRestartSequence
  | _, _, _ => { coordinator := c, actions := [] }

end Coordination

/-! ### Operations -/

inductive CoordinatorOp where
  | setConfig (config : PlaybackCoordinatorConfig F64)
  | resetTransportAdapterEpoch (nowSeconds : F64)
  | prepareMedia (logicalId : LogicalMediaId) (kind : MediaTransportKind) (nowSeconds : Seconds)
  | prepareMediaWithIntent (logicalId : LogicalMediaId) (kind : MediaTransportKind)
      (requestedIntent : MediaLoadIntent) (nowSeconds : Seconds)
  | prepareMediaForRoomParticipation (logicalId : LogicalMediaId) (kind : MediaTransportKind)
      (nowSeconds : Seconds)
  | interruptRecovery
  | retireMedia
  | updateDesiredRoomStateWithKind (desired : DesiredRoomPlayback F64)
      (updateKind : DesiredRoomPlaybackUpdateKind)
  | observe (observation : PlayerTransportObservation)
  | rebaseObservation (observation : PlayerTransportObservation)
  | replayObservation (observation : PlayerTransportObservation)
  | takeAppliedObservationRevision
  | commandAccepted (commandId : CoordinatorCommandId)
  | supersedeUnacceptedCommand (commandId : CoordinatorCommandId)
  | commandFailed (commandId : CoordinatorCommandId) (nowSeconds : Seconds)
  | takePendingActions
  | tick (nowSeconds : F64)
  | expireTransportObservation
  | shiftLocalPlayerTimeline (deltaSeconds : Seconds)
  | keepWaitingForSeekPreparation (nowSeconds : F64)
  | cancelSeekPreparation
  | cancelSeekPreparationForLifecycle
  | clearSeekPreparationTerminal
  | confirmAlignedLocalPlay (nowSeconds confirmedRoomPositionSeconds : F64)
      (maximumPositionAgeSeconds : Seconds)
  | joinNearestBufferedSeekPreparation (nowSeconds : F64)

/-- An operation without actions. -/
def silent (c : PlaybackCoordinator) : Coordination := { coordinator := c, actions := [] }

/-- One operation, with the actions that it returns. -/
def coordinatorStep (c : PlaybackCoordinator) : CoordinatorOp → Coordination
  | .setConfig config => silent (c.setConfig config)
  | .resetTransportAdapterEpoch nowSeconds => silent (c.resetTransportAdapterEpoch nowSeconds)
  | .prepareMedia logicalId kind nowSeconds => silent (c.prepareMedia logicalId kind nowSeconds).2
  | .prepareMediaWithIntent logicalId kind requestedIntent nowSeconds =>
    silent (c.prepareMediaWithIntent logicalId kind requestedIntent nowSeconds).2
  | .prepareMediaForRoomParticipation logicalId kind nowSeconds =>
    silent (c.prepareMediaForRoomParticipation logicalId kind nowSeconds).2
  | .interruptRecovery => Coordination.interruptRecovery c
  | .retireMedia => Coordination.retireMedia c
  | .updateDesiredRoomStateWithKind desired updateKind =>
    Coordination.updateDesiredRoomStateWithKind c desired updateKind
  | .observe observation => Coordination.observe c observation
  | .rebaseObservation observation => Coordination.rebaseObservation c observation
  | .replayObservation observation => Coordination.replayObservation c observation
  | .takeAppliedObservationRevision => silent { c with appliedObservationRevision := none }
  | .commandAccepted commandId => silent (c.commandAccepted commandId).2
  | .supersedeUnacceptedCommand commandId => silent (c.supersedeUnacceptedCommand commandId).2
  | .commandFailed commandId nowSeconds => silent (c.commandFailed commandId nowSeconds).2
  | .takePendingActions =>
    { coordinator := c.withoutPendingActions, actions := c.pendingActions }
  | .tick nowSeconds => Coordination.tick c nowSeconds
  | .expireTransportObservation => silent c.expireTransportObservation
  | .shiftLocalPlayerTimeline deltaSeconds => silent (c.shiftLocalPlayerTimeline deltaSeconds)
  | .keepWaitingForSeekPreparation nowSeconds =>
    silent (c.keepWaitingForSeekPreparation nowSeconds)
  | .cancelSeekPreparation => silent c.cancelSeekPreparation
  | .cancelSeekPreparationForLifecycle => silent c.cancelSeekPreparationForLifecycle
  | .clearSeekPreparationTerminal => silent c.clearSeekPreparationTerminal
  | .confirmAlignedLocalPlay nowSeconds confirmed maximumAge =>
    silent (c.confirmAlignedLocalPlay nowSeconds confirmed maximumAge).2
  | .joinNearestBufferedSeekPreparation nowSeconds =>
    Coordination.joinNearestBufferedSeekPreparation c nowSeconds

end Sorotte.Coordinator
