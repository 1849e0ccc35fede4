import Sorotte.Coordinator.Commands

/-! # The observation pass

  What one accepted observation makes the coordinator do: complete the commands
  it proves, advance the seek preparation and the recovery episode, and bring
  the player towards the desired room state.
-/

namespace Sorotte.Coordinator

/-! ### Evidence about a seek preparation -/

namespace PlaybackCoordinator

def isPlayablePhase (phase : PlayerTransportPhase) : Bool :=
  phase = .readyPaused || phase = .playing

/-- The position of an observation, before the filter on its sign. -/
def sourcePosition (observation : PlayerTransportObservation) : Option Seconds :=
  observation.positionSeconds.bind (·.finite?)

def seekPreparationAcceptsTargetCacheEvidence (c : PlaybackCoordinator) (observed : ObservedState)
    (observation : PlayerTransportObservation) (evidenceIsFresh : Bool) : Bool :=
  c.seekPreparation.any fun episode =>
    let target := episode.frozenTargetSeconds
    let sourcePositionIsTarget := c.nearTarget (sourcePosition observation) target
    let sourceRangesCoverTarget := observation.seekableRanges.any fun ranges =>
      ranges.any fun range => range.finite?.any (·.contains target)
    episode.primarySeekIssued
      && episode.primarySeekObservationSequence.any (· < c.observationSequence)
      && evidenceIsFresh
      && c.nearTarget observed.positionSeconds target
      && (sourcePositionIsTarget || sourceRangesCoverTarget)

/-- The nearest cached point, if it is behind the room and close to it. -/
def nearestSafeBufferedPosition (c : PlaybackCoordinator) (kind : MediaTransportKind)
    (availability : SeekTargetAvailability) (episode : SeekPreparationEpisode) : Option Seconds :=
  (c.nearestCandidate kind availability episode.requestedTargetSeconds).filter fun candidate =>
    candidate ≤ episode.latestRoomPositionSeconds + c.config.positionToleranceSeconds
      && episode.latestRoomPositionSeconds - candidate
        ≤ c.config.nearestBufferedTargetLimitSeconds

/-- The classification of the target, and the clamp of a live one. -/
def classifiedEpisode (c : PlaybackCoordinator) (kind : MediaTransportKind)
    (observed : ObservedState) (availability : SeekTargetAvailability)
    (episode : SeekPreparationEpisode) : SeekPreparationEpisode :=
  let clamped :=
    clampToLiveSeekableWindow episode.requestedTargetSeconds observed.knownLiveSeekableWindow
  { episode with
    availability
    nearestSafeBufferedPositionSeconds := c.nearestSafeBufferedPosition kind availability episode
    frozenTargetSeconds :=
      if kind = .liveSliding && availability = .outsideLiveWindow
          && !episode.primarySeekIssued then
        clamped.getD episode.frozenTargetSeconds
      else episode.frozenTargetSeconds }

/-- Cache metrics that belong to the target. -/
def withCacheEvidence (observation : PlayerTransportObservation)
    (episode : SeekPreparationEpisode) : SeekPreparationEpisode :=
  let percent := (observation.cacheBufferingPercent.bind (·.finite?)).map (clamp · 0 100)
  let buffered := (observation.bufferedAheadSeconds.bind (·.finite?)).filter (0 ≤ ·)
  { episode with
    cacheBufferingPercent := percent.or episode.cacheBufferingPercent
    bufferedAheadSeconds := buffered.or episode.bufferedAheadSeconds
    inputRateBytesPerSecond :=
      observation.inputRateBytesPerSecond.or episode.inputRateBytesPerSecond }

/-- A refill that started after the seek. -/
def refillStarted (observation : PlayerTransportObservation) : Bool :=
  observation.pausedForCache = some true
    || observation.phase = some .prebuffering || observation.phase = some .rebuffering

/-- The player stands at the target and could play. -/
def transportReady (c : PlaybackCoordinator) (observed : ObservedState)
    (postSeekObservation : Bool) (episode : SeekPreparationEpisode) : Bool :=
  episode.primarySeekIssued && postSeekObservation && isPlayablePhase observed.phase
    && !observed.seeking && c.nearTarget observed.positionSeconds episode.frozenTargetSeconds
    && !observed.pausedForCache

/-- Without cache metrics, a playable target has to stay playable for a while. -/
def telemetryPoorStable (c : PlaybackCoordinator) (observed : ObservedState)
    (observation : PlayerTransportObservation) (ready : Bool) (episode : SeekPreparationEpisode) :
    SeekPreparationEpisode × Bool :=
  let quantitativeCacheTelemetryObserved :=
    episode.bufferedAheadSeconds.isSome || episode.cacheBufferingPercent.isSome
  let freshAlignedPlayableObservation :=
    observation.phase.any isPlayablePhase
      || c.nearTarget (sourcePosition observation) episode.frozenTargetSeconds
  if ready && !quantitativeCacheTelemetryObserved
      && episode.refillStartedObservationSequence.isNone && freshAlignedPlayableObservation then
    match episode.stablePlayableSince with
    | some (sequence, sinceSeconds) =>
      (episode,
        sequence < c.observationSequence
          && min c.config.stabilityIntervalSeconds seekPreparationMaxStabilizationSeconds
            ≤ observed.observedAtSeconds - sinceSeconds)
    | none =>
      ({ episode with
        stablePlayableSince := some (c.observationSequence, observed.observedAtSeconds) }, false)
  else ({ episode with stablePlayableSince := none }, false)

/-- The episode after the evidence of one observation, and whether it is ready. -/
def seekPreparationEvidence (c : PlaybackCoordinator) (observed : ObservedState)
    (observation : PlayerTransportObservation) (evidenceIsFresh targetScopedCacheEvidence : Bool)
    (episode : SeekPreparationEpisode) : SeekPreparationEpisode × Bool :=
  let postSeekObservation :=
    episode.primarySeekObservationSequence.any (· < c.observationSequence) && evidenceIsFresh
  let episode :=
    if targetScopedCacheEvidence then withCacheEvidence observation episode else episode
  let episode :=
    if postSeekObservation && refillStarted observation then
      { episode with
        refillStartedObservationSequence := some c.observationSequence
        refillReleasedAfterSeek := false
        stablePlayableSince := none }
    else episode
  let transportReady := c.transportReady observed postSeekObservation episode
  let freshPlayableOrCacheRelease :=
    observation.phase.any isPlayablePhase || observation.pausedForCache = some false
  let episode :=
    if transportReady && freshPlayableOrCacheRelease
        && episode.refillStartedObservationSequence.any (· < c.observationSequence) then
      { episode with refillReleasedAfterSeek := true }
    else episode
  let minimumHeadroomReady :=
    episode.bufferedAheadSeconds.any (c.config.seekPreparationMinimumHeadroomSeconds ≤ ·)
  let refillProgressReady := episode.cacheBufferingPercent.any (100 ≤ ·)
  let stable := c.telemetryPoorStable observed observation transportReady episode
  (stable.1,
    transportReady
      && (minimumHeadroomReady || refillProgressReady || episode.refillReleasedAfterSeek
        || stable.2))

/-- The phase that a preparation shows while it is not ready. -/
def waitingPhase (c : PlaybackCoordinator) (observed : ObservedState)
    (episode : SeekPreparationEpisode) : SeekPreparationPhase :=
  let atTarget := c.nearTarget observed.positionSeconds episode.frozenTargetSeconds
  if observed.seeking || !episode.primarySeekIssued then .seeking
  else if observed.pausedForCache || observed.phase = .prebuffering
      || observed.phase = .rebuffering then
    if atTarget then .refilling else .fetching
  else if (episode.availability = .fetchRequired || episode.availability = .unknown)
      && !atTarget then .fetching
  else .refilling

/-- A preparation that reached its target hands over to recovery. -/
def seekPreparationReady (c : PlaybackCoordinator) (observed : ObservedState)
    (episode : SeekPreparationEpisode) : PlaybackCoordinator :=
  let pausedAlignmentNeeded := c.desired.any fun desired =>
    desired.paused
      && !c.nearTarget observed.positionSeconds (desired.positionAt observed.observedAtSeconds)
  let c :=
    { c with
      seekPreparation := some episode
      completedSeekRestartBaseline :=
        if observed.logicalPause = some true then some observed.playbackRestartSequence
        else c.completedSeekRestartBaseline
      desiredSeekSatisfiedRevision :=
        if pausedAlignmentNeeded then none else some episode.latestRoomRevision }
  let c := c.finishSeekPreparation .ready
  if c.desired.any (!·.paused) then c.beginRecoveryHandoff observed.observedAtSeconds else c

/-- A preparation fails: the current revision counts as satisfied. -/
def failSeekPreparation (c : PlaybackCoordinator) (reason : SeekPreparationDegradedReason) :
    PlaybackCoordinator :=
  { c.finishSeekPreparation (.degraded reason) with
    desiredSeekSatisfiedRevision := c.desired.map (·.stateRevision) }

end PlaybackCoordinator

namespace Coordination

def pushDegraded (k : Coordination) (reason : DegradedPlaybackReason) : Coordination :=
  k.push (.degraded (k.coordinator.currentMediaGeneration.getD 0) none reason)

def updateSeekPreparation (k : Coordination) (observed : ObservedState)
    (observation : PlayerTransportObservation)
    (evidenceIsFresh targetScopedCacheEvidence : Bool) : Coordination :=
  match k.coordinator.media, k.coordinator.seekPreparation with
  | some media, some current =>
    if observed.phase = .ended || observed.phase = .failed then
      (k.update (·.failSeekPreparation .transportFailed)).pushDegraded .transportFailed
    else
      let availability := k.coordinator.targetAvailability media.kind (some observed)
        current.requestedTargetSeconds
      if availability = .nonSeekable then
        (k.update (·.failSeekPreparation .nonSeekable)).pushDegraded .nonSeekableLag
      else if availability = .outsideLiveWindow
          && k.coordinator.cachedSeekableRanges.any (·.isEmpty) then
        k.update (·.failSeekPreparation .outsideLiveWindow)
      else
        let classified := k.coordinator.classifiedEpisode media.kind observed availability current
        let evidence := k.coordinator.seekPreparationEvidence observed observation evidenceIsFresh
          targetScopedCacheEvidence classified
        if evidence.2 then k.update (·.seekPreparationReady observed evidence.1)
        else
          k.update fun c =>
            { c with
              seekPreparation := some
                { evidence.1 with phase := c.waitingPhase observed evidence.1 } }
  | _, _ => k

end Coordination

/-! ### Completion of commands -/

namespace PlaybackCoordinator

/-- The observation proves that the command took effect. -/
def completes (c : PlaybackCoordinator) (observed : ObservedState) (advancing : Bool) :
    PendingCommandKind → Bool
  | .pause => observed.logicalPause = some true
  | .play baselinePosition intent =>
    let restartSatisfied :=
      match intent with
      | .resume => true
      | .startAfterLoad baseline | .startAfterSeek baseline =>
        baseline < observed.playbackRestartSequence
    let advancedFromBaseline := baselinePosition.any fun baseline =>
      observed.positionSeconds.any fun current => minAdvancementSeconds < current - baseline
    observed.logicalPause = some false && !observed.pausedForCache && !observed.seeking
      && restartSatisfied && (advancing || advancedFromBaseline)
  | .seek target _ _ => !observed.seeking && c.nearTarget observed.positionSeconds target
  | .rate targetRate => observed.playbackRate.any (distance · targetRate ≤ 1 / 1000)

/-- What a completed seek records. -/
def recordCompletedSeek (observed : ObservedState) (c : PlaybackCoordinator)
    (command : PendingCommand) : PlaybackCoordinator :=
  match command.kind with
  | .seek _ baselineRestartSequence _ =>
    { c with
      desiredSeekSatisfiedRevision := some command.revision
      requiredSeekDispatchRevision :=
        if c.requiredSeekDispatchRevision = some command.revision then none
        else c.requiredSeekDispatchRevision
      completedSeekRestartBaseline :=
        if observed.logicalPause = some true then some baselineRestartSequence
        else c.completedSeekRestartBaseline }
  | _ => c

/-- A recovery seek that landed re-opens the decision of its episode. -/
def reopenedRecovery (episode : RecoveryEpisode) : RecoveryEpisode :=
  if episode.seekActive then
    { episode with
      seekActive := false
      decisionMade := false
      stableSinceSeconds := none }
  else episode

def completeObservedCommands (c : PlaybackCoordinator) (observed : ObservedState)
    (advancing : Bool) : PlaybackCoordinator :=
  let completed := c.pendingCommands.filter fun command =>
    c.completes observed advancing command.kind
  let kept := c.pendingCommands.filter fun command =>
    !c.completes observed advancing command.kind
  let recoverySeekCompleted := completed.any (·.kind.isSeek)
  let playCompleted := completed.any (·.kind.isPlay)
  let c := completed.foldl (recordCompletedSeek observed) { c with pendingCommands := kept }
  { c with
    completedSeekRestartBaseline :=
      if playCompleted then none else c.completedSeekRestartBaseline
    recovery := if recoverySeekCompleted then c.recovery.map reopenedRecovery else c.recovery }

/-! ### Diagnostics and recovery -/

def updateDiagnosticForObservation (c : PlaybackCoordinator) (observed : ObservedState) :
    PlaybackCoordinator :=
  if c.degradedSeekPreparationHoldsCurrentRevision then { c with diagnostic := .degraded }
  else
    { c with
      diagnostic :=
        match observed.phase with
        | .empty => .empty
        | .loading => .loading
        | .prebuffering => .prebuffering
        | .readyPaused => .readyWaitingForRoom
        | .playing => if observed.coreIdle = some true then .starting else .playing
        | .rebuffering => .rebuffering
        | .seeking => .starting
        | .ended => .ended
        | .failed => .failed }

/-- The episode while the player is not buffering. -/
def steadiedRecovery (observed : ObservedState) (advancing positionSampled : Bool)
    (episode : RecoveryEpisode) : RecoveryEpisode :=
  if observed.seeking then
    { episode with
      postCacheBaselineAtSeconds := none
      stableSinceSeconds := none }
  else if episode.postCacheBaselineAtSeconds.isNone && positionSampled then
    { episode with postCacheBaselineAtSeconds := some observed.observedAtSeconds }
  else if positionSampled then
    { episode with
      stableSinceSeconds :=
        if advancing then some (episode.stableSinceSeconds.getD observed.observedAtSeconds)
        else none }
  else episode

def updateRecoveryEpisode (c : PlaybackCoordinator) (observed : ObservedState)
    (advancing positionSampled : Bool) : Option DegradedPlaybackReason × PlaybackCoordinator :=
  if observed.pausedForCache || observed.phase = .rebuffering then
    let hardSeekRebuffered := c.recovery.any fun episode =>
      episode.seekActive && 0 < episode.hardSeekAttempts && !episode.degraded
    let c :=
      match c.recovery with
      | none =>
        { c with
          nextRecoveryEpisodeId := nextIdentifier c.nextRecoveryEpisodeId
          metrics :=
            { c.metrics with
              bufferEpisodeCount := saturatingAdd c.metrics.bufferEpisodeCount 1 }
          recovery := some (c.openedRecovery observed.observedAtSeconds none false) }
      | some episode =>
        { c with
          recovery := some
            { episode with
              postCacheBaselineAtSeconds := none
              stableSinceSeconds := none } }
    (if hardSeekRebuffered then some .hardSeekBudgetExhausted else none,
      { c with diagnostic := .rebuffering })
  else
    match c.recovery with
    | none => (none, c)
    | some episode =>
      let episode := steadiedRecovery observed advancing positionSampled episode
      (none,
        { c with
          recovery := some episode
          diagnostic :=
            if episode.seekActive then .recoveringBySeek
            else if episode.catchupActive then .recoveringByCatchup
            else .starting })

def observationHasCatchupHeadroom (metrics : PlaybackCoordinatorMetrics) : Bool :=
  metrics.lastBufferedAheadSeconds.any (healthyCatchupBufferSeconds ≤ ·)

end PlaybackCoordinator

/-! ### Recovery decisions -/

namespace Coordination

/-- The branch of `coordinate_recovery` that catches up by speed. -/
def takesCatchup (config : PlaybackCoordinatorConfig Seconds) (episode : RecoveryEpisode)
    (lag : Seconds) : Bool :=
  config.negligibleLagSeconds < lag
    && (config.recoveryPolicy = .balanced && lag < config.hardSeekThresholdSeconds
      || episode.gentleCatchupOnly
        && (config.recoveryPolicy = .balanced || config.recoveryPolicy = .stayClosest)
        && lag ≤ config.nearestBufferedTargetLimitSeconds)

/-- The catch-up speed of an episode. -/
def catchupTargetRate (c : PlaybackCoordinator) (episode : RecoveryEpisode) : Seconds :=
  if !episode.gentleCatchupOnly && PlaybackCoordinator.observationHasCatchupHeadroom c.metrics then
    c.config.maximumCatchupRate
  else min c.config.maximumCatchupRate conservativeCatchupRateWithoutHeadroom

/-- The seconds after which a catch-up counts as failed. -/
def catchupDeadlineAfter (config : PlaybackCoordinatorConfig Seconds) (targetRate lag : Seconds) :
    Seconds :=
  let rateGain := max (targetRate - normalPlaybackRate) 0
  let expectedConvergenceSeconds :=
    if epsilon < rateGain then lag / rateGain else config.stabilityIntervalSeconds
  min
    (max (expectedConvergenceSeconds * (3 / 2) + config.stabilityIntervalSeconds)
      (config.commandTimeoutSeconds + config.stabilityIntervalSeconds))
    maximumCatchupEpisodeSeconds

def catchingUp (deadline : Seconds) (episode : RecoveryEpisode) : RecoveryEpisode :=
  { episode with
    catchupActive := true
    catchupDeadlineSeconds := some deadline }

def startCatchup (k : Coordination) (desired : DesiredRoomPlayback Seconds)
    (observed : ObservedState) (episode : RecoveryEpisode) (lag : Seconds) : Coordination :=
  let c := k.coordinator
  let targetRate := catchupTargetRate c episode
  let deadline := observed.observedAtSeconds + catchupDeadlineAfter c.config targetRate lag
  let k :=
    { k with
      coordinator :=
        { c with
          metrics :=
            { c.metrics with gentleCatchupCount := saturatingAdd c.metrics.gentleCatchupCount 1 }
          recovery := c.recovery.map (catchingUp deadline)
          rateOverride := some
            { episodeId := episode.id
              resetRequested := false
              resetCommandObservationSequence := none } } }
  (k.issueCommand desired.stateRevision observed.observedAtSeconds (.rate targetRate)
    (.setPlaybackRate targetRate)).2

def hardSeeking (episode : RecoveryEpisode) : RecoveryEpisode :=
  { episode with
    hardSeekAttempts := saturatingAdd32 episode.hardSeekAttempts 1
    seekActive := true
    postCacheBaselineAtSeconds := none
    stableSinceSeconds := none }

def startHardSeek (k : Coordination) (desired : DesiredRoomPlayback Seconds)
    (observed : ObservedState) (roomPosition : Seconds) : Coordination :=
  let target := k.coordinator.clampSeekTarget roomPosition observed
  let k := k.update fun c =>
    { c with
      metrics := { c.metrics with hardSeekCount := saturatingAdd c.metrics.hardSeekCount 1 }
      recovery := c.recovery.map hardSeeking }
  (k.issueCommand desired.stateRevision observed.observedAtSeconds
    (.seek target observed.playbackRestartSequence false) (.setPosition target)).2

/-- The decision of `coordinate_recovery`, taken once for an episode. -/
def decideRecovery (k : Coordination) (desired : DesiredRoomPlayback Seconds)
    (observed : ObservedState) (episode : RecoveryEpisode) (roomPosition lag : Seconds) :
    Coordination :=
  let c := k.coordinator
  match c.config.recoveryPolicy with
  | .preserveContent => k
  | .pauseRoom => k.push (.requestRoomPause episode.id)
  | .balanced | .stayClosest =>
    if lag ≤ c.config.negligibleLagSeconds then k
    else if takesCatchup c.config episode lag then
      if c.media.any (·.kind.allowsRateCorrection) then
        k.startCatchup desired observed episode lag
      else k.enterDegradedRecovery .nonSeekableLag
    else if episode.gentleCatchupOnly then k.enterDegradedRecovery .catchupDidNotConverge
    else if c.observedSeekable observed
        && episode.hardSeekAttempts < c.config.maximumHardSeeksPerEpisode then
      k.startHardSeek desired observed roomPosition
    else
      k.enterDegradedRecovery
        (if c.observedSeekable observed then .hardSeekBudgetExhausted else .nonSeekableLag)

def decided (episode : RecoveryEpisode) : RecoveryEpisode :=
  { episode with decisionMade := true }

/-- `coordinate_recovery` after the decision: has the episode converged? -/
def settleRecovery (k : Coordination) (observed : ObservedState) (lag : Seconds) : Coordination :=
  let c := k.coordinator
  let stableIntervalElapsed := c.recovery.any fun episode =>
    episode.stableSinceSeconds.any fun since =>
      c.config.stabilityIntervalSeconds ≤ observed.observedAtSeconds - since
  let converged : Bool := lag ≤ c.config.negligibleLagSeconds
  let catchupTimedOut := c.recovery.any fun episode =>
    episode.catchupActive
      && episode.catchupDeadlineSeconds.any (· ≤ observed.observedAtSeconds)
  if catchupTimedOut && !converged then k.enterDegradedRecovery .catchupDidNotConverge
  else if stableIntervalElapsed && !converged then
    match c.config.recoveryPolicy with
    | .preserveContent | .pauseRoom => k.enterDegradedRecovery .nonSeekableLag
    | .balanced | .stayClosest =>
      if c.recovery.any (·.seekActive) then k.enterDegradedRecovery .hardSeekBudgetExhausted else k
  else if converged && stableIntervalElapsed then
    k.update (·.closeRecoveryWithMetrics observed.observedAtSeconds)
  else k

def coordinateRecovery (k : Coordination) (desired : DesiredRoomPlayback Seconds)
    (observed : ObservedState) (skewEvidenceIsFresh advancing : Bool) : Coordination :=
  match k.coordinator.recovery with
  | none => k
  | some episode =>
    if observed.pausedForCache || observed.seeking || !advancing
        || episode.postCacheBaselineAtSeconds.all (observed.observedAtSeconds ≤ ·) then k
    else
      let roomPosition := desired.positionAt observed.observedAtSeconds
      let localPosition := observed.positionSeconds.getD roomPosition
      let lag := max (roomPosition - localPosition) 0
      let k :=
        if skewEvidenceIsFresh then
          k.update fun c =>
            { c with
              metrics :=
                { c.metrics with steadyStateSkewSeconds := some (localPosition - roomPosition) } }
        else k
      let k :=
        if episode.decisionMade then k
        else
          (k.decideRecovery desired observed episode roomPosition lag).update fun c =>
            { c with recovery := c.recovery.map decided }
      k.settleRecovery observed lag

/-! ### The desired state -/

/-- Remote media that cannot seek: the alignment ends in a preparation, which a
    non-seekable source degrades at once. -/
def issueUnseekable (k : Coordination) (desired : DesiredRoomPlayback Seconds)
    (observed : ObservedState) : Coordination :=
  if k.coordinator.media.any (·.kind ≠ .localFile) then
    let k := k.update fun c =>
      { c.beginSeekPreparationIfNeeded desired with requiredSeekDispatchRevision := none }
    let k := k.issuePauseUnlessPaused desired observed
    if (k.coordinator.lastSeekPreparationTerminal.bind (·.terminalOutcome))
        = some (.degraded .nonSeekable) then
      k.push (.degraded desired.mediaGeneration none .nonSeekableLag)
    else k
  else
    k.update fun c =>
      { c with
        desiredSeekSatisfiedRevision := some desired.stateRevision
        requiredSeekDispatchRevision := none }

/-- The adapter has not told a finite source from a moving one yet. -/
def unresolvedTimeline (c : PlaybackCoordinator) (observed : ObservedState) : Bool :=
  c.media.any fun media =>
    match media.kind with
    | .networkVod => observed.timelineKind = some .unknown
    | .liveSliding => observed.knownLiveSeekableWindow.isNone
    | .localFile | .nonSeekable => false

def issueDesiredSeekIfNeeded (k : Coordination) (desired : DesiredRoomPlayback Seconds)
    (observed : ObservedState) : Coordination :=
  let c := k.coordinator
  if c.desiredSeekIsSatisfied desired || observed.seeking then k
  else
    let target := c.clampSeekTarget (desired.positionAt observed.observedAtSeconds) observed
    let dispatchRequired := c.requiredSeekDispatchRevision = some desired.stateRevision
    if !dispatchRequired && c.nearTarget observed.positionSeconds target then
      k.update fun c => { c with desiredSeekSatisfiedRevision := some desired.stateRevision }
    else if !c.observedSeekable observed then k.issueUnseekable desired observed
    else if !rangesContain c.cachedSeekableRanges target && unresolvedTimeline c observed then
      let k :=
        if c.seekPreparation.isNone then k.update (·.beginSeekPreparationIfNeeded desired) else k
      k.issuePauseUnlessPaused desired observed
    else
      (k.issueCommand desired.stateRevision observed.observedAtSeconds
        (.seek target observed.playbackRestartSequence false) (.setPosition target)).2

/-- Whether the timeline of the media still forbids the primary seek. -/
def primarySeekWaits (c : PlaybackCoordinator) (observed : ObservedState)
    (episode : SeekPreparationEpisode) : Bool :=
  c.media.any fun media =>
    (media.kind = .networkVod && observed.timelineKind = some .unknown
        && episode.availability ≠ .cached)
      || (media.kind = .liveSliding && episode.availability = .unknown)

/-- `issue_seek_preparation_primary_seek`; `true` when the target was already
    satisfied. -/
def issueSeekPreparationPrimarySeek (k : Coordination) (desired : DesiredRoomPlayback Seconds)
    (observed : ObservedState) : Bool × Coordination :=
  let c := k.coordinator
  match c.seekPreparation with
  | none => (false, k)
  | some episode =>
    if episode.primarySeekIssued || PlaybackCoordinator.transportBlocksCorrection observed
        || !c.observedSeekable observed then (false, k)
    else
      let target := episode.frozenTargetSeconds
      let dispatchRequired := c.requiredSeekDispatchRevision = some desired.stateRevision
      if !dispatchRequired && c.nearTarget observed.positionSeconds target then
        (true, k.update (·.markSeekPreparationPrimaryIssued none))
      else if primarySeekWaits c observed episode then (false, k)
      else
        match k.issueCommand desired.stateRevision observed.observedAtSeconds
            (.seek target observed.playbackRestartSequence false) (.setPosition target) with
        | (some commandId, k) =>
          (false, k.update (·.markSeekPreparationPrimaryIssued (some commandId)))
        | (none, k) => (false, k)

/-- A superseded seek displaced the player after the canonical target appeared
    satisfied: the target is armed again. -/
def rearmDisplacedAlignment (k : Coordination) (desired : DesiredRoomPlayback Seconds)
    (observed : ObservedState) : Coordination :=
  let c := k.coordinator
  let target := c.clampSeekTarget (desired.positionAt observed.observedAtSeconds) observed
  if c.authoritativeAlignmentGuardRevision = some desired.stateRevision
      && c.desiredSeekSatisfiedRevision = some desired.stateRevision
      && c.lastStartedRevision ≠ some desired.stateRevision
      && !observed.seeking && !c.nearTarget observed.positionSeconds target then
    let k := k.update fun c =>
      { c with
        desiredSeekSatisfiedRevision := none
        requiredSeekDispatchRevision := some desired.stateRevision
        pendingCommands := c.pendingCommands.filter fun command =>
          command.revision ≠ desired.stateRevision || !command.kind.isPlay }
    k.issuePauseUnlessPaused desired observed
  else k

/-- The seek preparation takes its turn; `true` when it keeps the rest waiting. -/
def coordinateSeekPreparation (k : Coordination) (desired : DesiredRoomPlayback Seconds)
    (observed : ObservedState) (observation : PlayerTransportObservation)
    (evidenceIsFresh : Bool) : Bool × Coordination :=
  if k.coordinator.seekPreparation.isSome then
    let k := k.issuePauseUnlessPaused desired observed
    let issued := k.issueSeekPreparationPrimarySeek desired observed
    let k :=
      if issued.1 then
        issued.2.updateSeekPreparation observed observation evidenceIsFresh
          (issued.2.coordinator.seekPreparationAcceptsTargetCacheEvidence observed observation
            evidenceIsFresh)
      else issued.2
    (k.coordinator.seekPreparation.isSome, k)
  else (false, k)

/-- The intent of a play command. -/
def playIntent (c : PlaybackCoordinator) : PlayerPlayIntent :=
  match c.completedSeekRestartBaseline with
  | some baselineRestartSequence => .startAfterSeek baselineRestartSequence
  | none =>
    if c.lastStartedRevision.isNone then
      .startAfterLoad ((c.media.map (·.loadRestartBaseline)).getD 0)
    else .resume

/-- A paused room: stop first, align afterwards. -/
def coordinatePaused (k : Coordination) (desired : DesiredRoomPlayback Seconds)
    (observed : ObservedState) : Coordination :=
  let k := k.issuePauseUnlessPaused desired observed
  if PlaybackCoordinator.transportBlocksCorrection observed then k
  else
    let k := k.issueDesiredSeekIfNeeded desired observed
    if !k.coordinator.desiredSeekIsSatisfied desired then k
    else if observed.logicalPause = some true then k.markRevisionApplied desired observed false
    else k

/-- A playing room: align, play, recover. -/
def coordinatePlaying (k : Coordination) (desired : DesiredRoomPlayback Seconds)
    (observed : ObservedState) (evidenceIsFresh advancing : Bool) : Coordination :=
  if PlaybackCoordinator.transportBlocksCorrection observed then k
  else
    let k := k.issueDesiredSeekIfNeeded desired observed
    if !k.coordinator.desiredSeekIsSatisfied desired then k
    else if observed.logicalPause ≠ some false then
      let intent := playIntent k.coordinator
      (k.issueCommand desired.stateRevision observed.observedAtSeconds
        (.play observed.positionSeconds intent) (.play intent)).2
    else
      let k := k.coordinateRecovery desired observed evidenceIsFresh advancing
      let playCommandPending := k.coordinator.pendingCommands.any fun command =>
        command.revision == desired.stateRevision && command.kind.isPlay
      if advancing && !observed.pausedForCache && !observed.seeking && !playCommandPending then
        k.markRevisionApplied desired observed true
      else k

def coordinateDesiredState (k : Coordination) (observed : ObservedState)
    (observation : PlayerTransportObservation) (evidenceIsFresh advancing : Bool) :
    Coordination :=
  match k.coordinator.desired with
  | none => k
  | some desired =>
    if desired.mediaGeneration ≠ k.coordinator.currentMediaGeneration.getD 0 then k
    else
      let k := k.rearmDisplacedAlignment desired observed
      let prepared := k.coordinateSeekPreparation desired observed observation evidenceIsFresh
      let k := prepared.2
      if prepared.1 then k
      else if k.coordinator.terminalSeekPreparationHoldsCurrentRevision then
        if desired.paused || k.coordinator.degradedSeekPreparationHoldsCurrentRevision then
          k.issuePauseUnlessPaused desired observed
        else k
      else if desired.paused then k.coordinatePaused desired observed
      else k.coordinatePlaying desired observed evidenceIsFresh advancing

end Coordination

end Sorotte.Coordinator
