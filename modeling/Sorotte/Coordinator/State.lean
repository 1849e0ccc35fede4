import Sorotte.Protocol.Payloads

/-! # The playback coordinator's data

  `PlaybackCoordinator` of the client core decides which commands the local
  player gets.  This module holds its configuration, the observations and
  desired states it is given, the commands and actions it produces, and its
  state.

  Positions, rates and clock readings are exact rationals.  Where the source
  checks `is_finite` on an input, the input is an `F64` and the check is part of
  the model.
-/

namespace Sorotte.Coordinator

/-! ### Constants -/

def minAdvancementSeconds : Seconds := 1 / 100

def normalPlaybackRate : Seconds := 1

def conservativeCatchupRateWithoutHeadroom : Seconds := 103 / 100

def healthyCatchupBufferSeconds : Seconds := 2

def maximumCatchupEpisodeSeconds : Seconds := 300

def seekPreparationTimeoutSeconds : Seconds := 60

def seekPreparationMaxStabilizationSeconds : Seconds := 1

def nearestBufferedTargetLimitSeconds : Seconds := 15

/-- `f64::EPSILON`. -/
def epsilon : Seconds := 1 / 2 ^ 52

/-- `saturating_add` on a `u64`. -/
def saturatingAdd (value amount : Nat) : Nat := min (value + amount) u64Max

/-- Largest `u32`. -/
def u32Max : Nat := 2 ^ 32 - 1

/-- `saturating_add` on a `u32`. -/
def saturatingAdd32 (value amount : Nat) : Nat := min (value + amount) u32Max

/-- A counter that never becomes zero again: `saturating_add(1).max(1)`. -/
def nextIdentifier (value : Nat) : Nat := max (saturatingAdd value 1) 1

/-- `f64::clamp`. -/
def clamp (value low high : Seconds) : Seconds :=
  if value < low then low else if high < value then high else value

/-- `(left - right).abs()`. -/
def distance (left right : Seconds) : Seconds := max (left - right) (right - left)

/-! ### Media -/

inductive MediaTransportKind where
  | localFile | networkVod | liveSliding | nonSeekable
  deriving DecidableEq

namespace MediaTransportKind

def defaultSeekable : MediaTransportKind → Bool
  | localFile | networkVod | liveSliding => true
  | nonSeekable => false

def allowsRateCorrection : MediaTransportKind → Bool
  | nonSeekable => false
  | _ => true

end MediaTransportKind

/-- A trimmed, non-empty identity. -/
structure LogicalMediaId where
  value : String
  nonempty : value ≠ ""
  deriving DecidableEq

/-- `LogicalMediaId::new`. -/
def LogicalMediaId.new (value : String) : Except String LogicalMediaId :=
  if h : trimText value = "" then .error "logical media ID must not be empty"
  else .ok ⟨trimText value, h⟩

structure MediaLoadPlan where
  mediaGeneration : Nat
  loadAttempt : Nat
  logicalMediaChanged : Bool
  playbackEpisodeChanged : Bool
  loadIntent : MediaLoadIntent

structure MediaState where
  logicalId : LogicalMediaId
  generation : Nat
  loadAttempt : Nat
  kind : MediaTransportKind
  preparedAtSeconds : Seconds
  loadRestartBaseline : Nat

/-! ### Configuration -/

inductive RecoveryPolicy where
  | preserveContent | balanced | stayClosest | pauseRoom
  deriving DecidableEq

/-- The configuration, over the numbers that a caller may pass or over the
    finite numbers that `normalized` leaves. -/
structure PlaybackCoordinatorConfig (Number : Type) where
  recoveryPolicy : RecoveryPolicy
  negligibleLagSeconds : Number
  hardSeekThresholdSeconds : Number
  maximumCatchupRate : Number
  maximumHardSeeksPerEpisode : Nat
  stabilityIntervalSeconds : Number
  positionToleranceSeconds : Number
  commandTimeoutSeconds : Number
  commandRetryBudget : Nat
  commandRetryCooldownSeconds : Number
  seekPreparationTimeoutSeconds : Number
  seekPreparationMinimumHeadroomSeconds : Number
  nearestBufferedTargetLimitSeconds : Number

namespace PlaybackCoordinatorConfig

/-- `PlaybackCoordinatorConfig::default`. -/
def defaults : PlaybackCoordinatorConfig Seconds :=
  { recoveryPolicy := .balanced
    negligibleLagSeconds := 1
    hardSeekThresholdSeconds := 8
    maximumCatchupRate := 105 / 100
    maximumHardSeeksPerEpisode := 1
    stabilityIntervalSeconds := 4
    positionToleranceSeconds := 35 / 100
    commandTimeoutSeconds := 10
    commandRetryBudget := 1
    commandRetryCooldownSeconds := 2
    seekPreparationTimeoutSeconds := Coordinator.seekPreparationTimeoutSeconds
    seekPreparationMinimumHeadroomSeconds := healthyCatchupBufferSeconds
    nearestBufferedTargetLimitSeconds := Coordinator.nearestBufferedTargetLimitSeconds }

/-- A finite value that passes the check, and the default otherwise. -/
def acceptedOr (default : Seconds) (accepts : Seconds → Bool) (value : F64) : Seconds :=
  match value.finite? with
  | some value => if accepts value then value else default
  | none => default

def normalized (config : PlaybackCoordinatorConfig F64) : PlaybackCoordinatorConfig Seconds :=
  let negligibleLagSeconds :=
    acceptedOr defaults.negligibleLagSeconds (0 ≤ ·) config.negligibleLagSeconds
  let commandTimeoutSeconds :=
    acceptedOr defaults.commandTimeoutSeconds (0 < ·) config.commandTimeoutSeconds
  let minimumSeekPreparationTimeout := min commandTimeoutSeconds maximumCatchupEpisodeSeconds
  { recoveryPolicy := config.recoveryPolicy
    negligibleLagSeconds
    hardSeekThresholdSeconds :=
      acceptedOr defaults.hardSeekThresholdSeconds (negligibleLagSeconds < ·)
        config.hardSeekThresholdSeconds
    maximumCatchupRate :=
      acceptedOr defaults.maximumCatchupRate
        (fun rate => normalPlaybackRate ≤ rate && rate ≤ 125 / 100) config.maximumCatchupRate
    maximumHardSeeksPerEpisode := config.maximumHardSeeksPerEpisode
    stabilityIntervalSeconds :=
      acceptedOr defaults.stabilityIntervalSeconds (0 < ·) config.stabilityIntervalSeconds
    positionToleranceSeconds :=
      acceptedOr defaults.positionToleranceSeconds (0 ≤ ·) config.positionToleranceSeconds
    commandTimeoutSeconds
    commandRetryBudget := config.commandRetryBudget
    commandRetryCooldownSeconds :=
      acceptedOr defaults.commandRetryCooldownSeconds (0 ≤ ·) config.commandRetryCooldownSeconds
    seekPreparationTimeoutSeconds :=
      clamp
        (acceptedOr defaults.seekPreparationTimeoutSeconds (0 < ·)
          config.seekPreparationTimeoutSeconds)
        minimumSeekPreparationTimeout maximumCatchupEpisodeSeconds
    seekPreparationMinimumHeadroomSeconds :=
      clamp
        (acceptedOr defaults.seekPreparationMinimumHeadroomSeconds (0 ≤ ·)
          config.seekPreparationMinimumHeadroomSeconds) 0 60
    nearestBufferedTargetLimitSeconds :=
      clamp
        (acceptedOr defaults.nearestBufferedTargetLimitSeconds (0 < ·)
          config.nearestBufferedTargetLimitSeconds) 1 60 }

end PlaybackCoordinatorConfig

/-! ### Desired room playback -/

structure DesiredRoomPlayback (Number : Type) where
  mediaGeneration : Nat
  stateRevision : Nat
  paused : Bool
  anchorPositionSeconds : Number
  anchorObservedAtSeconds : Number
  forceSeek : Bool

inductive DesiredRoomPlaybackUpdateKind where
  | ordinary
  | explicitSeek
  | explicitSeekAlreadyDispatched
  | authoritativeSeekAfterSupersededDispatch
  deriving DecidableEq

namespace DesiredRoomPlayback

/-- The update with its two finiteness checks. -/
def finite? (desired : DesiredRoomPlayback F64) : Option (DesiredRoomPlayback Seconds) := do
  let anchorPositionSeconds ← desired.anchorPositionSeconds.finite?
  let anchorObservedAtSeconds ← desired.anchorObservedAtSeconds.finite?
  return { desired with anchorPositionSeconds, anchorObservedAtSeconds }

def positionAt (desired : DesiredRoomPlayback Seconds) (nowSeconds : Seconds) : Seconds :=
  let elapsed := if desired.paused then 0 else max (nowSeconds - desired.anchorObservedAtSeconds) 0
  max (desired.anchorPositionSeconds + elapsed) 0

end DesiredRoomPlayback

/-! ### Observations of the player -/

inductive PlayerTransportPhase where
  | empty | loading | prebuffering | readyPaused | playing | rebuffering | seeking | ended | failed
  deriving DecidableEq

inductive PlayerTimelineKind where
  | unknown | vod | slidingLive
  deriving DecidableEq

structure PlayerSeekableRange (Number : Type) where
  startSeconds : Number
  endSeconds : Number

namespace PlayerSeekableRange

def finite? (range : PlayerSeekableRange F64) : Option (PlayerSeekableRange Seconds) := do
  let startSeconds ← range.startSeconds.finite?
  let endSeconds ← range.endSeconds.finite?
  return { startSeconds, endSeconds }

/-- `(start..=end).contains`. -/
def contains (range : PlayerSeekableRange Seconds) (target : Seconds) : Bool :=
  range.startSeconds ≤ target && target ≤ range.endSeconds

def shifted (range : PlayerSeekableRange Seconds) (deltaSeconds : Seconds) :
    PlayerSeekableRange Seconds :=
  { startSeconds := range.startSeconds + deltaSeconds
    endSeconds := range.endSeconds + deltaSeconds }

end PlayerSeekableRange

structure PlayerTransportObservation where
  mediaGeneration : Nat
  observedAtSeconds : F64
  phase : Option PlayerTransportPhase := none
  positionSeconds : Option F64 := none
  playbackRate : Option F64 := none
  logicalPause : Option Bool := none
  pausedForCache : Option Bool := none
  seeking : Option Bool := none
  seekable : Option Bool := none
  timelineKind : Option PlayerTimelineKind := none
  seekableRanges : Option (List (PlayerSeekableRange F64)) := none
  knownLiveSeekableWindow : Option (PlayerSeekableRange F64) := none
  coreIdle : Option Bool := none
  playbackRestartSequence : Option Nat := none
  cacheBufferingPercent : Option F64 := none
  bufferedAheadSeconds : Option F64 := none
  inputRateBytesPerSecond : Option Nat := none

structure ObservedPositionSample where
  observationSequence : Nat
  observedAtSeconds : Seconds
  positionSeconds : Seconds

structure ObservedState where
  observedAtSeconds : Seconds
  phase : PlayerTransportPhase := .empty
  positionSeconds : Option Seconds := none
  positionSample : Option ObservedPositionSample := none
  playbackRate : Option Seconds := none
  logicalPause : Option Bool := none
  pausedForCache : Bool := false
  seeking : Bool := false
  seekable : Option Bool := none
  seekableWindow : Option (Seconds × Seconds) := none
  timelineKind : Option PlayerTimelineKind := none
  knownLiveSeekableWindow : Option (PlayerSeekableRange Seconds) := none
  coreIdle : Option Bool := none
  playbackRestartSequence : Nat := 0
  cacheBufferingPercent : Option Seconds := none
  bufferedAheadSeconds : Option Seconds := none

/-! ### Commands and actions -/

inductive PlayerPlayIntent where
  | resume
  | startAfterLoad (baselineRestartSequence : Nat)
  | startAfterSeek (baselineRestartSequence : Nat)
  deriving DecidableEq

inductive CoordinatorPlayerCommand where
  | setPaused (paused : Bool)
  | play (intent : PlayerPlayIntent)
  | setPosition (positionSeconds : Seconds)
  | setPlaybackRate (rate : Seconds)
  deriving DecidableEq

abbrev CoordinatorCommandId := Nat

inductive PendingCommandKind where
  | pause
  | play (baselinePosition : Option Seconds) (intent : PlayerPlayIntent)
  | seek (targetPositionSeconds : Seconds) (baselineRestartSequence : Nat)
      (bufferedAlternative : Bool)
  | rate (targetRate : Seconds)
  deriving DecidableEq

namespace PendingCommandKind

/-- The pairs of kinds of which at most one command is in flight. -/
def sameKind : PendingCommandKind → PendingCommandKind → Bool
  | pause, pause => true
  | play .., play .. => true
  | seek .., seek .. => true
  | rate .., rate .. => true
  | _, _ => false

def isPause : PendingCommandKind → Bool
  | pause => true
  | _ => false

def isPlay : PendingCommandKind → Bool
  | play .. => true
  | _ => false

def isSeek : PendingCommandKind → Bool
  | seek .. => true
  | _ => false

def isRate : PendingCommandKind → Bool
  | rate _ => true
  | _ => false

def isBufferedAlternative : PendingCommandKind → Bool
  | seek _ _ bufferedAlternative => bufferedAlternative
  | _ => false

/-- A `Rate` whose target is the normal rate, up to a thousandth. -/
def isBaselineRate : PendingCommandKind → Bool
  | rate targetRate => distance targetRate normalPlaybackRate ≤ 1 / 1000
  | _ => false

/-- A `Rate` whose target is not the normal rate. -/
def isCatchupRate : PendingCommandKind → Bool
  | rate targetRate => 1 / 1000 < distance targetRate normalPlaybackRate
  | _ => false

end PendingCommandKind

structure PendingCommand where
  id : CoordinatorCommandId
  revision : Nat
  issuedAtSeconds : Seconds
  accepted : Bool
  kind : PendingCommandKind

inductive DegradedPlaybackReason where
  | nonSeekableLag
  | hardSeekBudgetExhausted
  | catchupDidNotConverge
  | recoveryCommandTimedOut
  | timelineWindowUnavailable
  | transportFailed
  deriving DecidableEq

inductive PlaybackCoordinatorAction where
  | execute (commandId : CoordinatorCommandId) (command : CoordinatorPlayerCommand)
  | requestRoomPause (recoveryEpisodeId : Nat)
  | revisionApplied (mediaGeneration stateRevision : Nat)
  | started (mediaGeneration stateRevision : Nat) (observedPositionSeconds : Seconds)
  | degraded (mediaGeneration : Nat) (recoveryEpisodeId : Option Nat)
      (reason : DegradedPlaybackReason)
  | commandTimedOut (commandId : CoordinatorCommandId)
  deriving DecidableEq

inductive PlaybackDiagnostic where
  | empty | loading | prebuffering | readyWaitingForRoom | starting | playing | rebuffering
  | recoveringByCatchup | recoveringBySeek | degraded | ended | failed
  deriving DecidableEq

structure PlaybackCoordinatorMetrics where
  firstFrameLatencySeconds : Option Seconds := none
  startedAckLatencySeconds : Option Seconds := none
  bufferEpisodeCount : Nat := 0
  totalBufferDurationSeconds : Seconds := 0
  hardSeekCount : Nat := 0
  gentleCatchupCount : Nat := 0
  degradedRecoveryCount : Nat := 0
  staleGenerationObservations : Nat := 0
  staleTimestampObservations : Nat := 0
  commandTimeouts : Nat := 0
  appliedRevisionCount : Nat := 0
  steadyStateSkewSeconds : Option Seconds := none
  lastBufferedAheadSeconds : Option Seconds := none
  lastInputRateBytesPerSecond : Option Nat := none

/-! ### Recovery and seek preparation -/

structure RecoveryEpisode where
  id : Nat
  mediaGeneration : Nat
  enteredAtSeconds : Seconds
  hardSeekAttempts : Nat
  postCacheBaselineAtSeconds : Option Seconds
  stableSinceSeconds : Option Seconds
  catchupDeadlineSeconds : Option Seconds
  decisionMade : Bool
  cacheMetricsFrozenUntilDecision : Bool
  catchupActive : Bool
  seekActive : Bool
  gentleCatchupOnly : Bool
  degraded : Bool

inductive SeekTargetAvailability where
  | cached | fetchRequired | unknown | outsideLiveWindow | nonSeekable
  deriving DecidableEq

inductive SeekPreparationPhase where
  | seeking | fetching | refilling | readyToJoin | catchingUp
  deriving DecidableEq

inductive SeekPreparationDegradedReason where
  | nonSeekable | outsideLiveWindow | timedOut | timelineWindowUnavailable | transportFailed
  deriving DecidableEq

inductive SeekPreparationTerminalOutcome where
  | ready | superseded | cancelled
  | degraded (reason : SeekPreparationDegradedReason)
  deriving DecidableEq

namespace SeekPreparationTerminalOutcome

def isDegraded : SeekPreparationTerminalOutcome → Bool
  | degraded _ => true
  | _ => false

/-- `Cancelled` or `Degraded`: the outcomes that hold a revision. -/
def holdsRevision : SeekPreparationTerminalOutcome → Bool
  | cancelled | degraded _ => true
  | _ => false

end SeekPreparationTerminalOutcome

structure SeekPreparationSnapshot where
  id : Nat
  mediaGeneration : Nat
  loadAttempt : Nat
  roomRevision : Nat
  latestRoomRevision : Nat
  requestedTargetSeconds : Seconds
  frozenTargetSeconds : Seconds
  frozenRoomAnchorPositionSeconds : Seconds
  frozenRoomAnchorObservedAtSeconds : Seconds
  latestRoomPositionSeconds : Seconds
  availability : SeekTargetAvailability
  phase : SeekPreparationPhase
  cacheBufferingPercent : Option Seconds
  bufferedAheadSeconds : Option Seconds
  nearestSafeBufferedPositionSeconds : Option Seconds
  startedAtSeconds : Seconds
  terminalOutcome : Option SeekPreparationTerminalOutcome
  canKeepWaiting : Bool
  canCancelAndRemain : Bool
  canJoinNearestBuffered : Bool

structure SeekPreparationEpisode where
  id : Nat
  mediaGeneration : Nat
  loadAttempt : Nat
  roomRevision : Nat
  latestRoomRevision : Nat
  latestRoomPaused : Bool
  requestedTargetSeconds : Seconds
  frozenTargetSeconds : Seconds
  frozenRoomAnchorPositionSeconds : Seconds
  frozenRoomAnchorObservedAtSeconds : Seconds
  latestRoomPositionSeconds : Seconds
  availability : SeekTargetAvailability
  phase : SeekPreparationPhase
  cacheBufferingPercent : Option Seconds
  bufferedAheadSeconds : Option Seconds
  inputRateBytesPerSecond : Option Nat
  nearestSafeBufferedPositionSeconds : Option Seconds
  startedAtSeconds : Seconds
  deadlineSeconds : Seconds
  primarySeekCommandId : Option CoordinatorCommandId
  primarySeekIssued : Bool
  primarySeekObservationSequence : Option Nat
  refillStartedObservationSequence : Option Nat
  refillReleasedAfterSeek : Bool
  stablePlayableSince : Option (Nat × Seconds)

def SeekPreparationEpisode.snapshot (episode : SeekPreparationEpisode)
    (terminalOutcome : Option SeekPreparationTerminalOutcome) : SeekPreparationSnapshot :=
  let active := terminalOutcome.isNone
  { id := episode.id
    mediaGeneration := episode.mediaGeneration
    loadAttempt := episode.loadAttempt
    roomRevision := episode.roomRevision
    latestRoomRevision := episode.latestRoomRevision
    requestedTargetSeconds := episode.requestedTargetSeconds
    frozenTargetSeconds := episode.frozenTargetSeconds
    frozenRoomAnchorPositionSeconds := episode.frozenRoomAnchorPositionSeconds
    frozenRoomAnchorObservedAtSeconds := episode.frozenRoomAnchorObservedAtSeconds
    latestRoomPositionSeconds := episode.latestRoomPositionSeconds
    availability := episode.availability
    phase := episode.phase
    cacheBufferingPercent := episode.cacheBufferingPercent
    bufferedAheadSeconds := episode.bufferedAheadSeconds
    nearestSafeBufferedPositionSeconds := episode.nearestSafeBufferedPositionSeconds
    startedAtSeconds := episode.startedAtSeconds
    terminalOutcome
    canKeepWaiting := active
    canCancelAndRemain := active && !episode.primarySeekIssued
    canJoinNearestBuffered :=
      active && !episode.latestRoomPaused && episode.nearestSafeBufferedPositionSeconds.isSome }

structure RateOverride where
  episodeId : Nat
  resetRequested : Bool
  resetCommandObservationSequence : Option Nat
  deriving DecidableEq

/-! ### The coordinator -/

structure PlaybackCoordinator where
  config : PlaybackCoordinatorConfig Seconds
  media : Option MediaState := none
  desired : Option (DesiredRoomPlayback Seconds) := none
  observed : Option ObservedState := none
  recovery : Option RecoveryEpisode := none
  seekPreparation : Option SeekPreparationEpisode := none
  lastSeekPreparationTerminal : Option SeekPreparationSnapshot := none
  cachedSeekableRanges : Option (List (PlayerSeekableRange Seconds)) := none
  pendingCommands : List PendingCommand := []
  nextMediaGeneration : Nat := 0
  nextRecoveryEpisodeId : Nat := 0
  nextSeekPreparationId : Nat := 0
  nextCommandId : Nat := 0
  lastAppliedRevision : Option Nat := none
  appliedObservationRevision : Option (Nat × Nat) := none
  lastStartedRevision : Option Nat := none
  desiredSeekSatisfiedRevision : Option Nat := none
  requiredSeekDispatchRevision : Option Nat := none
  authoritativeAlignmentGuardRevision : Option Nat := none
  completedSeekRestartBaseline : Option Nat := none
  rateOverride : Option RateOverride := none
  observationSequence : Nat := 0
  lastPlaybackRateObservationSequence : Option Nat := none
  retryNotBeforeSeconds : Seconds := 0
  failedCommandAttempts : Nat := 0
  commandBudgetDegraded : Bool := false
  pendingDegradedReason : Option DegradedPlaybackReason := none
  diagnostic : PlaybackDiagnostic := .empty
  metrics : PlaybackCoordinatorMetrics := {}

namespace PlaybackCoordinator

/-- `PlaybackCoordinator::new`. -/
def new (config : PlaybackCoordinatorConfig F64) : PlaybackCoordinator :=
  { config := config.normalized }

def currentMediaGeneration (c : PlaybackCoordinator) : Option Nat :=
  c.media.map (·.generation)

end PlaybackCoordinator

/-! ### Seekable ranges -/

/-- The end of a live window less a margin: a point there may still be written. -/
def safeLiveEnd (window : PlayerSeekableRange Seconds) : Seconds :=
  max
    (window.endSeconds - min 1 (max (window.endSeconds - window.startSeconds) 0 / 4))
    window.startSeconds

def latestValidSeekableWindow (ranges : List (PlayerSeekableRange Seconds)) :
    Option (Seconds × Seconds) :=
  let valid := ranges.filter fun range =>
    range.startSeconds ≤ range.endSeconds && 0 ≤ range.endSeconds
  -- `max_by` returns the last of several equal maxima
  let latest := valid.foldl (fun best range =>
    match best with
    | none => some range
    | some (best : PlayerSeekableRange Seconds) =>
      if range.endSeconds < best.endSeconds then some best else some range) none
  latest.map fun range => (max range.startSeconds 0, range.endSeconds)

/-- The order of `normalize_seekable_ranges`: by start, then by end. -/
def rangeLe (left right : PlayerSeekableRange Seconds) : Bool :=
  left.startSeconds < right.startSeconds
    || (left.startSeconds == right.startSeconds && left.endSeconds ≤ right.endSeconds)

/-- The merge loop; `merged` is held in reverse. -/
def mergeRange (merged : List (PlayerSeekableRange Seconds))
    (range : PlayerSeekableRange Seconds) : List (PlayerSeekableRange Seconds) :=
  match merged with
  | previous :: earlier =>
    if range.startSeconds ≤ previous.endSeconds then
      { previous with endSeconds := max previous.endSeconds range.endSeconds } :: earlier
    else range :: merged
  | [] => [range]

def normalizeSeekableRanges (ranges : List (PlayerSeekableRange F64)) :
    List (PlayerSeekableRange Seconds) :=
  let normalized := ranges.filterMap fun range =>
    range.finite?.bind fun range =>
      if range.startSeconds ≤ range.endSeconds && 0 ≤ range.endSeconds then
        some { range with startSeconds := max range.startSeconds 0 }
      else none
  ((normalized.mergeSort rangeLe).foldl mergeRange []).reverse

def rangesContain (ranges : Option (List (PlayerSeekableRange Seconds))) (target : Seconds) : Bool :=
  ranges.any (·.any (·.contains target))

def classifySeekTarget (kind : MediaTransportKind) (observedSeekable : Option Bool)
    (cachedRanges : Option (List (PlayerSeekableRange Seconds)))
    (knownLiveSeekableWindow : Option (PlayerSeekableRange Seconds)) (targetSeconds : Seconds) :
    SeekTargetAvailability :=
  let fetched := if cachedRanges.isSome then .fetchRequired else .unknown
  if kind = .nonSeekable || observedSeekable = some false then .nonSeekable
  else if kind = .localFile then .cached
  else if rangesContain cachedRanges targetSeconds then .cached
  else if kind = .liveSliding then
    match knownLiveSeekableWindow with
    | none => .unknown
    | some window =>
      if !window.contains targetSeconds then .outsideLiveWindow else fetched
  else fetched

def clampToLiveSeekableWindow (targetSeconds : Seconds)
    (window : Option (PlayerSeekableRange Seconds)) : Option Seconds :=
  window.map fun window => clamp targetSeconds window.startSeconds (safeLiveEnd window)

def nearestBufferedTarget (kind : MediaTransportKind) (targetSeconds : Seconds)
    (ranges : Option (List (PlayerSeekableRange Seconds))) (maximumDistanceSeconds : Seconds) :
    Option Seconds :=
  ranges.bind fun ranges =>
    if ranges.any (·.contains targetSeconds) then none
    else
      let candidates := ranges.map fun range =>
        clamp targetSeconds range.startSeconds
          (if kind = .liveSliding then safeLiveEnd range else range.endSeconds)
      let apart := candidates.filter fun candidate => epsilon < distance candidate targetSeconds
      -- `min_by` returns the first of several equal minima
      let nearest := apart.foldl (fun best candidate =>
        match best with
        | none => some candidate
        | some (best : Seconds) =>
          if distance candidate targetSeconds < distance best targetSeconds then some candidate
          else some best) none
      nearest.filter fun candidate => distance candidate targetSeconds ≤ maximumDistanceSeconds

end Sorotte.Coordinator
