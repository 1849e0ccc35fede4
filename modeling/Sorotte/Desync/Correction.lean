import Sorotte.Framework.Runs
import Sorotte.Protocol.Payloads

/-! # Desync corrections

  `evaluate_desync_correction_for_room_playstate` and what else touches the
  fields it decides by: the player's telemetry with its cache recovery, and the
  reset for a reconnect.  Times, positions and rates are exact rationals.
-/

namespace Sorotte.Desync

/-! ### State -/

structure DesyncCorrectionConfig where
  rewindOnDesync : Bool
  rewindThresholdSeconds : Seconds
  fastforwardOnDesync : Bool
  fastforwardThresholdSeconds : Seconds
  fastforwardBehindThresholdSeconds : Seconds
  fastforwardExtraSeconds : Seconds
  fastforwardResetThresholdSeconds : Seconds
  slowOnDesync : Bool
  slowdownThresholdSeconds : Seconds
  slowdownRate : Seconds
  slowdownResetThresholdSeconds : Seconds

/-- No threshold is negative. -/
structure DesyncCorrectionConfig.Valid (config : DesyncCorrectionConfig) : Prop where
  rewind : 0 ≤ config.rewindThresholdSeconds
  fastforward : 0 ≤ config.fastforwardThresholdSeconds
  behind : 0 ≤ config.fastforwardBehindThresholdSeconds
  fastforwardReset : 0 ≤ config.fastforwardResetThresholdSeconds
  slowdown : 0 ≤ config.slowdownThresholdSeconds
  slowdownReset : 0 ≤ config.slowdownResetThresholdSeconds

/-- How long a client must have been behind. -/
def DesyncCorrectionConfig.sustainSeconds (config : DesyncCorrectionConfig) : Seconds :=
  config.fastforwardThresholdSeconds - config.fastforwardBehindThresholdSeconds

inductive DesyncCorrectionAction where
  | none
  | rewind (targetPosition : Seconds) (setBy : Option String)
  | fastForward (targetPosition : Seconds) (setBy : Option String)
  | slowDown (rate : Seconds) (setBy : Option String)
  | restoreSpeed (rate : Seconds)
  deriving DecidableEq

structure RoomPlaystateView where
  position : Option Seconds
  paused : Option Bool
  doSeek : Option Bool
  setBy : Option String

structure PlayerPlaybackTelemetryUpdate where
  positionSeconds : Option Seconds
  paused : Option Bool
  playbackRate : Option Seconds
  pausedForCache : Option Bool
  cacheBufferingPercent : Option Seconds

/-- The fields of the session that corrections depend on. -/
structure ClientSession where
  username : Option String := none
  roomName : Option String := none
  playstateAuthorityChangedAtSeconds : BTreeMap String Seconds := ∅
  desyncConfig : DesyncCorrectionConfig
  localPosition : Option Seconds := none
  localPaused : Option Bool := none
  localPlaybackRate : Option Seconds := none
  localPausedForCache : Option Bool := none
  localCacheBufferingPercent : Option Seconds := none
  pendingCacheRoomPlaystateResync : Bool := false
  cacheRecoveryObservationPosition : Option Seconds := none
  cacheRecoveryWaitingForPostCachePosition : Bool := false
  speedChanged : Bool := false
  speedCorrectionRate : Option Seconds := none
  behindFirstDetectedAtSeconds : Option Seconds := none

/-- `NORMAL_PLAYBACK_RATE`. -/
def normalPlaybackRate : Seconds := 1

/-- `SELF_ORIGIN_CORRECTION_GRACE_SECONDS`. -/
def selfOriginCorrectionGraceSeconds : Seconds := 2

/-- `CACHE_RECOVERY_MIN_OBSERVED_ADVANCEMENT_SECONDS`. -/
def cacheRecoveryMinObservedAdvancementSeconds : Seconds := 1 / 100

namespace ClientSession

/-! ### Evaluating a correction -/

/-- The room's position and pause state, when a correction may be made towards them. -/
def correctable (s : ClientSession) (room : RoomPlaystateView) : Option (Seconds × Bool) :=
  if s.localPausedForCache = some true ∨ s.pendingCacheRoomPlaystateResync = true then none
  else
    match room.position, room.paused with
    | some globalPosition, some globalPaused =>
        if room.doSeek = some true then none else some (globalPosition, globalPaused)
    | _, _ => none

/-- The room's state was set by this user, no longer than the grace ago. -/
def selfOriginGraceActive (s : ClientSession) (setBy : Option String)
    (nowSeconds graceSeconds : Seconds) : Bool :=
  (match s.username, setBy with
    | some username, some setBy => username == setBy
    | _, _ => false)
    && (s.roomName.bind fun room => s.playstateAuthorityChangedAtSeconds[room]?).all
      fun updatedAt => 0 ≤ nowSeconds - updatedAt && nowSeconds - updatedAt ≤ graceSeconds

def correctionGraceActive (s : ClientSession) (setBy : Option String) (nowSeconds : Seconds) :
    Bool :=
  s.selfOriginGraceActive setBy nowSeconds selfOriginCorrectionGraceSeconds

def fastforwardGraceActive (s : ClientSession) (setBy : Option String) (nowSeconds : Seconds) :
    Bool :=
  s.selfOriginGraceActive setBy nowSeconds
    (selfOriginCorrectionGraceSeconds + max s.desyncConfig.sustainSeconds 0)

def forgetLag (s : ClientSession) : ClientSession :=
  { s with behindFirstDetectedAtSeconds := none }

def restoreSpeed (s : ClientSession) : ClientSession × DesyncCorrectionAction :=
  ({ s with
      speedChanged := false
      speedCorrectionRate := none
      localPlaybackRate := some normalPlaybackRate },
    .restoreSpeed normalPlaybackRate)

def slowDown (s : ClientSession) (setBy : Option String) :
    ClientSession × DesyncCorrectionAction :=
  ({ s with
      speedChanged := true
      speedCorrectionRate := some s.desyncConfig.slowdownRate
      localPlaybackRate := some s.desyncConfig.slowdownRate },
    .slowDown s.desyncConfig.slowdownRate setBy)

/-- The client is ahead by more than a rewind tolerates. -/
def rewinds (s : ClientSession) (diff : Seconds) : Bool :=
  s.desyncConfig.rewindOnDesync && decide (s.desyncConfig.rewindThresholdSeconds < diff)

/-- The client may be fast-forwarded, and is behind by more than it tolerates. -/
def lags (s : ClientSession) (diff : Seconds) (localCanControl dontSlowDownWithMe : Bool) : Bool :=
  s.desyncConfig.fastforwardOnDesync && (!localCanControl || dontSlowDownWithMe)
    && decide (diff < -s.desyncConfig.fastforwardBehindThresholdSeconds)

/-- The lag has lasted long enough, and is large enough now. -/
def fastforwardDue (s : ClientSession) (diff nowSeconds : Seconds) : Bool :=
  s.behindFirstDetectedAtSeconds.any fun first =>
    decide (s.desyncConfig.sustainSeconds < nowSeconds - first)
      && decide (diff < -s.desyncConfig.fastforwardThresholdSeconds)

/-- The detector after an evaluation that fast-forwards nothing. -/
def trackLag (s : ClientSession) (diff nowSeconds : Seconds)
    (localCanControl dontSlowDownWithMe : Bool) : ClientSession :=
  if s.lags diff localCanControl dontSlowDownWithMe then
    { s with
      behindFirstDetectedAtSeconds := some (s.behindFirstDetectedAtSeconds.getD nowSeconds) }
  else s.forgetLag

/-- The detector keeps away the next fast-forward. -/
def coolDown (s : ClientSession) (nowSeconds : Seconds) : ClientSession :=
  { s with
    behindFirstDetectedAtSeconds :=
      some (nowSeconds + s.desyncConfig.fastforwardResetThresholdSeconds) }

def ratesMatch (rate target : Seconds) : Bool := decide (|rate - target| ≤ 1 / 1000)

/-- The part of the evaluation that changes the playback rate. -/
def correctSpeed (s : ClientSession) (room : RoomPlaystateView) (globalPaused : Bool)
    (diff nowSeconds : Seconds) (speedSupported : Bool) :
    ClientSession × DesyncCorrectionAction :=
  if speedSupported && s.speedChanged && !s.desyncConfig.slowOnDesync then s.restoreSpeed
  else if speedSupported && !globalPaused && s.desyncConfig.slowOnDesync then
    let reset := s.desyncConfig.slowdownResetThresholdSeconds
    let target := s.desyncConfig.slowdownRate
    let crossedTarget := s.speedCorrectionRate.any fun rate =>
      decide (rate < normalPlaybackRate) && decide (diff ≤ reset)
    if s.speedChanged && crossedTarget then s.restoreSpeed
    else if s.desyncConfig.slowdownThresholdSeconds < diff then
      if s.correctionGraceActive room.setBy nowSeconds then (s, .none)
      else if (s.speedCorrectionRate.any fun rate => ratesMatch rate target)
          && (s.localPlaybackRate.all fun rate => ratesMatch rate target) then (s, .none)
      else s.slowDown room.setBy
    else if s.speedChanged && decide (|diff| < reset) then s.restoreSpeed
    else (s, .none)
  else (s, .none)

def evaluateDesyncCorrectionForRoomPlaystate (s : ClientSession) (room : RoomPlaystateView)
    (nowSeconds localPosition : Seconds)
    (localCanControl dontSlowDownWithMe speedSupported : Bool) :
    ClientSession × DesyncCorrectionAction :=
  match s.correctable room with
  | none => (s.forgetLag, .none)
  | some (globalPosition, globalPaused) =>
      let diff := localPosition - globalPosition
      if s.rewinds diff then
        let s := s.forgetLag
        if s.correctionGraceActive room.setBy nowSeconds then (s, .none)
        else if s.speedChanged then s.restoreSpeed
        else (s, .rewind globalPosition room.setBy)
      else if s.lags diff localCanControl dontSlowDownWithMe && s.fastforwardDue diff nowSeconds then
        let s := s.coolDown nowSeconds
        if s.fastforwardGraceActive room.setBy nowSeconds then (s, .none)
        else if s.speedChanged then s.restoreSpeed
        else
          (s, .fastForward (globalPosition + s.desyncConfig.fastforwardExtraSeconds) room.setBy)
      else
        (s.trackLag diff nowSeconds localCanControl dontSlowDownWithMe).correctSpeed room
          globalPaused diff nowSeconds speedSupported

/-- One call of `evaluate_desync_correction`. -/
structure Evaluation where
  room : Option RoomPlaystateView
  nowSeconds : Seconds
  localPosition : Seconds
  localCanControl : Bool
  dontSlowDownWithMe : Bool
  speedSupported : Bool

def evaluateDesyncCorrection (s : ClientSession) (e : Evaluation) :
    ClientSession × DesyncCorrectionAction :=
  match e.room with
  | none => (s.forgetLag, .none)
  | some room =>
      s.evaluateDesyncCorrectionForRoomPlaystate room e.nowSeconds e.localPosition
        e.localCanControl e.dontSlowDownWithMe e.speedSupported

/-! ### Cache events -/

/-- `replace_player_playback_telemetry_from_authoritative_snapshot`. -/
def replaceTelemetry (s : ClientSession) (snapshot : PlayerPlaybackTelemetryUpdate) :
    ClientSession :=
  let localPosition := snapshot.positionSeconds.filter fun position => 0 ≤ position
  let cachePauseActive := snapshot.pausedForCache == some true
  { s with
    localPosition := localPosition
    localPaused := snapshot.paused
    localPlaybackRate := snapshot.playbackRate.filter fun rate => 0 < rate
    localPausedForCache := snapshot.pausedForCache
    localCacheBufferingPercent :=
      snapshot.cacheBufferingPercent.filter fun percent => 0 ≤ percent && percent ≤ 100
    pendingCacheRoomPlaystateResync := cachePauseActive
    cacheRecoveryObservationPosition := if cachePauseActive then localPosition else none
    cacheRecoveryWaitingForPostCachePosition := false }

/-- The first branch of an update: the cache pauses the player or lets it go. -/
def observeCachePause (s : ClientSession) (observedPosition : Option Seconds)
    (pausedForCache : Bool) : ClientSession :=
  let cachePauseWasActive := s.localPausedForCache == some true
  let s := { s with localPausedForCache := some pausedForCache }
  if pausedForCache then
    { s with
      pendingCacheRoomPlaystateResync := true
      cacheRecoveryObservationPosition := observedPosition.or s.localPosition
      cacheRecoveryWaitingForPostCachePosition := false }
  else if cachePauseWasActive && s.pendingCacheRoomPlaystateResync then
    { s with cacheRecoveryWaitingForPostCachePosition := true }
  else s

/-- The resynchronisation ends once the player advanced after the cache let it go. -/
def observeRecovery (s : ClientSession) (position : Seconds) : ClientSession :=
  if s.cacheRecoveryWaitingForPostCachePosition then
    { s with
      cacheRecoveryObservationPosition := some position
      cacheRecoveryWaitingForPostCachePosition := false }
  else
    match s.cacheRecoveryObservationPosition with
    | none => { s with cacheRecoveryObservationPosition := some position }
    | some baseline =>
        if s.localPaused = some false
            ∧ cacheRecoveryMinObservedAdvancementSeconds < position - baseline then
          { s with
            pendingCacheRoomPlaystateResync := false
            cacheRecoveryObservationPosition := none }
        else s

/-- The branches of an update up to the position. -/
def observePlayer (s : ClientSession) (update : PlayerPlaybackTelemetryUpdate)
    (observedPosition : Option Seconds) : ClientSession :=
  let s := update.pausedForCache.elim s (s.observeCachePause observedPosition)
  let percent :=
    update.cacheBufferingPercent.filter fun percent => 0 ≤ percent && percent ≤ 100
  { s with
    localCacheBufferingPercent := percent.or s.localCacheBufferingPercent
    localPaused :=
      if s.localPausedForCache = some true then s.localPaused
      else update.paused.or s.localPaused
    localPosition := observedPosition.or s.localPosition }

/-- `apply_player_playback_telemetry_update`. -/
def applyTelemetry (s : ClientSession) (update : PlayerPlaybackTelemetryUpdate) :
    ClientSession :=
  let observedPosition := update.positionSeconds.filter fun position => 0 ≤ position
  let s := s.observePlayer update observedPosition
  let s :=
    if s.pendingCacheRoomPlaystateResync && s.localPausedForCache != some true then
      observedPosition.elim s s.observeRecovery
    else s
  let rate := update.playbackRate.filter fun rate => 0 < rate
  { s with localPlaybackRate := rate.or s.localPlaybackRate }

/-- The resynchronisation is cleared, waits on, or starts anew from the local position. -/
inductive CacheResync where
  /-- The room is paused. -/
  | roomPaused
  /-- The room plays while the cache is not ready. -/
  | roomPlaying
  /-- An unpause was handed to the player. -/
  | unpauseRequested
  /-- The pause of the room reached the player. -/
  | roomPauseSynced

/-- How `run_room_pause_sync` and `finish_room_pause_sync` move the resynchronisation. -/
def moveCacheResync (s : ClientSession) : CacheResync → ClientSession
  | .roomPaused =>
      { s with
        pendingCacheRoomPlaystateResync := false
        cacheRecoveryObservationPosition := none
        cacheRecoveryWaitingForPostCachePosition := false }
  | .roomPlaying => { s with pendingCacheRoomPlaystateResync := true }
  | .unpauseRequested =>
      { s with
        pendingCacheRoomPlaystateResync := true
        cacheRecoveryObservationPosition := s.localPosition
        cacheRecoveryWaitingForPostCachePosition := false }
  | .roomPauseSynced => { s with pendingCacheRoomPlaystateResync := false }

/-! ### Connections -/

/-- `reset_sync_state_for_reconnect_with_attempt`, as far as these fields go. -/
def resetSyncStateForReconnect (s : ClientSession) : ClientSession :=
  { s with
    playstateAuthorityChangedAtSeconds := ∅
    localPosition := none
    localPaused := none
    localPlaybackRate := none
    localPausedForCache := none
    localCacheBufferingPercent := none
    pendingCacheRoomPlaystateResync := false
    cacheRecoveryObservationPosition := none
    cacheRecoveryWaitingForPostCachePosition := false
    speedChanged := false
    speedCorrectionRate := none
    behindFirstDetectedAtSeconds := none }

end ClientSession

/-! ### Runs -/

inductive Op where
  | evaluate (evaluation : ClientSession.Evaluation)
  | telemetry (update : PlayerPlaybackTelemetryUpdate)
  | snapshot (snapshot : PlayerPlaybackTelemetryUpdate)
  | cacheResync (resync : ClientSession.CacheResync)
  | reconnect
  /-- The user, the room and the times its states were set at are replaced. -/
  | membership (username roomName : Option String) (changedAt : BTreeMap String Seconds)

def perform (s : ClientSession) : Op → ClientSession × DesyncCorrectionAction
  | .evaluate evaluation => s.evaluateDesyncCorrection evaluation
  | .telemetry update => (s.applyTelemetry update, .none)
  | .snapshot snapshot => (s.replaceTelemetry snapshot, .none)
  | .cacheResync resync => (s.moveCacheResync resync, .none)
  | .reconnect => (s.resetSyncStateForReconnect, .none)
  | .membership username roomName changedAt =>
      ({ s with
          username := username
          roomName := roomName
          playstateAuthorityChangedAtSeconds := changedAt }, .none)

def step (s : ClientSession) (op : Op) : ClientSession := (perform s op).1

def action (s : ClientSession) (op : Op) : DesyncCorrectionAction := (perform s op).2

end Sorotte.Desync
