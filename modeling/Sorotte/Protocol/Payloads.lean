import Mathlib

/-! # Wire payloads of the playback-barrier and readiness extensions

  The payload records of `sorotte-protocol` that the server runtime reads or
  publishes.  Field names follow the source; every 64-bit counter is a `Nat`.

  Positions and clock values are exact rationals.  A value that a peer may send
  is an `F64`, because the source tests `is_finite` before it trusts one.
-/

namespace Sorotte

/-- Ordered map of the source; extensional, so equal contents are equal maps. -/
abbrev BTreeMap (K V : Type) [Ord K] := Std.ExtTreeMap K V compare

/-- Ordered set of the source. -/
abbrev BTreeSet (K : Type) [Ord K] := Std.ExtTreeSet K compare

/-- Seconds on one of the server's clocks, or a media position. -/
abbrev Seconds := ℚ

/-- A 64-bit float as a peer may send it. -/
inductive F64 where
  | finite (value : Seconds)
  /-- NaN or an infinity. -/
  | nonFinite
  deriving DecidableEq, Repr

namespace F64

def isFinite : F64 → Bool
  | finite _ => true
  | nonFinite => false

/-- `Some(value)` filtered by `is_finite`. -/
def finite? : F64 → Option Seconds
  | finite value => some value
  | nonFinite => none

end F64

/-- Largest `u64`. -/
def u64Max : Nat := 2 ^ 64 - 1

/-- `char::is_whitespace`: the Unicode `White_Space` code points. -/
def isWhitespaceChar (c : Char) : Bool :=
  let n := c.toNat
  (9 ≤ n && n ≤ 13) || n == 32 || n == 133 || n == 160 || n == 5760
    || (8192 ≤ n && n ≤ 8202) || n == 8232 || n == 8233 || n == 8239 || n == 8287 || n == 12288

/-- `str::trim`. -/
def trimText (text : String) : String :=
  String.ofList
    ((text.toList.dropWhile isWhitespaceChar).reverse.dropWhile isWhitespaceChar).reverse

/-! ### Playback barrier -/

inductive RoomBufferingPolicy where
  | independent | pauseController | pauseAnyEligible | quorum
  deriving DecidableEq, Repr

inductive MediaLoadIntent where
  | newPlayback | replay | transportRefresh
  deriving DecidableEq, Repr

structure RoomBufferingPolicyPayload where
  mediaGeneration : Nat
  requestId : Option String
  requestNonce : Nat
  loadIntent : MediaLoadIntent
  stateRevision : Option Nat
  policy : RoomBufferingPolicy
  quorumPercent : Option Nat
  debounceMs : Option Nat
  resumeHysteresisMs : Option Nat
  maxPauseMs : Option Nat
  deriving DecidableEq, Repr

structure TransportBufferingReportPayload where
  mediaGeneration : Nat
  stateRevision : Option Nat
  buffering : Bool
  bufferedSeconds : Option F64
  observedAt : Option F64
  deriving DecidableEq, Repr

inductive RoomBufferingPhase where
  | independent | monitoring | debouncingPause | paused | debouncingResume | failOpen
  deriving DecidableEq, Repr

structure RoomBufferingStatusPayload where
  config : RoomBufferingPolicyPayload
  phase : RoomBufferingPhase
  eligibleClients : Nat
  requiredBufferingClients : Nat
  bufferingClients : List String
  pauseDeadline : Option Seconds
  deriving DecidableEq, Repr

inductive PlaybackBarrierPolicy where
  | allEligible | controller | quorum
  deriving DecidableEq, Repr

inductive PlaybackBarrierTimeoutAction where
  | continue_ | remainPaused | askController
  deriving DecidableEq, Repr

inductive PlaybackBarrierRecoveryDisposition where
  | recovered | existing | absent | superseded | rejected
  deriving DecidableEq, Repr

structure PlaybackBarrierRequestResultPayload where
  requestId : String
  requestNonce : Nat
  retryAfterMs : Nat
  deriving DecidableEq, Repr

structure PlaybackBarrierRecoveryPayload where
  requestId : String
  originalRequestNonce : Nat
  recoveryNonce : Nat
  logicalMediaId : String
  disposition : Option PlaybackBarrierRecoveryDisposition
  mediaGeneration : Option Nat
  deriving DecidableEq, Repr

/-- A prepare as a client sends it. -/
structure PrepareMediaRequest where
  mediaGeneration : Nat
  requestNonce : Nat
  requestId : Option String
  loadIntent : MediaLoadIntent
  logicalMediaId : String
  targetPosition : F64
  policy : PlaybackBarrierPolicy
  quorum : Option Nat
  quorumPercent : Option Nat
  timeoutMs : Option Nat
  timeoutAction : Option PlaybackBarrierTimeoutAction
  deriving DecidableEq, Repr

/-- A prepare as the server stores and publishes it: the target is finite. -/
structure PrepareMediaPayload where
  mediaGeneration : Nat
  requestNonce : Nat
  requestId : Option String
  loadIntent : MediaLoadIntent
  logicalMediaId : String
  targetPosition : Seconds
  policy : PlaybackBarrierPolicy
  quorum : Option Nat
  quorumPercent : Option Nat
  timeoutMs : Option Nat
  timeoutAction : Option PlaybackBarrierTimeoutAction
  deadline : Option Seconds
  deriving DecidableEq, Repr

structure MediaReadyPayload where
  mediaGeneration : Nat
  loaded : Bool
  seekable : Option Bool
  bufferReady : Bool
  deriving DecidableEq, Repr

def MediaReadyPayload.isReady (ready : MediaReadyPayload) : Bool :=
  ready.loaded && ready.bufferReady

structure CommitStartPayload where
  mediaGeneration : Nat
  stateRevision : Nat
  readinessRevision : Option Nat
  anchorPosition : Seconds
  anchorServerTime : Seconds
  startedDeadline : Seconds
  deriving DecidableEq, Repr

structure StartedAckPayload where
  mediaGeneration : Nat
  stateRevision : Nat
  observedPosition : F64
  deriving DecidableEq, Repr

inductive PlaybackBarrierPhase where
  | preparing | committed | awaitingDecision | complete | degraded
  deriving DecidableEq, Repr

inductive PlaybackBarrierParticipantPhase where
  | pending | ready | started | degraded | prepareTimedOut | startedAckTimedOut
  deriving DecidableEq, Repr

inductive PlaybackBarrierDegradedReason where
  | prepareTimeout | notReadyAtCommit | startedTimeout | userInterrupted | disconnected
  | superseded
  deriving DecidableEq, Repr

structure PlaybackBarrierParticipantStatus where
  phase : PlaybackBarrierParticipantPhase
  readiness : Option MediaReadyPayload
  observedPosition : Option Seconds
  degradedReason : Option PlaybackBarrierDegradedReason
  deriving DecidableEq, Repr

def PlaybackBarrierParticipantStatus.pending : PlaybackBarrierParticipantStatus :=
  { phase := .pending, readiness := none, observedPosition := none, degradedReason := none }

structure PlaybackBarrierStatusPayload where
  mediaGeneration : Nat
  stateRevision : Option Nat
  phase : PlaybackBarrierPhase
  policy : PlaybackBarrierPolicy
  quorum : Option Nat
  deadline : Seconds
  participants : List (String × PlaybackBarrierParticipantStatus)
  excludedUnsupportedClients : List String
  deriving DecidableEq, Repr

/-- What the server publishes under `sorottePlaybackBarrierV1`. -/
structure PlaybackBarrierSetExtension where
  prepare : Option PrepareMediaPayload := none
  commit : Option CommitStartPayload := none
  status : Option PlaybackBarrierStatusPayload := none
  bufferingPolicy : Option RoomBufferingPolicyPayload := none
  bufferingStatus : Option RoomBufferingStatusPayload := none
  recovery : Option PlaybackBarrierRecoveryPayload := none
  requestResult : Option PlaybackBarrierRequestResultPayload := none
  deriving DecidableEq, Repr

/-- What a client sends under `sorottePlaybackBarrierV1` in a Set.  Commit,
    status and results are server-owned: the server drops them unread. -/
structure PlaybackBarrierSetRequest where
  prepare : Option PrepareMediaRequest := none
  bufferingPolicy : Option RoomBufferingPolicyPayload := none
  recovery : Option PlaybackBarrierRecoveryPayload := none
  deriving DecidableEq, Repr

/-- What a client sends under `sorottePlaybackBarrierV1` in a State. -/
structure PlaybackBarrierStateExtension where
  ready : Option MediaReadyPayload := none
  started : Option StartedAckPayload := none
  transport : Option TransportBufferingReportPayload := none
  deriving DecidableEq, Repr

/-! ### Readiness -/

inductive UserReadinessIntent where
  | ready | notReady
  deriving DecidableEq, Repr

inductive DirectReadinessSurface where
  | guiButton | guiMenu | cliCommand | chatCommand | keyboardShortcut | remoteControlSurface
  deriving DecidableEq, Repr

inductive PlayerReadinessAction where
  | play | pause
  deriving DecidableEq, Repr

inductive PlayerInteractionSurface where
  | sorottePlaybackControl | nativePlayerControl | mediaKey | playerIpcUserCommand
  deriving DecidableEq, Repr

inductive UserReadinessMutationSource where
  | initialization
  | directUser (surface : DirectReadinessSurface)
  | indirectPlayer (action : PlayerReadinessAction) (surface : PlayerInteractionSurface)
  deriving DecidableEq, Repr

inductive TechnicalBlockCause where
  | loading | seeking | prebuffering | rebuffering | cachePause | roomBufferingPolicy
  | transportRefresh | mediaGenerationReplacement | adapterReplacement | recovery | endOfFile
  | mediaUnavailable | mediaMappingUnavailable | playerFailure | adapterFailure
  | recoveryExhausted | unknown
  deriving DecidableEq, Repr

inductive RecoveryStage where
  | notStarted | waiting | retrying | reloadingMedia | restartingPlayer | replacingAdapter
  deriving DecidableEq, Repr

inductive ReadinessMutationSource where
  | directUser (surface : DirectReadinessSurface)
  | indirectPlayer (action : PlayerReadinessAction) (surface : PlayerInteractionSurface)
  | controllerOverride (actor : String)
  | initialization
  deriving DecidableEq, Repr

structure ReadinessMutationMetadata where
  source : ReadinessMutationSource
  actor : Option String := none
  operationId : Option String := none
  roomReadinessRevision : Nat
  deriving DecidableEq, Repr

inductive TechnicalPlayabilityPhase where
  | unknown | preparing | playable | temporarilyBlocked | terminallyBlocked
  deriving DecidableEq, Repr

inductive TechnicalPlayability where
  | unknown
  | preparing (mediaGeneration : Nat)
  | playable (mediaGeneration : Nat)
  | temporarilyBlocked (mediaGeneration : Nat) (cause : TechnicalBlockCause)
      (recovery : RecoveryStage)
  | terminallyBlocked (mediaGeneration : Nat) (cause : TechnicalBlockCause)
  deriving DecidableEq, Repr

structure TechnicalReadinessBlock where
  mediaGeneration : Nat
  cause : TechnicalBlockCause
  deriving DecidableEq, Repr

inductive StartParticipationRole where
  | required | spectator | excludedUnsupported
  deriving DecidableEq, Repr

inductive MixedReadinessPolicy where
  | requireAllMembers | excludeUnsupported
  deriving DecidableEq, Repr

inductive RoomPauseOwner where
  | none
  | user (actor : String)
  | readinessStartGate (mediaGeneration : Nat)
  | roomBufferingPolicy (mediaGeneration : Nat) (stateRevision : Option Nat)
  | recovery
  | endOfPlaylist
  deriving DecidableEq, Repr

/-- The owner is some user, whoever it is. -/
def RoomPauseOwner.isUser : RoomPauseOwner → Bool
  | user _ => true
  | _ => false

inductive StartGateDegradedReason where
  | superseded | readinessChanged | technicalFailure | userPaused | pauseOwnershipLost
  | cancelled | timedOut | noRequiredParticipants | unsupportedParticipant
  deriving DecidableEq, Repr

inductive RoomStartGatePhase where
  | inactive
  | waitingForIntent (mediaGeneration : Nat)
  | waitingForTechnicalReadiness (mediaGeneration : Nat)
  | readyToCommit (mediaGeneration readinessRevision : Nat)
  | committed (mediaGeneration readinessRevision playbackRevision : Nat)
  | degraded (mediaGeneration : Nat) (reason : StartGateDegradedReason)
  deriving DecidableEq, Repr

structure ReadinessIntentRequest where
  operationId : String
  requestNonce : Nat
  membershipEpoch : Nat
  desired : UserReadinessIntent
  source : UserReadinessMutationSource
  targetUsername : Option String
  expectedUserIntentRevision : Option Nat
  deriving DecidableEq, Repr

structure TechnicalReadinessReport where
  mediaGeneration : Nat
  membershipEpoch : Nat
  reportSequence : Nat
  authoritativePlaybackRevision : Option Nat
  phase : TechnicalPlayabilityPhase
  reason : Option TechnicalBlockCause
  recovery : Option RecoveryStage
  observedAt : Option F64
  deriving DecidableEq, Repr

structure ParticipantReadiness where
  membershipEpoch : Nat
  lastTechnicalReportSequence : Nat
  userIntent : UserReadinessIntent
  userIntentRevision : Nat
  lastUserMutation : Option ReadinessMutationMetadata
  technicalState : TechnicalPlayability
  terminalTechnicalBlock : Option TechnicalReadinessBlock
  participationRole : StartParticipationRole
  roomReady : Bool
  startEligible : Bool
  deriving DecidableEq, Repr

/-- A participant record as published, with the room revision it was read at. -/
structure ParticipantReadinessUpdate where
  roomReadinessRevision : Nat
  username : String
  record : ParticipantReadiness
  acceptedOperationId : Option String
  deriving DecidableEq, Repr

structure RoomReadinessSnapshot where
  roomReadinessRevision : Nat
  mediaGeneration : Option Nat
  startGatePhase : RoomStartGatePhase
  pauseOwner : RoomPauseOwner
  mixedReadinessPolicy : MixedReadinessPolicy
  participants : List (String × ParticipantReadinessUpdate)
  deriving DecidableEq, Repr

inductive ReadinessRequestResultStatus where
  | accepted | duplicate | superseded | rejectedStaleMembership | rejectedStaleNonce
  | rejectedRevisionConflict | rejectedUnauthorized | rejectedInvalid
  deriving DecidableEq, Repr

structure ReadinessRequestResultPayload where
  operationId : String
  requestNonce : Nat
  status : ReadinessRequestResultStatus
  roomReadinessRevision : Option Nat
  membershipEpoch : Option Nat
  userIntentRevision : Option Nat
  deriving DecidableEq, Repr

structure ReadinessMembershipIdentity where
  room : String
  membershipEpoch : Nat
  reconnectToken : String
  deriving DecidableEq, Repr

/-- What the server publishes under `sorotteReadinessV2`. -/
structure ReadinessSetExtension where
  participant : Option ParticipantReadinessUpdate := none
  snapshot : Option RoomReadinessSnapshot := none
  membership : Option ReadinessMembershipIdentity := none
  requestResult : Option ReadinessRequestResultPayload := none
  deriving DecidableEq, Repr

end Sorotte
