import Sorotte.Framework.Program
import Sorotte.Protocol.Payloads

/-! # Server runtime state

  The records of `sorotte-server/src/lib.rs` and `inbound.rs` that the protocol
  handlers read and write.  Left out are the parts that no modelled handler
  reads: ping estimation, retained participant-status reports and their caches,
  TLS, statistics, message-of-the-day templates and the JSON frame-size checks.

  Three fields are not in the source.  `clock` holds the readings that the step
  in progress takes from the wall clock, the local elapsed-time clock and the
  request clock.  `history` and `sampleRooms` are history variables: handlers
  write them and never read them, and the run properties are stated over them.
-/

namespace Sorotte.Server

open Sorotte.Framework

/-! ### Sessions -/

/-- The negotiated features a handler asks about. -/
structure ServerClientCapabilities where
  playbackBarrierV1 : Bool := false
  readinessV2 : Bool := false
  participantStatusV1 : Bool := false
  remoteReadiness : Bool := false
  plexPlaylistUris : Bool := false
  mediaMatch : Bool := false
  persistentRooms : Bool := false
  uiModeAdvertised : Bool := false
  deriving DecidableEq, Repr

/-- A published file; only its presence and its name matter to the runtime. -/
structure ServerSharedFile where
  name : Option String
  duration : Option Seconds
  deriving DecidableEq, Repr

structure ServerSession where
  username : String
  room : String
  version : String
  capabilities : ServerClientCapabilities
  file : Option ServerSharedFile
  deriving DecidableEq, Repr

inductive RoomRosterError where
  | roomMissing (room : String)
  | userMissing (username : String)
  deriving DecidableEq, Repr

inductive ServerRuntimeError where
  | roomRoster (error : RoomRosterError)
  | missingSession (clientId : String)
  | invalidHello
  /-- A message does not fit the peer's protocol line limit. -/
  | frameCapacity
  deriving DecidableEq, Repr

/-! ### Controlled rooms -/

inductive RoomPasswordCheckError where
  | invalidPassword | notControlledRoom
  deriving DecidableEq, Repr

/-- Controlled-room grammar and salted hash.  The Unicode classes `\w` and `\d`
    of the regular expressions and the salted SHA chain are parameters. -/
structure RoomPasswordProvider where
  isWordChar : Char → Bool
  isDigitChar : Char → Bool
  computeRoomHash : String → String → String

namespace RoomPasswordProvider

/-- The captures of `^\+(.*):(\w{12})$`: base room and hash. -/
def controlledRoomCaptures (provider : RoomPasswordProvider) (roomName : String) :
    Option (String × String) :=
  match roomName.toList with
  | '+' :: rest =>
      let base := rest.take (rest.length - 13)
      match rest.drop (rest.length - 13) with
      | ':' :: hash =>
          if hash.length = 12 ∧ hash.all provider.isWordChar ∧ base.all (· ≠ '\n') then
            some (String.ofList base, String.ofList hash)
          else none
      | _ => none
  | _ => none

def isControlledRoomName (provider : RoomPasswordProvider) (roomName : String) : Bool :=
  (provider.controlledRoomCaptures roomName).isSome

/-- `^[A-Z]{2}-\d{3}-\d{3}$`. -/
def isValidRoomPassword (provider : RoomPasswordProvider) (password : String) : Bool :=
  match password.toList with
  | [a, b, '-', c, d, e, '-', f, g, h] =>
      a.isUpper && b.isUpper && [c, d, e, f, g, h].all provider.isDigitChar
  | _ => false

def check (provider : RoomPasswordProvider) (roomName password : String) :
    Except RoomPasswordCheckError Bool :=
  if !provider.isValidRoomPassword password then .error .invalidPassword
  else match provider.controlledRoomCaptures roomName with
    | none => .error .notControlledRoom
    | some (baseRoom, expectedHash) =>
        .ok (provider.computeRoomHash baseRoom password == expectedHash)

def controlledRoomNameFor (provider : RoomPasswordProvider) (roomName password : String) :
    String :=
  "+" ++ roomName ++ ":" ++ provider.computeRoomHash roomName password

end RoomPasswordProvider

/-! ### Room playlist and playstate -/

structure RoomPlaylistState where
  files : List String := []
  index : Option Int := none
  epoch : Nat := 0
  deriving DecidableEq, Repr

namespace RoomPlaylistState

def selectedEntryIdentity (playlist : RoomPlaylistState) : Option (Int × String) :=
  match playlist.index with
  | none => none
  | some index =>
      if index < 0 then none
      else playlist.files[index.toNat]?.map fun file => (index, file)

def acceptsIndex (playlist : RoomPlaylistState) (index : Option Int) : Bool :=
  match index with
  | none => playlist.files.isEmpty
  | some index => !playlist.files.isEmpty && (0 ≤ index && index.toNat < playlist.files.length)

/-- Drops a selected index that no longer names a row; tells whether it did. -/
def retireInvalidSelectedIndex (playlist : RoomPlaylistState) : RoomPlaylistState × Bool :=
  match playlist.index with
  | none => (playlist, false)
  | some index =>
      if playlist.acceptsIndex (some index) then (playlist, false)
      else ({ playlist with index := none }, true)

def advanceEpoch (playlist : RoomPlaylistState) : RoomPlaylistState :=
  { playlist with epoch := playlist.epoch + 1 }

end RoomPlaylistState

structure RoomPlaybackState where
  position : Seconds
  paused : Bool
  setBy : Option String
  updatedAtSeconds : Seconds
  deriving DecidableEq, Repr

namespace RoomPlaybackState

def newAt (updatedAtSeconds : Seconds) : RoomPlaybackState :=
  { position := 0, paused := true, setBy := none, updatedAtSeconds }

def positionAt (state : RoomPlaybackState) (now : Seconds) : Seconds :=
  if state.paused then state.position
  else if 0 < now - state.updatedAtSeconds then state.position + (now - state.updatedAtSeconds)
  else state.position

def agedAt (state : RoomPlaybackState) (now : Seconds) : RoomPlaybackState :=
  { state with position := state.positionAt now, updatedAtSeconds := now }

end RoomPlaybackState

structure ClientPlaybackState where
  position : Option Seconds
  updatedAtSeconds : Seconds
  transportRevision : Option Nat
  deriving DecidableEq, Repr

def ClientPlaybackState.positionAt (state : ClientPlaybackState) (roomPaused : Bool)
    (now : Seconds) : Option Seconds :=
  state.position.map fun position =>
    if roomPaused then position
    else if 0 < now - state.updatedAtSeconds then position + (now - state.updatedAtSeconds)
    else position

/-- The media and transport fence published to participants. -/
structure RoomParticipantStatusScope where
  mediaGeneration : Nat := 1
  transportRevision : Nat := 1
  deriving DecidableEq, Repr

structure ClientStateCounters where
  serverIgnoringOnTheFly : Nat := 0
  pendingClientIgnoringOnTheFly : Option Nat := none
  pendingClientLatencyCalculation : Option F64 := none
  pendingClientLatencyCalculationArrivalTime : Option Seconds := none
  deriving DecidableEq, Repr

/-! ### Playback barrier and buffering control -/

structure RoomPlaybackBarrierParticipant where
  username : String
  status : PlaybackBarrierParticipantStatus
  deriving DecidableEq, Repr

structure RoomPlaybackBarrier where
  prepare : PrepareMediaPayload
  commit : Option CommitStartPayload
  initiatorClientId : String
  initiatorSessionSequence : Nat
  initiatorUsername : String
  participants : BTreeMap String RoomPlaybackBarrierParticipant
  excludedUnsupportedClients : BTreeSet String
  phase : PlaybackBarrierPhase
  stateRevision : Option Nat
  readinessRevision : Option Nat
  deadline : Seconds
  startedDeadline : Option Seconds

structure PlaybackBarrierRequestTombstone where
  requestNonce : Nat
  logicalMediaIdDigest : Option String
  mediaGeneration : Nat
  retainUntilSeconds : Seconds
  deriving DecidableEq, Repr

structure PlaybackBarrierRequestTombstonePolicy where
  ttlSeconds : Seconds := 120
  maxPerRoom : Nat := 4096
  maxGlobal : Nat := 16384

structure PlaybackBarrierNewIdentityRatePolicy where
  windowSeconds : Seconds := 10
  maxPerClient : Nat := 16
  maxPerRoom : Nat := 64

structure PlaybackBarrierNewIdentityRateEvent where
  username : String
  roomName : String
  requestId : Option String
  requestNonce : Nat
  observedAtSeconds : Seconds
  deriving DecidableEq, Repr

def PlaybackBarrierNewIdentityRateEvent.matchesOperation
    (event : PlaybackBarrierNewIdentityRateEvent) (username roomName : String)
    (requestId : Option String) (requestNonce : Nat) : Bool :=
  event.username == username && event.roomName == roomName && event.requestId == requestId
    && event.requestNonce == requestNonce

structure DisplacedPlaybackBarrierRequest where
  requestNonce : Nat
  logicalMediaIdDigest : Option String
  mediaGeneration : Nat
  deriving DecidableEq, Repr

structure RoomBufferingParticipantReport where
  username : String
  buffering : Bool
  bufferedSeconds : Option Seconds
  reportedAtSeconds : Seconds
  deriving DecidableEq, Repr

structure RoomBufferingControl where
  config : RoomBufferingPolicyPayload
  requestedConfig : RoomBufferingPolicyPayload
  configuredByClientId : String
  configuredByUsername : String
  reports : BTreeMap String RoomBufferingParticipantReport
  conditionActiveSince : Option Seconds
  conditionClearSince : Option Seconds
  pausedByPolicy : Bool
  pauseDeadline : Option Seconds
  failOpenLatched : Bool
  retiredForSelection : Bool

/-! ### Readiness coordinator -/

structure AcceptedReadinessOperation where
  membershipEpoch : Nat
  desired : UserReadinessIntent
  source : UserReadinessMutationSource
  targetUsername : Option String
  acceptedRevision : Nat
  acceptedUserIntentRevision : Nat
  deriving DecidableEq, Repr

structure ServerReadinessParticipant where
  clientId : String
  record : ParticipantReadiness
  initializationOpen : Bool
  highestRequestNonce : Nat
  acceptedOperations : BTreeMap String AcceptedReadinessOperation
  pendingAutomaticPauseOwner : Option RoomPauseOwner
  lastTechnicalObservedAt : Option Seconds

structure RoomReadinessCoordinator where
  revision : Nat := 0
  transportAuthorityRevision : Nat := 0
  mediaGeneration : Option Nat := none
  startGatePhase : RoomStartGatePhase := .inactive
  pauseOwner : RoomPauseOwner := .none
  participants : BTreeMap String ServerReadinessParticipant := ∅

structure DetachedReadinessMembership where
  roomName : String
  username : String
  membershipEpoch : Nat
  userIntent : UserReadinessIntent
  userIntentRevision : Nat
  lastUserMutation : Option ReadinessMutationMetadata
  lastTechnicalReportSequence : Nat
  initializationOpen : Bool
  acceptedOperations : BTreeMap String AcceptedReadinessOperation
  roomReadinessRevision : Nat
  detachedAtSeconds : Seconds

inductive PendingUserTransportEvidence where
  | acceptedIndirectAction | unclassifiedObservation
  deriving DecidableEq, Repr

structure PendingUserTransportTransition where
  roomName : String
  actor : String
  desiredPaused : Bool
  evidence : PendingUserTransportEvidence
  transportAuthorityRevision : Nat
  expiresAtSeconds : Seconds
  deriving DecidableEq, Repr

/-! ### Outbound messages -/

structure StateSyncMessage where
  position : Seconds
  paused : Bool
  doSeek : Option Bool
  setBy : Option String
  transportRevision : Option Nat
  serverIgnoringCounter : Option Nat
  clientLatencyCalculation : Option F64
  clientIgnoringCounter : Option Nat
  deriving DecidableEq, Repr

/-- Protocol messages the handlers build, one constructor for each builder of
    `messages.rs`. -/
inductive ProtocolMessage where
  | state (message : StateSyncMessage)
  | playbackBarrier (extension : PlaybackBarrierSetExtension)
  | readiness (extension : ReadinessSetExtension)
  | readyUpdate (username : String) (ready : Option Bool) (manuallyInitiated : Bool)
      (setBy : Option String)
  | userJoined (username room version : String) (capabilities : ServerClientCapabilities)
  | userLeft (username room : String)
  | userRoomUpdate (username room : String)
  | userFileUpdate (username room : String) (file : ServerSharedFile) (mediaMatch : Bool)
  | userFeaturesUpdate (username : String) (capabilities : ServerClientCapabilities)
  | playlistChange (files : List String) (setBy : Option String) (epoch : Nat)
      (plexSidecar : Bool)
  | playlistIndex (index : Option Int) (setBy : Option String) (epoch : Nat)
  | controllerAuthStatus (username room : String) (success : Bool)
  | newControlledRoom (room password : String)
  | readinessChat (actor target : String) (ready : Bool)
  | chat (username message : String)
  | hello (username room version : String) (reconnectToken : Option String)
  | listRooms
  | startTls (accepted : Bool)
  /-- A refused Hello: the password was wrong, or missing. -/
  | error (wrongPassword : Bool)
  deriving DecidableEq, Repr

structure DirectedProtocolMessage where
  clientId : String
  message : ProtocolMessage
  deriving DecidableEq, Repr

inductive ServerTransportAction where
  | startTls | close
  deriving DecidableEq, Repr

inductive ServerPersistenceEffect where
  | saveRoom (roomName : String) (files : List String) (playlistIndex : Option Int)
      (position lastActivityAtSeconds : Seconds) (ownerBucket : Option String)
      (createdAtSeconds : Seconds) (version : Nat)
  | deleteRoom (roomName : String) (version : Nat)
  deriving DecidableEq, Repr

/-! ### History -/

/-- What the guard of a coordinated start read at the moment of commit. -/
structure CommitSnapshot where
  timedOut : Bool
  barrier : RoomPlaybackBarrier
  coordinator : Option RoomReadinessCoordinator
  sessions : BTreeMap String ServerSession
  fencedClients : BTreeSet String
  mixedReadinessPolicy : MixedReadinessPolicy
  payload : CommitStartPayload

inductive Event where
  /-- The room's barrier went from preparing to committed. -/
  | committed (room : String) (snapshot : CommitSnapshot)
  /-- A prepare was accepted at request-clock time `at_` and allocated
      `mediaGeneration`. -/
  | prepareAccepted (room : String) (requestId : Option String) (mediaGeneration : Nat)
      (at_ : Seconds)
  /-- A request identity left the current lifecycle at request-clock time `at_`. -/
  | requestDisplaced (room requestId : String) (at_ : Seconds)
  | roomDiscarded (room : String)
  /-- A Started acknowledgement was recorded. -/
  | startedAcknowledged (room : String) (mediaGeneration stateRevision : Nat) (clientId : String)
  /-- A newer connection took over the barrier entry of the older owner. -/
  | ownerRebound (room : String) (mediaGeneration : Nat) (oldClientId newClientId : String)
  | becameComplete (room : String) (barrier : RoomPlaybackBarrier)
  /-- A password for `room` was presented and checked `Ok(true)`. -/
  | controllerAuthenticated (clientId room password : String)
  | leftRoom (clientId room : String)
  | sessionEnded (clientId : String)
  /-- A playlist mutation was accepted and moved the epoch from `epoch` on;
      `expected` is the compare-and-set guard it carried, if any. -/
  | playlistAccepted (room : String) (epoch : Nat) (expected : Option (Int × Nat))
  | coordinatorRemoved (room : String)

/-! ### The runtime -/

/-- Clock readings of the step in progress. -/
structure Clock where
  /-- Wall clock, `current_time_seconds`. -/
  wall : Seconds := 0
  /-- Elapsed local time, `local_time_seconds`. -/
  elapsed : Seconds := 0
  /-- Monotone request clock, `playback_barrier_request_clock_seconds`. -/
  request : Seconds := 0
  deriving DecidableEq, Repr

structure ServerRuntime where
  roomRoster : BTreeMap String (BTreeMap String (Option Bool)) := ∅
  sessions : BTreeMap String ServerSession := ∅
  roomControllers : BTreeMap String (BTreeSet String) := ∅
  roomPlaylists : BTreeMap String RoomPlaylistState := ∅
  roomPlaybackStates : BTreeMap String RoomPlaybackState := ∅
  roomPlaybackBarriers : BTreeMap String RoomPlaybackBarrier := ∅
  roomBufferingControls : BTreeMap String RoomBufferingControl := ∅
  roomReadiness : BTreeMap String RoomReadinessCoordinator := ∅
  readinessReconnectCache : BTreeMap String DetachedReadinessMembership := ∅
  readinessReconnectIdentityByClient : BTreeMap String String := ∅
  mixedReadinessPolicy : MixedReadinessPolicy := .requireAllMembers
  pendingUserTransportByClient : BTreeMap String PendingUserTransportTransition := ∅
  nextReadinessMembershipEpoch : Nat := 1
  playbackBarrierFencedClients : BTreeSet String := ∅
  /-- Keyed by room, then by request identity. -/
  playbackBarrierRequestTombstones :
    BTreeMap String (BTreeMap String PlaybackBarrierRequestTombstone) := ∅
  playbackBarrierRequestTombstonePolicy : PlaybackBarrierRequestTombstonePolicy := {}
  playbackBarrierNewIdentityRatePolicy : PlaybackBarrierNewIdentityRatePolicy := {}
  playbackBarrierNewIdentityRateByClient :
    BTreeMap String (List PlaybackBarrierNewIdentityRateEvent) := ∅
  playbackBarrierNewIdentityRateByRoom :
    BTreeMap String (List PlaybackBarrierNewIdentityRateEvent) := ∅
  playbackBarrierRequestNonces : BTreeMap String Nat := ∅
  nextPlaybackBarrierGeneration : Nat := 0
  nextPlaybackBarrierRevision : Nat := 0
  clientPlaybackStates : BTreeMap String ClientPlaybackState := ∅
  /-- The room that a client's session named when its sample was taken. -/
  sampleRooms : BTreeMap String String := ∅
  roomParticipantStatusScopes : BTreeMap String RoomParticipantStatusScope := ∅
  clientRoomJoinSequence : BTreeMap String Nat := ∅
  nextRoomJoinSequence : Nat := 0
  clientStateCounters : BTreeMap String ClientStateCounters := ∅
  clientLastStateUpdateAt : BTreeMap String Seconds := ∅
  clientNextPeriodicStateAt : BTreeMap String Seconds := ∅
  clientPeerIps : BTreeMap String String := ∅
  roomPasswordProvider : RoomPasswordProvider
  /-- SHA-256 digest used for reconnect tokens and logical media identities. -/
  sha256 : String → String
  /-- `client_version_meets_minimum(version, "1.5.0")`. -/
  versionSupportsChat : String → Bool
  serverPasswordToken : Option String := none
  /-- MD5 hex digest accepted in place of the raw server password token. -/
  md5Hex : String → String
  serverAcceptsTls : Bool := false
  pendingTransportActions : List (String × ServerTransportAction) := []
  persistentRoomsEnabled : Bool := false
  maxPersistentRooms : Nat := 1024
  maxPersistentRoomsPerIdentity : Nat := 64
  persistentRoomCreationCooldownSeconds : Seconds := 1
  persistentRoomInactivityExpirySeconds : Seconds := 2592000
  persistentRoomOwnerByRoom : BTreeMap String String := ∅
  persistentRoomCreatedAtByRoom : BTreeMap String Seconds := ∅
  persistentRoomLastCreationByIdentity : BTreeMap String Seconds := ∅
  persistentRoomLastActivityAt : BTreeMap String Seconds := ∅
  /-- Canonical spelling of a peer address. -/
  normalizePeerIp : String → String
  /-- Keyed owner bucket of a peer identity. -/
  persistentRoomOwnerBucket : String → String
  isolateRooms : Bool := false
  chatEnabled : Bool := true
  readinessEnabled : Bool := true
  maxChatMessageLength : Nat := 150
  maxUsernameLength : Nat := 16
  /-- Effects enqueued to the room database, newest first; `none` without one. -/
  roomPersistence : Option (List ServerPersistenceEffect) := none
  persistedRoomNames : BTreeSet String := ∅
  nextRoomPersistenceVersion : Nat := 0
  permanentRooms : BTreeSet String := ∅
  clock : Clock := {}
  history : List Event := []

/-- A handler: updates survive an error, as in the source. -/
abbrev ServerM := Prog ServerRuntime ServerRuntimeError

/-- Messages to deliver, each with its recipient. -/
abbrev Outbound := List DirectedProtocolMessage

end Sorotte.Server
