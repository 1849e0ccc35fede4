import Sorotte.Server.Maintenance

/-! # The readiness coordinator and its start gate

  The part of `runtime_readiness.rs` that never commits a start: participant
  records and their derived flags, the mixed-room cohort, pause ownership, the
  published gate phase and the messages that carry them.
-/

namespace Sorotte.Server

open Sorotte.Framework

def readinessMaxOperationIdBytes : Nat := 128

def readinessMaxRetainedOperationsPerMembership : Nat := 256

def readinessReconnectTtlSeconds : Seconds := protocolTimeoutSeconds * 2

def readinessReconnectMaxRetained : Nat := 4096

def readinessUserTransportGraceSeconds : Seconds := 5

/-! ### Participant records -/

/-- The technical state says playable for exactly `generation`. -/
def playableForGeneration (state : TechnicalPlayability) (generation : Option Nat) : Bool :=
  match state with
  | .playable mediaGeneration => some mediaGeneration == generation
  | _ => false

/-- Derives the two cached flags from the facts they summarise. -/
def recomputeParticipantReadiness (record : ParticipantReadiness)
    (currentGeneration : Option Nat) : ParticipantReadiness :=
  let roomReady := record.userIntent == .ready && record.terminalTechnicalBlock.isNone
  { record with
    roomReady
    startEligible := record.participationRole == .required && roomReady
      && playableForGeneration record.technicalState currentGeneration }

/-- The technical state a participant starts a generation with. -/
def initialTechnicalState : Option Nat → TechnicalPlayability
  | none => .unknown
  | some mediaGeneration => .preparing mediaGeneration

def canonicalUserSource : UserReadinessMutationSource → ReadinessMutationSource
  | .initialization => .initialization
  | .directUser surface => .directUser surface
  | .indirectPlayer action surface => .indirectPlayer action surface

def readinessIntentSourceMatchesDesired (source : UserReadinessMutationSource)
    (desired : UserReadinessIntent) : Bool :=
  match source with
  | .initialization => desired == .ready
  | .directUser _ => true
  | .indirectPlayer .play _ => desired == .ready
  | .indirectPlayer .pause _ => desired == .notReady

/-- The key of the operation with the lowest accepted revision. -/
def oldestReadinessOperation (operations : BTreeMap String AcceptedReadinessOperation) :
    Option String :=
  (operations.toList.foldl (fun best entry =>
    match best with
    | none => some entry
    | some held =>
        if entry.2.acceptedRevision < held.2.acceptedRevision then some entry else some held)
    none).map Prod.fst

/-- Drops the oldest operations until the retention limit holds. -/
def trimReadinessOperations (operations : BTreeMap String AcceptedReadinessOperation) :
    BTreeMap String AcceptedReadinessOperation :=
  (List.range (operations.size - readinessMaxRetainedOperationsPerMembership)).foldl
    (fun operations _ =>
      match oldestReadinessOperation operations with
      | none => operations
      | some key => operations.erase key) operations

namespace ServerRuntime

/-! ### Readers -/

def updateReadiness (s : ServerRuntime) (roomName : String)
    (f : RoomReadinessCoordinator → RoomReadinessCoordinator) : ServerRuntime :=
  { s with roomReadiness := s.roomReadiness.modify roomName f }

def readinessParticipant (s : ServerRuntime) (roomName username : String) :
    Option ServerReadinessParticipant :=
  s.roomReadiness[roomName]?.bind fun room => room.participants[username]?

def readinessRecord (s : ServerRuntime) (roomName username : String) :
    Option ParticipantReadiness :=
  (s.readinessParticipant roomName username).map (·.record)

def readinessMediaGeneration (s : ServerRuntime) (roomName : String) : Option Nat :=
  s.roomReadiness[roomName]?.bind (·.mediaGeneration)

def barrierPhase (s : ServerRuntime) (roomName : String) : Option PlaybackBarrierPhase :=
  s.roomPlaybackBarriers[roomName]?.map (·.phase)

def readinessRevisionForCommit (s : ServerRuntime) (roomName : String) : Option Nat :=
  if !s.readinessEnabled then none
  else s.roomReadiness[roomName]?.bind fun room =>
    match room.pauseOwner with
    | .readinessStartGate _ => some room.revision
    | _ => none

def readinessGateOwnsPause (s : ServerRuntime) (roomName : String) (mediaGeneration : Nat) :
    Bool :=
  s.roomReadiness[roomName]?.all fun room =>
    room.pauseOwner == .readinessStartGate mediaGeneration

def readinessPauseOwnedByBufferingPolicy (s : ServerRuntime) (roomName : String)
    (mediaGeneration : Nat) (stateRevision : Option Nat) : Bool :=
  s.roomReadiness[roomName]?.all fun room =>
    room.pauseOwner == .roomBufferingPolicy mediaGeneration stateRevision

def readinessParticipantIsStartEligible (s : ServerRuntime) (roomName username : String) :
    Option Bool :=
  (s.readinessRecord roomName username).map (·.startEligible)

def readinessMixedRoomBlocksStart (s : ServerRuntime) (roomName : String) : Bool :=
  if s.mixedReadinessPolicy == .excludeUnsupported || !s.roomReadiness.contains roomName then false
  else s.sessions.toList.any fun entry =>
    entry.2.room == roomName && !s.playbackBarrierFencedClients.contains entry.1
      && !(entry.2.capabilities.readinessV2 && entry.2.capabilities.playbackBarrierV1)

/-- The participants a coordinated start waits for. -/
def requiredParticipants (room : RoomReadinessCoordinator) :
    List (String × ServerReadinessParticipant) :=
  room.participants.toList.filter fun entry => entry.2.record.participationRole == .required

def readinessRequiredCohortStartEligible (s : ServerRuntime) (roomName : String) : Bool :=
  if !s.readinessEnabled then true
  else match s.roomReadiness[roomName]? with
    | none => true
    | some room =>
        if s.readinessMixedRoomBlocksStart roomName then false
        else match s.roomPlaybackBarriers[roomName]? with
          | none => false
          | some barrier =>
              let required := requiredParticipants room
              !required.isEmpty && required.all fun entry =>
                entry.2.record.startEligible && barrier.participants.contains entry.2.clientId
                  && s.sessions[entry.2.clientId]?.any fun session =>
                    session.room == roomName && session.capabilities.readinessV2
                      && session.capabilities.playbackBarrierV1

/-! ### Messages -/

def readinessV2ClientsInRoom (s : ServerRuntime) (roomName : String) : List String :=
  (s.sessions.toList.filter fun entry =>
    entry.2.room == roomName && s.readinessEnabled && entry.2.capabilities.readinessV2
      && !s.playbackBarrierFencedClients.contains entry.1).map Prod.fst

def readinessParticipantUpdate (s : ServerRuntime) (roomName username : String)
    (acceptedOperationId : Option String) : Option ParticipantReadinessUpdate :=
  s.roomReadiness[roomName]?.bind fun room =>
    room.participants[username]?.map fun participant =>
      { roomReadinessRevision := room.revision, username, record := participant.record,
        acceptedOperationId }

def readinessSnapshot (s : ServerRuntime) (roomName : String) : Option RoomReadinessSnapshot :=
  s.roomReadiness[roomName]?.map fun room =>
    { roomReadinessRevision := room.revision
      mediaGeneration := room.mediaGeneration
      startGatePhase := room.startGatePhase
      pauseOwner := room.pauseOwner
      mixedReadinessPolicy := s.mixedReadinessPolicy
      participants := room.participants.toList.filterMap fun entry =>
        (s.readinessParticipantUpdate roomName entry.1 none).map fun update =>
          (entry.1, update) }

def readinessParticipantFanout (s : ServerRuntime) (roomName username : String)
    (acceptedOperation : Option (String × String)) : Outbound :=
  (s.readinessV2ClientsInRoom roomName).filterMap fun recipient =>
    let operationId := (acceptedOperation.filter fun accepted => accepted.1 == recipient).map
      Prod.snd
    (s.readinessParticipantUpdate roomName username operationId).map fun participant =>
      { clientId := recipient, message := .readiness { participant := some participant } }

def readinessSnapshotFanoutWithMembership (s : ServerRuntime) (roomName : String)
    (joiningClient : Option String) : Outbound :=
  match s.readinessSnapshot roomName with
  | none => []
  | some snapshot => (s.readinessV2ClientsInRoom roomName).map fun clientId =>
      let membership := if joiningClient = some clientId then
          s.readinessReconnectIdentityByClient[clientId]?.bind fun reconnectToken =>
            s.sessions[clientId]?.bind fun session =>
              (s.readinessRecord roomName session.username).map fun record =>
                { room := roomName, membershipEpoch := record.membershipEpoch, reconnectToken }
        else none
      { clientId, message := .readiness { snapshot := some snapshot, membership } }

def readinessSnapshotFanout (s : ServerRuntime) (roomName : String) : Outbound :=
  s.readinessSnapshotFanoutWithMembership roomName none

def syncplayReadinessProjectionFanout (s : ServerRuntime) (roomName username : String)
    (roomReady manuallyInitiated : Bool) (setBy : Option String) : Outbound :=
  let ready := if s.readinessEnabled then some roomReady else none
  (s.clientsInRoom roomName).map fun clientId =>
    { clientId, message := .readyUpdate username ready manuallyInitiated setBy }

def readinessRequestResultMessage (s : ServerRuntime) (clientId : String)
    (request : ReadinessIntentRequest) (status : ReadinessRequestResultStatus)
    (roomReadinessRevision membershipEpoch : Option Nat) : Outbound :=
  let userIntentRevision := s.sessions[clientId]?.bind fun session =>
    (s.readinessRecord session.room (request.targetUsername.getD session.username)).map
      (·.userIntentRevision)
  let result : ReadinessRequestResultPayload :=
    { operationId := request.operationId, requestNonce := request.requestNonce, status
      roomReadinessRevision, membershipEpoch, userIntentRevision }
  [{ clientId, message := .readiness { requestResult := some result } }]

/-! ### Transport authority and pause ownership -/

/-- Opens a new transport-authority boundary: staged player evidence from
    before it is dropped. -/
def advanceTransportAuthorityRevision (s : ServerRuntime) (roomName : String) : ServerRuntime :=
  let s := (s.advanceParticipantStatusTransportRevision roomName).updateReadiness roomName
    fun room => { room with transportAuthorityRevision := room.transportAuthorityRevision + 1 }
  { s with
    pendingUserTransportByClient :=
      s.pendingUserTransportByClient.filter fun _ pending => pending.roomName != roomName }

/-- The coordinator exists and has another pause owner. -/
def readinessPauseOwnerDiffers (s : ServerRuntime) (roomName : String) (owner : RoomPauseOwner) :
    Bool :=
  s.roomReadiness[roomName]?.any fun room => room.pauseOwner != owner

def setReadinessPauseOwner (s : ServerRuntime) (roomName : String) (owner : RoomPauseOwner) :
    ServerRuntime :=
  if s.readinessPauseOwnerDiffers roomName owner then
    (s.updateReadiness roomName fun room =>
      { room with revision := room.revision + 1, pauseOwner := owner }
    ).advanceTransportAuthorityRevision roomName
  else s

/-! ### The gate phase -/

/-- The gate phase a room with generation `mediaGeneration` should publish. -/
def readinessGatePhase (s : ServerRuntime) (roomName : String) (room : RoomReadinessCoordinator)
    (mediaGeneration : Nat) : RoomStartGatePhase :=
  let required := requiredParticipants room
  match s.roomPlaybackBarriers[roomName]? with
  | none => .inactive
  | some barrier =>
    match barrier.phase with
    | .preparing =>
        if s.readinessMixedRoomBlocksStart roomName then
          .degraded mediaGeneration .unsupportedParticipant
        else if required.isEmpty then .degraded mediaGeneration .noRequiredParticipants
        else if room.pauseOwner.isUser then .degraded mediaGeneration .userPaused
        else if room.pauseOwner != .readinessStartGate mediaGeneration then
          .degraded mediaGeneration .pauseOwnershipLost
        else if required.any fun entry => match entry.2.record.technicalState with
            | .terminallyBlocked _ _ => true
            | _ => false then
          .degraded mediaGeneration .technicalFailure
        else if required.any fun entry => !entry.2.record.roomReady then
          .waitingForIntent mediaGeneration
        else if required.any fun entry => !entry.2.record.startEligible then
          .waitingForTechnicalReadiness mediaGeneration
        else .readyToCommit mediaGeneration room.revision
    | .committed =>
        match barrier.readinessRevision, barrier.stateRevision with
        | some readinessRevision, some playbackRevision =>
            .committed mediaGeneration readinessRevision playbackRevision
        | _, _ => .inactive
    | .awaitingDecision | .degraded =>
        if barrier.commit.isSome then .inactive
        else match room.startGatePhase with
          | .degraded degradedGeneration reason =>
              if degradedGeneration = mediaGeneration then .degraded mediaGeneration reason
              else .degraded mediaGeneration .cancelled
          | _ => .degraded mediaGeneration .cancelled
    | .complete => .inactive

def refreshReadinessGatePhase (s : ServerRuntime) (roomName : String) : ServerRuntime :=
  s.updateReadiness roomName fun room =>
    match room.mediaGeneration with
    | none => room
    | some mediaGeneration =>
        { room with startGatePhase := s.readinessGatePhase roomName room mediaGeneration }

def clearPendingUserTransportInRoom (s : ServerRuntime) (roomName : String) : ServerRuntime :=
  { s with
    pendingUserTransportByClient :=
      s.pendingUserTransportByClient.filter fun _ pending => pending.roomName != roomName }

def clearPendingUserTransport (s : ServerRuntime) (clientId : String) : ServerRuntime :=
  { s with pendingUserTransportByClient := s.pendingUserTransportByClient.erase clientId }

def markReadinessGateCommitted (s : ServerRuntime) (roomName : String)
    (mediaGeneration readinessRevision playbackRevision : Nat) : ServerRuntime :=
  (s.clearPendingUserTransportInRoom roomName).updateReadiness roomName fun room =>
    { room with
      revision := room.revision + 1
      startGatePhase := .committed mediaGeneration readinessRevision playbackRevision
      pauseOwner := .none }

def markReadinessGateDegraded (s : ServerRuntime) (roomName : String)
    (reason : StartGateDegradedReason) : ServerRuntime :=
  s.updateReadiness roomName fun room =>
    match room.mediaGeneration with
    | none => room
    | some mediaGeneration =>
        { room with
          revision := room.revision + 1, startGatePhase := .degraded mediaGeneration reason }

/-- Whether `markReadinessGateDegraded` publishes a snapshot. -/
def readinessGateHasGeneration (s : ServerRuntime) (roomName : String) : Bool :=
  (s.readinessMediaGeneration roomName).isSome

def readinessGateIsActive (s : ServerRuntime) (roomName : String) : Bool :=
  s.roomReadiness[roomName]?.any fun room => room.startGatePhase != .inactive

def clearReadinessGate (s : ServerRuntime) (roomName : String) : ServerRuntime :=
  s.updateReadiness roomName fun room =>
    if room.startGatePhase = .inactive then room
    else
      { room with
        revision := room.revision + 1
        startGatePhase := .inactive
        pauseOwner := match room.pauseOwner with
          | .readinessStartGate _ => .none
          | owner => owner }

/-! ### Generations -/

/-- The coordinator of a room whose media generation is replaced. -/
def replacedGeneration (room : RoomReadinessCoordinator) (mediaGeneration : Option Nat)
    (ownsStartPause : Bool) : RoomReadinessCoordinator :=
  { room with
    revision := room.revision + 1
    mediaGeneration
    pauseOwner := match mediaGeneration with
      | some mediaGeneration =>
          if ownsStartPause && !room.pauseOwner.isUser then .readinessStartGate mediaGeneration
          else room.pauseOwner
      | none => room.pauseOwner
    startGatePhase := if mediaGeneration.isNone then .inactive else room.startGatePhase
    participants := room.participants.map fun _ participant =>
      { participant with
        record := recomputeParticipantReadiness
          { participant.record with
            technicalState := initialTechnicalState mediaGeneration
            terminalTechnicalBlock := none } mediaGeneration
        pendingAutomaticPauseOwner := none } }

/-- The state half of `replace_readiness_generation`, before the roster
    projection is written back. -/
def replaceReadinessGeneration (s : ServerRuntime) (roomName : String)
    (mediaGeneration : Option Nat) (ownsStartPause : Bool) : ServerRuntime :=
  let s := s.clearPendingUserTransportInRoom roomName
  if !s.readinessEnabled then s
  else (s.updateReadiness roomName fun room =>
      replacedGeneration room mediaGeneration ownsStartPause).refreshReadinessGatePhase roomName

/-! ### The mixed-room cohort -/

def desiredParticipationRole (s : ServerRuntime) (roomName username : String)
    (participant : ServerReadinessParticipant) : StartParticipationRole :=
  let required := s.sessions[participant.clientId]?.any fun session =>
    session.room == roomName && session.username == username
      && session.capabilities.readinessV2 && session.capabilities.playbackBarrierV1
      && !s.playbackBarrierFencedClients.contains participant.clientId
  if required then .required else .excludedUnsupported

/-- Users whose participation role no longer matches their session. -/
def changedRoleUsernames (s : ServerRuntime) (roomName : String)
    (room : RoomReadinessCoordinator) : List String :=
  (room.participants.toList.filter fun entry =>
    entry.2.record.participationRole != s.desiredParticipationRole roomName entry.1 entry.2).map
      Prod.fst

def reconciledCoordinator (s : ServerRuntime) (roomName : String)
    (room : RoomReadinessCoordinator) : RoomReadinessCoordinator :=
  { room with
    participants := room.participants.map fun username participant =>
      let desired := s.desiredParticipationRole roomName username participant
      if participant.record.participationRole = desired then participant
      else
        { participant with
          record := recomputeParticipantReadiness
            { participant.record with participationRole := desired } room.mediaGeneration }
    revision :=
      if (s.changedRoleUsernames roomName room).isEmpty then room.revision
      else room.revision + 1 }

/-- Client and user name of every required participant, keyed by client. -/
def requiredClients (room : RoomReadinessCoordinator) : BTreeMap String String :=
  (requiredParticipants room).foldl (fun clients entry => clients.insert entry.2.clientId entry.1) ∅

def excludedClients (s : ServerRuntime) (roomName : String) (required : BTreeMap String String) :
    BTreeSet String :=
  (∅ : BTreeSet String).insertMany <|
    (s.sessions.toList.filter fun entry =>
      entry.2.room == roomName && !required.contains entry.1
        && !s.playbackBarrierFencedClients.contains entry.1).map fun entry => entry.2.username

/-- A preparing barrier follows the required cohort exactly. -/
def reconciledBarrier (s : ServerRuntime) (roomName : String) (required : BTreeMap String String)
    (barrier : RoomPlaybackBarrier) : RoomPlaybackBarrier :=
  if barrier.phase = .preparing then
    { barrier with
      participants := required.toList.foldl
        (fun participants entry => participants.insertIfNew entry.1
          { username := entry.2, status := .pending })
        (barrier.participants.filter fun clientId _ => required.contains clientId)
      excludedUnsupportedClients := s.excludedClients roomName required }
  else barrier

def reconcileMixedReadinessCohortState (s : ServerRuntime) (roomName : String) : ServerRuntime :=
  if !s.readinessEnabled then s
  else match s.roomReadiness[roomName]? with
    | none => s
    | some room =>
        let room := s.reconciledCoordinator roomName room
        { s with
          roomReadiness := s.roomReadiness.insert roomName room
          roomPlaybackBarriers := s.roomPlaybackBarriers.modify roomName
            (s.reconciledBarrier roomName (requiredClients room)) }

/-- The barrier cohort differs between two runtimes. -/
def barrierCohortDiffers (before after : ServerRuntime) (roomName : String) : Bool :=
  match before.roomPlaybackBarriers[roomName]?, after.roomPlaybackBarriers[roomName]? with
  | some old, some new =>
      old.participants.toList != new.participants.toList
        || old.excludedUnsupportedClients.toList != new.excludedUnsupportedClients.toList
  | _, _ => false

end ServerRuntime

/-! ### Publishing wrappers -/

/-- Runs `update` and publishes a snapshot when `changes` held before it. -/
def updateAndPublish (roomName : String) (changes : ServerRuntime → Bool)
    (update : ServerRuntime → ServerRuntime) : ServerM Outbound := do
  let s ← Prog.get
  Prog.modify update
  if changes s then
    Prog.gets (·.readinessSnapshotFanout roomName)
  else
    pure []

def markReadinessGateDegraded (roomName : String) (reason : StartGateDegradedReason) :
    ServerM Outbound :=
  updateAndPublish roomName (·.readinessGateHasGeneration roomName)
    (·.markReadinessGateDegraded roomName reason)

def clearReadinessGate (roomName : String) : ServerM Outbound :=
  updateAndPublish roomName (·.readinessGateIsActive roomName) (·.clearReadinessGate roomName)

/-- Writes a participant's Ready projection back to the roster and publishes
    its record; `previous` is the projection before the change. -/
def projectReadinessParticipant (roomName : String) (previous : BTreeMap String Bool)
    (username : String) : ServerM Outbound := do
  let s ← Prog.get
  let roomReady := (s.readinessRecord roomName username).any (·.roomReady)
  setRosterReady username roomName roomReady
  let s ← Prog.get
  let projection :=
    if previous[username]? != some roomReady then
      s.syncplayReadinessProjectionFanout roomName username roomReady false none
    else []
  pure (projection ++ s.readinessParticipantFanout roomName username none)

/-- The messages of `replace_readiness_generation`, once the generation is
    installed: every participant's projection, then the room snapshot. -/
def publishReplacedReadinessGeneration (roomName : String) (previous : BTreeMap String Bool) :
    ServerM Outbound := do
  let s ← Prog.get
  match s.readinessEnabled, s.roomReadiness[roomName]? with
  | true, some room => do
      let projected ← Prog.collect (projectReadinessParticipant roomName previous)
        room.participants.keys
      let snapshot ← Prog.gets (·.readinessSnapshotFanout roomName)
      pure (projected ++ snapshot)
  | _, _ => pure []

/-- The Ready projection of a room's participants. -/
def ServerRuntime.readinessProjection (s : ServerRuntime) (roomName : String) :
    BTreeMap String Bool :=
  match s.roomReadiness[roomName]? with
  | none => ∅
  | some room => room.participants.map fun _ participant => participant.record.roomReady

def replaceReadinessGeneration (roomName : String) (mediaGeneration : Option Nat)
    (ownsStartPause : Bool) : ServerM Outbound := do
  let previous ← Prog.gets (·.readinessProjection roomName)
  Prog.modify (·.replaceReadinessGeneration roomName mediaGeneration ownsStartPause)
  publishReplacedReadinessGeneration roomName previous

def retireReadinessGeneration (roomName : String) : ServerM Outbound :=
  replaceReadinessGeneration roomName none false

end Sorotte.Server
