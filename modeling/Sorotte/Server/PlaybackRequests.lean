import Sorotte.Server.ReadinessGate

/-! # Playback request identities and barrier projections

  The stores of `runtime_playback_barrier.rs` that make a playback request
  idempotent (nonces, replay tombstones, the new-identity rate window), the
  revocation of superseded transports, and the status messages every barrier
  and buffering operation publishes.
-/

namespace Sorotte.Server

open Sorotte.Framework

def playbackBarrierMaxLogicalMediaIdChars : Nat := 2048

def playbackBarrierMaxRequestIdBytes : Nat := 128

def playbackBarrierRequestRetryMinMillis : Nat := 250

def playbackBarrierRequestRetryMaxMillis : Nat := 30000

def roomBufferingDefaultQuorumPercent : Nat := 75

def roomBufferingReportFreshnessSeconds : Seconds := serverStateIntervalSeconds * 3

def validPlaybackBarrierRequestId (requestId : String) : Bool :=
  !requestId.isEmpty && requestId.utf8ByteSize ≤ playbackBarrierMaxRequestIdBytes
    && requestId.toList.all fun c => c.isAlphanum || c == '-' || c == '_'

def roomBufferingReportIsFresh (report : RoomBufferingParticipantReport) (now : Seconds) : Bool :=
  now ≤ report.reportedAtSeconds
    || now - report.reportedAtSeconds ≤ roomBufferingReportFreshnessSeconds

/-- Largest `u32`. -/
def u32Max : Nat := 2 ^ 32 - 1

def roomBufferingQuorumRequired (eligibleClients quorumPercent : Nat) : Nat :=
  if eligibleClients = 0 then 0
  else
    min (min (eligibleClients * max 1 (min quorumPercent 100)) u32Max + 99) u32Max / 100

def playbackBarrierRetryAfterMillis (delaySeconds : Seconds) : Nat :=
  let delayMillis :=
    if 0 < delaySeconds then (delaySeconds * 1000).ceil.toNat
    else playbackBarrierRequestRetryMinMillis
  max playbackBarrierRequestRetryMinMillis (min delayMillis playbackBarrierRequestRetryMaxMillis)

/-- The later of two optional instants. -/
def laterOf : Option Seconds → Option Seconds → Option Seconds
  | some a, some b => some (max a b)
  | some a, none => some a
  | none, b => b

namespace ServerRuntime

def updateBarrier (s : ServerRuntime) (roomName : String)
    (f : RoomPlaybackBarrier → RoomPlaybackBarrier) : ServerRuntime :=
  { s with roomPlaybackBarriers := s.roomPlaybackBarriers.modify roomName f }

def updateControl (s : ServerRuntime) (roomName : String)
    (f : RoomBufferingControl → RoomBufferingControl) : ServerRuntime :=
  { s with roomBufferingControls := s.roomBufferingControls.modify roomName f }

/-- Appends to the history variable. -/
def record (s : ServerRuntime) (event : Event) : ServerRuntime :=
  { s with history := event :: s.history }

/-! ### Superseded transports -/

/-- Queues a close action unless one is already queued for the client. -/
def requestTransportClose (s : ServerRuntime) (clientId : String) : ServerRuntime :=
  if s.pendingTransportActions.contains (clientId, .close) then s
  else { s with pendingTransportActions := s.pendingTransportActions ++ [(clientId, .close)] }

def fenceAndClosePlaybackBarrierTransport (s : ServerRuntime) (clientId : String) :
    ServerRuntime :=
  { s with
    playbackBarrierFencedClients := s.playbackBarrierFencedClients.insert clientId
  }.requestTransportClose clientId

/-! ### Tombstones -/

def requestTombstone (s : ServerRuntime) (roomName requestId : String) :
    Option PlaybackBarrierRequestTombstone :=
  s.playbackBarrierRequestTombstones[roomName]?.bind fun tombstones => tombstones[requestId]?

def prunedRateHistory (histories : BTreeMap String (List PlaybackBarrierNewIdentityRateEvent))
    (cutoff : Seconds) : BTreeMap String (List PlaybackBarrierNewIdentityRateEvent) :=
  (histories.map fun _ history => history.dropWhile fun event =>
    event.observedAtSeconds ≤ cutoff).filter fun _ history => !history.isEmpty

def prunePlaybackBarrierNewIdentityRateHistory (s : ServerRuntime) : ServerRuntime :=
  let cutoff := s.playbackBarrierRequestClockSeconds
    - s.playbackBarrierNewIdentityRatePolicy.windowSeconds
  { s with
    playbackBarrierNewIdentityRateByClient :=
      prunedRateHistory s.playbackBarrierNewIdentityRateByClient cutoff
    playbackBarrierNewIdentityRateByRoom :=
      prunedRateHistory s.playbackBarrierNewIdentityRateByRoom cutoff }

/-- Drops the tombstones whose retention ran out on the request clock. -/
def prunePlaybackBarrierRequestTombstones (s : ServerRuntime) : ServerRuntime :=
  { s with
    playbackBarrierRequestTombstones :=
      s.playbackBarrierRequestTombstones.map
        fun _ (tombstones : BTreeMap String PlaybackBarrierRequestTombstone) =>
          tombstones.filter fun _ tombstone =>
            s.playbackBarrierRequestClockSeconds < tombstone.retainUntilSeconds
  }.prunePlaybackBarrierNewIdentityRateHistory

def logicalMediaIdDigest (s : ServerRuntime) (logicalMediaId : String) : String :=
  s.sha256 logicalMediaId

/-- The request identities of the room's current lifecycle that a replacement
    would displace. -/
def displacedPlaybackBarrierRequests (s : ServerRuntime) (roomName : String)
    (replacementRequestId : Option String) (includeBarrier includeBufferingControl : Bool) :
    BTreeMap String DisplacedPlaybackBarrierRequest :=
  let displaced : BTreeMap String DisplacedPlaybackBarrierRequest :=
    match includeBarrier, s.roomPlaybackBarriers[roomName]? with
    | true, some barrier =>
        match barrier.prepare.requestId with
        | some requestId =>
            if replacementRequestId != some requestId then
              (∅ : BTreeMap String DisplacedPlaybackBarrierRequest).insert requestId
                { requestNonce := barrier.prepare.requestNonce
                  logicalMediaIdDigest :=
                    some (s.logicalMediaIdDigest barrier.prepare.logicalMediaId)
                  mediaGeneration := barrier.prepare.mediaGeneration }
            else ∅
        | none => ∅
    | _, _ => ∅
  match includeBufferingControl, s.roomBufferingControls[roomName]? with
  | true, some control =>
      match control.config.requestId with
      | some requestId =>
          if replacementRequestId != some requestId then
            displaced.insertIfNew requestId
              { requestNonce := control.config.requestNonce
                logicalMediaIdDigest := none
                mediaGeneration := control.config.mediaGeneration }
          else displaced
      | none => displaced
  | _, _ => displaced

/-- Tombstones held for one room and for all rooms. -/
def tombstoneCounts (s : ServerRuntime) (roomName : String) : Nat × Nat :=
  ((s.playbackBarrierRequestTombstones.getD roomName ∅).size,
   (s.playbackBarrierRequestTombstones.toList.map fun entry => entry.2.size).sum)

def additionalTombstones (s : ServerRuntime) (roomName : String)
    (displaced : BTreeMap String DisplacedPlaybackBarrierRequest) : Nat :=
  (displaced.keys.filter fun requestId => (s.requestTombstone roomName requestId).isNone).length

/-- Whether the replay cache has room, asked after pruning. -/
def canRetainDisplacedPlaybackBarrierRequests (s : ServerRuntime) (roomName : String)
    (displaced : BTreeMap String DisplacedPlaybackBarrierRequest) : Bool :=
  let additional := s.additionalTombstones roomName displaced
  let counts := s.tombstoneCounts roomName
  counts.1 + additional ≤ s.playbackBarrierRequestTombstonePolicy.maxPerRoom
    && counts.2 + additional ≤ s.playbackBarrierRequestTombstonePolicy.maxGlobal

/-- The instant by which `required` of the given retentions have run out. -/
def nthExpiration (expirations : List Seconds) (required : Nat) : Option Seconds :=
  if required = 0 then none
  else (expirations.mergeSort fun a b => decide (a ≤ b))[required - 1]?

def playbackBarrierReplayCapacityRetryAfterMillis (s : ServerRuntime) (roomName : String)
    (displaced : BTreeMap String DisplacedPlaybackBarrierRequest) : Nat :=
  let additional := s.additionalTombstones roomName displaced
  let counts := s.tombstoneCounts roomName
  let policy := s.playbackBarrierRequestTombstonePolicy
  let expirationsOf (tombstones : BTreeMap String PlaybackBarrierRequestTombstone) :=
    tombstones.toList.map fun entry => entry.2.retainUntilSeconds
  let roomExpirations :=
    expirationsOf (s.playbackBarrierRequestTombstones.getD roomName ∅)
  let globalExpirations :=
    s.playbackBarrierRequestTombstones.toList.flatMap fun entry => expirationsOf entry.2
  let now := s.playbackBarrierRequestClockSeconds
  let retryAt := laterOf
    (nthExpiration roomExpirations (counts.1 + additional - policy.maxPerRoom))
    (nthExpiration globalExpirations (counts.2 + additional - policy.maxGlobal))
  playbackBarrierRetryAfterMillis (retryAt.getD (now + 1) - now)

def retainDisplacedPlaybackBarrierRequests (s : ServerRuntime) (roomName : String)
    (displaced : BTreeMap String DisplacedPlaybackBarrierRequest) : ServerRuntime :=
  if displaced.isEmpty then s
  else
    let retainUntilSeconds := s.playbackBarrierRequestClockSeconds
      + s.playbackBarrierRequestTombstonePolicy.ttlSeconds
    let retained := displaced.toList.foldl (fun tombstones entry =>
      tombstones.insert entry.1
        { requestNonce := entry.2.requestNonce
          logicalMediaIdDigest := entry.2.logicalMediaIdDigest
          mediaGeneration := entry.2.mediaGeneration
          retainUntilSeconds }) (s.playbackBarrierRequestTombstones.getD roomName ∅)
    { s with
      playbackBarrierRequestTombstones :=
        s.playbackBarrierRequestTombstones.insert roomName retained
      history := displaced.keys.map (Event.requestDisplaced roomName ·
        s.playbackBarrierRequestClockSeconds) ++ s.history }

/-! ### New-identity rate -/

/-- The retry delay when the client's or the room's budget of new operation
    identities is used up; an exact retry is exempt. -/
def newIdentityRetryAfterMillis (s : ServerRuntime) (clientId roomName : String)
    (requestId : Option String) (requestNonce : Nat) : Option Nat :=
  match s.sessions[clientId]? with
  | none => none
  | some session =>
      let policy := s.playbackBarrierNewIdentityRatePolicy
      let clientHistory := s.playbackBarrierNewIdentityRateByClient.getD clientId []
      let roomHistory := s.playbackBarrierNewIdentityRateByRoom.getD roomName []
      let exactClientOperationSeen := clientHistory.any fun event =>
        event.matchesOperation session.username roomName requestId requestNonce
      let exactRoomOperationSeen := requestId.isSome && roomHistory.any fun event =>
        event.requestId == requestId && event.requestNonce == requestNonce
      if exactClientOperationSeen || exactRoomOperationSeen then none
      else
        let retryAt (history : List PlaybackBarrierNewIdentityRateEvent) (limit : Nat) :=
          if limit ≤ history.length then
            history.head?.map fun event => event.observedAtSeconds + policy.windowSeconds
          else none
        (laterOf (retryAt clientHistory policy.maxPerClient)
          (retryAt roomHistory policy.maxPerRoom)).map fun retryAtSeconds =>
            playbackBarrierRetryAfterMillis
              (retryAtSeconds - s.playbackBarrierRequestClockSeconds)

/-- Whether the operation is already in one of the rate windows. -/
def newIdentityAlreadySeen (s : ServerRuntime) (clientId roomName : String)
    (requestId : Option String) (requestNonce : Nat) : Bool :=
  match s.sessions[clientId]? with
  | none => true
  | some session =>
      (s.playbackBarrierNewIdentityRateByClient.getD clientId []).any (fun event =>
        event.matchesOperation session.username roomName requestId requestNonce)
      || (requestId.isSome
        && (s.playbackBarrierNewIdentityRateByRoom.getD roomName []).any fun event =>
          event.requestId == requestId && event.requestNonce == requestNonce)

/-- Charges a new operation identity to both rate windows. -/
def chargeNewIdentity (s : ServerRuntime) (clientId roomName : String)
    (requestId : Option String) (requestNonce : Nat) : ServerRuntime :=
  match s.sessions[clientId]? with
  | none => s
  | some session =>
      if s.newIdentityAlreadySeen clientId roomName requestId requestNonce then s
      else
        let event : PlaybackBarrierNewIdentityRateEvent :=
          { username := session.username, roomName, requestId, requestNonce
            observedAtSeconds := s.playbackBarrierRequestClockSeconds }
        let push (histories : BTreeMap String (List PlaybackBarrierNewIdentityRateEvent))
            (key : String) := histories.insert key (histories.getD key [] ++ [event])
        { s with
          playbackBarrierNewIdentityRateByClient :=
            push s.playbackBarrierNewIdentityRateByClient clientId
          playbackBarrierNewIdentityRateByRoom :=
            push s.playbackBarrierNewIdentityRateByRoom roomName }

def setRequestNonce (s : ServerRuntime) (clientId : String) (nonce : Nat) : ServerRuntime :=
  { s with
    playbackBarrierRequestNonces := s.playbackBarrierRequestNonces.insert clientId nonce }

/-- A generation or nonce at or below the client's highest one. -/
def requestNonceIsStale (s : ServerRuntime) (clientId : String) (nonce : Nat) : Bool :=
  s.playbackBarrierRequestNonces[clientId]?.any (nonce ≤ ·)

/-- The next media generation, or `none` when the counter is exhausted. -/
def nextAllocatedGeneration (s : ServerRuntime) : Option Nat :=
  if s.nextPlaybackBarrierGeneration + 1 ≤ u64Max then some (s.nextPlaybackBarrierGeneration + 1)
  else none

def allocatePlaybackBarrierGeneration (s : ServerRuntime) : ServerRuntime :=
  match s.nextAllocatedGeneration with
  | none => s
  | some generation => { s with nextPlaybackBarrierGeneration := generation }

/-! ### Status and redaction -/

def playbackBarrierStatus (s : ServerRuntime) (roomName : String) :
    Option PlaybackBarrierStatusPayload :=
  s.roomPlaybackBarriers[roomName]?.map fun barrier =>
    { mediaGeneration := barrier.prepare.mediaGeneration
      stateRevision := barrier.stateRevision
      phase := barrier.phase
      policy := barrier.prepare.policy
      quorum := barrier.prepare.quorum
      deadline := ((barrier.commit.map (·.startedDeadline)).or barrier.prepare.deadline).getD 0
      participants := ((barrier.participants.toList.map Prod.snd).foldl (fun statuses participant =>
        statuses.insert participant.username participant.status)
          (∅ : BTreeMap String PlaybackBarrierParticipantStatus)).toList
      excludedUnsupportedClients := barrier.excludedUnsupportedClients.toList }

/-- Members that follow the room's buffering policy. -/
def bufferingEligible (s : ServerRuntime) (roomName : String) : List (String × ServerSession) :=
  s.sessions.toList.filter fun entry =>
    entry.2.room == roomName && entry.2.capabilities.playbackBarrierV1
      && !s.playbackBarrierFencedClients.contains entry.1

/-- Fresh buffering reports of eligible members. -/
def bufferingReports (s : ServerRuntime) (roomName : String) (control : RoomBufferingControl) :
    List (String × RoomBufferingParticipantReport) :=
  control.reports.toList.filter fun entry =>
    (s.bufferingEligible roomName).any (·.1 == entry.1) && entry.2.buffering
      && roomBufferingReportIsFresh entry.2 s.localTimeSeconds

def roomBufferingPhase (control : RoomBufferingControl) : RoomBufferingPhase :=
  if control.config.policy = .independent then .independent
  else if control.failOpenLatched then .failOpen
  else if control.pausedByPolicy && control.conditionClearSince.isSome then .debouncingResume
  else if control.pausedByPolicy then .paused
  else if control.conditionActiveSince.isSome then .debouncingPause
  else .monitoring

def roomBufferingStatusAt (s : ServerRuntime) (roomName : String) (now : Seconds) :
    Option RoomBufferingStatusPayload :=
  s.roomBufferingControls[roomName]?.map fun control =>
    let eligibleClients := (s.bufferingEligible roomName).length
    { config := control.config
      phase := roomBufferingPhase control
      eligibleClients
      requiredBufferingClients := match control.config.policy with
        | .independent => 0
        | .pauseController | .pauseAnyEligible => if 0 < eligibleClients then 1 else 0
        | .quorum => roomBufferingQuorumRequired eligibleClients
            (control.config.quorumPercent.getD roomBufferingDefaultQuorumPercent)
      bufferingClients := ((∅ : BTreeSet String).insertMany
        ((s.bufferingReports roomName control).map fun entry => entry.2.username)).toList
      pauseDeadline := control.pauseDeadline.map fun deadline =>
        now + max (deadline - s.localTimeSeconds) 0 }

def roomBufferingStatus (s : ServerRuntime) (roomName : String) :
    Option RoomBufferingStatusPayload :=
  s.roomBufferingStatusAt roomName s.currentTimeSeconds

/-- Request identities are private to the client that owns them. -/
def redactPlaybackBarrierRequestIdentity (s : ServerRuntime) (roomName clientId : String)
    (extension : PlaybackBarrierSetExtension) : PlaybackBarrierSetExtension :=
  let ownsBarrier := s.roomPlaybackBarriers[roomName]?.any (·.initiatorClientId == clientId)
  let ownsControl := s.roomBufferingControls[roomName]?.any (·.configuredByClientId == clientId)
  { extension with
    prepare := if ownsBarrier then extension.prepare
      else extension.prepare.map fun prepare => { prepare with requestId := none }
    bufferingPolicy := if ownsControl then extension.bufferingPolicy
      else extension.bufferingPolicy.map fun policy => { policy with requestId := none }
    bufferingStatus := if ownsControl then extension.bufferingStatus
      else extension.bufferingStatus.map fun status =>
        { status with config := { status.config with requestId := none } } }

def playbackBarrierMessage (s : ServerRuntime) (roomName clientId : String)
    (extension : PlaybackBarrierSetExtension) : DirectedProtocolMessage :=
  { clientId
    message := .playbackBarrier
      (s.redactPlaybackBarrierRequestIdentity roomName clientId extension) }

def roomBufferingFanout (s : ServerRuntime) (roomName : String)
    (extension : PlaybackBarrierSetExtension) : Outbound :=
  (s.bufferingEligible roomName).map fun entry =>
    s.playbackBarrierMessage roomName entry.1 extension

def playbackBarrierFanout (s : ServerRuntime) (roomName : String)
    (extension : PlaybackBarrierSetExtension) : Outbound :=
  match s.roomPlaybackBarriers[roomName]? with
  | none => []
  | some barrier =>
      (barrier.participants.keys.filter fun clientId =>
        s.sessions[clientId]?.any fun session =>
          session.room == roomName && session.capabilities.playbackBarrierV1).map fun clientId =>
            s.playbackBarrierMessage roomName clientId extension

def playbackBarrierStatusFanout (s : ServerRuntime) (roomName : String) : Outbound :=
  match s.playbackBarrierStatus roomName with
  | none => []
  | some status => s.playbackBarrierFanout roomName { status := some status }

/-- The client may receive targeted barrier snapshots of the room. -/
def receivesBarrierSnapshots (s : ServerRuntime) (roomName clientId : String) : Bool :=
  s.sessions[clientId]?.any fun session =>
    session.room == roomName && session.capabilities.playbackBarrierV1
      && !s.playbackBarrierFencedClients.contains clientId

def playbackBarrierSnapshotForClientWithRecovery (s : ServerRuntime) (roomName clientId : String)
    (recovery : Option PlaybackBarrierRecoveryPayload) : Outbound :=
  match s.roomPlaybackBarriers[roomName]? with
  | none => []
  | some barrier =>
      if s.receivesBarrierSnapshots roomName clientId then
        [s.playbackBarrierMessage roomName clientId
          { prepare := some barrier.prepare
            status := s.playbackBarrierStatus roomName
            commit := barrier.commit
            bufferingPolicy := s.roomBufferingControls[roomName]?.map (·.config)
            bufferingStatus := s.roomBufferingStatus roomName
            recovery }]
      else []

def playbackBarrierSnapshotForClient (s : ServerRuntime) (roomName clientId : String) : Outbound :=
  s.playbackBarrierSnapshotForClientWithRecovery roomName clientId none

def roomBufferingSnapshotForClient (s : ServerRuntime) (roomName clientId : String) : Outbound :=
  match s.roomBufferingControls[roomName]? with
  | none => []
  | some control =>
      if s.receivesBarrierSnapshots roomName clientId then
        [s.playbackBarrierMessage roomName clientId
          { bufferingPolicy := some control.config
            bufferingStatus := s.roomBufferingStatus roomName }]
      else []

end ServerRuntime

def playbackBarrierRetryLater (clientId : String) (requestId : Option String)
    (requestNonce retryAfterMs : Nat) : Outbound :=
  match requestId with
  | none => []
  | some requestId =>
      let result : PlaybackBarrierRequestResultPayload := { requestId, requestNonce, retryAfterMs }
      [{ clientId, message := .playbackBarrier { requestResult := some result } }]

/-- Asks for a new operation identity: prunes the rate windows, then charges
    the identity or returns the retry delay. -/
def playbackBarrierNewIdentityRetryAfterMillis (clientId roomName : String)
    (requestId : Option String) (requestNonce : Nat) : ServerM (Option Nat) := do
  Prog.modify (·.prunePlaybackBarrierNewIdentityRateHistory)
  let s ← Prog.get
  match s.newIdentityRetryAfterMillis clientId roomName requestId requestNonce with
  | some retryAfterMs => pure (some retryAfterMs)
  | none => do
      Prog.modify (·.chargeNewIdentity clientId roomName requestId requestNonce)
      pure none

/-- Drops every command of a superseded transport and repeats its close. -/
def rejectFencedPlaybackBarrierTransport (clientId : String) : ServerM Bool := do
  let s ← Prog.get
  if s.playbackBarrierFencedClients.contains clientId then
    Prog.modify (·.fenceAndClosePlaybackBarrierTransport clientId)
    pure true
  else
    pure false

end Sorotte.Server
