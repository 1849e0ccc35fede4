import Sorotte.Server.State

/-! # Room, roster and session bookkeeping

  The parts of `runtime_maintenance.rs` and `room_roster.rs` that every handler
  shares: the roster, recipients, canonical room state, client playback samples,
  forced State counters and the persistence queue.

  An infallible reader is a function of the runtime, an infallible update a
  function from runtime to runtime; only code that can fail or that emits
  messages while it updates lives in `ServerM`.
-/

namespace Sorotte.Server

open Sorotte.Framework

def protocolTimeoutSeconds : Seconds := 90

def serverStateIntervalSeconds : Seconds := 1

def serverInitialStateDelaySeconds : Seconds := 1 / 10

def serverNetworkTickIntervalSeconds : Seconds := 1 / 4

def persistentRoomActivityHeartbeatMaxIntervalSeconds : Seconds := 30

/-- `str::to_ascii_lowercase`, as a list of characters. -/
def asciiLowercase (text : String) : List Char := text.toList.map Char.toLower

def roomNameIsMarkedTemporary (roomName : String) : Bool :=
  "-temp".toList.isSuffixOf (asciiLowercase roomName)
    || decide ("-temp:".toList <:+: asciiLowercase roomName)

def truncateTextToMaxChars (value : String) (maxChars : Nat) : String :=
  String.ofList (value.toList.take maxChars)

def playlistIsValid (files : List String) : Bool :=
  files.length ≤ 250 && (files.map String.length).sum ≤ 10000

/-! ### Roster -/

namespace Roster

def joinRoomWithReady (roster : BTreeMap String (BTreeMap String (Option Bool)))
    (username roomName : String) (ready : Option Bool) :
    BTreeMap String (BTreeMap String (Option Bool)) :=
  roster.insert roomName ((roster.getD roomName ∅).insert username ready)

/-- The roster after `username` left, or the error for a missing room or user. -/
def leaveRoom (roster : BTreeMap String (BTreeMap String (Option Bool)))
    (username roomName : String) :
    Except RoomRosterError (BTreeMap String (BTreeMap String (Option Bool))) :=
  match roster[roomName]? with
  | none => .error (.roomMissing roomName)
  | some users =>
      if username ∈ users then
        let users := users.erase username
        if users.isEmpty then .ok (roster.erase roomName) else .ok (roster.insert roomName users)
      else .error (.userMissing username)

def setReady (roster : BTreeMap String (BTreeMap String (Option Bool)))
    (username roomName : String) (ready : Bool) :
    Except RoomRosterError (BTreeMap String (BTreeMap String (Option Bool))) :=
  match roster[roomName]? with
  | none => .error (.roomMissing roomName)
  | some users =>
      if username ∈ users then .ok (roster.insert roomName (users.insert username (some ready)))
      else .error (.userMissing username)

end Roster

namespace ServerRuntime

/-! ### Readers -/

def currentTimeSeconds (s : ServerRuntime) : Seconds := s.clock.wall

def localTimeSeconds (s : ServerRuntime) : Seconds := s.clock.elapsed

def playbackBarrierRequestClockSeconds (s : ServerRuntime) : Seconds := s.clock.request

def clientsInRoom (s : ServerRuntime) (roomName : String) : List String :=
  (s.sessions.toList.filter fun entry => entry.2.room == roomName).map Prod.fst

def clientsAll (s : ServerRuntime) : List String := s.sessions.keys

def clientsAllExcluding (s : ServerRuntime) (excludedClientId : String) : List String :=
  s.sessions.keys.filter (· != excludedClientId)

def clientsVisibleOnJoin (s : ServerRuntime) (roomName joiningClientId : String) : List String :=
  if s.isolateRooms then (s.clientsInRoom roomName).filter (· != joiningClientId)
  else s.clientsAllExcluding joiningClientId

def roomSwitchVisibilityRecipients (s : ServerRuntime) (movingClientId currentRoom : String) :
    List String :=
  if !s.isolateRooms then s.clientsAll
  else ((∅ : BTreeSet String).insert movingClientId |>.insertMany
    (s.clientsInRoom currentRoom)).toList

def clientsReceivingToGuiOnlyListUpdates (s : ServerRuntime) (roomName : Option String) :
    List String :=
  (s.sessions.toList.filter fun entry =>
    entry.2.capabilities.uiModeAdvertised &&
      (!s.isolateRooms || roomName.any (entry.2.room == ·))).map Prod.fst

def syncplayReadinessChatClientsInRoom (s : ServerRuntime) (roomName : String) : List String :=
  (s.sessions.toList.filter fun entry =>
    entry.2.room == roomName && s.versionSupportsChat entry.2.version
      && !entry.2.capabilities.remoteReadiness).map Prod.fst

def chatClientsInRoom (s : ServerRuntime) (roomName : String) : List String :=
  (s.sessions.toList.filter fun entry =>
    entry.2.room == roomName && s.versionSupportsChat entry.2.version).map Prod.fst

def enqueueListSnapshotsForClients (recipients : List String) : Outbound :=
  recipients.map fun clientId => { clientId, message := .listRooms }

def roomUsesPlaybackLifecycleAuthority (s : ServerRuntime) (roomName : String) : Bool :=
  s.sessions.toList.any fun entry =>
    entry.2.room == roomName && entry.2.capabilities.playbackBarrierV1

def userIsRoomController (s : ServerRuntime) (username roomName : String) : Bool :=
  match s.roomControllers[roomName]? with
  | none => false
  | some controllers => controllers.contains username

def userCanControlPlaylist (s : ServerRuntime) (username roomName : String) : Bool :=
  !s.roomPasswordProvider.isControlledRoomName roomName
    || s.userIsRoomController username roomName

def storedUserReady (s : ServerRuntime) (username roomName : String) : Option Bool :=
  match s.roomRoster[roomName]? with
  | none => none
  | some users => users[username]?.join

def clientRoomJoinOrder (s : ServerRuntime) (clientId : String) : Nat :=
  s.clientRoomJoinSequence.getD clientId u64Max

/-- The first member by join order, used when a room state has no author. -/
def fallbackRoomSetByUsername (s : ServerRuntime) (roomName : String) : Option String :=
  let members := s.sessions.toList.filter fun entry =>
    entry.2.room == roomName && !s.playbackBarrierFencedClients.contains entry.1
  let first := members.foldl (fun best entry =>
    match best with
    | none => some entry
    | some held =>
        if s.clientRoomJoinOrder entry.1 < s.clientRoomJoinOrder held.1 then some entry
        else some held) none
  first.map fun entry => entry.2.username

def findFreeUsername (s : ServerRuntime) (username : String) (excludedClientId : Option String) :
    Option String :=
  let allNames := (s.sessions.toList.filter fun entry =>
    excludedClientId.all (entry.1 != ·)).map fun entry => asciiLowercase entry.2.username
  if !allNames.contains (asciiLowercase username) then some username
  else
    let trimmed := (username.toList.reverse.dropWhile (· == '_')).reverse
    let collisionStem :=
      if username.toList.getLast? = some '_' then
        (if trimmed.isEmpty then ['_'] else trimmed)
      else username.toList
    let candidates := (List.range s.maxUsernameLength).map fun i =>
      let suffixChars := i + 1
      String.ofList (collisionStem.take (s.maxUsernameLength - suffixChars)
        ++ List.replicate suffixChars '_')
    candidates.find? fun candidate => !allNames.contains (asciiLowercase candidate)

def clientTimedOut (s : ServerRuntime) (clientId : String) : Bool :=
  match s.clientLastStateUpdateAt[clientId]? with
  | none => false
  | some updatedAt => protocolTimeoutSeconds < s.localTimeSeconds - updatedAt

/-! ### Persistent rooms -/

def roomIsPersistent (s : ServerRuntime) (roomName : String) : Bool :=
  s.persistentRoomsEnabled && !roomNameIsMarkedTemporary roomName

def roomIsPermanent (s : ServerRuntime) (roomName : String) : Bool :=
  s.permanentRooms.contains roomName

def roomPlaylistState (s : ServerRuntime) (roomName : String) : RoomPlaylistState :=
  s.roomPlaylists.getD roomName {}

def roomShouldBeRetainedWhenEmpty (s : ServerRuntime) (roomName : String) : Bool :=
  s.roomIsPersistent roomName && !(s.roomPlaylistState roomName).files.isEmpty

def persistentRoomCreationIdentity (s : ServerRuntime) (clientId : String) : String :=
  s.persistentRoomOwnerBucket <|
    match s.clientPeerIps[clientId]? with
    | some peerIp => "peer-ip:" ++ s.normalizePeerIp peerIp
    | none => "session:" ++ clientId

def persistentRoomCreationRequired (s : ServerRuntime) (roomName : String) (files : List String) :
    Bool :=
  !files.isEmpty && s.roomIsPersistent roomName && !s.roomIsPermanent roomName
    && (s.roomPlaylistState roomName).files.isEmpty

def persistentRoomCreationAllowed (s : ServerRuntime) (roomName : String) (files : List String)
    (identity : String) (now : Seconds) : Bool :=
  if !s.persistentRoomCreationRequired roomName files then true
  else
    let retainedClientRooms := (s.roomPlaylists.toList.filter fun entry =>
      !entry.2.files.isEmpty && s.roomIsPersistent entry.1 && !s.roomIsPermanent entry.1).length
    let roomsOwnedByIdentity :=
      (s.persistentRoomOwnerByRoom.toList.filter fun entry => entry.2 == identity).length
    if s.maxPersistentRooms ≤ retainedClientRooms then false
    else if s.maxPersistentRoomsPerIdentity ≤ roomsOwnedByIdentity then false
    else match s.persistentRoomLastCreationByIdentity[identity]? with
      | none => true
      | some lastCreation =>
          lastCreation ≤ now && s.persistentRoomCreationCooldownSeconds ≤ now - lastCreation

def recordPersistentRoomCreation (s : ServerRuntime) (roomName identity : String)
    (now : Seconds) : ServerRuntime :=
  let owners := s.persistentRoomOwnerByRoom.insert roomName identity
  let activeOwners := owners.toList.map Prod.snd
  { s with
    persistentRoomOwnerByRoom := owners
    persistentRoomCreatedAtByRoom := s.persistentRoomCreatedAtByRoom.insert roomName now
    persistentRoomLastCreationByIdentity :=
      (s.persistentRoomLastCreationByIdentity.insert identity now).filter
        fun identity lastCreation => activeOwners.contains identity
          || (lastCreation ≤ now && now - lastCreation ≤ s.persistentRoomCreationCooldownSeconds) }

def releasePersistentRoomOwnership (s : ServerRuntime) (roomName : String) : ServerRuntime :=
  { s with
    persistentRoomOwnerByRoom := s.persistentRoomOwnerByRoom.erase roomName
    persistentRoomCreatedAtByRoom := s.persistentRoomCreatedAtByRoom.erase roomName }

/-! ### Canonical room state -/

/-- Creates the canonical records of a room that are still missing. -/
def ensureRoomState (s : ServerRuntime) (roomName : String) : ServerRuntime :=
  { s with
    roomPlaylists := s.roomPlaylists.insertIfNew roomName {}
    roomControllers := s.roomControllers.insertIfNew roomName ∅
    roomPlaybackStates :=
      s.roomPlaybackStates.insertIfNew roomName (.newAt s.currentTimeSeconds)
    roomParticipantStatusScopes := s.roomParticipantStatusScopes.insertIfNew roomName {} }

def roomPlaybackState (s : ServerRuntime) (roomName : String) : RoomPlaybackState :=
  s.roomPlaybackStates.getD roomName (.newAt s.currentTimeSeconds)

def roomPlaybackStateAt (s : ServerRuntime) (roomName : String) (now : Seconds) :
    RoomPlaybackState :=
  (s.roomPlaybackState roomName).agedAt now

def setRoomPlaybackState (s : ServerRuntime) (roomName : String) (state : RoomPlaybackState) :
    ServerRuntime :=
  { s with roomPlaybackStates := s.roomPlaybackStates.insert roomName state }

def setRoomPlaylistState (s : ServerRuntime) (roomName : String) (state : RoomPlaylistState) :
    ServerRuntime :=
  { s with roomPlaylists := s.roomPlaylists.insert roomName state }

def roomParticipantStatusScope (s : ServerRuntime) (roomName : String) :
    RoomParticipantStatusScope :=
  s.roomParticipantStatusScopes.getD roomName {}

def transportAuthorityRevisionForRoom (s : ServerRuntime) (roomName : String) : Option Nat :=
  s.roomParticipantStatusScopes[roomName]?.map (·.transportRevision)

def advanceParticipantStatusMediaGeneration (s : ServerRuntime) (roomName : String)
    (authoritativeGeneration : Option Nat) : ServerRuntime :=
  let s := s.ensureRoomState roomName
  let scope := s.roomParticipantStatusScope roomName
  { s with
    roomParticipantStatusScopes := s.roomParticipantStatusScopes.insert roomName
      { mediaGeneration :=
          (authoritativeGeneration.filter (0 < ·)).getD (scope.mediaGeneration + 1)
        transportRevision := scope.transportRevision + 1 } }

def advanceParticipantStatusTransportRevision (s : ServerRuntime) (roomName : String) :
    ServerRuntime :=
  let s := s.ensureRoomState roomName
  let scope := s.roomParticipantStatusScope roomName
  { s with
    roomParticipantStatusScopes := s.roomParticipantStatusScopes.insert roomName
      { scope with transportRevision := scope.transportRevision + 1 } }

/-! ### Client playback samples -/

/-- Notes the room of the session that a sample is taken for. -/
def noteSampleRoom (s : ServerRuntime) (clientId : String) : BTreeMap String String :=
  match s.sessions[clientId]? with
  | some session => s.sampleRooms.insert clientId session.room
  | none => s.sampleRooms.erase clientId

def seedClientPlaybackState (s : ServerRuntime) (clientId : String) (position : Option Seconds)
    (now : Seconds) : ServerRuntime :=
  let transportRevision := s.sessions[clientId]?.bind fun session =>
    s.transportAuthorityRevisionForRoom session.room
  { s with
    clientPlaybackStates := s.clientPlaybackStates.insert clientId
      { position, updatedAtSeconds := now, transportRevision }
    sampleRooms := s.noteSampleRoom clientId }

def recordClientPlaybackStateSample (s : ServerRuntime) (clientId : String)
    (position : Option Seconds) (now : Seconds) (transportRevision : Option Nat) :
    ServerRuntime :=
  let held := s.clientPlaybackStates[clientId]?.bind (·.position)
  { s with
    clientPlaybackStates := s.clientPlaybackStates.insert clientId
      { position := position.or held, updatedAtSeconds := now, transportRevision }
    sampleRooms := s.noteSampleRoom clientId }

def seedRoomClientPlaybackStates (s : ServerRuntime) (roomName : String) (position now : Seconds) :
    ServerRuntime :=
  (s.clientsInRoom roomName).foldl
    (fun s clientId => s.seedClientPlaybackState clientId (some position) now) s

/-- The member whose extrapolated sample is furthest behind; ties go to the
    earlier joiner. -/
def slowestRoomPlaybackClientAt (s : ServerRuntime) (roomName : String) (roomPaused : Bool)
    (now : Seconds) : Option (String × Seconds) :=
  let controlledRoom := s.roomPasswordProvider.isControlledRoomName roomName
  let currentTransportRevision := s.transportAuthorityRevisionForRoom roomName
  let sample (entry : String × ServerSession) : Option Seconds :=
    if entry.2.room != roomName || s.playbackBarrierFencedClients.contains entry.1 then none
    else if controlledRoom && !s.userIsRoomController entry.2.username roomName then none
    else if entry.2.file.isNone then none
    else s.clientPlaybackStates[entry.1]?.bind fun state =>
      if state.transportRevision.isSome && state.transportRevision != currentTransportRevision then
        none
      else state.positionAt roomPaused now
  let slowest := s.sessions.toList.foldl (fun slowest entry =>
    match sample entry with
    | none => slowest
    | some position =>
        let order := s.clientRoomJoinOrder entry.1
        match slowest with
        | none => some (entry.2.username, position, order)
        | some (_, heldPosition, heldOrder) =>
            if position < heldPosition || (position == heldPosition && order < heldOrder) then
              some (entry.2.username, position, order)
            else slowest) none
  slowest.map fun held => (held.1, held.2.1)

/-- The room state a periodic tick publishes, and the runtime after the slowest
    member's sample replaced a stale canonical position. -/
def refreshRoomPlaybackStateFromClientsAt (s : ServerRuntime) (roomName : String) (now : Seconds) :
    RoomPlaybackState × ServerRuntime :=
  let current := s.roomPlaybackState roomName
  if now - current.updatedAtSeconds ≤ serverStateIntervalSeconds then (current.agedAt now, s)
  else match s.slowestRoomPlaybackClientAt roomName current.paused now with
    | none => (current.agedAt now, s)
    | some (setBy, position) =>
        let refreshed :=
          { current with position, updatedAtSeconds := now, setBy := some setBy }
        (refreshed, s.setRoomPlaybackState roomName refreshed)

/-! ### Sessions, controllers and join order -/

def addRoomController (s : ServerRuntime) (username roomName : String) : ServerRuntime :=
  let s := s.ensureRoomState roomName
  { s with
    roomControllers :=
      s.roomControllers.insert roomName ((s.roomControllers.getD roomName ∅).insert username) }

def removeRoomController (s : ServerRuntime) (username roomName : String) : ServerRuntime :=
  { s with roomControllers := s.roomControllers.modify roomName (·.erase username) }

def assignRoomJoinOrder (s : ServerRuntime) (clientId : String) : ServerRuntime :=
  { s with
    clientRoomJoinSequence := s.clientRoomJoinSequence.insert clientId s.nextRoomJoinSequence
    nextRoomJoinSequence := s.nextRoomJoinSequence + 1 }

def recordClientStateUpdateNow (s : ServerRuntime) (clientId : String) : ServerRuntime :=
  { s with
    clientLastStateUpdateAt := s.clientLastStateUpdateAt.insert clientId s.localTimeSeconds }

/-! ### Forced State messages -/

def serverIgnoringCounter (s : ServerRuntime) (clientId : String) : Nat :=
  (s.clientStateCounters.getD clientId {}).serverIgnoringOnTheFly

def updateStateCounters (s : ServerRuntime) (clientId : String)
    (f : ClientStateCounters → ClientStateCounters) : ServerRuntime :=
  { s with
    clientStateCounters :=
      s.clientStateCounters.insert clientId (f (s.clientStateCounters.getD clientId {})) }

def acknowledgeServerIgnoringCounter (s : ServerRuntime) (clientId : String)
    (serverCounter : Nat) : ServerRuntime :=
  { s with
    clientStateCounters := s.clientStateCounters.modify clientId fun counters =>
      if counters.serverIgnoringOnTheFly = serverCounter then
        { counters with serverIgnoringOnTheFly := 0 }
      else counters }

def queueClientIgnoringCounter (s : ServerRuntime) (clientId : String)
    (clientIgnoringCounter : Nat) : ServerRuntime :=
  s.updateStateCounters clientId fun counters =>
    { counters with pendingClientIgnoringOnTheFly := some clientIgnoringCounter }

def queueClientLatencyCalculation (s : ServerRuntime) (clientId : String) (clientLatency : F64) :
    ServerRuntime :=
  s.updateStateCounters clientId fun counters =>
    { counters with
      pendingClientLatencyCalculation := some clientLatency
      pendingClientLatencyCalculationArrivalTime := some s.currentTimeSeconds }

end ServerRuntime

/-- The latency echo of `counters`, moved on by the time it waited here. -/
def ClientStateCounters.passthroughLatency (counters : ClientStateCounters) (now : Seconds) :
    Option F64 :=
  counters.pendingClientLatencyCalculation.map fun latency =>
    match latency, counters.pendingClientLatencyCalculationArrivalTime with
    | .finite latency, some arrivalTime => .finite (latency + max (now - arrivalTime) 0)
    | latency, _ => latency

def ClientStateCounters.withoutPassthrough (counters : ClientStateCounters) :
    ClientStateCounters :=
  { counters with
    pendingClientLatencyCalculation := none
    pendingClientLatencyCalculationArrivalTime := none
    pendingClientIgnoringOnTheFly := none }

/-- A State that forces `clientId` to the canonical playstate: it opens the
    server's on-the-fly fence and carries the client's pending echoes. -/
def forcedStateSyncMessageForClient (clientId : String) (position : Seconds) (paused : Bool)
    (doSeek : Option Bool) (setBy : Option String) : ServerM ProtocolMessage := do
  let s ← Prog.get
  let counters := s.clientStateCounters.getD clientId {}
  let serverIgnoringCounter := counters.serverIgnoringOnTheFly + 1
  Prog.modify (·.updateStateCounters clientId fun counters =>
    { counters.withoutPassthrough with serverIgnoringOnTheFly := serverIgnoringCounter })
  pure <| .state
    { position, paused, doSeek, setBy
      transportRevision := s.sessions[clientId]?.bind fun session =>
        s.transportAuthorityRevisionForRoom session.room
      serverIgnoringCounter := some serverIgnoringCounter
      clientLatencyCalculation := counters.passthroughLatency s.currentTimeSeconds
      clientIgnoringCounter := counters.pendingClientIgnoringOnTheFly }

/-- One forced State for each client. -/
def forcedStateFanout (clients : List String) (position : Seconds) (paused : Bool)
    (doSeek : Option Bool) (setBy : Option String) : ServerM Outbound :=
  Prog.collect (fun clientId => do
    let message ← forcedStateSyncMessageForClient clientId position paused doSeek setBy
    pure [{ clientId, message }]) clients

def periodicStateSyncMessageForClientAt (clientId : String) (position : Seconds) (paused : Bool)
    (setBy : Option String) (now : Seconds) : ServerM (Option ProtocolMessage) := do
  let s ← Prog.get
  match s.sessions[clientId]? with
  | none => pure none
  | some session => do
      let counters := s.clientStateCounters.getD clientId {}
      Prog.modify (·.updateStateCounters clientId (·.withoutPassthrough))
      if 0 < counters.serverIgnoringOnTheFly then
        pure none
      else
        pure <| some <| .state
          { position, paused, doSeek := some false, setBy
            transportRevision := s.transportAuthorityRevisionForRoom session.room
            serverIgnoringCounter := none
            clientLatencyCalculation := counters.passthroughLatency now
            clientIgnoringCounter := counters.pendingClientIgnoringOnTheFly }

/-! ### Roster and persistence in `ServerM` -/

def setRosterReady (username roomName : String) (ready : Bool) : ServerM Unit := do
  let s ← Prog.get
  match Roster.setReady s.roomRoster username roomName ready with
  | .ok roster => Prog.modify fun s => { s with roomRoster := roster }
  | .error error => Prog.throw (.roomRoster error)

namespace ServerRuntime

/-- Queues the newest snapshot of a persistent room for the room database. -/
def persistRoomAtIfNeeded (s : ServerRuntime) (roomName : String) (now : Seconds) :
    ServerRuntime :=
  if !s.roomIsPersistent roomName then s
  else
    let s := { s with
      persistentRoomLastActivityAt := s.persistentRoomLastActivityAt.insert roomName now }
    match s.roomPersistence with
    | none => s
    | some queue =>
        let playlist := s.roomPlaylistState roomName
        if !s.persistedRoomNames.contains roomName && !s.roomIsPermanent roomName
            && playlist.files.isEmpty then s
        else
          let version := s.nextRoomPersistenceVersion + 1
          { s with
            nextRoomPersistenceVersion := version
            persistedRoomNames := s.persistedRoomNames.insert roomName
            roomPersistence := some <|
              .saveRoom roomName playlist.files playlist.index
                (s.roomPlaybackStateAt roomName now).position now
                s.persistentRoomOwnerByRoom[roomName]?
                (s.persistentRoomCreatedAtByRoom.getD roomName now) version :: queue }

def persistRoomIfNeeded (s : ServerRuntime) (roomName : String) : ServerRuntime :=
  s.persistRoomAtIfNeeded roomName s.currentTimeSeconds

def persistentRoomActivityHeartbeatIntervalSeconds (s : ServerRuntime) : Seconds :=
  if s.persistentRoomInactivityExpirySeconds ≤ 0 then
    persistentRoomActivityHeartbeatMaxIntervalSeconds
  else max serverNetworkTickIntervalSeconds <|
    min persistentRoomActivityHeartbeatMaxIntervalSeconds
      (s.persistentRoomInactivityExpirySeconds / 2)

def persistOccupiedRoomActivityIfDueAt (s : ServerRuntime) (roomName : String) (now : Seconds) :
    ServerRuntime :=
  let recent := match s.persistentRoomLastActivityAt[roomName]? with
    | none => false
    | some lastActivity => lastActivity ≤ now
        && now - lastActivity < s.persistentRoomActivityHeartbeatIntervalSeconds
  if !s.roomIsPersistent roomName || (s.clientsInRoom roomName).isEmpty
      || (!s.persistedRoomNames.contains roomName && !s.roomIsPermanent roomName
        && (s.roomPlaylistState roomName).files.isEmpty)
      || recent then s
  else s.persistRoomAtIfNeeded roomName now

def persistOccupiedRoomActivityIfDueAtForAllRooms (s : ServerRuntime) (now : Seconds) :
    ServerRuntime :=
  let occupiedRooms := (∅ : BTreeSet String).insertMany
    (s.sessions.toList.map fun entry => entry.2.room)
  occupiedRooms.toList.foldl (fun s room => s.persistOccupiedRoomActivityIfDueAt room now) s

def deletePersistedRoomIfNeeded (s : ServerRuntime) (roomName : String) : ServerRuntime :=
  match s.roomPersistence with
  | none => s
  | some queue =>
      if !s.persistedRoomNames.contains roomName then s
      else
        let version := s.nextRoomPersistenceVersion + 1
        { s with
          persistedRoomNames := s.persistedRoomNames.erase roomName
          nextRoomPersistenceVersion := version
          roomPersistence := some (.deleteRoom roomName version :: queue) }

end ServerRuntime

end Sorotte.Server
