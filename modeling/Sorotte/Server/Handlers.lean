import Sorotte.Server.Sessions

/-! # Inbound messages

  The handlers of `runtime_handlers.rs` for normalised commands.  Each Set
  command is its own function; a batch runs them in order and re-reads the
  sender's session from the runtime, which the source keeps in step with its
  local copy.

  Three inputs replace code outside the model: whether every frame the message
  would produce fits its recipient's line limit, the reconnect token drawn from
  the operating system, and the sender's one-way delay estimate.
-/

namespace Sorotte.Server

open Sorotte.Framework

def defaultMaxRoomNameLength : Nat := 35

/-! ### Commands -/

inductive ServerPlaylistIndexPrecondition where
  | unconditional
  | expected (index : Int) (epoch : Nat)
  | invalid
  deriving DecidableEq, Repr

structure ServerPlaylistIndexCommand where
  index : Option Int
  precondition : ServerPlaylistIndexPrecondition
  deriving DecidableEq, Repr

inductive ServerSetCommand where
  | room (name : String)
  | file (file : Option ServerSharedFile)
  | controllerAuth (room : Option String) (password : String)
  | ready (isReady manuallyInitiated : Bool) (username : Option String)
  | playlistChange (files : List String)
  | playlistIndex (command : ServerPlaylistIndexCommand)
  | features (capabilities : ServerClientCapabilities)
  | playbackBarrier (extension : PlaybackBarrierSetRequest)
  | readiness (intent : Option ReadinessIntentRequest)
  deriving DecidableEq

structure ServerHelloCommand where
  username : String
  room : String
  version : String
  passwordToken : Option String := none
  readinessReconnectToken : Option String := none
  capabilities : ServerClientCapabilities
  peerIp : Option String := none
  deriving DecidableEq

structure ServerPlaystate where
  position : Option F64 := none
  paused : Option Bool := none
  doSeek : Option Bool := none
  transportRevision : Option Nat := none
  deriving DecidableEq

structure ServerStateCommand where
  serverIgnoring : Option Nat := none
  clientIgnoring : Option Nat := none
  clientLatencyCalculation : Option F64 := none
  playstate : Option ServerPlaystate := none
  readiness : Option TechnicalReadinessReport := none
  playbackBarrier : Option PlaybackBarrierStateExtension := none
  deriving DecidableEq

/-! ### Hello -/

def serverPasswordTokenMatches (s : ServerRuntime) (presented configured : String) : Bool :=
  presented == configured || presented == s.md5Hex configured

/-- The join must be refused for its password. -/
def ServerRuntime.helloPasswordRefused (s : ServerRuntime) (hello : ServerHelloCommand) : Bool :=
  match s.serverPasswordToken with
  | none => false
  | some configured => !hello.passwordToken.any (serverPasswordTokenMatches s · configured)

namespace ServerRuntime

/-- A joiner is placed at the room's position only in a room that had one. -/
def seedsJoinerPosition (s : ServerRuntime) (roomName : String) : Bool :=
  !(s.clientsInRoom roomName).isEmpty || s.roomIsPersistent roomName
    || s.roomIsPermanent roomName

/-- The room a joiner finds: its records exist and its stale position was
    refreshed from the members' samples. -/
def readyForJoin (s : ServerRuntime) (roomName : String) (now : Seconds) : ServerRuntime :=
  ((s.ensureRoomState roomName).refreshRoomPlaybackStateFromClientsAt roomName now).2

def joinPlayback (s : ServerRuntime) (roomName : String) (now : Seconds) : RoomPlaybackState :=
  ((s.ensureRoomState roomName).refreshRoomPlaybackStateFromClientsAt roomName now).1

def setPeerIp (s : ServerRuntime) (clientId : String) (peerIp : Option String) : ServerRuntime :=
  { s with
    clientPeerIps := match peerIp.filter (!·.isEmpty) with
      | some peerIp => s.clientPeerIps.insert clientId peerIp
      | none => s.clientPeerIps.erase clientId }

/-- The runtime after a new session is tracked in its room. -/
def joinSession (s : ServerRuntime) (clientId : String) (session : ServerSession)
    (now : Seconds) : ServerRuntime :=
  let roomName := session.room
  let position :=
    if s.seedsJoinerPosition roomName then some (s.joinPlayback roomName now).position else none
  let room := s.readyForJoin roomName now
  let joined := { room with
    roomRoster := Roster.joinRoomWithReady room.roomRoster session.username roomName none
    sessions := room.sessions.insert clientId session }
  let seeded := (joined.assignRoomJoinOrder clientId).seedClientPlaybackState clientId position now
  { seeded with
    clientStateCounters := seeded.clientStateCounters.insert clientId {}
    clientLastStateUpdateAt :=
      seeded.clientLastStateUpdateAt.insert clientId seeded.localTimeSeconds
    clientNextPeriodicStateAt := seeded.clientNextPeriodicStateAt.insert clientId
      (seeded.localTimeSeconds + serverInitialStateDelaySeconds) }

def playlistSnapshotMessages (s : ServerRuntime) (clientId roomName : String)
    (setBy : Option String) : Outbound :=
  let playlist := s.roomPlaylistState roomName
  let plexSidecar := s.sessions[clientId]?.any (·.capabilities.plexPlaylistUris)
  [{ clientId, message := .playlistChange playlist.files setBy playlist.epoch plexSidecar },
   { clientId, message := .playlistIndex playlist.index setBy playlist.epoch }]

end ServerRuntime

/-- Retires the connection's previous session before a repeated Hello. -/
def replaceSession (clientId : String) : ServerM Outbound := do
  let s ← Prog.get
  match s.sessions[clientId]? with
  | none => pure []
  | some previous => do
      let detached ← detachReadinessMembership clientId true
      let rateHistory ← Prog.gets (·.playbackBarrierNewIdentityRateByClient[clientId]?)
      Prog.modify fun s => { s with
        playbackBarrierNewIdentityRateByClient :=
          s.playbackBarrierNewIdentityRateByClient.erase clientId }
      let barrier ← markPlaybackBarrierParticipantDisconnected clientId previous.room
      let buffering ← markRoomBufferingParticipantDisconnected clientId previous.room
      Prog.modify (·.removeSessionTracking clientId previous)
      -- the rate window belongs to the connection, not to the session
      Prog.modify fun s => match rateHistory with
        | some history => { s with
            playbackBarrierNewIdentityRateByClient :=
              s.playbackBarrierNewIdentityRateByClient.insert clientId history }
        | none => s
      let cohort ← refreshMixedReadinessCohort previous.room
      Prog.modify (·.cleanupRoomIfEmpty previous.room)
      pure (detached ++ barrier ++ buffering ++ cohort)

/-- Joins an admitted Hello and publishes the join. -/
def admitHello (clientId : String) (session : ServerSession) (hello : ServerHelloCommand)
    (freshToken : String) : ServerM Outbound := do
  let replacement ← replaceSession clientId
  Prog.modify (·.setPeerIp clientId hello.peerIp)
  let s ← Prog.get
  let now := s.currentTimeSeconds
  let setBy := (s.joinPlayback session.room now).setBy
  Prog.modify (·.joinSession clientId session now)
  let s ← Prog.get
  let usesReadiness := s.readinessEnabled && session.capabilities.readinessV2
  let joined := (s.clientsVisibleOnJoin session.room clientId).map fun existing =>
    { clientId := existing
      message := .userJoined session.username session.room session.version
        session.capabilities }
  let unready := if usesReadiness then []
    else (s.clientsInRoom session.room).map fun member =>
      { clientId := member, message := .readyUpdate session.username none false none }
  let lists := if s.persistentRoomsEnabled then
      ServerRuntime.enqueueListSnapshotsForClients
        (s.clientsReceivingToGuiOnlyListUpdates (some session.room))
    else []
  let playlist := s.playlistSnapshotMessages clientId session.room setBy
  let attached ← Prog.when usesReadiness
    (attachReadinessMembership clientId hello.readinessReconnectToken freshToken true false)
  let s ← Prog.get
  let response : DirectedProtocolMessage :=
    { clientId
      message := .hello session.username session.room session.version
        s.readinessReconnectIdentityByClient[clientId]? }
  let cohort ← refreshMixedReadinessCohort session.room
  let buffering ← refreshRoomBufferingParticipant clientId
  pure (replacement ++ joined ++ unready ++ lists ++ playlist ++ [response] ++ attached
    ++ cohort ++ buffering)

def handleHelloForPeer (clientId : String) (hello : ServerHelloCommand) (framesFit : Bool)
    (freshToken : String) : ServerM Outbound := do
  let s ← Prog.get
  let requestedUsername := truncateTextToMaxChars (trimText hello.username) s.maxUsernameLength
  let roomName := truncateTextToMaxChars (trimText hello.room) defaultMaxRoomNameLength
  let version := trimText hello.version
  if requestedUsername.isEmpty || roomName.isEmpty || version.isEmpty then
    Prog.throw .invalidHello
  else if s.helloPasswordRefused hello then do
    Prog.modify (·.requestClose clientId)
    pure [{ clientId, message := .error hello.passwordToken.isSome }]
  else match s.findFreeUsername requestedUsername (some clientId) with
    | none => Prog.throw .invalidHello
    | some username =>
        if 128 < version.utf8ByteSize || !framesFit then
          Prog.throw .frameCapacity
        else
          admitHello clientId
            { username, room := roomName, version, capabilities := hello.capabilities,
              file := none } hello freshToken

/-! ### Set: room -/

namespace ServerRuntime

/-- The Ready flag a member keeps across a room switch. -/
def carriedReady (s : ServerRuntime) (session : ServerSession) : Option Bool :=
  if s.readinessEnabled && session.capabilities.readinessV2 then some false
  else s.storedUserReady session.username session.room

/-- The runtime after a member moved to `newRoom`; `roster` is the roster it
    already left the old room in.  The sample is seeded while the session still
    names the old room. -/
def moveSession (s : ServerRuntime) (clientId : String) (session : ServerSession)
    (newRoom : String) (roster : BTreeMap String (BTreeMap String (Option Bool)))
    (now : Seconds) : ServerRuntime :=
  let ready := s.carriedReady session
  let seeds := s.seedsJoinerPosition newRoom
  let left := { s with roomRoster := roster }.removeRoomController session.username session.room
  let position := if seeds then some (left.joinPlayback newRoom now).position else none
  let room := left.readyForJoin newRoom now
  let joined := { room with
    roomRoster := Roster.joinRoomWithReady room.roomRoster session.username newRoom ready }
  let seeded := (joined.assignRoomJoinOrder clientId).seedClientPlaybackState clientId position now
  { seeded with
    sessions := seeded.sessions.insert clientId { session with room := newRoom }
    history := .leftRoom clientId session.room :: seeded.history }

end ServerRuntime

/-- The messages a switching member and its new room receive. -/
def publishRoomSwitch (clientId : String) (session : ServerSession)
    (playback : RoomPlaybackState) (readiness : Outbound) (carriedReady : Option Bool) :
    ServerM Outbound := do
  let state ← forcedStateSyncMessageForClient clientId playback.position playback.paused
    (some true) playback.setBy
  let s ← Prog.get
  let files := match s.isolateRooms, session.file with
    | true, some file => (s.clientsInRoom session.room).map fun peer =>
        { clientId := peer
          message := .userFileUpdate session.username session.room file
            (s.sessions[peer]?.any (·.capabilities.mediaMatch) && peer != clientId) }
    | _, _ => []
  let moved := (s.roomSwitchVisibilityRecipients clientId session.room).map fun peer =>
    { clientId := peer, message := .userRoomUpdate session.username session.room }
  let ready := if s.readinessEnabled && session.capabilities.readinessV2 then []
    else (s.clientsInRoom session.room).map fun peer =>
      { clientId := peer
        message := .readyUpdate session.username
          (if s.readinessEnabled then carriedReady else none) false none }
  let lists := if s.persistentRoomsEnabled then
      ServerRuntime.enqueueListSnapshotsForClients
        (s.clientsReceivingToGuiOnlyListUpdates (some session.room))
    else []
  pure ([{ clientId, message := state }] ++ files ++ moved ++ readiness ++ ready ++ lists
    ++ s.playlistSnapshotMessages clientId session.room playback.setBy)

def switchRoom (clientId : String) (session : ServerSession) (newRoom freshToken : String) :
    ServerM Outbound := do
  let previousRoom := session.room
  let detached ← detachReadinessMembership clientId false
  let barrier ← markPlaybackBarrierParticipantDisconnected clientId previousRoom
  let buffering ← markRoomBufferingParticipantDisconnected clientId previousRoom
  let s ← Prog.get
  let now := s.currentTimeSeconds
  let left := if s.isolateRooms then (s.clientsInRoom previousRoom).map fun peer =>
      { clientId := peer, message := .userLeft session.username previousRoom }
    else []
  match Roster.leaveRoom s.roomRoster session.username previousRoom with
  | .error error => Prog.throw (.roomRoster error)
  | .ok roster => do
      let playback := s.joinPlayback newRoom now
      let moved := { session with room := newRoom }
      Prog.modify (·.moveSession clientId session newRoom roster now)
      let oldCohort ← refreshMixedReadinessCohort previousRoom
      let attached ← Prog.when (s.readinessEnabled && session.capabilities.readinessV2)
        (attachReadinessMembership clientId none freshToken true false)
      let newCohort ← refreshMixedReadinessCohort newRoom
      Prog.modify fun s => { s with
        clientNextPeriodicStateAt := s.clientNextPeriodicStateAt.insert clientId
          (s.localTimeSeconds + serverStateIntervalSeconds) }
      Prog.modify (·.cleanupRoomIfEmpty previousRoom)
      let published ← publishRoomSwitch clientId moved playback (attached ++ newCohort)
        (s.carriedReady session)
      let policy ← refreshRoomBufferingParticipant clientId
      pure (detached ++ barrier ++ buffering ++ left ++ oldCohort ++ published ++ policy)

def setRoom (clientId : String) (session : ServerSession) (roomName freshToken : String) :
    ServerM Outbound := do
  let newRoom := truncateTextToMaxChars roomName defaultMaxRoomNameLength
  if session.room = newRoom then pure [] else switchRoom clientId session newRoom freshToken

/-! ### Set: file, controllerAuth and ready -/

namespace ServerRuntime

/-- Replaces the published facts of a live session in place. -/
def updateSession (s : ServerRuntime) (clientId : String)
    (f : ServerSession → ServerSession) : ServerRuntime :=
  { s with sessions := s.sessions.modify clientId f }

end ServerRuntime

def setFile (clientId : String) (session : ServerSession) (file : Option ServerSharedFile) :
    ServerM Outbound := do
  Prog.modify (·.updateSession clientId fun session => { session with file })
  let s ← Prog.get
  match file with
  | none => pure []
  | some file =>
      let recipients := if s.isolateRooms then s.clientsInRoom session.room else s.clientsAll
      pure <| recipients.map fun peer =>
        { clientId := peer
          message := .userFileUpdate session.username session.room file
            (s.sessions[peer]?.any (·.capabilities.mediaMatch) && peer != clientId) }

namespace ServerRuntime

/-- Grants controller authority for a presented and checked password. -/
def grantController (s : ServerRuntime) (clientId username roomName password : String) :
    ServerRuntime :=
  (s.addRoomController username roomName).record
    (.controllerAuthenticated clientId roomName password)

end ServerRuntime

def setControllerAuth (clientId : String) (session : ServerSession) (room : Option String)
    (password : String) : ServerM Outbound := do
  let s ← Prog.get
  let authRoom := room.getD session.room
  let status (success : Bool) : Outbound := (s.clientsInRoom authRoom).map fun peer =>
    { clientId := peer, message := .controllerAuthStatus session.username authRoom success }
  match s.roomPasswordProvider.check authRoom password with
  | .ok true => do
      Prog.modify (·.grantController clientId session.username authRoom password)
      pure (status true)
  | .ok false => pure (status false)
  | .error .notControlledRoom =>
      pure [{ clientId
              message := .newControlledRoom
                (s.roomPasswordProvider.controlledRoomNameFor authRoom password) password }]
  | .error .invalidPassword => pure (status false)

def setReady (clientId : String) (session : ServerSession) (isReady manuallyInitiated : Bool)
    (username : Option String) : ServerM Outbound := do
  let requested := username.getD session.username
  let bridged ← applySyncplayReadyToReadinessV2 clientId requested isReady manuallyInitiated
  match bridged with
  | some outbound => pure outbound
  | none => do
      let s ← Prog.get
      let published := if s.readinessEnabled then some isReady else none
      let ready (target : String) (setBy : Option String) : Outbound :=
        (s.clientsInRoom session.room).map fun peer =>
          { clientId := peer, message := .readyUpdate target published manuallyInitiated setBy }
      if requested ≠ session.username then
        match s.userCanControlPlaylist session.username session.room,
            Roster.setReady s.roomRoster requested session.room isReady with
        | true, .ok roster => do
            Prog.modify fun s => { s with roomRoster := roster }
            let chat := (s.syncplayReadinessChatClientsInRoom session.room).map fun peer =>
              { clientId := peer, message := .readinessChat session.username requested isReady }
            pure (ready requested (some session.username) ++ chat)
        | _, _ => pure []
      else do
        setRosterReady session.username session.room isReady
        let actor := if manuallyInitiated && s.readinessGoverned session.room then
            some session.username else none
        pure (ready session.username actor)

/-! ### Set: playlist -/

/-- A canonical selection starts from a paused zero position under a new
    transport authority, and supersedes what the room was preparing. -/
def resetRoomTransportForCanonicalSelectionChange (roomName setBy : String) (now : Seconds) :
    ServerM Outbound := do
  let revisionBefore ← Prog.gets (·.transportAuthorityRevisionForRoom roomName)
  let retired ← retirePlaybackCoordinationForSelection roomName
  Prog.modify fun s =>
    if s.roomReadiness[roomName]?.any (!·.pauseOwner.isUser) then
      s.setReadinessPauseOwner roomName .endOfPlaylist
    else s
  let readiness ← retireReadinessGeneration roomName
  Prog.modify (·.setRoomPlaybackState roomName
    { position := 0, paused := true, setBy := some setBy, updatedAtSeconds := now })
  Prog.modify fun s =>
    if s.transportAuthorityRevisionForRoom roomName = revisionBefore then
      s.advanceTransportAuthorityRevision roomName
    else s
  Prog.modify (·.seedRoomClientPlaybackStates roomName 0 now)
  pure (retired ++ readiness)

namespace ServerRuntime

/-- The playlist after an accepted change, before its epoch moves: with
    lifecycle authority a compound edit selects its row and an index that names
    no row is retired. -/
def changedPlaylist (playlist : RoomPlaylistState) (files : List String)
    (compoundIndex : Option ServerPlaylistIndexCommand) (lifecycleAuthority : Bool) :
    RoomPlaylistState :=
  let changed : RoomPlaylistState := { playlist with
    files, index := (compoundIndex.map (·.index)).getD playlist.index }
  if lifecycleAuthority then changed.retireInvalidSelectedIndex.1 else changed

/-- The canonical selection differs from the one before the change. -/
def playlistSelectionChanged (playlist : RoomPlaylistState) (files : List String)
    (compoundIndex : Option ServerPlaylistIndexCommand) (lifecycleAuthority : Bool) : Bool :=
  let changed : RoomPlaylistState := { playlist with
    files, index := (compoundIndex.map (·.index)).getD playlist.index }
  lifecycleAuthority && (changed.retireInvalidSelectedIndex.2
    || playlist.selectedEntryIdentity.map Prod.snd
      != changed.retireInvalidSelectedIndex.1.selectedEntryIdentity.map Prod.snd)

/-- Stores an accepted playlist mutation under the next epoch. -/
def acceptPlaylist (s : ServerRuntime) (roomName : String) (playlist : RoomPlaylistState)
    (expected : Option (Int × Nat)) : ServerRuntime :=
  (s.setRoomPlaylistState roomName playlist.advanceEpoch).record
    (.playlistAccepted roomName playlist.epoch expected)

end ServerRuntime

/-- The following index command, when the change consumes it as its own
    selection. -/
def compoundIndexOf (files : List String) (next : Option ServerSetCommand) :
    Option ServerPlaylistIndexCommand :=
  match next with
  | some (.playlistIndex command) =>
      let indexFits : Bool := match command.index with
        | none => files.isEmpty
        | some index => decide (0 ≤ index ∧ index.toNat < files.length)
      if command.precondition = .unconditional ∧ indexFits then some command else none
  | _ => none

/-- Applies an accepted playlist change. -/
def acceptPlaylistChange (clientId : String) (session : ServerSession) (files : List String)
    (compoundIndex : Option ServerPlaylistIndexCommand) (lifecycleAuthority : Bool) :
    ServerM Outbound := do
  let s ← Prog.get
  let roomName := session.room
  let now := s.currentTimeSeconds
  let identity := s.persistentRoomCreationIdentity clientId
  let creationRequired := s.persistentRoomCreationRequired roomName files
  let playlist := s.roomPlaylistState roomName
  let changed := ServerRuntime.changedPlaylist playlist files compoundIndex lifecycleAuthority
  let playlistChanged := playlist.files != files
  let selectionChanged :=
    ServerRuntime.playlistSelectionChanged playlist files compoundIndex lifecycleAuthority
  Prog.modify (·.acceptPlaylist roomName changed none)
  Prog.modify fun s => if playlistChanged || selectionChanged then
      s.advanceParticipantStatusMediaGeneration roomName none else s
  let readiness ← Prog.when selectionChanged
    (resetRoomTransportForCanonicalSelectionChange roomName session.username now)
  Prog.modify fun s =>
    if creationRequired then s.recordPersistentRoomCreation roomName identity now
    else if files.isEmpty then s.releasePersistentRoomOwnership roomName
    else s
  Prog.modify (·.persistRoomIfNeeded roomName)
  let epoch := changed.epoch + 1
  let s ← Prog.get
  let published ← Prog.collect (fun peer => do
    let plexSidecar := s.sessions[peer]?.any (·.capabilities.plexPlaylistUris)
    let change : DirectedProtocolMessage :=
      { clientId := peer
        message := .playlistChange files (some session.username) epoch plexSidecar }
    let index : Outbound := if selectionChanged || compoundIndex.isSome then
        [{ clientId := peer
           message := .playlistIndex changed.index (some session.username) epoch }]
      else []
    let state ← forcedStateFanout (if selectionChanged then [peer] else []) 0 true (some false)
      (some session.username)
    pure (change :: index ++ state)) (s.clientsInRoom roomName)
  pure (published ++ readiness)

namespace ServerRuntime

/-- The sender may replace the playlist with `files`. -/
def acceptsPlaylistChange (s : ServerRuntime) (clientId : String) (session : ServerSession)
    (files : List String) : Bool :=
  s.userCanControlPlaylist session.username session.room && playlistIsValid files
    && s.persistentRoomCreationAllowed session.room files
      (s.persistentRoomCreationIdentity clientId) s.currentTimeSeconds

end ServerRuntime

/-- Handles a playlist change; the flag says that it consumed the following
    index command. -/
def setPlaylistChange (clientId : String) (session : ServerSession) (files : List String)
    (next : Option ServerSetCommand) : ServerM (Outbound × Bool) := do
  Prog.modify (·.ensureRoomState session.room)
  let s ← Prog.get
  if s.acceptsPlaylistChange clientId session files then
    let lifecycleAuthority := s.roomUsesPlaybackLifecycleAuthority session.room
    let compoundIndex := if lifecycleAuthority then compoundIndexOf files next else none
    let outbound ← acceptPlaylistChange clientId session files compoundIndex lifecycleAuthority
    pure (outbound, compoundIndex.isSome)
  else
    pure (s.playlistSnapshotMessages clientId session.room (some session.room), false)

namespace ServerRuntime

def playlistPreconditionMatches (playlist : RoomPlaylistState) :
    ServerPlaylistIndexPrecondition → Bool
  | .unconditional => true
  | .expected index epoch => playlist.index == some index && playlist.epoch == epoch
  | .invalid => false

/-- Outside lifecycle authority a plain selection only moves the pause owner. -/
def ownPauseForSelection (s : ServerRuntime) (roomName : String) : ServerRuntime :=
  if s.roomReadiness[roomName]?.any fun room => match room.pauseOwner with
      | .none | .readinessStartGate _ | .endOfPlaylist => true
      | _ => false then
    s.setReadinessPauseOwner roomName .endOfPlaylist
  else s

end ServerRuntime

def ownPauseForSelection (roomName : String) : ServerM Outbound := do
  let s ← Prog.get
  Prog.modify (·.ownPauseForSelection roomName)
  let t ← Prog.get
  if s.readinessPauseOwnerDiffers roomName .endOfPlaylist
      && t.roomReadiness[roomName]?.any (·.pauseOwner == .endOfPlaylist) then
    pure (t.readinessSnapshotFanout roomName)
  else
    pure []

/-- The compare-and-set guard of an index command. -/
def ServerPlaylistIndexPrecondition.guard : ServerPlaylistIndexPrecondition → Option (Int × Nat)
  | .expected index epoch => some (index, epoch)
  | .unconditional | .invalid => none

/-- Applies an accepted index command. -/
def acceptPlaylistIndex (session : ServerSession) (command : ServerPlaylistIndexCommand) :
    ServerM Outbound := do
  let s ← Prog.get
  let roomName := session.room
  let now := s.currentTimeSeconds
  let playlist := s.roomPlaylistState roomName
  let selectionChanged := playlist.index != command.index
  let guardedNaturalAdvance := selectionChanged && command.precondition.guard.isSome
  let lifecycleAuthority := s.roomUsesPlaybackLifecycleAuthority roomName
  let resetTransport := guardedNaturalAdvance || lifecycleAuthority
  Prog.modify (·.acceptPlaylist roomName { playlist with index := command.index }
    command.precondition.guard)
  Prog.modify fun s => if selectionChanged || lifecycleAuthority then
      s.advanceParticipantStatusMediaGeneration roomName none else s
  let reset ← Prog.when resetTransport
    (resetRoomTransportForCanonicalSelectionChange roomName session.username now)
  let owned ← Prog.when (!resetTransport && selectionChanged) (ownPauseForSelection roomName)
  Prog.modify (·.persistRoomIfNeeded roomName)
  let s ← Prog.get
  let published := (s.clientsInRoom roomName).map fun peer =>
    { clientId := peer
      message := .playlistIndex command.index (some session.username) (playlist.epoch + 1) }
  let states ← forcedStateFanout (if resetTransport then s.clientsInRoom roomName else [])
    0 true (some false) (some session.username)
  pure (published ++ states ++ reset ++ owned)

def setPlaylistIndex (clientId : String) (session : ServerSession)
    (command : ServerPlaylistIndexCommand) : ServerM Outbound := do
  Prog.modify (·.ensureRoomState session.room)
  let s ← Prog.get
  let playlist := s.roomPlaylistState session.room
  let preconditionMatches :=
    ServerRuntime.playlistPreconditionMatches playlist command.precondition
  -- a stale compare-and-set lost the race: the winner's fanout is authoritative
  if command.precondition.guard.isSome && !preconditionMatches then
    pure []
  else if s.userCanControlPlaylist session.username session.room
      && playlist.acceptsIndex command.index && preconditionMatches then
    acceptPlaylistIndex session command
  else
    pure [{ clientId, message := .playlistIndex playlist.index (some session.room) playlist.epoch }]

/-! ### Set: features -/

def setFeatures (clientId : String) (session : ServerSession)
    (capabilities : ServerClientCapabilities) (freshToken : String) : ServerM Outbound := do
  if session.capabilities = capabilities then
    pure []
  else do
    let s ← Prog.get
    let hadBarrier := session.capabilities.playbackBarrierV1
    let hasBarrier := capabilities.playbackBarrierV1
    let hadReadiness := s.readinessEnabled && session.capabilities.readinessV2
    let hasReadiness := s.readinessEnabled && capabilities.readinessV2
    Prog.modify (·.updateSession clientId fun session => { session with capabilities })
    let s ← Prog.get
    let recipients := if s.isolateRooms then s.clientsInRoom session.room else s.clientsAll
    let announced := recipients.map fun peer =>
      { clientId := peer, message := .userFeaturesUpdate session.username capabilities }
    let gained ← Prog.when (!hadBarrier && hasBarrier) (refreshRoomBufferingParticipant clientId)
    let lost ← Prog.when (hadBarrier && !hasBarrier)
      (markRoomBufferingParticipantDisconnected clientId session.room)
    let s ← Prog.get
    let attached ← Prog.when (!hadReadiness && hasReadiness)
      (attachReadinessMembership clientId s.readinessReconnectIdentityByClient[clientId]?
        freshToken true true)
    let detached ← Prog.when (hadReadiness && !hasReadiness)
      (detachReadinessMembership clientId true)
    let cohort ← Prog.when (hadBarrier != hasBarrier || hadReadiness != hasReadiness)
      (refreshMixedReadinessCohort session.room)
    pure (announced ++ gained ++ lost ++ attached ++ detached ++ cohort)

/-! ### Set batches -/

/-- Applies one Set command of a batch; the flag says that it consumed the
    next command. -/
def applySetCommand (clientId freshToken : String) (command : ServerSetCommand)
    (next : Option ServerSetCommand) : ServerM (Outbound × Bool) := do
  let s ← Prog.get
  match s.sessions[clientId]? with
  | none => Prog.throw (.missingSession clientId)
  | some session =>
    match command with
    | .playlistChange files => setPlaylistChange clientId session files next
    | .room name => do
        let outbound ← setRoom clientId session name freshToken
        pure (outbound, false)
    | .file file => do
        let outbound ← setFile clientId session file
        pure (outbound, false)
    | .controllerAuth room password => do
        let outbound ← setControllerAuth clientId session room password
        pure (outbound, false)
    | .ready isReady manuallyInitiated username => do
        let outbound ← setReady clientId session isReady manuallyInitiated username
        pure (outbound, false)
    | .playlistIndex command => do
        let outbound ← setPlaylistIndex clientId session command
        pure (outbound, false)
    | .features capabilities => do
        let outbound ← setFeatures clientId session capabilities freshToken
        pure (outbound, false)
    | .playbackBarrier extension => do
        let outbound ← handlePlaybackBarrierSet clientId extension
        pure (outbound, false)
    | .readiness intent => do
        let outbound ← handleReadinessSet clientId intent
        pure (outbound, false)

/-- Runs the commands of a batch in order, each with its fresh token. -/
def runSetCommands (clientId : String) : List (ServerSetCommand × String) → ServerM Outbound
  | [] => pure []
  | [(command, freshToken)] => do
      let result ← applySetCommand clientId freshToken command none
      pure result.1
  | (command, freshToken) :: next :: rest => do
      let result ← applySetCommand clientId freshToken command (some next.1)
      let following ← bif result.2 then runSetCommands clientId rest
        else runSetCommands clientId (next :: rest)
      pure (result.1 ++ following)

/-- A Set message: all of its frames are checked before its first command. -/
def handleSet (clientId : String) (commands : List (ServerSetCommand × String))
    (framesFit : Bool) : ServerM Outbound := do
  let s ← Prog.get
  if !s.sessions.contains clientId then
    Prog.throw (.missingSession clientId)
  else if !framesFit then
    Prog.throw .frameCapacity
  else
    runSetCommands clientId commands

/-! ### State -/

namespace ServerRuntime

/-- Counters, liveness and persistence of a State, before its extensions. -/
def acknowledgeState (s : ServerRuntime) (clientId roomName : String)
    (state : ServerStateCommand) : ServerRuntime :=
  let s := match state.serverIgnoring with
    | some counter => s.acknowledgeServerIgnoringCounter clientId counter
    | none => s
  let s := match state.clientIgnoring with
    | some counter => s.queueClientIgnoringCounter clientId counter
    | none => s
  let s := match state.clientLatencyCalculation with
    | some latency => s.queueClientLatencyCalculation clientId latency
    | none => s
  (s.recordClientStateUpdateNow clientId).persistOccupiedRoomActivityIfDueAt roomName
    s.currentTimeSeconds

end ServerRuntime

/-- What a playstate observation is, before anything is changed. -/
structure TransportObservation where
  canControlRoom : Bool
  pauseChanged : Bool
  observedPaused : Bool
  /-- A V2 member's pause change that needs evidence of a user action. -/
  v2TransportChange : Bool
  acceptedV2UserTransport : Bool
  automaticOwner : Option RoomPauseOwner
  syncplayTransportChange : Bool

namespace ServerRuntime

def observeTransport (s : ServerRuntime) (clientId : String) (session : ServerSession)
    (playstate : ServerPlaystate) : TransportObservation :=
  let roomPaused := (s.roomPlaybackState session.room).paused
  let canControlRoom := s.userCanControlPlaylist session.username session.room
  let pauseChanged := playstate.paused.any (· != roomPaused)
  let observedPaused := playstate.paused.getD roomPaused
  let readinessV2Transport :=
    s.readinessGoverned session.room && session.capabilities.readinessV2
  let v2TransportChange := canControlRoom && pauseChanged && readinessV2Transport
  let pauseIsAlreadyAutomatic := playstate.paused == some true
    && s.roomReadiness[session.room]?.any fun room =>
      room.pauseOwner != .none && !room.pauseOwner.isUser
  { canControlRoom, pauseChanged, observedPaused, v2TransportChange
    acceptedV2UserTransport := v2TransportChange && s.pendingUserTransportMatches clientId
      session.room session.username observedPaused .acceptedIndirectAction
    automaticOwner := if v2TransportChange then
        s.automaticTransportOwnerForObservation session.room session.username observedPaused
      else none
    syncplayTransportChange := canControlRoom && pauseChanged && !readinessV2Transport
      && !pauseIsAlreadyAutomatic }

/-- Records the observed sample; a V2 pause change consumes staged evidence. -/
def recordObservation (s : ServerRuntime) (clientId : String)
    (observation : TransportObservation) (playstate : ServerPlaystate)
    (forwardDelay now : Seconds) : ServerRuntime :=
  let consumed := if observation.v2TransportChange then s.clearPendingUserTransport clientId else s
  let position := (playstate.position.bind F64.finite?).map fun position =>
    if observation.observedPaused then position else position + forwardDelay
  consumed.recordClientPlaybackStateSample clientId position now playstate.transportRevision

/-- Who owns the pause an observation asks for. -/
def ownObservedPause (s : ServerRuntime) (session : ServerSession)
    (observation : TransportObservation) : ServerRuntime :=
  if (observation.acceptedV2UserTransport || observation.syncplayTransportChange)
      && observation.observedPaused then
    s.claimUserPauseOwnership session.room session.username
  else match observation.observedPaused, observation.automaticOwner with
    | true, some owner =>
        if s.roomReadiness[session.room]?.any fun room =>
            room.pauseOwner == .none || room.pauseOwner == owner then
          s.setReadinessPauseOwner session.room owner
        else s
    | _, _ => s

/-- Makes an authorized observation canonical: ownership, playstate and, when
    it un-pauses the room, the release of every pause owner. -/
def commitObservation (s : ServerRuntime) (clientId : String) (session : ServerSession)
    (observation : TransportObservation) (now : Seconds) : ServerRuntime :=
  let before := s.roomPlaybackStateAt session.room now
  let owned := s.ownObservedPause session observation
  let transported := owned.establishRoomTransport session.room
    { position := owned.watcherPosition clientId observation.observedPaused before.position now
      paused := observation.observedPaused
      setBy := some session.username
      updatedAtSeconds := now }
  if observation.pauseChanged && !observation.observedPaused then
    transported.setReadinessPauseOwner session.room .none
  else transported

/-- The messages of the ownership changes of `commitObservation`. -/
def observationOwnershipMessages (s : ServerRuntime) (session : ServerSession)
    (observation : TransportObservation) : Outbound :=
  if (observation.acceptedV2UserTransport || observation.syncplayTransportChange)
      && observation.observedPaused then
    s.claimUserPauseMessages session.room session.username
  else match observation.observedPaused, observation.automaticOwner with
    | true, some owner =>
        if (s.roomReadiness[session.room]?.any fun room =>
            room.pauseOwner == .none || room.pauseOwner == owner)
            && s.readinessPauseOwnerDiffers session.room owner then
          (s.ownObservedPause session observation).readinessSnapshotFanout session.room
        else []
    | _, _ => []

end ServerRuntime

/-- Sends the canonical playstate back to one client. -/
def forceCanonicalState (clientId : String) (playback : RoomPlaybackState) (paused : Bool)
    (doSeek : Bool) : ServerM Outbound := do
  let message ← forcedStateSyncMessageForClient clientId playback.position paused (some doSeek)
    playback.setBy
  pure [{ clientId, message }]

/-- Publishes an observation that became canonical. -/
def publishObservation (clientId : String) (session : ServerSession)
    (observation : TransportObservation) (doSeek : Option Bool) (now : Seconds) :
    ServerM Outbound := do
  let s ← Prog.get
  let ownership := s.observationOwnershipMessages session observation
  Prog.modify (·.commitObservation clientId session observation now)
  let t ← Prog.get
  let released := if observation.pauseChanged && !observation.observedPaused
      && s.readinessPauseOwnerDiffers session.room .none then
    t.readinessSnapshotFanout session.room else []
  let room := t.roomPlaybackStateAt session.room now
  let states ← forcedStateFanout (t.clientsInRoom session.room) room.position room.paused doSeek
    (some session.username)
  pure (ownership ++ released ++ states)

/-- Applies a playstate of the current transport authority. -/
def applyPlaystate (clientId : String) (session : ServerSession) (playstate : ServerPlaystate)
    (forwardDelay : Seconds) : ServerM Outbound := do
  let s ← Prog.get
  let now := s.currentTimeSeconds
  let before := s.roomPlaybackStateAt session.room now
  let observation := s.observeTransport clientId session playstate
  Prog.modify (·.recordObservation clientId observation playstate forwardDelay now)
  if observation.v2TransportChange && !observation.acceptedV2UserTransport
      && observation.automaticOwner.isNone then do
    -- an unexplained pause change of a V2 player is staged and undone
    Prog.modify (·.storePendingUserTransport clientId session.room session.username
      observation.observedPaused .unclassifiedObservation)
    forceCanonicalState clientId before before.paused false
  else do
    -- the source checks once more for a preparing start here; the caller has
    -- already returned in that case and nothing since can have begun one
    let retired ← Prog.when
      (observation.acceptedV2UserTransport || observation.syncplayTransportChange)
      (retireAwaitingPlaybackBarrierDecision clientId session.room)
    if playstate.doSeek != some true && !observation.pauseChanged then
      pure retired
    else if observation.canControlRoom then do
      let published ← publishObservation clientId session observation playstate.doSeek now
      pure (retired ++ published)
    else do
      let echoed ← forcedStateSyncMessageForClient clientId before.position
        observation.observedPaused (some false) (some session.username)
      let corrected ← forceCanonicalState clientId before before.paused true
      pure (retired ++ [{ clientId, message := echoed }] ++ corrected)

/-- The sample was made against a transport authority that is not current. -/
def ServerRuntime.transportRevisionIsStale (s : ServerRuntime) (roomName : String)
    (playstate : ServerPlaystate) : Bool :=
  playstate.transportRevision.any fun reported =>
    reported == 0 || some reported != s.transportAuthorityRevisionForRoom roomName

/-- The playstate half of a State message. -/
def handlePlaystate (clientId : String) (session : ServerSession) (playstate : ServerPlaystate)
    (forwardDelay : Seconds) : ServerM Outbound := do
  Prog.modify (·.ensureRoomState session.room)
  let s ← Prog.get
  if s.transportRevisionIsStale session.room playstate then
    let before := s.roomPlaybackStateAt session.room s.currentTimeSeconds
    forceCanonicalState clientId before before.paused true
  else
    applyPlaystate clientId session playstate forwardDelay

def isStateMessage (message : DirectedProtocolMessage) : Bool :=
  match message.message with
  | .state _ => true
  | _ => false

def handleState (clientId : String) (state : ServerStateCommand) (forwardDelay : Seconds) :
    ServerM Outbound := do
  let s ← Prog.get
  match s.sessions[clientId]? with
  | none => Prog.throw (.missingSession clientId)
  | some session => do
      Prog.modify (·.acknowledgeState clientId session.room state)
      let technical ← handleReadinessState clientId state.readiness
      let barrier ← Prog.onSome (handlePlaybackBarrierState clientId) state.playbackBarrier
      let acknowledged := technical ++ barrier
      let s ← Prog.get
      -- acknowledgements are not playback control: a playstate bundled with
      -- them is an optimistic leftover
      let hadAcknowledgement := state.readiness.isSome
        || state.playbackBarrier.any (fun extension =>
          extension.ready.isSome || extension.started.isSome)
        || acknowledged.any isStateMessage
      let revisionedSeek := state.playstate.any fun playstate =>
        playstate.doSeek == some true && playstate.transportRevision.any (· != 0)
      match state.playstate with
      | none => pure acknowledged
      | some playstate =>
          if (0 < s.serverIgnoringCounter clientId && !revisionedSeek) || hadAcknowledgement
              || s.barrierPhase session.room == some .preparing then
            pure acknowledged
          else do
            let outbound ← handlePlaystate clientId session playstate forwardDelay
            pure (acknowledged ++ outbound)

/-! ### Chat, List and TLS -/

def handleChat (clientId message : String) (framesFit : Bool) : ServerM Outbound := do
  let s ← Prog.get
  if !s.chatEnabled then
    pure []
  else match s.sessions[clientId]? with
    | none => Prog.throw (.missingSession clientId)
    | some session =>
        if !framesFit then
          Prog.throw .frameCapacity
        else
          pure <| (s.chatClientsInRoom session.room).map fun peer =>
            { clientId := peer
              message := .chat session.username
                (truncateTextToMaxChars message s.maxChatMessageLength) }

def handleList (clientId : String) : ServerM Outbound := do
  let s ← Prog.get
  if s.sessions.contains clientId then
    pure (ServerRuntime.enqueueListSnapshotsForClients [clientId])
  else
    Prog.throw (.missingSession clientId)

def handleTls (clientId startTlsRequest : String) (contextAvailable : Bool) :
    ServerM Outbound := do
  let s ← Prog.get
  if !decide ("send".toList <:+: startTlsRequest.toList) then
    pure []
  else do
    let accepted := !s.sessions.contains clientId && s.serverAcceptsTls && contextAvailable
    Prog.modify fun s => if accepted then
        { s with pendingTransportActions := s.pendingTransportActions ++ [(clientId, .startTls)] }
      else s
    pure [{ clientId, message := .startTls accepted }]

end Sorotte.Server
