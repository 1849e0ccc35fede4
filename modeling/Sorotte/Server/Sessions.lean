import Sorotte.Server.Readiness

/-! # Session removal, room cleanup and periodic ticks

  The rest of `runtime_maintenance.rs`: what happens when a connection ends or
  times out, when a room becomes empty or expires, and what a maintenance tick
  does for each due client.
-/

namespace Sorotte.Server

open Sorotte.Framework

namespace ServerRuntime

/-- Forgets one connection.  Its controller grant is withdrawn for the room it
    is in. -/
def removeSessionTracking (s : ServerRuntime) (clientId : String) (session : ServerSession) :
    ServerRuntime :=
  let s := s.removeRoomController session.username session.room
  { s with
    sessions := s.sessions.erase clientId
    playbackBarrierFencedClients := s.playbackBarrierFencedClients.erase clientId
    roomRoster := match Roster.leaveRoom s.roomRoster session.username session.room with
      | .ok roster => roster
      | .error _ => s.roomRoster
    clientStateCounters := s.clientStateCounters.erase clientId
    clientPlaybackStates := s.clientPlaybackStates.erase clientId
    clientRoomJoinSequence := s.clientRoomJoinSequence.erase clientId
    pendingUserTransportByClient := s.pendingUserTransportByClient.erase clientId
    readinessReconnectIdentityByClient := s.readinessReconnectIdentityByClient.erase clientId
    playbackBarrierRequestNonces := s.playbackBarrierRequestNonces.erase clientId
    playbackBarrierNewIdentityRateByClient :=
      s.playbackBarrierNewIdentityRateByClient.erase clientId
    clientLastStateUpdateAt := s.clientLastStateUpdateAt.erase clientId
    clientNextPeriodicStateAt := s.clientNextPeriodicStateAt.erase clientId
    clientPeerIps := s.clientPeerIps.erase clientId
    history := .sessionEnded clientId :: s.history }

/-- Discards the canonical state of a room nobody is in. -/
def removeRoomRuntimeState (s : ServerRuntime) (roomName : String) : ServerRuntime :=
  let s := s.clearReadinessGate roomName
  { s with
    roomControllers := s.roomControllers.erase roomName
    roomPlaylists := s.roomPlaylists.erase roomName
    roomPlaybackStates := s.roomPlaybackStates.erase roomName
    roomPlaybackBarriers := s.roomPlaybackBarriers.erase roomName
    roomBufferingControls := s.roomBufferingControls.erase roomName
    roomParticipantStatusScopes := s.roomParticipantStatusScopes.erase roomName
    playbackBarrierRequestTombstones := s.playbackBarrierRequestTombstones.erase roomName
    playbackBarrierNewIdentityRateByRoom :=
      s.playbackBarrierNewIdentityRateByRoom.erase roomName
    persistentRoomOwnerByRoom := s.persistentRoomOwnerByRoom.erase roomName
    persistentRoomCreatedAtByRoom := s.persistentRoomCreatedAtByRoom.erase roomName
    persistentRoomLastActivityAt := s.persistentRoomLastActivityAt.erase roomName
    history := .roomDiscarded roomName :: s.history }

/-- Discards an unoccupied room and queues its deletion; occupied rooms stay. -/
def discardRoom (s : ServerRuntime) (roomName : String) : ServerRuntime :=
  if (s.clientsInRoom roomName).isEmpty then
    (s.removeRoomRuntimeState roomName).deletePersistedRoomIfNeeded roomName
  else s

def cleanupRoomIfEmpty (s : ServerRuntime) (roomName : String) : ServerRuntime :=
  if !(s.clientsInRoom roomName).isEmpty then s
  else if s.roomIsPermanent roomName || s.roomShouldBeRetainedWhenEmpty roomName then
    s.persistRoomIfNeeded roomName
  else s.discardRoom roomName

end ServerRuntime

def timeoutDisconnectMessages (clientId : String) : ServerM Outbound := do
  let s ← Prog.get
  match s.sessions[clientId]? with
  | none => pure []
  | some session => do
      let barrier ← markPlaybackBarrierParticipantDisconnected clientId session.room
      let buffering ← markRoomBufferingParticipantDisconnected clientId session.room
      let detached ← detachReadinessMembership clientId true
      Prog.modify (·.removeSessionTracking clientId session)
      let cohort ← refreshMixedReadinessCohort session.room
      Prog.modify (·.cleanupRoomIfEmpty session.room)
      let s ← Prog.get
      let recipients :=
        (if s.isolateRooms then s.clientsInRoom session.room else s.clientsAll) ++ [clientId]
      let left := recipients.map fun peerClient =>
        { clientId := peerClient, message := .userLeft session.username session.room }
      let lists := if s.persistentRoomsEnabled then
          ServerRuntime.enqueueListSnapshotsForClients
            (s.clientsReceivingToGuiOnlyListUpdates none)
        else []
      pure (barrier ++ buffering ++ detached ++ cohort ++ left ++ lists)

/-! ### Ticks -/

namespace ServerRuntime

/-- Gives an authorless room state its fallback author. -/
def fillRoomSetBy (s : ServerRuntime) (roomName : String) : ServerRuntime :=
  let playback := s.roomPlaybackState roomName
  match playback.setBy, s.fallbackRoomSetByUsername roomName with
  | none, some username => s.setRoomPlaybackState roomName { playback with setBy := some username }
  | _, _ => s

def requestClose (s : ServerRuntime) (clientId : String) : ServerRuntime :=
  { s with pendingTransportActions := s.pendingTransportActions ++ [(clientId, .close)] }

end ServerRuntime

def collectPeriodicTickForClientAt (clientId : String) (now : Seconds) : ServerM Outbound := do
  let s ← Prog.get
  match s.sessions[clientId]? with
  | none => pure []
  | some session => do
      let fenced ← rejectFencedPlaybackBarrierTransport clientId
      if fenced then
        pure []
      else do
        Prog.modify (·.ensureRoomState session.room)
        Prog.modify (·.fillRoomSetBy session.room)
        let s ← Prog.get
        let room := (s.refreshRoomPlaybackStateFromClientsAt session.room now).1
        Prog.modify fun s => (s.refreshRoomPlaybackStateFromClientsAt session.room now).2
        let state ← periodicStateSyncMessageForClientAt clientId room.position room.paused
          room.setBy now
        let outbound := state.toList.map fun message => { clientId, message }
        let s ← Prog.get
        if s.clientTimedOut clientId then
          Prog.modify (·.requestClose clientId)
          let left ← timeoutDisconnectMessages clientId
          pure (outbound ++ left)
        else
          pure outbound

/-- Disconnects a due client that timed out. -/
def timeoutDueClient (clientId : String) : ServerM Outbound := do
  let s ← Prog.get
  if s.sessions.contains clientId then
    let fenced ← rejectFencedPlaybackBarrierTransport clientId
    let s ← Prog.get
    if !fenced && s.clientTimedOut clientId then
      Prog.modify (·.requestClose clientId)
      timeoutDisconnectMessages clientId
    else
      pure []
  else
    pure []

/-- Ticks a due client that is still scheduled and rebases its cadence. -/
def tickDueClient (now : Seconds) (clientId : String) : ServerM Outbound := do
  let s ← Prog.get
  if s.clientNextPeriodicStateAt.contains clientId then
    Prog.modify fun s => { s with
      clientNextPeriodicStateAt := s.clientNextPeriodicStateAt.insert clientId
        (s.localTimeSeconds + serverStateIntervalSeconds) }
    collectPeriodicTickForClientAt clientId now
  else
    pure []

end Sorotte.Server
