import Sorotte.Framework.Maps
import Sorotte.Server.Maintenance

/-! # List snapshots

  What a client is told about the rooms and their users.  The snapshot is a map
  of maps: rooms by name, users by name within a room.
-/

namespace Sorotte.Server

open Sorotte.Framework

/-- One user of a List snapshot.  `mediaMatch` says whether the file still
    carries its discovery signature. -/
structure ListUserEntry where
  position : Seconds
  file : Option ServerSharedFile
  mediaMatch : Bool
  controller : Bool
  isReady : Option Bool
  features : Option ServerClientCapabilities
  deriving DecidableEq, Repr

abbrev ListRooms := BTreeMap String (BTreeMap String ListUserEntry)

/-- The entry an empty room shows. -/
def emptyPersistentRoomListEntry : ListUserEntry :=
  { position := 0, file := none, mediaMatch := false, controller := false, isReady := some true,
    features := none }

/-- Names of blanks, one for each empty room. -/
def emptyRoomIdentity (index : Nat) : String :=
  if index = 1 then " "
  else String.ofList (' ' :: (Nat.toDigits 2 index).map fun bit => if bit = '0' then ' ' else '\t')

def omitDiscoverySignatures (rooms : ListRooms) : ListRooms :=
  rooms.map fun _ users => users.map fun _ entry => { entry with mediaMatch := false }

namespace ServerRuntime

def userReady (s : ServerRuntime) (username roomName : String) : Option Bool :=
  if s.readinessEnabled then s.storedUserReady username roomName else none

def listUserEntry (s : ServerRuntime) (session : ServerSession) : ListUserEntry :=
  { position := 0
    file := session.file
    mediaMatch := session.file.isSome
    controller := s.userIsRoomController session.username session.room
    isReady := s.userReady session.username session.room
    features := some session.capabilities }

def listRoomsSnapshot (s : ServerRuntime) : ListRooms :=
  s.sessions.toList.foldl (fun rooms entry =>
    nestedInsert rooms entry.2.room entry.2.username (s.listUserEntry entry.2)) ∅

/-- Rooms that anything is known about, in order. -/
def knownRooms (s : ServerRuntime) : List String :=
  ((∅ : BTreeSet String).insertMany
    (s.roomControllers.keys ++ s.roomPlaylists.keys ++ s.roomPlaybackStates.keys)).toList

/-- Gives every known room without clients an entry of its own. -/
def addEmptyRoomDummyEntries (s : ServerRuntime) (rooms : ListRooms) : ListRooms :=
  let empty := s.knownRooms.filter fun roomName => (s.clientsInRoom roomName).isEmpty
  empty.zipIdx.foldl (fun rooms entry =>
    nestedInsert rooms entry.1 (emptyRoomIdentity (entry.2 + 1)) emptyPersistentRoomListEntry)
    rooms

/-- Drops the discovery signatures the client is not to see; its own never
    comes back to it. -/
def sanitizeListRoomsSnapshotForClient (s : ServerRuntime) (clientId : String)
    (rooms : ListRooms) : ListRooms :=
  let supportsMediaMatch := s.sessions[clientId]?.any (·.capabilities.mediaMatch)
  let ownUsername := s.sessions[clientId]?.map (·.username)
  rooms.map fun _ users => users.map fun username entry =>
    if supportsMediaMatch && ownUsername != some username then entry
    else { entry with mediaMatch := false }

/-- The snapshot a client receives.  `isGuiUser` is its interface mode, `fits`
    whether the whole snapshot fits the line limit. -/
def listRoomsSnapshotForClient (s : ServerRuntime) (clientId : String) (isGuiUser fits : Bool) :
    ListRooms :=
  let visible :=
    if s.isolateRooms then
      s.sessions[clientId]?.map fun session =>
        match s.listRoomsSnapshot[session.room]? with
        | some users => (∅ : ListRooms).insert session.room users
        | none => ∅
    else some s.listRoomsSnapshot
  match visible with
  | none => ∅
  | some rooms =>
      let rooms := if s.sessions.contains clientId && isGuiUser then
          s.addEmptyRoomDummyEntries rooms else rooms
      let rooms := s.sanitizeListRoomsSnapshotForClient clientId rooms
      if fits then rooms else omitDiscoverySignatures rooms

end ServerRuntime

end Sorotte.Server
