import Sorotte.Framework.Frame
import Sorotte.Framework.Maps
import Sorotte.Framework.QuotaLedger
import Sorotte.Server.Runs

/-! # What persistent-room quotas read

  A persistent room that is not permanent and whose playlist has rows counts
  against the quotas.  `PersistentRooms` is the part of the runtime that decides
  about it, and `ledger` shows it as a ledger of owned resources.
-/

namespace Sorotte.Server

open Sorotte.Framework Sorotte.Framework.Prog

/-- The part of the runtime that persistent-room quotas depend on. -/
structure PersistentRooms where
  files : String → List String
  owners : BTreeMap String String
  lastCreations : BTreeMap String Seconds
  enabled : Bool
  permanent : BTreeSet String
  maxRooms : Nat
  maxPerIdentity : Nat
  cooldown : Seconds

def ServerRuntime.persistentRooms (s : ServerRuntime) : PersistentRooms where
  files roomName := (s.roomPlaylistState roomName).files
  owners := s.persistentRoomOwnerByRoom
  lastCreations := s.persistentRoomLastCreationByIdentity
  enabled := s.persistentRoomsEnabled
  permanent := s.permanentRooms
  maxRooms := s.maxPersistentRooms
  maxPerIdentity := s.maxPersistentRoomsPerIdentity
  cooldown := s.persistentRoomCreationCooldownSeconds

end Sorotte.Server
