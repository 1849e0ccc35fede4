import Sorotte.Quotas.Loading

/-! # Quotas of persistent rooms

  Rooms that clients make persistent are limited in number, for the server and
  for each identity, and one identity creates them a pause apart.  The limits
  hold in every state that the server runs to.  The pause is kept by memory, and
  a creation forgets the last creations of idle identities: the wall clock must
  not go back between a creation and one that forgets it, or is forgotten.

  The rooms that a server loads from its database count too, and loading gives
  each of them an owner.
-/

namespace Sorotte.Server

open Sorotte.Framework Sorotte.Framework.Prog Sorotte.Persistence

/-- **Persistent rooms stay within their quotas**: in every run the rooms that count are no
    more than the limit or than the server was started with, and so are the rooms of each
    identity; if every room it was started with has an owner, every room that counts has one;
    and an owner that was entered since is the owner of a room that counts. -/
theorem persistent_rooms_within_quotas {s₀ s : ServerRuntime} (hinitial : Initial s₀)
    {log : List (QuotaCreation String String Seconds)} (hrun : CreationRun s₀ log s) :
    s.retainedClientRooms ≤ max s₀.maxPersistentRooms s₀.retainedClientRooms
      ∧ (∀ identity, s.roomsOwnedByIdentity identity ≤
          max s₀.maxPersistentRoomsPerIdentity (s₀.roomsOwnedByIdentity identity))
      ∧ ((∀ room, s₀.persistentRooms.Counts room →
            ∃ owner, s₀.persistentRoomOwnerByRoom[room]? = some owner) →
          ∀ room, s.persistentRooms.Counts room →
            ∃ owner, s.persistentRoomOwnerByRoom[room]? = some owner)
      ∧ ∀ room owner, s.persistentRoomOwnerByRoom[room]? = some owner →
          s.persistentRooms.Counts room ∨ s₀.persistentRoomOwnerByRoom[room]? = some owner
            ∧ ∀ creation ∈ log, creation.resource ≠ room := by
  obtain ⟨-, hledger⟩ := hrun.ledger hinitial.seats
  refine ⟨?_, ?_, ?_, ?_⟩
  · rw [s.retained_ncard, s₀.retained_ncard]
    exact hledger.held_le
  · intro identity
    rw [s.owned_ncard, s₀.owned_ncard]
    exact hledger.owned_le identity
  · intro hloaded
    exact hledger.held_owned hloaded
  · intro room owner howner
    exact hledger.owner_held howner

/-- **Creations of one identity are a cooldown apart**, in every run where the wall clock does
    not go back between two creations one of which forgets the identity of the other. -/
theorem persistent_room_creations_spaced {s₀ s : ServerRuntime} (hinitial : Initial s₀)
    {log : List (QuotaCreation String String Seconds)} (hrun : CreationRun s₀ log s)
    (horder : QuotaLedger.DropsInOrder log) :
    log.Pairwise fun earlier later => earlier.owner = later.owner →
      earlier.reading ≤ later.reading
        ∧ earlier.reading + s₀.persistentRoomCreationCooldownSeconds ≤ later.reading := by
  obtain ⟨-, hledger⟩ := hrun.ledger hinitial.seats
  exact (hledger.spaced horder).1

/-- **Quotas and cooldowns of a server that loaded its rooms are not evaded**: in every run the
    rooms that count stay within the limits or the loaded numbers, each of them has an owner and
    keeps it while it counts, an owner entered since is the owner of a room that counts, and two
    creations of one identity are a cooldown apart, unless the wall clock goes back between two
    creations one of which forgets the identity of the other. -/
theorem room_quotas_not_evaded {built s : ServerRuntime} (hbuilt : Initial built)
    (hempty : ∀ room, (built.roomPlaylistState room).files = [])
    (persistedRooms : BTreeMap String PersistedRoomState)
    {log : List (QuotaCreation String String Seconds)}
    (hrun : CreationRun (built.loadPersistedRooms persistedRooms) log s) :
    s.retainedClientRooms ≤ max built.maxPersistentRooms
        (built.loadPersistedRooms persistedRooms).retainedClientRooms
      ∧ (∀ identity, s.roomsOwnedByIdentity identity ≤ max built.maxPersistentRoomsPerIdentity
          ((built.loadPersistedRooms persistedRooms).roomsOwnedByIdentity identity))
      ∧ (∀ room, s.persistentRooms.Counts room →
          ∃ owner, s.persistentRoomOwnerByRoom[room]? = some owner)
      ∧ (∀ room owner, s.persistentRoomOwnerByRoom[room]? = some owner →
          s.persistentRooms.Counts room
            ∨ (built.loadPersistedRooms persistedRooms).persistentRoomOwnerByRoom[room]? =
                some owner
              ∧ ∀ creation ∈ log, creation.resource ≠ room)
      ∧ (∀ (action : Action) clock room, s.persistentRooms.Counts room →
          (action.next clock s).persistentRooms.Counts room →
          (action.next clock s).persistentRoomOwnerByRoom[room]? =
            s.persistentRoomOwnerByRoom[room]?)
      ∧ (QuotaLedger.DropsInOrder log →
          log.Pairwise fun earlier later => earlier.owner = later.owner →
            earlier.reading ≤ later.reading
              ∧ earlier.reading + built.persistentRoomCreationCooldownSeconds ≤
                later.reading) := by
  have hstarted : ServerRuntime.JustStarted (built.loadPersistedRooms persistedRooms) :=
    (ServerRuntime.justStarted_of_initial hbuilt).loadPersistedRooms persistedRooms
  have howned := ServerRuntime.roomsOwned_loaded hempty persistedRooms
  have hlimits := ServerRuntime.sameLimits_loaded (s := built) persistedRooms
  obtain ⟨-, hledger⟩ := hrun.ledger hstarted.seats
  rw [← hlimits.rooms, ← hlimits.perIdentity, ← hlimits.cooldown]
  refine ⟨?_, ?_, ?_, ?_, ?_, ?_⟩
  · rw [s.retained_ncard, ServerRuntime.retained_ncard]
    exact hledger.held_le
  · intro identity
    rw [s.owned_ncard, ServerRuntime.owned_ncard]
    exact hledger.owned_le identity
  · exact hledger.held_owned howned
  · intro room owner howner
    exact hledger.owner_held howner
  · intro action clock room hbefore hafter
    have hseats : Seats { s with clock } :=
      (hrun.seats hstarted.seats).quiet (quiet_clock s clock)
    exact action.owner_kept hseats hbefore hafter
  · intro horder
    exact (hledger.spaced horder).1

/-! ### A room that is emptied and created again -/

/-- One persistent room for each identity, created a minute apart. -/
def roomServer : ServerRuntime :=
  { emptyServer with
    persistentRoomsEnabled := true, maxPersistentRooms := 2, maxPersistentRoomsPerIdentity := 1
    persistentRoomCreationCooldownSeconds := 60 }

theorem roomServer_initial : Initial roomServer :=
  { emptyServer_initial with }

def enterMovies : Action :=
  .hello "c1" { username := "alice", room := "movies", version := "1.7.0", capabilities := {} }
    true "token"

def listMovies (files : List String) : Action :=
  .setCommand "c1" "token" (.playlistChange files) none

/-- alice creates the room, empties it, tries again too early and succeeds later. -/
theorem exists_recreation : ∃ log s, CreationRun roomServer log s
    ∧ log.map (·.reading) = [5, 65] ∧ log.map (·.owner) = ["session:c1", "session:c1"]
    ∧ s.retainedClientRooms = 1 := by
  refine ⟨_, _, .act (listMovies ["c"]) { wall := 65 } (.act (listMovies ["b"]) { wall := 64 }
    (.act (listMovies []) { wall := 6 } (.act (listMovies ["a"]) { wall := 5 }
      (.act enterMovies {} .start ?_) ?_) ?_) ?_) ?_, ?_, ?_, ?_⟩
  all_goals decide +kernel

theorem persistent_rooms_within_quotas_recreation : ∃ log s, CreationRun roomServer log s
    ∧ s.retainedClientRooms ≤ 2 ∧ s.roomsOwnedByIdentity "session:c1" ≤ 1 := by
  obtain ⟨log, s, hrun, -⟩ := exists_recreation
  obtain ⟨hheld, howned, -⟩ := persistent_rooms_within_quotas roomServer_initial hrun
  have hnone : roomServer.retainedClientRooms = 0 := by decide +kernel
  have hshare : roomServer.roomsOwnedByIdentity "session:c1" = 0 := by decide +kernel
  have hlimit := howned "session:c1"
  rw [hnone] at hheld
  rw [hshare] at hlimit
  exact ⟨log, s, hrun, hheld, hlimit⟩

theorem persistent_room_creations_spaced_recreation : ∃ log s, CreationRun roomServer log s
    ∧ log.length = 2 ∧ log.Pairwise fun earlier later => earlier.owner = later.owner →
      earlier.reading ≤ later.reading ∧ earlier.reading + 60 ≤ later.reading := by
  obtain ⟨log, s, hrun, hreadings, -, -⟩ := exists_recreation
  have hordered : (log.map (·.reading)).Pairwise (· ≤ ·) := by
    rw [hreadings]
    decide +kernel
  have hdrops : QuotaLedger.DropsInOrder log := by
    apply (List.pairwise_map.mp hordered).imp
    intro earlier later hle _
    exact hle
  have hlength : log.length = 2 := by
    rw [← List.length_map (·.reading), hreadings]
    rfl
  exact ⟨log, s, hrun, hlength, persistent_room_creations_spaced roomServer_initial hrun hdrops⟩

/-! ### A room that was loaded -/

/-- A database with one room, that nobody is recorded for. -/
def classics : BTreeMap String PersistedRoomState :=
  Std.ExtTreeMap.insert ∅ "classics"
    { files := ["metropolis"], index := some 0, position := 0, lastActivityAtSeconds := 1
      version := 1, ownerBucket := none, createdAtSeconds := 1 }

/-- Beside the loaded room there is place for one of alice's, which she creates again. -/
theorem room_quotas_not_evaded_classics :
    ∃ log s, CreationRun (roomServer.loadPersistedRooms classics) log s
      ∧ log.map (·.reading) = [5, 65] ∧ s.retainedClientRooms ≤ 2
      ∧ s.roomsOwnedByIdentity "session:c1" ≤ 1
      ∧ log.Pairwise fun earlier later => earlier.owner = later.owner →
        earlier.reading ≤ later.reading ∧ earlier.reading + 60 ≤ later.reading := by
  have hrun : ∃ log s, CreationRun (roomServer.loadPersistedRooms classics) log s
      ∧ log.map (·.reading) = [5, 65] := by
    refine ⟨_, _, .act (listMovies ["b"]) { wall := 65 } (.act (listMovies []) { wall := 6 }
      (.act (listMovies ["a"]) { wall := 5 } (.act enterMovies {} .start ?_) ?_) ?_) ?_, ?_⟩
    all_goals decide +kernel
  obtain ⟨log, s, hrun, hreadings⟩ := hrun
  have hempty : ∀ room, (roomServer.roomPlaylistState room).files = [] := fun room => rfl
  obtain ⟨hheld, howned, -, -, -, hspaced⟩ :=
    room_quotas_not_evaded roomServer_initial hempty classics hrun
  have hloaded : (roomServer.loadPersistedRooms classics).retainedClientRooms = 1 := by
    decide +kernel
  have hshare : (roomServer.loadPersistedRooms classics).roomsOwnedByIdentity "session:c1" = 0 := by
    decide +kernel
  have hordered : (log.map (·.reading)).Pairwise (· ≤ ·) := by
    rw [hreadings]
    decide +kernel
  have hlimit := howned "session:c1"
  rw [hloaded] at hheld
  rw [hshare] at hlimit
  refine ⟨log, s, hrun, hreadings, hheld, hlimit, hspaced ?_⟩
  apply (List.pairwise_map.mp hordered).imp
  intro earlier later hle _
  exact hle

/-! ### A clock that goes back -/

def enterLobby : Action :=
  .hello "c2" { username := "bob", room := "lobby", version := "1.7.0", capabilities := {} }
    true "token"

/-- alice creates a room and empties it, bob creates one much later, which forgets alice's
    creation, and when the clock has gone back alice creates a room after twenty seconds. -/
theorem cooldown_forgotten : ∃ log s, CreationRun (roomServer.loadPersistedRooms ∅) log s
    ∧ ¬ log.Pairwise fun earlier later => earlier.owner = later.owner →
      earlier.reading ≤ later.reading ∧ earlier.reading + 60 ≤ later.reading := by
  have hrun : ∃ log s, CreationRun (roomServer.loadPersistedRooms ∅) log s
      ∧ log.map (·.reading) = [100, 1000, 120]
      ∧ log.map (·.owner) = ["session:c1", "session:c2", "session:c1"] := by
    refine ⟨_, _, .act (listMovies ["b"]) { wall := 120 }
      (.act (.setCommand "c2" "token" (.playlistChange ["x"]) none) { wall := 1000 }
        (.act (listMovies []) { wall := 101 } (.act (listMovies ["a"]) { wall := 100 }
          (.act enterLobby {} (.act enterMovies {} .start ?_) ?_) ?_) ?_) ?_) ?_, ?_, ?_⟩
    all_goals decide +kernel
  obtain ⟨log, s, hrun, hreadings, howners⟩ := hrun
  refine ⟨log, s, hrun, fun hspaced => ?_⟩
  obtain ⟨first, rest, rfl, hfirst, hrest⟩ := List.map_eq_cons_iff.mp hreadings
  obtain ⟨second, rest, rfl, -, hrest⟩ := List.map_eq_cons_iff.mp hrest
  obtain ⟨third, rest, rfl, hthird, -⟩ := List.map_eq_cons_iff.mp hrest
  simp only [List.map_cons, List.cons.injEq] at howners
  have hsame : first.owner = third.owner := by
    rw [howners.1, howners.2.2.1]
  have hapart := ((List.pairwise_cons.mp hspaced).1 third (by simp) hsame).2
  rw [hfirst, hthird] at hapart
  exact absurd hapart (by decide +kernel)

end Sorotte.Server
