import Sorotte.Framework.Runs
import Sorotte.Persistence.Store
import Sorotte.Quotas.Runs

/-! # Rooms loaded at the start

  `replace_persisted_rooms_snapshot` and what follows it in
  `set_persistent_rooms_db_path`: the rooms of the database are given to a new
  runtime, each with an owner, and then the placeholders of permanent rooms.
-/

namespace Sorotte.Server

open Sorotte.Framework Sorotte.Persistence

def unattributedPersistentRoomOwnerBucket : String := "quota:legacy-unattributed"

namespace ServerRuntime

/-! ### The loader -/

/-- One round of `apply_persisted_rooms_snapshot`.  A time that is a placeholder or lies in the
    future is replaced; a row without its last activity is written back once. -/
def applyPersistedRoom (s : ServerRuntime) (entry : String × PersistedRoomState) :
    ServerRuntime :=
  let (roomName, room) := entry
  let now := s.currentTimeSeconds
  let ownerBucket := room.ownerBucket.getD unattributedPersistentRoomOwnerBucket
  let playlist := (normalizeIndex { files := room.files, index := room.index, epoch := 0 }).1
  let hasValidActivity : Bool :=
    0 < room.lastActivityAtSeconds && room.lastActivityAtSeconds ≤ now
  let lastActivityAtSeconds := if hasValidActivity then room.lastActivityAtSeconds else now
  let createdAtSeconds :=
    if 0 < room.createdAtSeconds && room.createdAtSeconds ≤ now then room.createdAtSeconds
    else lastActivityAtSeconds
  let lastCreation :=
    (s.persistentRoomLastCreationByIdentity[ownerBucket]?.map (max · createdAtSeconds)).getD
      createdAtSeconds
  let playback := s.roomPlaybackStates.getD roomName (.newAt 0)
  let version := s.nextRoomPersistenceVersion + 1
  let save := ServerPersistenceEffect.saveRoom roomName playlist.files playlist.index room.position
    lastActivityAtSeconds (some ownerBucket) createdAtSeconds version
  let writesBack := !hasValidActivity && s.roomPersistence.isSome
  { s with
    roomPlaylists := s.roomPlaylists.insert roomName playlist
    persistentRoomLastActivityAt :=
      s.persistentRoomLastActivityAt.insert roomName lastActivityAtSeconds
    persistentRoomOwnerByRoom := s.persistentRoomOwnerByRoom.insert roomName ownerBucket
    persistentRoomCreatedAtByRoom :=
      s.persistentRoomCreatedAtByRoom.insert roomName createdAtSeconds
    persistentRoomLastCreationByIdentity :=
      s.persistentRoomLastCreationByIdentity.insert ownerBucket lastCreation
    roomPlaybackStates := s.roomPlaybackStates.insert roomName
      { playback with position := room.position, updatedAtSeconds := now }
    roomParticipantStatusScopes := s.roomParticipantStatusScopes.insertIfNew roomName {}
    nextRoomPersistenceVersion := if writesBack then version else s.nextRoomPersistenceVersion
    roomPersistence :=
      if writesBack then s.roomPersistence.map (save :: ·) else s.roomPersistence }

def applyPersistedRoomsSnapshot (s : ServerRuntime)
    (persistedRooms : BTreeMap String PersistedRoomState) : ServerRuntime :=
  persistedRooms.toList.foldl applyPersistedRoom s

def replacePersistedRoomsSnapshot (s : ServerRuntime)
    (persistedRooms : BTreeMap String PersistedRoomState) : ServerRuntime :=
  let replacementNames := Std.ExtTreeSet.ofList persistedRooms.keys
  let replacedNames := (s.persistedRoomNames ∪ replacementNames).toList
  let s := replacedNames.foldl removeRoomRuntimeState s
  let s := { s with
    persistentRoomOwnerByRoom := ∅
    persistentRoomCreatedAtByRoom := ∅
    persistentRoomLastCreationByIdentity := ∅
    persistentRoomLastActivityAt := ∅
    persistedRoomNames := replacementNames
    nextRoomPersistenceVersion := (persistedRooms.values.map PersistedRoomState.version).foldl max 0 }
  s.applyPersistedRoomsSnapshot persistedRooms

/-- One round of `apply_permanent_rooms_snapshot`: an empty playlist with index zero. -/
def applyPermanentRoom (s : ServerRuntime) (roomName : String) : ServerRuntime :=
  { s with
    roomPlaylists :=
      s.roomPlaylists.insertIfNew roomName { files := [], index := some 0, epoch := 0 }
    roomControllers := s.roomControllers.insertIfNew roomName ∅
    roomParticipantStatusScopes := s.roomParticipantStatusScopes.insertIfNew roomName {}
    roomPlaybackStates :=
      s.roomPlaybackStates.insertIfNew roomName (.newAt s.currentTimeSeconds) }

def applyPermanentRoomsSnapshot (s : ServerRuntime) : ServerRuntime :=
  s.permanentRooms.toList.foldl applyPermanentRoom s

/-- What `set_persistent_rooms_db_path` does with the rooms it read. -/
def loadPersistedRooms (s : ServerRuntime)
    (persistedRooms : BTreeMap String PersistedRoomState) : ServerRuntime :=
  (s.replacePersistedRoomsSnapshot persistedRooms).applyPermanentRoomsSnapshot

variable {s : ServerRuntime}

/-! ### A loaded server has just started -/

/-- Nobody controls a room, every room is paused, and all else is as at the start, up to the
    records of rooms that the loader cleared. -/
structure JustStarted (s : ServerRuntime) : Prop where
  uncontrolled : ∀ (room : String) (controllers : BTreeSet String),
    s.roomControllers[room]? = some controllers → ∀ username, controllers.contains username = false
  paused : ∀ (room : String) (state : RoomPlaybackState),
    s.roomPlaybackStates[room]? = some state → state.paused = true
  rest : Initial { s with roomControllers := ∅, roomPlaybackStates := ∅, history := [] }

theorem justStarted_of_initial (h : Initial s) : JustStarted s where
  uncontrolled room controllers hroom username := by
    have hnone := h.noControllers username room
    unfold userIsRoomController at hnone
    rw [hroom] at hnone
    exact hnone
  paused room state hroom := by
    have hpaused := h.restoredPaused room
    unfold roomPlaybackState at hpaused
    rw [Std.ExtTreeMap.getD_eq_getD_getElem?, hroom] at hpaused
    exact hpaused
  rest :=
    { h with
      noControllers := fun _ _ => rfl
      restoredPaused := fun _ => rfl
      noHistory := rfl }

namespace JustStarted

theorem initial (h : JustStarted s) : Initial { s with history := [] } :=
  { h.rest with
    noControllers := by
      intro username room
      unfold ServerRuntime.userIsRoomController
      dsimp only
      cases hroom : s.roomControllers[room]? with
      | none => rfl
      | some controllers => exact h.uncontrolled room controllers hroom username
    restoredPaused := by
      intro room
      show (s.roomPlaybackStates.getD room (.newAt s.currentTimeSeconds)).paused = true
      rw [Std.ExtTreeMap.getD_eq_getD_getElem?]
      cases hroom : s.roomPlaybackStates[room]? with
      | none => rfl
      | some state => exact h.paused room state hroom }

/-- The seats of a loaded server: records of cleared rooms do not matter to them. -/
theorem seats (h : JustStarted s) : Seats s :=
  h.initial.seats.quiet
    (.of_same (.of_fields rfl rfl rfl rfl rfl) rfl rfl rfl List.nil_suffix)

theorem removeRoomRuntimeState (h : JustStarted s) (roomName : String) :
    JustStarted (s.removeRoomRuntimeState roomName) where
  uncontrolled room controllers hroom := by
    have herased : (s.roomControllers.erase roomName)[room]? = some controllers := hroom
    rw [getElem?_erase_if] at herased
    split at herased
    · cases herased
    · exact h.uncontrolled room controllers herased
  paused room state hroom := by
    have herased : (s.roomPlaybackStates.erase roomName)[room]? = some state := hroom
    rw [getElem?_erase_if] at herased
    split at herased
    · cases herased
    · exact h.paused room state herased
  rest :=
    { h.rest with
      noBarriers := by
        show s.roomPlaybackBarriers.erase roomName = ∅
        rw [h.rest.noBarriers, Std.ExtTreeMap.erase_empty]
      noControls := by
        show s.roomBufferingControls.erase roomName = ∅
        rw [h.rest.noControls, Std.ExtTreeMap.erase_empty]
      noReadiness := by
        show s.roomReadiness.modify roomName _ = ∅
        rw [h.rest.noReadiness]
        rfl
      noTombstones := by
        show s.playbackBarrierRequestTombstones.erase roomName = ∅
        rw [h.rest.noTombstones, Std.ExtTreeMap.erase_empty] }

theorem applyPersistedRoom (h : JustStarted s) (entry : String × PersistedRoomState) :
    JustStarted (s.applyPersistedRoom entry) where
  uncontrolled := h.uncontrolled
  paused room state hroom := by
    obtain ⟨roomName, persisted⟩ := entry
    have hinserted : (s.roomPlaybackStates.insert roomName
        { s.roomPlaybackStates.getD roomName (.newAt 0) with
          position := persisted.position, updatedAtSeconds := s.currentTimeSeconds })[room]? =
        some state := hroom
    rw [getElem?_insert_if] at hinserted
    split at hinserted
    · cases hinserted
      show (s.roomPlaybackStates.getD roomName (.newAt 0)).paused = true
      rw [Std.ExtTreeMap.getD_eq_getD_getElem?]
      cases hbefore : s.roomPlaybackStates[roomName]? with
      | none => rfl
      | some before => exact h.paused roomName before hbefore
    · exact h.paused room state hinserted
  rest := { h.rest with }

theorem applyPermanentRoom (h : JustStarted s) (roomName : String) :
    JustStarted (s.applyPermanentRoom roomName) where
  uncontrolled room controllers hroom := by
    have hinserted : (s.roomControllers.insertIfNew roomName ∅)[room]? = some controllers := hroom
    rw [Std.ExtTreeMap.getElem?_insertIfNew] at hinserted
    split at hinserted
    · cases hinserted
      exact fun username => rfl
    · exact h.uncontrolled room controllers hinserted
  paused room state hroom := by
    have hinserted : (s.roomPlaybackStates.insertIfNew roomName
        (.newAt s.currentTimeSeconds))[room]? = some state := hroom
    rw [Std.ExtTreeMap.getElem?_insertIfNew] at hinserted
    split at hinserted
    · cases hinserted
      rfl
    · exact h.paused room state hinserted
  rest := { h.rest with }

/-- **A server loaded from its database has just started.** -/
theorem loadPersistedRooms (h : JustStarted s)
    (persistedRooms : BTreeMap String PersistedRoomState) :
    JustStarted (s.loadPersistedRooms persistedRooms) := by
  have hcleared : ∀ names : List String,
      JustStarted (runFrom ServerRuntime.removeRoomRuntimeState s names) :=
    invariant_of_step (fun s roomName hs => hs.removeRoomRuntimeState roomName) h
  have hreplaced : JustStarted (s.replacePersistedRoomsSnapshot persistedRooms) := by
    refine @invariant_of_step _ _ ServerRuntime.applyPersistedRoom JustStarted
      (fun s entry hs => hs.applyPersistedRoom entry) _ ?_ persistedRooms.toList
    have hempty := hcleared (s.persistedRoomNames ∪ .ofList persistedRooms.keys).toList
    exact ⟨hempty.uncontrolled, hempty.paused, { hempty.rest with }⟩
  exact @invariant_of_step _ _ ServerRuntime.applyPermanentRoom JustStarted
    (fun s roomName hs => hs.applyPermanentRoom roomName) _ hreplaced _

end JustStarted

/-! ### Every loaded room has an owner -/

/-- The rooms that count have owner entries. -/
def RoomsOwned (s : ServerRuntime) : Prop :=
  ∀ room : String, s.persistentRooms.Counts room →
    ∃ owner, s.persistentRoomOwnerByRoom[room]? = some owner

theorem RoomsOwned.applyPersistedRoom (h : RoomsOwned s) (entry : String × PersistedRoomState) :
    RoomsOwned (s.applyPersistedRoom entry) := by
  obtain ⟨roomName, persisted⟩ := entry
  intro room hcounts
  show ∃ owner, (s.persistentRoomOwnerByRoom.insert roomName _)[room]? = some owner
  rw [getElem?_insert_if]
  by_cases hroom : room = roomName
  · rw [if_pos hroom]
    exact ⟨_, rfl⟩
  · rw [if_neg hroom]
    apply h room
    -- the round fills one playlist; the other rooms count as before
    obtain ⟨playlist, hplaylist, hrest⟩ := (counts_lookup _ room).mp hcounts
    apply (s.counts_lookup room).mpr
    refine ⟨playlist, ?_, hrest⟩
    have hinserted : (s.roomPlaylists.insert roomName _)[room]? = some playlist := hplaylist
    rwa [getElem?_insert_if, if_neg hroom] at hinserted

theorem RoomsOwned.applyPermanentRoom (h : RoomsOwned s) (roomName : String) :
    RoomsOwned (s.applyPermanentRoom roomName) := by
  intro room hcounts
  apply h room
  obtain ⟨playlist, hplaylist, hrest⟩ := (counts_lookup _ room).mp hcounts
  apply (s.counts_lookup room).mpr
  refine ⟨playlist, ?_, hrest⟩
  have hinserted : (s.roomPlaylists.insertIfNew roomName
      { files := [], index := some 0, epoch := 0 })[room]? = some playlist := hplaylist
  rw [Std.ExtTreeMap.getElem?_insertIfNew] at hinserted
  split at hinserted
  · -- a placeholder has no rows, so it does not count
    cases hinserted
    cases hrest
  · exact hinserted

theorem files_cleared (s : ServerRuntime) (roomName : String)
    (hempty : ∀ room, s.persistentRooms.files room = []) (room : String) :
    (s.removeRoomRuntimeState roomName).persistentRooms.files room = [] := by
  rw [persistentRooms_removeRoomRuntimeState]
  by_cases hroom : room = roomName
  · subst hroom
    exact Function.update_self ..
  · exact (Function.update_of_ne hroom _ _).trans (hempty room)

/-- Nothing counts in a server without rows, whatever rooms are cleared. -/
theorem counts_cleared (hempty : ∀ room, (s.roomPlaylistState room).files = [])
    (names : List String) (room : String) :
    ¬ (names.foldl removeRoomRuntimeState s).persistentRooms.Counts room := by
  have hnone : ∀ room, ((names.foldl removeRoomRuntimeState s).persistentRooms).files room = [] :=
    @invariant_of_step _ _ removeRoomRuntimeState
      (fun s => ∀ room, s.persistentRooms.files room = []) files_cleared _ hempty names
  exact fun hcounts => hcounts.1 (hnone room)

theorem roomsOwned_loaded (hempty : ∀ room, (s.roomPlaylistState room).files = [])
    (persistedRooms : BTreeMap String PersistedRoomState) :
    RoomsOwned (s.loadPersistedRooms persistedRooms) := by
  have hreplaced : RoomsOwned (s.replacePersistedRoomsSnapshot persistedRooms) := by
    refine @invariant_of_step _ _ ServerRuntime.applyPersistedRoom RoomsOwned
      (fun s entry hs => hs.applyPersistedRoom entry) _ ?_ persistedRooms.toList
    intro room hcounts
    exact absurd hcounts (counts_cleared hempty _ room)
  exact @invariant_of_step _ _ ServerRuntime.applyPermanentRoom RoomsOwned
    (fun s roomName hs => hs.applyPermanentRoom roomName) _ hreplaced _

/-! ### Loading leaves the limits alone -/

/-- The two servers limit persistent rooms alike. -/
structure SameLimits (s t : ServerRuntime) : Prop where
  rooms : t.maxPersistentRooms = s.maxPersistentRooms
  perIdentity : t.maxPersistentRoomsPerIdentity = s.maxPersistentRoomsPerIdentity
  cooldown : t.persistentRoomCreationCooldownSeconds = s.persistentRoomCreationCooldownSeconds

theorem sameLimits_loaded (persistedRooms : BTreeMap String PersistedRoomState) :
    SameLimits s (s.loadPersistedRooms persistedRooms) := by
  have hcleared : ∀ names : List String, SameLimits s (names.foldl removeRoomRuntimeState s) :=
    @invariant_of_step _ _ removeRoomRuntimeState (SameLimits s)
      (fun t roomName ht => ⟨ht.rooms, ht.perIdentity, ht.cooldown⟩) _ ⟨rfl, rfl, rfl⟩
  have hreplaced : SameLimits s (s.replacePersistedRoomsSnapshot persistedRooms) := by
    refine @invariant_of_step _ _ ServerRuntime.applyPersistedRoom (SameLimits s)
      (fun t entry ht => ⟨ht.rooms, ht.perIdentity, ht.cooldown⟩) _ ?_ persistedRooms.toList
    have hempty := hcleared (s.persistedRoomNames ∪ .ofList persistedRooms.keys).toList
    exact ⟨hempty.rooms, hempty.perIdentity, hempty.cooldown⟩
  exact @invariant_of_step _ _ ServerRuntime.applyPermanentRoom (SameLimits s)
    (fun t roomName ht => ⟨ht.rooms, ht.perIdentity, ht.cooldown⟩) _ hreplaced _

end ServerRuntime
end Sorotte.Server
