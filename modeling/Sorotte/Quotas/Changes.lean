import Sorotte.Membership.MessageWalks
import Sorotte.Quotas.Handlers

/-! # Programs that change persistent rooms

  A playlist change creates a room, edits it or empties it; a departure, a
  switch or an expiry may discard the room that is left.  Nothing else touches
  playlists, owners or creation times.
-/

namespace Sorotte.Server

open Sorotte.Framework Sorotte.Framework.Prog ServerRuntime

/-! ### The changes -/

namespace PersistentRooms

/-- The room has no rows and no owner any more. -/
def discard (p : PersistentRooms) (room : String) : PersistentRooms :=
  { p with files := Function.update p.files room [], owners := p.owners.erase room }

def edit (p : PersistentRooms) (room : String) (files : List String) : PersistentRooms :=
  { p with files := Function.update p.files room files }

/-- The last creation of an identity is still of interest. -/
def keepsCreation (owners : BTreeMap String String) (cooldown now : Seconds) (identity : String)
    (lastCreation : Seconds) : Bool :=
  (owners.toList.map Prod.snd).contains identity
    || (lastCreation ≤ now && now - lastCreation ≤ cooldown)

theorem edit_same (p : PersistentRooms) (room : String) : p.edit room (p.files room) = p := by
  unfold edit
  rw [Function.update_eq_self]

def create (p : PersistentRooms) (room : String) (files : List String) (identity : String)
    (now : Seconds) : PersistentRooms :=
  { p with
    files := Function.update p.files room files
    owners := p.owners.insert room identity
    lastCreations := (p.lastCreations.insert identity now).filter
      (keepsCreation (p.owners.insert room identity) p.cooldown now) }

/-- A room was discarded. -/
inductive Discards (p : PersistentRooms) : PersistentRooms → Prop
  | room (room : String) : Discards p (p.discard room)

end PersistentRooms

/-- Seen through persistent rooms, the program discards rooms at most. -/
abbrev OnlyDiscards {α : Type} (s : ServerRuntime) (m : ServerM α) : Prop :=
  Follows persistentRooms PersistentRooms.Discards s m

variable {clientId room : String} {s : ServerRuntime}

theorem onlyDiscards_of_keeps {α : Type} (m : ServerM α) [KeepsRooms m] :
    OnlyDiscards s m :=
  Keeps.follows m s

/-! ### Rooms that are left -/

theorem ServerRuntime.persistentRooms_removeRoomRuntimeState (s : ServerRuntime) (room : String) :
    (s.removeRoomRuntimeState room).persistentRooms = s.persistentRooms.discard room := by
  have hfiles : (s.removeRoomRuntimeState room).persistentRooms.files =
      Function.update s.persistentRooms.files room [] := by
    funext other
    unfold persistentRooms removeRoomRuntimeState roomPlaylistState clearReadinessGate
      updateReadiness
    dsimp only
    rw [Std.ExtTreeMap.getD_erase]
    by_cases hother : compare room other = .eq
    · rw [if_pos hother, ← Std.LawfulEqOrd.eq_of_compare hother, Function.update_self]
    · rw [if_neg hother, Function.update_of_ne]
      rintro rfl
      exact hother Std.ReflOrd.compare_self
  unfold PersistentRooms.discard
  rw [← hfiles]
  rfl

theorem discardRoom_discards (s : ServerRuntime) (room : String) :
    Relation.ReflTransGen PersistentRooms.Discards s.persistentRooms
      (s.discardRoom room).persistentRooms := by
  unfold discardRoom
  split
  · rw [persistentRooms_deletePersistedRoomIfNeeded, persistentRooms_removeRoomRuntimeState]
    exact .single (.room room)
  · exact .refl

theorem cleanupRoomIfEmpty_discards (s : ServerRuntime) (room : String) :
    Relation.ReflTransGen PersistentRooms.Discards s.persistentRooms
      (s.cleanupRoomIfEmpty room).persistentRooms := by
  unfold cleanupRoomIfEmpty
  split
  · exact .refl
  · split
    · rw [persistentRooms_persistRoomIfNeeded]
    · exact discardRoom_discards s room

theorem replaceSession_discards : OnlyDiscards s (replaceSession clientId) := by
  unfold replaceSession
  apply follows_get_bind
  split
  · exact follows_pure _ _
  · next previous _ =>
    apply follows_bind (onlyDiscards_of_keeps _)
    intro detached t _
    apply follows_gets_bind
    apply follows_quiet_bind rfl
    apply follows_bind (onlyDiscards_of_keeps _)
    intro barrier u _
    apply follows_bind (onlyDiscards_of_keeps _)
    intro buffering v _
    apply follows_quiet_bind (v.persistentRooms_removeSessionTracking clientId previous)
    apply follows_quiet_bind
    · split <;> rfl
    · apply follows_bind (onlyDiscards_of_keeps _)
      intro cohort w _
      apply follows_modify_bind (cleanupRoomIfEmpty_discards w previous.room)
      exact follows_pure _ _

theorem admitHello_discards (session : ServerSession) (hello : ServerHelloCommand)
    (freshToken : String) : OnlyDiscards s (admitHello clientId session hello freshToken) := by
  unfold admitHello
  apply follows_bind replaceSession_discards
  intro replacement t _
  exact onlyDiscards_of_keeps _

theorem handleHelloForPeer_discards (hello : ServerHelloCommand) (framesFit : Bool)
    (freshToken : String) :
    OnlyDiscards s (handleHelloForPeer clientId hello framesFit freshToken) := by
  unfold handleHelloForPeer
  apply follows_get_bind
  dsimp only
  split
  · exact follows_throw _ _
  · split
    · exact onlyDiscards_of_keeps _
    · split
      · exact follows_throw _ _
      · split
        · exact follows_throw _ _
        · exact admitHello_discards _ hello freshToken

theorem switchRoom_discards (session : ServerSession) (newRoom freshToken : String) :
    OnlyDiscards s (switchRoom clientId session newRoom freshToken) := by
  unfold switchRoom
  dsimp only
  apply follows_bind (onlyDiscards_of_keeps _)
  intro detached t _
  apply follows_bind (onlyDiscards_of_keeps _)
  intro barrier u _
  apply follows_bind (onlyDiscards_of_keeps _)
  intro buffering v _
  apply follows_get_bind
  split
  · exact follows_throw _ _
  · apply follows_quiet_bind (v.persistentRooms_moveSession clientId session newRoom _ _)
    apply follows_bind (onlyDiscards_of_keeps _)
    intro oldCohort w _
    apply follows_bind (onlyDiscards_of_keeps _)
    intro attached x _
    apply follows_bind (onlyDiscards_of_keeps _)
    intro newCohort y _
    apply follows_quiet_bind rfl
    apply follows_modify_bind (cleanupRoomIfEmpty_discards _ session.room)
    exact onlyDiscards_of_keeps _

theorem setRoom_discards (session : ServerSession) (roomName freshToken : String) :
    OnlyDiscards s (setRoom clientId session roomName freshToken) := by
  unfold setRoom
  dsimp only
  split
  · exact follows_pure _ _
  · exact switchRoom_discards session _ freshToken

theorem timeoutDisconnectMessages_discards : OnlyDiscards s (timeoutDisconnectMessages clientId) := by
  unfold timeoutDisconnectMessages
  apply follows_get_bind
  split
  · exact follows_pure _ _
  · next session _ =>
    apply follows_bind (onlyDiscards_of_keeps _)
    intro barrier t _
    apply follows_bind (onlyDiscards_of_keeps _)
    intro buffering u _
    apply follows_bind (onlyDiscards_of_keeps _)
    intro detached v _
    apply follows_quiet_bind (v.persistentRooms_removeSessionTracking clientId session)
    apply follows_bind (onlyDiscards_of_keeps _)
    intro cohort w _
    apply follows_modify_bind (cleanupRoomIfEmpty_discards w session.room)
    exact follows_pure _ _

theorem timeoutDueClient_discards : OnlyDiscards s (timeoutDueClient clientId) := by
  unfold timeoutDueClient
  apply follows_get_bind
  split
  · apply follows_bind (onlyDiscards_of_keeps _)
    intro fenced t _
    apply follows_get_bind
    split
    · apply follows_quiet_bind rfl
      exact timeoutDisconnectMessages_discards
    · exact follows_pure _ _
  · exact follows_pure _ _

theorem collectPeriodicTick_discards (now : Seconds) :
    OnlyDiscards s (collectPeriodicTickForClientAt clientId now) := by
  unfold collectPeriodicTickForClientAt
  apply follows_get_bind
  split
  · exact follows_pure _ _
  · next session _ =>
    apply follows_bind (onlyDiscards_of_keeps _)
    intro fenced t _
    split
    · exact follows_pure _ _
    · apply follows_quiet_bind (t.persistentRooms_ensureRoomState session.room)
      apply follows_quiet_bind (persistentRooms_fillRoomSetBy _ session.room)
      apply follows_get_bind
      dsimp only
      apply follows_quiet_bind (persistentRooms_refreshRoomPlayback _ session.room now)
      apply follows_bind (onlyDiscards_of_keeps _)
      intro state u _
      apply follows_get_bind
      split
      · apply follows_quiet_bind rfl
        apply follows_bind timeoutDisconnectMessages_discards
        intro left v _
        exact follows_pure _ _
      · exact follows_pure _ _

theorem tickDueClient_discards (now : Seconds) : OnlyDiscards s (tickDueClient now clientId) := by
  unfold tickDueClient
  apply follows_get_bind
  split
  · apply follows_quiet_bind rfl
    exact collectPeriodicTick_discards now
  · exact follows_pure _ _

/-! ### Playlists -/

/-- Storing a playlist edits the rows of its room. -/
theorem ServerRuntime.persistentRooms_acceptPlaylist (s : ServerRuntime) (room : String)
    (playlist : RoomPlaylistState) (expected : Option (Int × Nat)) :
    (s.acceptPlaylist room playlist expected).persistentRooms =
      s.persistentRooms.edit room playlist.files := by
  have hfiles : (s.acceptPlaylist room playlist expected).persistentRooms.files =
      Function.update s.persistentRooms.files room playlist.files := by
    funext other
    unfold persistentRooms acceptPlaylist setRoomPlaylistState roomPlaylistState
      ServerRuntime.record RoomPlaylistState.advanceEpoch
    dsimp only
    rw [Std.ExtTreeMap.getD_insert]
    by_cases hother : compare room other = .eq
    · rw [if_pos hother, ← Std.LawfulEqOrd.eq_of_compare hother, Function.update_self]
    · rw [if_neg hother, Function.update_of_ne]
      rintro rfl
      exact hother Std.ReflOrd.compare_self
  unfold PersistentRooms.edit
  rw [← hfiles]
  rfl

theorem ServerRuntime.persistentRooms_recordPersistentRoomCreation (s : ServerRuntime)
    (room identity : String) (now : Seconds) (p : PersistentRooms) (files : List String)
    (h : s.persistentRooms = p.edit room files) :
    (s.recordPersistentRoomCreation room identity now).persistentRooms =
      p.create room files identity now := by
  have howners : s.persistentRoomOwnerByRoom = p.owners := congrArg PersistentRooms.owners h
  have hlast : s.persistentRoomLastCreationByIdentity = p.lastCreations :=
    congrArg PersistentRooms.lastCreations h
  have hcooldown : s.persistentRoomCreationCooldownSeconds = p.cooldown :=
    congrArg PersistentRooms.cooldown h
  have hedit : s.persistentRooms.files = Function.update p.files room files :=
    congrArg PersistentRooms.files h
  have hrest : (s.recordPersistentRoomCreation room identity now).persistentRooms =
      { s.persistentRooms with
        owners := s.persistentRoomOwnerByRoom.insert room identity
        lastCreations := (s.persistentRoomLastCreationByIdentity.insert identity now).filter
          (PersistentRooms.keepsCreation (s.persistentRoomOwnerByRoom.insert room identity)
            s.persistentRoomCreationCooldownSeconds now) } := rfl
  rw [hrest, h, howners, hlast, hcooldown]
  rfl

/-- An index command leaves every room's rows as they are. -/
theorem setPlaylistIndex_discards (session : ServerSession)
    (command : ServerPlaylistIndexCommand) :
    OnlyDiscards s (setPlaylistIndex clientId session command) := by
  unfold setPlaylistIndex
  apply follows_quiet_bind (s.persistentRooms_ensureRoomState session.room)
  apply follows_get_bind
  dsimp only
  split
  · exact follows_pure _ _
  · split
    · unfold acceptPlaylistIndex
      apply follows_get_bind
      dsimp only
      apply follows_quiet_bind
      · rw [persistentRooms_acceptPlaylist]
        exact PersistentRooms.edit_same _ _
      · apply follows_quiet_bind
        · split
          · exact persistentRooms_advanceMediaGeneration _ _ _
          · rfl
        · exact onlyDiscards_of_keeps _
    · exact follows_pure _ _

theorem retireInvalidSelectedIndex_files (playlist : RoomPlaylistState) :
    playlist.retireInvalidSelectedIndex.1.files = playlist.files := by
  unfold RoomPlaylistState.retireInvalidSelectedIndex
  split
  · rfl
  · split <;> rfl

/-- The persistent rooms after an accepted playlist change. -/
def PersistentRooms.changed (p : PersistentRooms) (creationRequired : Bool) (room : String)
    (files : List String) (identity : String) (now : Seconds) : PersistentRooms :=
  if creationRequired then p.create room files identity now
  else if files.isEmpty then p.discard room
  else p.edit room files

/-- What is written once the room's transport has been reset. -/
theorem persistentRooms_owned (t : ServerRuntime) (p : PersistentRooms) (creationRequired : Bool)
    (room : String) (files : List String) (identity : String) (now : Seconds)
    (h : t.persistentRooms = p.edit room files) :
    (if creationRequired then t.recordPersistentRoomCreation room identity now
      else if files.isEmpty then t.releasePersistentRoomOwnership room
      else t).persistentRooms = p.changed creationRequired room files identity now := by
  unfold PersistentRooms.changed
  split
  · exact t.persistentRooms_recordPersistentRoomCreation room identity now p files h
  · split
    · next hempty =>
      have hreleased : (t.releasePersistentRoomOwnership room).persistentRooms =
          { t.persistentRooms with owners := t.persistentRooms.owners.erase room } := rfl
      rw [hreleased, h, List.isEmpty_iff.mp hempty]
      rfl
    · exact h

/-- An accepted playlist change writes the rows and the owner of its room together: where seats
    are coherent, nothing between the two can fail. -/
theorem acceptPlaylistChange_persistentRooms (hs : Seats s) (session : ServerSession)
    (files : List String) (compoundIndex : Option ServerPlaylistIndexCommand)
    (lifecycleAuthority : Bool) :
    (after (acceptPlaylistChange clientId session files compoundIndex lifecycleAuthority)
      s).persistentRooms =
      s.persistentRooms.changed (s.persistentRoomCreationRequired session.room files) session.room
        files (s.persistentRoomCreationIdentity clientId) s.currentTimeSeconds := by
  unfold acceptPlaylistChange
  rw [after_get_bind]
  extract_lets room now identity creationRequired playlist changed playlistChanged selectionChanged
  rw [after_modify_bind]
  set accepted := s.acceptPlaylist room changed none
  have hfiles : changed.files = files := by
    unfold changed ServerRuntime.changedPlaylist
    dsimp only
    split
    · exact retireInvalidSelectedIndex_files _
    · rfl
  have haccepted : accepted.persistentRooms = s.persistentRooms.edit room files := by
    rw [s.persistentRooms_acceptPlaylist room changed none, hfiles]
  rw [after_modify_bind]
  set advanced := if playlistChanged || selectionChanged then
    accepted.advanceParticipantStatusMediaGeneration room none else accepted
  have hquiet : Quiet s advanced := (s.quiet_acceptPlaylist room changed none).trans
    (accepted.quiet_advanceMediaGenerationWhen room _)
  have hadvanced : advanced.persistentRooms = s.persistentRooms.edit room files := by
    rw [← haccepted]
    unfold advanced
    split
    · exact accepted.persistentRooms_advanceMediaGeneration room none
    · rfl
  obtain ⟨readiness, t, hreset, -⟩ : Succeeds (Walk Move.edits) advanced
      (Prog.when selectionChanged
        (resetRoomTransportForCanonicalSelectionChange room session.username now)) :=
    succeeds_when fun _ => resetRoomTransport_walk (hs.quiet hquiet) room session.username now
  rw [after_bind_of_ok hreset, after_modify_bind]
  have hkept : t.persistentRooms = advanced.persistentRooms := by
    have hsame : (after (Prog.when selectionChanged
        (resetRoomTransportForCanonicalSelectionChange room session.username now))
        advanced).persistentRooms = advanced.persistentRooms := Keeps.eq advanced
    rw [after, hreset] at hsame
    exact hsame
  have howned := persistentRooms_owned t s.persistentRooms creationRequired room files identity now
    (hkept.trans hadvanced)
  rw [← howned]
  exact Keeps.eq _

end Sorotte.Server
