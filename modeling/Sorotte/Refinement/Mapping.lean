import Sorotte.Framework.Maps
import Sorotte.Ideal.System

/-! # The refinement mapping

  `ServerRuntime.ideal` reads a runtime as a state of the ideal server.  This
  module proves, for every update of the roster, the canonical room state and
  the readiness coordinator, what the ideal server sees of it.
-/

namespace Sorotte.Server

open Sorotte.Framework Sorotte.Ideal

/-! ### The mapping -/

def ServerReadinessParticipant.ideal (p : ServerReadinessParticipant) : Member :=
  { clientId := p.clientId, record := p.record }

def RoomReadinessCoordinator.ideal (room : RoomReadinessCoordinator) : Gate :=
  { mediaGeneration := room.mediaGeneration
    pauseOwner := room.pauseOwner
    members := fun username => room.participants[username]?.map ServerReadinessParticipant.ideal }

def RoomBufferingControl.ideal (control : RoomBufferingControl) : Policy :=
  { mediaGeneration := control.config.mediaGeneration
    requestedGeneration := control.requestedConfig.mediaGeneration
    pausedByPolicy := control.pausedByPolicy }

namespace ServerRuntime

def ideal (s : ServerRuntime) : State :=
  { sessions := fun clientId => s.sessions[clientId]?
    enrolled := fun room username => s.roomRoster[room]?.any (·.contains username)
    controllers := fun room username => s.userIsRoomController username room
    playlist := s.roomPlaylistState
    paused := fun room => (s.roomPlaybackState room).paused
    position := fun room => (s.roomPlaybackState room).position
    sample := fun clientId => s.clientPlaybackStates[clientId]?.bind (·.position)
    barrier := fun room => s.roomPlaybackBarriers[room]?
    policy := fun room => s.roomBufferingControls[room]?.map RoomBufferingControl.ideal
    gate := fun room => s.roomReadiness[room]?.map RoomReadinessCoordinator.ideal
    tombstone := fun room requestId => (s.requestTombstone room requestId).map
      (·.retainUntilSeconds)
    generation := s.nextPlaybackBarrierGeneration
    revision := s.nextPlaybackBarrierRevision
    readinessEnabled := s.readinessEnabled
    passwords := s.roomPasswordProvider
    ttl := s.playbackBarrierRequestTombstonePolicy.ttlSeconds
    now := s.clock.request
    history := s.history }

/-! ### Updates of one map -/

theorem ideal_setBarriers (s : ServerRuntime) (room : String) (b : Option RoomPlaybackBarrier)
    (barriers : BTreeMap String RoomPlaybackBarrier)
    (h : (fun a => barriers[a]?) = Function.update (fun a => s.roomPlaybackBarriers[a]?) room b) :
    { s with roomPlaybackBarriers := barriers }.ideal = s.ideal.setBarrier room b := by
  simp only [ideal, State.setBarrier]
  rw [h]
  rfl

theorem ideal_setControls (s : ServerRuntime) (room : String)
    (control : Option RoomBufferingControl) (controls : BTreeMap String RoomBufferingControl)
    (h : (fun a => controls[a]?) =
      Function.update (fun a => s.roomBufferingControls[a]?) room control) :
    { s with roomBufferingControls := controls }.ideal =
      s.ideal.setPolicy room (control.map RoomBufferingControl.ideal) := by
  have hpolicy : (fun a => controls[a]?.map RoomBufferingControl.ideal) =
      Function.update (fun a => s.roomBufferingControls[a]?.map RoomBufferingControl.ideal) room
        (control.map RoomBufferingControl.ideal) := by
    rw [← map_update, ← h]
  simp only [ideal, State.setPolicy]
  rw [hpolicy]
  rfl

theorem ideal_setReadiness (s : ServerRuntime) (room : String)
    (coordinator : Option RoomReadinessCoordinator)
    (readiness : BTreeMap String RoomReadinessCoordinator)
    (h : (fun a => readiness[a]?) =
      Function.update (fun a => s.roomReadiness[a]?) room coordinator) :
    { s with roomReadiness := readiness }.ideal =
      s.ideal.setGate room (coordinator.map RoomReadinessCoordinator.ideal) := by
  have hgate : (fun a => readiness[a]?.map RoomReadinessCoordinator.ideal) =
      Function.update (fun a => s.roomReadiness[a]?.map RoomReadinessCoordinator.ideal) room
        (coordinator.map RoomReadinessCoordinator.ideal) := by
    rw [← map_update, ← h]
  simp only [ideal, State.setGate]
  rw [hgate]
  rfl

theorem ideal_updateBarrier (s : ServerRuntime) (room : String)
    (f : RoomPlaybackBarrier → RoomPlaybackBarrier) :
    (s.updateBarrier room f).ideal =
      s.ideal.setBarrier room (s.roomPlaybackBarriers[room]?.map f) :=
  ideal_setBarriers _ _ _ _ (lookup_modify _ _ _)

theorem ideal_updateControl (s : ServerRuntime) (room : String)
    (f : RoomBufferingControl → RoomBufferingControl) :
    (s.updateControl room f).ideal =
      s.ideal.setPolicy room ((s.roomBufferingControls[room]?.map f).map
        RoomBufferingControl.ideal) :=
  ideal_setControls _ _ _ _ (lookup_modify _ _ _)

theorem ideal_installControl (s : ServerRuntime) (room : String) (control : RoomBufferingControl) :
    (s.installControl room control).ideal = s.ideal.setPolicy room (some control.ideal) :=
  ideal_setControls _ _ _ _ (lookup_insert _ _ _)

theorem ideal_updateReadiness (s : ServerRuntime) (room : String)
    (f : RoomReadinessCoordinator → RoomReadinessCoordinator) :
    (s.updateReadiness room f).ideal =
      s.ideal.setGate room ((s.roomReadiness[room]?.map f).map RoomReadinessCoordinator.ideal) :=
  ideal_setReadiness _ _ _ _ (lookup_modify _ _ _)

/-- An edit of a coordinator that the ideal server does not see. -/
theorem ideal_updateReadiness_quiet (s : ServerRuntime) (room : String)
    (f : RoomReadinessCoordinator → RoomReadinessCoordinator)
    (h : ∀ coordinator, s.roomReadiness[room]? = some coordinator →
      (f coordinator).ideal = coordinator.ideal) :
    (s.updateReadiness room f).ideal = s.ideal := by
  rw [ideal_updateReadiness]
  have hgate : (s.roomReadiness[room]?.map f).map RoomReadinessCoordinator.ideal =
      s.ideal.gate room := by
    show _ = s.roomReadiness[room]?.map RoomReadinessCoordinator.ideal
    cases hroom : s.roomReadiness[room]? with
    | none => rfl
    | some coordinator => simp [h coordinator hroom]
  rw [hgate, State.setGate, Function.update_eq_self]

/-- An edit of a control record that the ideal server does not see. -/
theorem ideal_updateControl_quiet (s : ServerRuntime) (room : String)
    (f : RoomBufferingControl → RoomBufferingControl)
    (h : ∀ control, s.roomBufferingControls[room]? = some control →
      (f control).ideal = control.ideal) :
    (s.updateControl room f).ideal = s.ideal := by
  rw [ideal_updateControl]
  have hpolicy : (s.roomBufferingControls[room]?.map f).map RoomBufferingControl.ideal =
      s.ideal.policy room := by
    show _ = s.roomBufferingControls[room]?.map RoomBufferingControl.ideal
    cases hroom : s.roomBufferingControls[room]? with
    | none => rfl
    | some control => simp [h control hroom]
  rw [hpolicy, State.setPolicy, Function.update_eq_self]

/-! ### Canonical room state -/

theorem roomPlaylistState_ensureRoomState (s : ServerRuntime) (room : String) :
    (s.ensureRoomState room).roomPlaylistState = s.roomPlaylistState := by
  funext a
  exact getD_insertIfNew_default _ _ _ _

theorem roomPlaybackState_ensureRoomState (s : ServerRuntime) (room : String) :
    (s.ensureRoomState room).roomPlaybackState = s.roomPlaybackState := by
  funext a
  exact getD_insertIfNew_default _ _ _ _

theorem userIsRoomController_ensureRoomState (s : ServerRuntime) (room username a : String) :
    (s.ensureRoomState room).userIsRoomController username a =
      s.userIsRoomController username a := by
  simp only [userIsRoomController, ensureRoomState, Std.ExtTreeMap.getElem?_insertIfNew]
  by_cases h : room = a ∧ room ∉ s.roomControllers
  · obtain ⟨rfl, hmem⟩ := h
    simp [hmem]
  · simp [h]

@[simp] theorem ideal_ensureRoomState (s : ServerRuntime) (room : String) :
    (s.ensureRoomState room).ideal = s.ideal := by
  have hplaylist := roomPlaylistState_ensureRoomState s room
  have hplayback := roomPlaybackState_ensureRoomState s room
  have hcontrollers : (fun a username => (s.ensureRoomState room).userIsRoomController username a) =
      fun a username => s.userIsRoomController username a := by
    funext a username
    exact userIsRoomController_ensureRoomState s room username a
  unfold ideal
  rw [hplaylist, hplayback, hcontrollers]
  rfl

@[simp] theorem ideal_persistRoomAtIfNeeded (s : ServerRuntime) (room : String) (now : Seconds) :
    (s.persistRoomAtIfNeeded room now).ideal = s.ideal := by
  unfold persistRoomAtIfNeeded
  split
  · rfl
  · dsimp only
    split
    · rfl
    · split <;> rfl

@[simp] theorem ideal_persistRoomIfNeeded (s : ServerRuntime) (room : String) :
    (s.persistRoomIfNeeded room).ideal = s.ideal := ideal_persistRoomAtIfNeeded _ _ _

@[simp] theorem ideal_advanceParticipantStatusMediaGeneration (s : ServerRuntime) (room : String)
    (generation : Option Nat) :
    (s.advanceParticipantStatusMediaGeneration room generation).ideal = s.ideal :=
  ideal_ensureRoomState s room

@[simp] theorem ideal_advanceParticipantStatusTransportRevision (s : ServerRuntime)
    (room : String) : (s.advanceParticipantStatusTransportRevision room).ideal = s.ideal :=
  ideal_ensureRoomState s room

theorem roomPlaybackState_setRoomPlaybackState (s : ServerRuntime) (room : String)
    (state : RoomPlaybackState) :
    (s.setRoomPlaybackState room state).roomPlaybackState =
      Function.update s.roomPlaybackState room state := by
  funext a
  simp only [roomPlaybackState, setRoomPlaybackState, Std.ExtTreeMap.getD_insert,
    Function.update_apply]
  by_cases h : a = room
  · simp [h]
  · simp [h, Ne.symm h]
    rfl

theorem ideal_setRoomPlaybackState (s : ServerRuntime) (room : String)
    (state : RoomPlaybackState) :
    (s.setRoomPlaybackState room state).ideal =
      s.ideal.setPlayback room state.paused state.position := by
  have hpaused : (fun a => ((s.setRoomPlaybackState room state).roomPlaybackState a).paused) =
      Function.update s.ideal.paused room state.paused := by
    rw [roomPlaybackState_setRoomPlaybackState]
    exact Function.comp_update RoomPlaybackState.paused _ _ _
  have hposition : (fun a => ((s.setRoomPlaybackState room state).roomPlaybackState a).position) =
      Function.update s.ideal.position room state.position := by
    rw [roomPlaybackState_setRoomPlaybackState]
    exact Function.comp_update RoomPlaybackState.position _ _ _
  rw [ideal, hpaused, hposition]
  rfl

/-- A rewrite of the canonical playstate that keeps pause and position. -/
theorem ideal_setRoomPlaybackState_quiet (s : ServerRuntime) (room : String)
    (state : RoomPlaybackState) (hpaused : state.paused = (s.roomPlaybackState room).paused)
    (hposition : state.position = (s.roomPlaybackState room).position) :
    (s.setRoomPlaybackState room state).ideal = s.ideal := by
  have hp : state.paused = s.ideal.paused room := hpaused
  have hx : state.position = s.ideal.position room := hposition
  rw [ideal_setRoomPlaybackState, State.setPlayback, hp, hx, Function.update_eq_self,
    Function.update_eq_self]

/-! ### Samples -/

theorem mem_clientsInRoom (s : ServerRuntime) (clientId room : String) :
    clientId ∈ s.clientsInRoom room ↔ s.ideal.inRoom clientId room := by
  simp only [clientsInRoom, List.mem_map, List.mem_filter, Prod.exists,
    Std.ExtTreeMap.mem_toList_iff_getElem?_eq_some, beq_iff_eq]
  constructor
  · rintro ⟨c, session, ⟨hsession, hroom⟩, rfl⟩
    exact ⟨session, hsession, hroom⟩
  · rintro ⟨session, hsession, hroom⟩
    exact ⟨clientId, session, ⟨hsession, hroom⟩, rfl⟩

theorem ideal_setSample (s : ServerRuntime) (clientId : String) (state : ClientPlaybackState) :
    { s with clientPlaybackStates := s.clientPlaybackStates.insert clientId state }.ideal =
      s.ideal.setSample clientId state.position := by
  have hsample : (fun c => (s.clientPlaybackStates.insert clientId state)[c]?.bind (·.position)) =
      Function.update s.ideal.sample clientId state.position := by
    funext c
    rw [Std.ExtTreeMap.getElem?_insert, Function.update_apply]
    by_cases h : c = clientId
    · simp [h]
    · simp [h, Ne.symm h]
      rfl
  simp only [ideal]
  rw [hsample]
  rfl

theorem ideal_seedClientPlaybackState (s : ServerRuntime) (clientId : String)
    (position : Option Seconds) (now : Seconds) :
    (s.seedClientPlaybackState clientId position now).ideal =
      s.ideal.setSample clientId position :=
  ideal_setSample s clientId _

theorem ideal_seedClients (position now : Seconds) :
    ∀ (clients : List String) (s : ServerRuntime) (t : State), s.ideal = t →
      (clients.foldl (fun s clientId => s.seedClientPlaybackState clientId (some position) now)
        s).ideal =
      { t with sample := fun c => if c ∈ clients then some position else t.sample c } := by
  intro clients
  induction clients with
  | nil => rintro s t rfl; simp
  | cons c cs ih =>
    rintro s t rfl
    rw [List.foldl_cons, ih _ _ (ideal_seedClientPlaybackState s c (some position) now)]
    simp only [State.setSample]
    congr 1
    funext a
    by_cases ha : a = c
    · subst ha; simp
    · simp [ha]

/-- Seeding every member of a room. -/
theorem ideal_seedRoomClientPlaybackStates (s : ServerRuntime) (room : String)
    (position now : Seconds) :
    (s.seedRoomClientPlaybackStates room position now).ideal = s.ideal.seed room position := by
  rw [seedRoomClientPlaybackStates, ideal_seedClients position now _ s s.ideal rfl]
  simp only [State.seed]
  congr 1
  funext c
  by_cases h : c ∈ s.clientsInRoom room
  · rw [if_pos h, if_pos ((mem_clientsInRoom s c room).mp h)]
  · rw [if_neg h, if_neg fun hin => h ((mem_clientsInRoom s c room).mpr hin)]

/-! ### Transport authority -/

@[simp] theorem ideal_advanceTransportAuthorityRevision (s : ServerRuntime) (room : String) :
    (s.advanceTransportAuthorityRevision room).ideal = s.ideal := by
  have hquiet := ideal_updateReadiness_quiet (s.advanceParticipantStatusTransportRevision room)
    room (fun room => { room with
      transportAuthorityRevision := room.transportAuthorityRevision + 1 }) (fun _ _ => rfl)
  rw [ideal_advanceParticipantStatusTransportRevision] at hquiet
  exact hquiet

theorem ideal_establishRoomTransport (s : ServerRuntime) (room : String)
    (state : RoomPlaybackState) :
    (s.establishRoomTransport room state).ideal =
      s.ideal.setTransport room state.paused state.position := by
  rw [establishRoomTransport, ideal_persistRoomIfNeeded, ideal_seedRoomClientPlaybackStates,
    ideal_advanceTransportAuthorityRevision, ideal_setRoomPlaybackState]
  rfl

end ServerRuntime

end Sorotte.Server
