import Sorotte.Membership.MessageWalks
import Sorotte.Properties.Samples
import Sorotte.Refinement.Members

/-! # Refinement: sessions that come and go

  What the ideal server sees when a session is tracked, forgotten or moved to
  another room, and when the room it finds or leaves is refreshed or discarded.
-/

namespace Sorotte.Server

open Sorotte.Framework Sorotte.Framework.Prog Sorotte.Ideal

variable {s : ServerRuntime} {clientId : String} {session : ServerSession}
variable {allowed : Label → Prop}

namespace ServerRuntime

/-! ### The roster and the controllers -/

theorem ideal_enrolled (s : ServerRuntime) (room username : String) :
    s.ideal.enrolled room username = (s.rosterFlag room username).isSome := by
  show s.roomRoster[room]?.any (·.contains username) = _
  unfold rosterFlag
  cases s.roomRoster[room]? with
  | none => rfl
  | some users =>
    simp only [Option.any_some, Option.bind_some]
    rw [Bool.eq_iff_iff, Std.ExtTreeMap.contains_iff_mem,
      Std.ExtTreeMap.mem_iff_isSome_getElem?]

theorem userIsRoomController_remove (s : ServerRuntime) (username room other a : String) :
    (s.removeRoomController username room).userIsRoomController other a =
      if a = room ∧ other = username then false else s.userIsRoomController other a := by
  unfold userIsRoomController removeRoomController
  dsimp only
  rw [getElem?_modify_if]
  by_cases ha : a = room
  · subst ha
    rw [if_pos rfl]
    cases s.roomControllers[a]? with
    | none => simp
    | some controllers =>
      by_cases hother : other = username
      · subst hother
        simp
      · simp [hother, Ne.symm hother]
  · simp [ha]

theorem userIsRoomController_add (s : ServerRuntime) (username room other a : String) :
    (s.addRoomController username room).userIsRoomController other a =
      if a = room ∧ other = username then true else s.userIsRoomController other a := by
  rw [← userIsRoomController_ensureRoomState s room other a]
  unfold userIsRoomController addRoomController
  dsimp only
  generalize s.ensureRoomState room = t
  rw [getElem?_insert_if]
  by_cases ha : a = room
  · subst ha
    rw [if_pos rfl, Std.ExtTreeMap.getD_eq_getD_getElem?]
    cases t.roomControllers[a]? with
    | none =>
      by_cases hother : other = username
      · subst hother
        simp
      · simp [hother, Ne.symm hother]
    | some controllers =>
      by_cases hother : other = username
      · subst hother
        simp
      · simp [hother, Ne.symm hother]
  · simp [ha]

theorem getD_erase {V : Type} (m : BTreeMap String V) (room : String) (v : V) :
    (fun a => (m.erase room).getD a v) = Function.update (fun a => m.getD a v) room v := by
  funext a
  rw [Std.ExtTreeMap.getD_eq_getD_getElem?, getElem?_erase_if, Function.update_apply]
  by_cases ha : a = room
  · rw [if_pos ha, if_pos ha]
    rfl
  · rw [if_neg ha, if_neg ha, ← Std.ExtTreeMap.getD_eq_getD_getElem?]

theorem update_update {A B C : Type} [DecidableEq A] [DecidableEq B] (f : A → B → C) (a : A)
    (b : B) (c : C) : Function.update f a (Function.update (f a) b c) =
      fun x y => if x = a ∧ y = b then c else f x y := by
  funext x y
  by_cases hx : x = a
  · subst hx
    by_cases hy : y = b
    · subst hy
      simp
    · simp [hy]
  · simp [hx]

/-! ### Leaving -/

theorem ideal_removeSessionTracking (hs : Seats s) (hsession : s.sessions[clientId]? = some session) :
    (s.removeSessionTracking clientId session).ideal =
      effect s.ideal (.leave clientId session) := by
  have hforgotten := removeSessionTracking_forgotten hs hsession
  set t := s.removeSessionTracking clientId session
  have hsessions : (fun c => t.sessions[c]?) =
      Function.update (fun c => s.sessions[c]?) clientId none := by
    rw [hforgotten.sessions]
    exact lookup_erase _ _
  have henrolled : t.ideal.enrolled = Function.update s.ideal.enrolled session.room
      (Function.update (s.ideal.enrolled session.room) session.username false) := by
    rw [update_update]
    funext room username
    rw [ideal_enrolled, hforgotten.flags, ideal_enrolled]
    split <;> rfl
  have hcontrollers : t.ideal.controllers = Function.update s.ideal.controllers session.room
      (Function.update (s.ideal.controllers session.room) session.username false) := by
    rw [update_update]
    funext room username
    exact userIsRoomController_remove s session.username session.room username room
  have hsample : t.ideal.sample = Function.update s.ideal.sample clientId none := by
    funext c
    show (s.clientPlaybackStates.erase clientId)[c]?.bind (·.position) = _
    rw [getElem?_erase_if, Function.update_apply]
    by_cases hc : c = clientId
    · rw [if_pos hc, if_pos hc]
      rfl
    · rw [if_neg hc, if_neg hc]
      rfl
  have hrest : t.ideal =
      { s.ideal with
        sessions := t.ideal.sessions, enrolled := t.ideal.enrolled
        controllers := t.ideal.controllers, sample := t.ideal.sample
        history := .sessionEnded clientId :: s.history } := rfl
  rw [hrest, henrolled, hcontrollers, hsample]
  show State.mk (fun c => t.sessions[c]?) _ _ _ _ _ _ _ _ _ _ _ _ _ _ _ _ _ = _
  rw [hsessions]
  rfl

/-! ### The room that is found -/

def refreshLabel (room : String) : Label → Prop
  | .refresh r _ => r = room
  | _ => False

/-- A refreshed position is the sample of a member, aged while the room plays. -/
theorem refresh_steps (s : ServerRuntime) (room : String) (now : Seconds) :
    Relation.ReflTransGen (Steps (refreshLabel room)) s.ideal
      (s.refreshRoomPlaybackStateFromClientsAt room now).2.ideal := by
  unfold refreshRoomPlaybackStateFromClientsAt
  dsimp only
  split
  · exact .refl
  · split
    · exact .refl
    · next setBy position hslowest =>
      obtain ⟨c, held, state, hsample, -, hposition⟩ := slowest_accepted hslowest
      unfold ClientPlaybackState.positionAt at hposition
      obtain ⟨taken, htaken, haged⟩ := Option.map_eq_some_iff.mp hposition
      have hlabel : refreshLabel room (.refresh room position) := rfl
      apply one_step hlabel
      · refine ⟨c, taken, ⟨held, hsample.held, hsample.room⟩, ?_, ?_⟩
        · show s.clientPlaybackStates[c]?.bind (·.position) = some taken
          rw [hsample.sampled]
          exact htaken
        · intro hpaused
          have hstill : (s.roomPlaybackState room).paused = true := hpaused
          rw [hstill] at haged
          exact haged.symm
      · rw [ideal_setRoomPlaybackState]
        have hpaused : (s.roomPlaybackState room).paused = s.ideal.paused room := rfl
        unfold State.setPlayback
        dsimp only
        rw [hpaused, Function.update_eq_self]
        rfl

theorem readyForJoin_steps (s : ServerRuntime) (room : String) (now : Seconds) :
    Relation.ReflTransGen (Steps (refreshLabel room)) s.ideal (s.readyForJoin room now).ideal := by
  have hsteps := refresh_steps (s.ensureRoomState room) room now
  rw [ideal_ensureRoomState] at hsteps
  exact hsteps

/-- The position a joiner of a paused room is told is the one it finds. -/
theorem joinPlayback_position (s : ServerRuntime) (room : String) (now : Seconds)
    (hpaused : (s.readyForJoin room now).ideal.paused room = true) :
    (s.joinPlayback room now).position = (s.readyForJoin room now).ideal.position room := by
  show _ = ((s.readyForJoin room now).roomPlaybackState room).position
  have hstill : ((s.readyForJoin room now).roomPlaybackState room).paused = true := hpaused
  revert hstill
  unfold joinPlayback readyForJoin refreshRoomPlaybackStateFromClientsAt
  generalize s.ensureRoomState room = t
  dsimp only
  split
  · intro hstill
    show RoomPlaybackState.positionAt _ now = _
    unfold RoomPlaybackState.positionAt
    rw [if_pos hstill]
  · split
    · intro hstill
      show RoomPlaybackState.positionAt _ now = _
      unfold RoomPlaybackState.positionAt
      rw [if_pos hstill]
    · intro _
      rw [roomPlaybackState_setRoomPlaybackState, Function.update_self]

/-! ### Entering -/

/-- The label of a join, at the position that the code gives the joiner. -/
def joinLabel (s : ServerRuntime) (clientId : String) (session : ServerSession) (now : Seconds) :
    Label :=
  .join clientId session
    (if s.seedsJoinerPosition session.room then some (s.joinPlayback session.room now).position
      else none)

theorem ideal_joinSession (s : ServerRuntime) (clientId : String) (session : ServerSession)
    (now : Seconds) : (s.joinSession clientId session now).ideal =
      effect (s.readyForJoin session.room now).ideal (s.joinLabel clientId session now) := by
  unfold joinSession joinLabel
  extract_lets roomName position room joined seeded
  have hsessions : (fun c => joined.sessions[c]?) =
      Function.update (fun c => room.sessions[c]?) clientId (some session) := lookup_insert _ _ _
  have henrolled : joined.ideal.enrolled = Function.update room.ideal.enrolled session.room
      (Function.update (room.ideal.enrolled session.room) session.username true) := by
    rw [update_update]
    funext a b
    rw [ideal_enrolled, ideal_enrolled]
    show (flagIn (Roster.joinRoomWithReady room.roomRoster session.username session.room none)
      a b).isSome = _
    rw [flagIn_joinRoomWithReady]
    split <;> rfl
  have hjoin : joined.ideal =
      (room.ideal.setSession clientId (some session)).enrol session.room session.username true := by
    have hrest : joined.ideal = { room.ideal with
        sessions := fun c => joined.sessions[c]?, enrolled := joined.ideal.enrolled } := rfl
    rw [hrest, henrolled, hsessions]
    rfl
  have hseeded : seeded.ideal = joined.ideal.setSample clientId position :=
    ideal_seedClientPlaybackState _ _ _ _
  show seeded.ideal = _
  rw [hseeded, hjoin]
  rfl

/-! ### Moving to another room -/

/-- A refresh looks at sessions, samples and playback only. -/
theorem refresh_frame {room : String} {u v : State}
    (h : Relation.ReflTransGen (Steps (refreshLabel room)) u v)
    (enrolled controllers : String → String → Bool) :
    Relation.ReflTransGen (Steps (refreshLabel room))
      { u with enrolled := enrolled, controllers := controllers }
      { v with enrolled := enrolled, controllers := controllers } := by
  induction h with
  | refl => exact .refl
  | tail _ hstep ih =>
    obtain ⟨l, hl, hguard, rfl⟩ := hstep
    apply ih.tail
    cases l with
    | refresh r position => exact ⟨.refresh r position, hl, hguard, rfl⟩
    | _ => exact hl.elim

theorem userIsRoomController_readyForJoin (s : ServerRuntime) (room : String) (now : Seconds)
    (username a : String) :
    (s.readyForJoin room now).userIsRoomController username a =
      s.userIsRoomController username a := by
  rw [← userIsRoomController_ensureRoomState s room username a]
  unfold readyForJoin refreshRoomPlaybackStateFromClientsAt
  dsimp only
  split
  · rfl
  · split <;> rfl

/-- The runtime that a moving member has left its old room in. -/
def leftRoom (s : ServerRuntime) (session : ServerSession)
    (roster : BTreeMap String (BTreeMap String (Option Bool))) : ServerRuntime :=
  { s with roomRoster := roster }.removeRoomController session.username session.room

/-- Where a moving member is placed. -/
def movePosition (s : ServerRuntime) (session : ServerSession) (newRoom : String)
    (roster : BTreeMap String (BTreeMap String (Option Bool))) (now : Seconds) : Option Seconds :=
  if s.seedsJoinerPosition newRoom then
    some ((s.leftRoom session roster).joinPlayback newRoom now).position
  else none

/-- The state that a move starts from: the new room was refreshed. -/
def refreshedForMove (s : ServerRuntime) (session : ServerSession) (newRoom : String)
    (roster : BTreeMap String (BTreeMap String (Option Bool))) (now : Seconds) : State :=
  { ((s.leftRoom session roster).readyForJoin newRoom now).ideal with
    enrolled := s.ideal.enrolled, controllers := s.ideal.controllers }

theorem refreshedForMove_steps (s : ServerRuntime) (session : ServerSession) (newRoom : String)
    (roster : BTreeMap String (BTreeMap String (Option Bool))) (now : Seconds) :
    Relation.ReflTransGen (Steps (refreshLabel newRoom)) s.ideal
      (s.refreshedForMove session newRoom roster now) :=
  refresh_frame ((s.leftRoom session roster).readyForJoin_steps newRoom now) _ _

theorem ideal_moveSession (hs : Seats s) (hsession : s.sessions[clientId]? = some session)
    {newRoom : String} {roster : BTreeMap String (BTreeMap String (Option Bool))}
    (hleft : Roster.leaveRoom s.roomRoster session.username session.room = .ok roster)
    (now : Seconds) :
    (s.moveSession clientId session newRoom roster now).ideal =
      effect (s.refreshedForMove session newRoom roster now)
        (.move clientId session newRoom (s.movePosition session newRoom roster now)) := by
  have hmoved : SessionMoved clientId newRoom session s
      (s.moveSession clientId session newRoom roster now) :=
    moveSession_moved hs hsession hleft now
  set t := s.moveSession clientId session newRoom roster now
  set room := (s.leftRoom session roster).readyForJoin newRoom now with hroom
  have hsessions : (fun c => t.sessions[c]?) =
      Function.update (fun c => s.sessions[c]?) clientId (some { session with room := newRoom }) := by
    rw [hmoved.sessions]
    exact lookup_insert _ _ _
  have hkept : room.sessions = s.sessions :=
    ((s.leftRoom session roster).quiet_readyForJoin newRoom now).same.sessions
  have henrolled : t.ideal.enrolled =
      Function.update (Function.update s.ideal.enrolled session.room
        (Function.update (s.ideal.enrolled session.room) session.username false)) newRoom
        (Function.update (Function.update s.ideal.enrolled session.room
          (Function.update (s.ideal.enrolled session.room) session.username false) newRoom)
          session.username true) := by
    rw [update_update, update_update]
    funext a b
    rw [ideal_enrolled, hmoved.flags]
    dsimp only
    rw [ideal_enrolled]
  have hcontrollers : room.ideal.controllers = Function.update s.ideal.controllers session.room
      (Function.update (s.ideal.controllers session.room) session.username false) := by
    rw [update_update]
    funext a b
    show room.userIsRoomController b a = _
    rw [hroom, userIsRoomController_readyForJoin]
    exact userIsRoomController_remove { s with roomRoster := roster } session.username session.room
      b a
  have hsample : t.ideal.sample = Function.update room.ideal.sample clientId
      (s.movePosition session newRoom roster now) := by
    funext c
    show (Std.ExtTreeMap.insert room.clientPlaybackStates clientId _)[c]?.bind (·.position) = _
    rw [getElem?_insert_if, Function.update_apply]
    by_cases hc : c = clientId
    · rw [if_pos hc, if_pos hc]
      rfl
    · rw [if_neg hc, if_neg hc]
      rfl
  have hrest : t.ideal =
      { room.ideal with
        sessions := fun c => t.sessions[c]?, enrolled := t.ideal.enrolled
        controllers := room.ideal.controllers, sample := t.ideal.sample
        history := .leftRoom clientId session.room :: room.history } := rfl
  rw [hrest, hsessions, henrolled, hcontrollers, hsample, ← hkept]
  rfl

/-! ### Rooms that are discarded -/

theorem ideal_deletePersistedRoomIfNeeded (s : ServerRuntime) (room : String) :
    (s.deletePersistedRoomIfNeeded room).ideal = s.ideal := by
  unfold deletePersistedRoomIfNeeded
  split
  · rfl
  · split <;> rfl

def discardLabel (room : String) : Label → Prop
  | .release r | .discard r => r = room
  | _ => False

theorem ideal_removeRoomRuntimeState (s : ServerRuntime) (room : String) :
    (s.removeRoomRuntimeState room).ideal = (s.clearReadinessGate room).ideal.discard room := by
  unfold removeRoomRuntimeState
  generalize s.clearReadinessGate room = t
  set playbacks := fun a => t.roomPlaybackStates.getD a (.newAt t.currentTimeSeconds)
  have hcontrollers : (fun a username =>
        { t with roomControllers := t.roomControllers.erase room }.userIsRoomController username a) =
      Function.update t.ideal.controllers room fun _ => false := by
    funext a username
    rw [userIsRoomController, getElem?_erase_if, Function.update_apply]
    by_cases ha : a = room
    · rw [if_pos ha, if_pos ha]
    · rw [if_neg ha, if_neg ha]
      rfl
  have hplaybacks : (fun a => (t.roomPlaybackStates.erase room).getD a
      (.newAt t.currentTimeSeconds)) =
      Function.update playbacks room (.newAt t.currentTimeSeconds) := getD_erase _ _ _
  have hpaused : (fun a => ((t.roomPlaybackStates.erase room).getD a
      (.newAt t.currentTimeSeconds)).paused) = Function.update t.ideal.paused room true := by
    have hcomp := Function.comp_update RoomPlaybackState.paused playbacks room
      (.newAt t.currentTimeSeconds)
    rw [← hplaybacks] at hcomp
    exact hcomp
  have hposition : (fun a => ((t.roomPlaybackStates.erase room).getD a
      (.newAt t.currentTimeSeconds)).position) = Function.update t.ideal.position room 0 := by
    have hcomp := Function.comp_update RoomPlaybackState.position playbacks room
      (.newAt t.currentTimeSeconds)
    rw [← hplaybacks] at hcomp
    exact hcomp
  have hpolicy : (fun a => (t.roomBufferingControls.erase room)[a]?.map
      RoomBufferingControl.ideal) = Function.update t.ideal.policy room none := by
    have herased := lookup_erase t.roomBufferingControls room
    funext a
    rw [congrFun herased a, Function.update_apply, Function.update_apply]
    split <;> rfl
  have htombstone : (fun a id => ((t.playbackBarrierRequestTombstones.erase room)[a]?.bind
      fun tombstones => tombstones[id]?).map (·.retainUntilSeconds)) =
      Function.update t.ideal.tombstone room fun _ => none := by
    have herased := lookup_erase t.playbackBarrierRequestTombstones room
    funext a id
    rw [congrFun herased a, Function.update_apply, Function.update_apply]
    split <;> rfl
  unfold State.discard
  rw [← hcontrollers, ← hpaused, ← hposition, ← hpolicy, ← htombstone]
  have hplaylist : (fun a => (t.roomPlaylists.erase room).getD a {}) =
      Function.update t.ideal.playlist room {} := getD_erase _ _ _
  have hbarrier : (fun a => (t.roomPlaybackBarriers.erase room)[a]?) =
      Function.update t.ideal.barrier room none := lookup_erase _ _
  rw [← hplaylist, ← hbarrier]
  rfl

theorem discardRoom_steps (s : ServerRuntime) (room : String) :
    Relation.ReflTransGen (Steps (discardLabel room)) s.ideal (s.discardRoom room).ideal := by
  unfold discardRoom
  split
  · next hempty =>
    rw [ideal_deletePersistedRoomIfNeeded, ideal_removeRoomRuntimeState]
    have hcleared : Relation.ReflTransGen (Steps (discardLabel room)) s.ideal
        (s.clearReadinessGate room).ideal := by
      apply Relation.ReflTransGen.mono (Steps.mono _) _ _ (clearReadinessGate_steps s room)
      rintro l rfl
      rfl
    apply hcleared.tail
    refine ⟨.discard room, rfl, ?_, rfl⟩
    intro c hin
    rw [List.isEmpty_iff] at hempty
    have hmem : c ∈ s.clientsInRoom room := by
      rw [mem_clientsInRoom]
      exact hin
    rw [hempty] at hmem
    cases hmem
  · exact .refl

theorem cleanupRoomIfEmpty_steps (s : ServerRuntime) (room : String) :
    Relation.ReflTransGen (Steps (discardLabel room)) s.ideal
      (s.cleanupRoomIfEmpty room).ideal := by
  unfold cleanupRoomIfEmpty
  split
  · exact .refl
  · split
    · rw [ideal_persistRoomIfNeeded]
    · exact discardRoom_steps s room

end ServerRuntime

end Sorotte.Server
