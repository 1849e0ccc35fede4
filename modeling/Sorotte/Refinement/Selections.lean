import Sorotte.Framework.Frame
import Sorotte.Refinement.Departures

/-! # Refinement: selections and playlists

  An accepted playlist change or index stores the playlist under its next epoch.
  Where it moves the canonical selection, the room's start and policy are
  retired and the room starts from a paused zero position, which the ideal
  server sees as one step.
-/

namespace Sorotte.Server

open Sorotte.Framework Sorotte.Framework.Prog Sorotte.Ideal ServerRuntime

variable {s t : ServerRuntime} {clientId freshToken : String} {session : ServerSession}
variable {allowed : Label → Prop}

/-! ### The canonical selection -/

def selectLabel (room : String) : Label → Prop
  | .settle r _ _ | .relax r | .select r => r = room
  | _ => False

theorem after_retire (s : ServerRuntime) (room : String) :
    after (retirePlaybackCoordinationForSelection room) s =
      (s.updateBarrier room fun barrier =>
        { barrier.mapStatus supersededStatus with phase := .degraded, startedDeadline := none }
        ).updateControl room retiredControl := by
  unfold retirePlaybackCoordinationForSelection
  rw [after_modify_bind, after_gets_bind, after_modify_bind, after_get_bind]
  split <;> rfl

/-- A retired start is over. -/
theorem retired_not_active (s : ServerRuntime) (room : String) (b : RoomPlaybackBarrier)
    (hb : (after (retirePlaybackCoordinationForSelection room) s).ideal.barrier room = some b) :
    ¬ active b := by
  rw [after_retire] at hb
  have hlookup : (s.roomPlaybackBarriers.modify room fun barrier =>
      { barrier.mapStatus supersededStatus with phase := .degraded, startedDeadline := none })[room]?
      = some b := hb
  rw [Std.ExtTreeMap.getElem?_modify_self] at hlookup
  obtain ⟨before, -, rfl⟩ := Option.map_eq_some_iff.mp hlookup
  rintro (hpreparing | hcommitted)
  · cases hpreparing
  · cases hcommitted

theorem replaceReadinessGeneration_ideal (s : ServerRuntime) (room : String)
    (generation : Option Nat) (owns : Bool) :
    (after (replaceReadinessGeneration room generation owns) s).ideal =
      (s.replaceReadinessGeneration room generation owns).ideal :=
  (publishReplacedReadinessGeneration_invisible _ room _).ideal_eq

/-- Unless a user holds the pause, the end of the playlist does. -/
def ServerRuntime.ownSelectionPause (s : ServerRuntime) (room : String) : ServerRuntime :=
  if s.roomReadiness[room]?.any (!·.pauseOwner.isUser) then
    s.setReadinessPauseOwner room .endOfPlaylist
  else s

/-- Nobody waits for the media of an old selection. -/
theorem ideal_endGeneration (hs : Seats s) (room : String) :
    ((s.ownSelectionPause room).replaceReadinessGeneration room none false).ideal =
      s.ideal.endGeneration room := by
  unfold ownSelectionPause State.endGeneration
  cases hroom : s.roomReadiness[room]? with
  | none =>
    have hgate : s.ideal.gate room = none := by
      show s.roomReadiness[room]?.map _ = none
      rw [hroom]
      rfl
    rw [Option.any_none, if_neg Bool.false_ne_true, hgate, Option.map_none]
    by_cases henabled : s.readinessEnabled = true
    · rw [ideal_replaceReadinessGeneration_free s room none henabled, hgate, Option.map_none]
    · rw [ideal_replaceReadinessGeneration_disabled s room none false
        (Bool.eq_false_iff.mpr henabled), ← hgate, setGate_gate]
  | some coordinator =>
    have henabled := hs.enabled room coordinator hroom
    have hgate : s.ideal.gate room = some coordinator.ideal := by
      show s.roomReadiness[room]?.map _ = _
      rw [hroom]
      rfl
    have howner : coordinator.ideal.pauseOwner = coordinator.pauseOwner := rfl
    rw [Option.any_some, hgate, Option.map_some, howner]
    by_cases huser : coordinator.pauseOwner.isUser = true
    · rw [huser, Bool.not_true, if_neg Bool.false_ne_true, if_pos rfl,
        ideal_replaceReadinessGeneration_free s room none henabled, hgate, Option.map_some]
      rfl
    · rw [Bool.eq_false_iff.mpr huser, Bool.not_false, if_pos rfl, if_neg Bool.false_ne_true]
      have hkept : (s.setReadinessPauseOwner room .endOfPlaylist).readinessEnabled = true := by
        rw [(s.quiet_setReadinessPauseOwner room .endOfPlaylist).same.enabled]
        exact henabled
      rw [ideal_replaceReadinessGeneration_free _ room none hkept, ideal_setReadinessPauseOwner]
      unfold State.setOwner State.setGate
      dsimp only
      rw [Function.update_self, hgate, Function.update_idem]
      rfl

/-- A room that is selected anew is paused at its start. -/
theorem ideal_seeded_select (t : State) (u v : ServerRuntime) (room setBy : String) (now : Seconds)
    (hu : u.ideal = t.endGeneration room)
    (hv : v.ideal = (u.setRoomPlaybackState room
      { position := 0, paused := true, setBy := some setBy, updatedAtSeconds := now }).ideal) :
    (v.seedRoomClientPlaybackStates room 0 now).ideal = effect t (.select room) := by
  rw [ideal_seedRoomClientPlaybackStates, hv, ideal_setRoomPlaybackState, hu]
  rfl

theorem resetRoomTransport_run (hs : Seats s) (room setBy : String) (now : Seconds) :
    ∃ out t, resetRoomTransportForCanonicalSelectionChange room setBy now s = (.ok out, t)
      ∧ Relation.ReflTransGen (Steps (selectLabel room)) s.ideal t.ideal := by
  obtain ⟨retired, t, hretired, hquiet⟩ := retirePlaybackCoordinationForSelection_quiet s room
  have hretiring := steps_of_run (retirePlaybackCoordinationForSelection_refines s room) hretired
  have ht : Seats t := hs.quiet hquiet
  have hover : ∀ b, t.ideal.barrier room = some b → ¬ active b := by
    have hafter := retired_not_active s room
    unfold after at hafter
    rwa [hretired] at hafter
  have howned : Seats (t.ownSelectionPause room) := by
    unfold ownSelectionPause
    split
    · exact ht.quiet (t.quiet_setReadinessPauseOwner room _)
    · exact ht
  obtain ⟨readiness, u, hreplaced, -⟩ := replaceReadinessGeneration_walk howned room none false
  have hu : u.ideal = t.ideal.endGeneration room := by
    rw [← ideal_endGeneration ht room,
      ← replaceReadinessGeneration_ideal (t.ownSelectionPause room) room none false]
    unfold after
    rw [hreplaced]
  set placed := u.setRoomPlaybackState room
    { position := 0, paused := true, setBy := some setBy, updatedAtSeconds := now } with hplaced
  set advanced := if placed.transportAuthorityRevisionForRoom room =
      s.transportAuthorityRevisionForRoom room then
    placed.advanceTransportAuthorityRevision room else placed with hadvanced
  have hsame : advanced.ideal = placed.ideal := by
    rw [hadvanced]
    split
    · exact ideal_advanceTransportAuthorityRevision placed room
    · rfl
  refine ⟨retired ++ readiness, advanced.seedRoomClientPlaybackStates room 0 now, ?_, ?_⟩
  · unfold resetRoomTransportForCanonicalSelectionChange retireReadinessGeneration
    rw [gets_bind_run, bind_of_ok hretired, modify_bind_run]
    show ((replaceReadinessGeneration room none false) >>= _) (t.ownSelectionPause room) = _
    rw [bind_of_ok hreplaced, modify_bind_run, modify_bind_run, modify_bind_run]
    rfl
  · have hbefore : Relation.ReflTransGen (Steps (selectLabel room)) s.ideal t.ideal := by
      apply Relation.ReflTransGen.mono (Steps.mono _) _ _ hretiring
      intro l hl
      cases l <;> first | exact hl | exact hl.elim
    apply hbefore.tail
    exact ⟨.select room, rfl, hover, ideal_seeded_select t.ideal u advanced room setBy now hu hsame⟩

/-! ### Playlists -/

/-- What an accepted playlist change or index does. -/
def playlistLabel (room : String) : Label → Prop
  | .playlist r _ _ => r = room
  | l => selectLabel room l

/-- A plain index in a room without lifecycle authority also claims the pause. -/
def indexLabel (room : String) (plain : Prop) : Label → Prop
  | .selectOwner r => r = room ∧ plain
  | l => playlistLabel room l

theorem playlist_of_select {room : String} (l : Label) (h : selectLabel room l) :
    playlistLabel room l := by
  cases l <;> first | exact h | exact h.elim

theorem ideal_acceptPlaylist (s : ServerRuntime) (room : String) (playlist : RoomPlaylistState)
    (expected : Option (Int × Nat)) :
    (s.acceptPlaylist room playlist expected).ideal =
      effect s.ideal (.playlist room playlist expected) := by
  have hplaylist : (s.acceptPlaylist room playlist expected).ideal.playlist =
      Function.update s.ideal.playlist room playlist.advanceEpoch := by
    funext a
    show (s.roomPlaylists.insert room playlist.advanceEpoch).getD a {} = _
    rw [Std.ExtTreeMap.getD_insert, Function.update_apply]
    by_cases ha : compare room a = .eq
    · rw [if_pos ha, if_pos (Std.LawfulEqOrd.eq_of_compare ha).symm]
    · rw [if_neg ha, if_neg]
      · rfl
      · rintro rfl
        exact ha Std.ReflOrd.compare_self
  have hrest : (s.acceptPlaylist room playlist expected).ideal =
      { s.ideal with
        playlist := (s.acceptPlaylist room playlist expected).ideal.playlist
        history := .playlistAccepted room playlist.epoch expected :: s.history } := rfl
  rw [hrest, hplaylist]
  rfl

theorem acceptPlaylist_steps (s : ServerRuntime) (room : String) {playlist : RoomPlaylistState}
    {expected : Option (Int × Nat)} (hepoch : playlist.epoch = (s.roomPlaylistState room).epoch)
    (hexpected : ∀ index epoch, expected = some (index, epoch) →
      (s.roomPlaylistState room).index = some index ∧ (s.roomPlaylistState room).epoch = epoch) :
    Relation.ReflTransGen (Steps (playlistLabel room)) s.ideal
      (s.acceptPlaylist room playlist expected).ideal := by
  have hlabel : playlistLabel room (.playlist room playlist expected) := rfl
  exact one_step hlabel ⟨hepoch, hexpected⟩ (ideal_acceptPlaylist s room playlist expected)

theorem resetRoomTransport_refines (hs : Seats s) (room setBy : String) (now : Seconds) :
    Refines (selectLabel room) s
      (resetRoomTransportForCanonicalSelectionChange room setBy now) := by
  obtain ⟨out, t, hrun, hsteps⟩ := resetRoomTransport_run hs room setBy now
  unfold Refines Follows after
  rw [hrun]
  exact hsteps

theorem index_of_playlist {room : String} {plain : Prop} (l : Label) (h : playlistLabel room l) :
    indexLabel room plain l := by
  cases l <;> first | exact h | exact h.elim

/-- What follows the new playlist: it is not changed any more. -/
def followUpLabel (room : String) (plain : Prop) : Label → Prop
  | .selectOwner r => r = room ∧ plain
  | l => selectLabel room l

theorem followUp_of_select {room : String} {plain : Prop} (l : Label) (h : selectLabel room l) :
    followUpLabel room plain l := by
  cases l <;> first | exact h | exact h.elim

theorem index_of_followUp {room : String} {plain : Prop} (l : Label)
    (h : followUpLabel room plain l) : indexLabel room plain l := by
  cases l <;> first | exact h | exact h.elim

/-- No member of the room knows starts. -/
theorem plain_of_authority {room : String}
    (h : s.roomUsesPlaybackLifecycleAuthority room = false) (c : String) (held : ServerSession)
    (hheld : s.sessions[c]? = some held) (hroom : held.room = room) :
    held.capabilities.playbackBarrierV1 = false := by
  have hmem : (c, held) ∈ s.sessions.toList :=
    Std.ExtTreeMap.mem_toList_iff_getElem?_eq_some.mpr hheld
  have hplain := List.any_eq_false.mp h (c, held) hmem
  simpa [hroom] using hplain

theorem ownPauseForSelection_refines {plain : Prop} (s : ServerRuntime) (room : String)
    (hplain : plain) (hauthority : s.roomUsesPlaybackLifecycleAuthority room = false) :
    Refines (followUpLabel room plain) s (ownPauseForSelection room) := by
  unfold ownPauseForSelection
  apply follows_get_bind
  apply follows_modify_bind
  · unfold ServerRuntime.ownPauseForSelection
    split
    · next howner =>
      have hlabel : followUpLabel room plain (.selectOwner room) := ⟨rfl, hplain⟩
      apply one_step hlabel
      · refine ⟨?_, plain_of_authority hauthority⟩
        intro g hg
        obtain ⟨coordinator, hcoordinator, rfl⟩ := Option.map_eq_some_iff.mp hg
        rw [hcoordinator, Option.any_some] at howner
        show coordinator.pauseOwner.isUser = false
        cases hkind : coordinator.pauseOwner with
        | user actor =>
          rw [hkind] at howner
          cases howner
        | _ => rfl
      · exact ideal_setReadinessPauseOwner s room .endOfPlaylist
    · exact .refl
  · apply follows_get_bind
    split <;> exact follows_pure _ _

theorem changedPlaylist_epoch (playlist : RoomPlaylistState) (files : List String)
    (compoundIndex : Option ServerPlaylistIndexCommand) (lifecycleAuthority : Bool) :
    (ServerRuntime.changedPlaylist playlist files compoundIndex lifecycleAuthority).epoch =
      playlist.epoch := by
  unfold ServerRuntime.changedPlaylist RoomPlaylistState.retireInvalidSelectedIndex
  dsimp only
  split
  · split
    · rfl
    · split <;> rfl
  · rfl

theorem changedPlaylist_files (playlist : RoomPlaylistState) (files : List String)
    (compoundIndex : Option ServerPlaylistIndexCommand) (lifecycleAuthority : Bool) :
    (ServerRuntime.changedPlaylist playlist files compoundIndex lifecycleAuthority).files =
      files := by
  unfold ServerRuntime.changedPlaylist RoomPlaylistState.retireInvalidSelectedIndex
  dsimp only
  split
  · split
    · rfl
    · split <;> rfl
  · rfl

theorem forcedStateFanout_refines (s : ServerRuntime) (clients : List String) (position : Seconds)
    (paused : Bool) (doSeek : Option Bool) (setBy : Option String) :
    Refines allowed s (forcedStateFanout clients position paused doSeek setBy) :=
  Invisible.refines (forcedStateFanout_invisible s clients position paused doSeek setBy)

/-- What an accepted playlist change does once the playlist is stored. -/
theorem acceptPlaylistChange_follows (hs : Seats s) (session : ServerSession) (files : List String)
    (compoundIndex : Option ServerPlaylistIndexCommand) (lifecycleAuthority : Bool) :
    Relation.ReflTransGen (Steps (selectLabel session.room))
      (s.acceptPlaylist session.room (ServerRuntime.changedPlaylist
        (s.roomPlaylistState session.room) files compoundIndex lifecycleAuthority) none).ideal
      (after (acceptPlaylistChange clientId session files compoundIndex lifecycleAuthority)
        s).ideal := by
  unfold acceptPlaylistChange
  rw [after_get_bind]
  extract_lets room now identity creationRequired playlist changed playlistChanged selectionChanged
  rw [after_modify_bind]
  have haccepted : Seats (s.acceptPlaylist room changed none) :=
    hs.quiet (s.quiet_acceptPlaylist room changed none)
  generalize s.acceptPlaylist room changed none = accepted at haccepted ⊢
  set advanced := if playlistChanged || selectionChanged then
    accepted.advanceParticipantStatusMediaGeneration room none else accepted
  have hquiet : Quiet accepted advanced := accepted.quiet_advanceMediaGenerationWhen room _
  have hsame : advanced.ideal = accepted.ideal := by
    unfold advanced
    split
    · exact ideal_advanceParticipantStatusMediaGeneration accepted room none
    · rfl
  apply follows_quiet_bind hsame
  apply follows_bind
  · apply follows_when
    intro _
    exact resetRoomTransport_refines (haccepted.quiet hquiet) room session.username now
  · intro readiness t _
    apply follows_quiet_bind
    · split
      · rfl
      · split <;> rfl
    · apply follows_quiet_bind (ideal_persistRoomIfNeeded _ room)
      apply follows_get_bind
      apply follows_bind
      · apply follows_collect
        intro peer _ u
        dsimp only
        exact follows_bind (forcedStateFanout_refines u _ _ _ _ _) fun _ _ _ => follows_pure _ _
      · intro published u _
        exact follows_pure _ _

theorem acceptPlaylistChange_refines (hs : Seats s) (session : ServerSession) (files : List String)
    (compoundIndex : Option ServerPlaylistIndexCommand) (lifecycleAuthority : Bool) :
    Refines (playlistLabel session.room) s
      (acceptPlaylistChange clientId session files compoundIndex lifecycleAuthority) := by
  have hepoch := changedPlaylist_epoch (s.roomPlaylistState session.room) files compoundIndex
    lifecycleAuthority
  have hunguarded : ∀ (index : Int) (epoch : Nat), none = some (index, epoch) →
      (s.roomPlaylistState session.room).index = some index
        ∧ (s.roomPlaylistState session.room).epoch = epoch := by
    intro index epoch hnone
    cases hnone
  apply (acceptPlaylist_steps s session.room hepoch hunguarded).trans
  exact Relation.ReflTransGen.mono (Steps.mono playlist_of_select) _ _
    (acceptPlaylistChange_follows hs session files compoundIndex lifecycleAuthority)

theorem setPlaylistChange_refines (hs : Seats s) (session : ServerSession) (files : List String)
    (next : Option ServerSetCommand) :
    Refines (playlistLabel session.room) s (setPlaylistChange clientId session files next) := by
  unfold setPlaylistChange
  apply follows_quiet_bind (ideal_ensureRoomState s session.room)
  apply follows_get_bind
  split
  · apply follows_bind (acceptPlaylistChange_refines
      (hs.quiet (s.quiet_ensureRoomState session.room)) session files _ _)
    intro outbound t _
    exact follows_pure _ _
  · exact follows_pure _ _

/-- The sender may select the entry, the entry is there, and the guard holds. -/
def ServerRuntime.acceptsPlaylistIndex (s : ServerRuntime) (session : ServerSession)
    (command : ServerPlaylistIndexCommand) : Bool :=
  let playlist := s.roomPlaylistState session.room
  s.userCanControlPlaylist session.username session.room && playlist.acceptsIndex command.index
    && ServerRuntime.playlistPreconditionMatches playlist command.precondition

/-- The command selects another entry without a guard, in a room that leaves its lifecycle
    alone. -/
def ServerRuntime.selectsPlainly (s : ServerRuntime) (session : ServerSession)
    (command : ServerPlaylistIndexCommand) : Prop :=
  command.precondition.guard = none ∧ s.roomUsesPlaybackLifecycleAuthority session.room = false ∧
    (s.roomPlaylistState session.room).index ≠ command.index

/-- What an accepted index does once the playlist is stored. -/
theorem acceptPlaylistIndex_follows (hs : Seats s) (session : ServerSession)
    (command : ServerPlaylistIndexCommand) :
    Relation.ReflTransGen (Steps (followUpLabel session.room (s.selectsPlainly session command)))
      (s.acceptPlaylist session.room
        { s.roomPlaylistState session.room with index := command.index }
        command.precondition.guard).ideal
      (after (acceptPlaylistIndex session command) s).ideal := by
  unfold acceptPlaylistIndex
  rw [after_get_bind]
  extract_lets stored room now playlist selectionChanged guarded lifecycleAuthority resetTransport
  rw [after_modify_bind]
  set changed : RoomPlaylistState := { playlist with index := command.index }
  have hchanged := s.quiet_acceptPlaylist room changed command.precondition.guard
  have haccepted : Seats (s.acceptPlaylist room changed command.precondition.guard) :=
    hs.quiet hchanged
  generalize s.acceptPlaylist room changed command.precondition.guard = accepted
    at hchanged haccepted ⊢
  set advanced := if selectionChanged || lifecycleAuthority then
    accepted.advanceParticipantStatusMediaGeneration room none else accepted
  have hquiet : Quiet accepted advanced := accepted.quiet_advanceMediaGenerationWhen room _
  have hsame : advanced.ideal = accepted.ideal := by
    unfold advanced
    split
    · exact ideal_advanceParticipantStatusMediaGeneration accepted room none
    · rfl
  have hsessions : advanced.sessions = s.sessions :=
    hquiet.same.sessions.trans hchanged.same.sessions
  apply follows_quiet_bind hsame
  apply follows_bind
  · apply follows_when
    intro _
    exact (resetRoomTransport_refines (haccepted.quiet hquiet) room session.username now).weaken
      followUp_of_select
  · intro reset t hrun
    apply follows_bind
    · apply follows_when
      intro howns
      -- the pause is only claimed where nothing was reset
      simp only [Bool.and_eq_true, Bool.not_eq_true', resetTransport, guarded,
        Bool.or_eq_false_iff] at howns
      obtain ⟨⟨hunguarded, hauthority⟩, hselected⟩ := howns
      rw [show resetTransport = false by simp [resetTransport, guarded, hunguarded, hauthority]]
        at hrun
      obtain ⟨-, rfl⟩ := Prod.mk.inj hrun
      have hplain : command.precondition.guard = none := by
        rw [hselected, Bool.true_and] at hunguarded
        simpa using hunguarded
      have hother : playlist.index ≠ command.index := by simpa [selectionChanged] using hselected
      apply ownPauseForSelection_refines advanced room ⟨hplain, hauthority, hother⟩
      unfold roomUsesPlaybackLifecycleAuthority
      rw [hsessions]
      exact hauthority
    · intro owned u _
      apply follows_quiet_bind (ideal_persistRoomIfNeeded u room)
      apply follows_get_bind
      apply follows_bind (forcedStateFanout_refines _ _ _ _ _ _)
      intro states v _
      exact follows_pure _ _

theorem acceptPlaylistIndex_refines (hs : Seats s) (session : ServerSession)
    (command : ServerPlaylistIndexCommand)
    (hmatches : ServerRuntime.playlistPreconditionMatches (s.roomPlaylistState session.room)
      command.precondition = true) :
    Refines (indexLabel session.room (s.selectsPlainly session command)) s
      (acceptPlaylistIndex session command) := by
  have hguard : ∀ index epoch, command.precondition.guard = some (index, epoch) →
      (s.roomPlaylistState session.room).index = some index
        ∧ (s.roomPlaylistState session.room).epoch = epoch := by
    intro index epoch hguard
    cases hprecondition : command.precondition with
    | expected index' epoch' =>
      rw [hprecondition] at hguard hmatches
      cases hguard
      unfold ServerRuntime.playlistPreconditionMatches at hmatches
      simpa using hmatches
    | unconditional =>
      rw [hprecondition] at hguard
      cases hguard
    | invalid =>
      rw [hprecondition] at hguard
      cases hguard
  have hepoch : ({ s.roomPlaylistState session.room with index := command.index } :
      RoomPlaylistState).epoch = (s.roomPlaylistState session.room).epoch := rfl
  have haccepted := acceptPlaylist_steps s session.room hepoch hguard
  apply (Relation.ReflTransGen.mono (Steps.mono index_of_playlist) _ _ haccepted).trans
  exact Relation.ReflTransGen.mono (Steps.mono index_of_followUp) _ _
    (acceptPlaylistIndex_follows hs session command)

theorem acceptsPlaylistIndex_ensureRoomState (s : ServerRuntime) (session : ServerSession)
    (command : ServerPlaylistIndexCommand) :
    (s.ensureRoomState session.room).acceptsPlaylistIndex session command =
      s.acceptsPlaylistIndex session command := by
  unfold ServerRuntime.acceptsPlaylistIndex ServerRuntime.userCanControlPlaylist
  rw [ServerRuntime.userIsRoomController_ensureRoomState,
    ServerRuntime.roomPlaylistState_ensureRoomState]
  rfl

theorem selectsPlainly_ensureRoomState (s : ServerRuntime) (session : ServerSession)
    (command : ServerPlaylistIndexCommand) :
    (s.ensureRoomState session.room).selectsPlainly session command =
      s.selectsPlainly session command := by
  unfold ServerRuntime.selectsPlainly
  rw [ServerRuntime.roomPlaylistState_ensureRoomState]
  rfl

theorem setPlaylistIndex_refines (hs : Seats s) (session : ServerSession)
    (command : ServerPlaylistIndexCommand) :
    Refines (indexLabel session.room (s.acceptsPlaylistIndex session command = true ∧
        s.selectsPlainly session command)) s
      (setPlaylistIndex clientId session command) := by
  unfold setPlaylistIndex
  apply follows_quiet_bind (ideal_ensureRoomState s session.room)
  apply follows_get_bind
  dsimp only
  split
  · exact follows_pure _ _
  · split
    · next haccepts =>
      have hmatches := (Bool.and_eq_true _ _ ▸ haccepts).2
      have haccepted := acceptPlaylistIndex_refines
        (hs.quiet (s.quiet_ensureRoomState session.room)) session command hmatches
      rw [selectsPlainly_ensureRoomState] at haccepted
      apply haccepted.weaken
      intro l hl
      -- the claim of the pause is an accepted one
      cases l with
      | selectOwner r =>
        refine ⟨hl.1, ?_, hl.2⟩
        rw [← acceptsPlaylistIndex_ensureRoomState]
        exact haccepts
      | _ => exact hl
    · exact follows_pure _ _

end Sorotte.Server
