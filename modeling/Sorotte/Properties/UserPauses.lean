import Sorotte.Properties.CoordinatedStarts
import Sorotte.Refinement.Restricted

/-! # Pauses of users

  What a user paused stays paused, whatever the other clients report, whoever
  joins or leaves and whatever is prepared meanwhile: only an accepted Play or
  Ready, or an un-pausing State that the server may take at its word, lets the
  room go on.  And nobody owns the pause of a room that plays.
-/

namespace Sorotte.Server

open Sorotte.Ideal

variable {s t : ServerRuntime} {room : String} {users : String → Prop}

/-- The room is paused, and its coordinator says that a user did it. -/
def ServerRuntime.heldByUser (s : ServerRuntime) (room : String) : Bool :=
  (s.roomPlaybackState room).paused && s.roomReadiness[room]?.any (·.pauseOwner.isUser)

theorem heldByUser_iff : s.heldByUser room = true ↔ UserHeld (fun _ => True) s.ideal room := by
  have hgate : s.ideal.gate room = s.roomReadiness[room]?.map RoomReadinessCoordinator.ideal := rfl
  rw [UserHeld, hgate, ServerRuntime.heldByUser, Bool.and_eq_true, Option.any_eq_true]
  constructor
  · rintro ⟨hpaused, coordinator, hcoordinator, huser⟩
    exact ⟨hpaused, coordinator.ideal, by rw [hcoordinator, Option.map_some], huser, trivial⟩
  · rintro ⟨hpaused, g, hg, huser, -⟩
    obtain ⟨coordinator, hcoordinator, rfl⟩ := Option.map_eq_some_iff.mp hg
    exact ⟨hpaused, coordinator, hcoordinator, huser⟩

/-- The room is paused, and one of these users owns the pause. -/
def ServerRuntime.HeldBy (s : ServerRuntime) (room : String) (users : String → Prop) : Prop :=
  (s.roomPlaybackState room).paused = true ∧ ∃ coordinator actor,
    s.roomReadiness[room]? = some coordinator ∧ coordinator.pauseOwner = .user actor ∧ users actor

theorem heldBy_iff : s.HeldBy room users ↔ UserHeld (ownedBy users) s.ideal room := by
  have hgate : s.ideal.gate room = s.roomReadiness[room]?.map RoomReadinessCoordinator.ideal := rfl
  rw [UserHeld, hgate]
  constructor
  · rintro ⟨hpaused, coordinator, actor, hcoordinator, howner, huser⟩
    have hactor : coordinator.ideal.pauseOwner = .user actor := howner
    refine ⟨hpaused, coordinator.ideal, by rw [hcoordinator, Option.map_some], ?_, actor, hactor,
      huser⟩
    rw [hactor]
    rfl
  · rintro ⟨hpaused, g, hg, -, actor, howner, huser⟩
    obtain ⟨coordinator, hcoordinator, rfl⟩ := Option.map_eq_some_iff.mp hg
    exact ⟨hpaused, coordinator, actor, hcoordinator, howner, huser⟩

/-- **A user's pause holds**: in a run in which nobody in the room plays it, a room that a user
    paused is still paused by a user, unless its coordinator was removed on the way. -/
theorem user_pause_holds (h : Reachable s) (hheld : s.heldByUser room = true)
    (hrun : RunOf (Action.spares room) s t) :
    ∃ newer, t.history = newer ++ s.history ∧
      (.coordinatorRemoved room ∉ newer → t.heldByUser room = true) := by
  have hsteps := (sparing_labels room).steps h hrun
  obtain ⟨-, newer, hhistory, hstill⟩ := userHeld_of_steps hsteps (fun l hl => hl)
    h.ideal.gatesSound (heldByUser_iff.mp hheld)
  exact ⟨newer, hhistory, fun hkept => heldByUser_iff.mpr (hstill hkept)⟩

/-- **A user's pause stays with its users**: in a run in which nobody in the room plays it and only
    these users have an accepted Pause there, a room that one of them holds paused is still held by
    one of them, unless its coordinator was removed on the way. -/
theorem pause_stays_with_users (h : Reachable s) (hheld : s.HeldBy room users)
    (hrun : RunOf (fun action s => action.spares room s ∧ action.pausesOnlyBy room users s) s t) :
    ∃ newer, t.history = newer ++ s.history ∧
      (.coordinatorRemoved room ∉ newer → t.HeldBy room users) := by
  have hsteps := (yielding_labels room users).steps h hrun
  obtain ⟨-, newer, hhistory, hstill⟩ := userHeld_of_steps hsteps (fun l hl => hl)
    h.ideal.gatesSound (heldBy_iff.mp hheld)
  exact ⟨newer, hhistory, fun hkept => heldBy_iff.mpr (hstill hkept)⟩

/-! ### alice pauses the film -/

def alicePauses : Action :=
  .state "c1" {
    serverIgnoring := some 2
    playstate := some { position := some (.finite 6), paused := some true } } 0

def aliceMeansToPause : Action :=
  .setCommand "c1" "" (.readiness (some {
    operationId := "pause", requestNonce := 2, membershipEpoch := 1, desired := .notReady
    source := .indirectPlayer .pause .nativePlayerControl, targetUsername := none
    expectedUserIntentRevision := none })) none

def alicePreparesSequel : Action :=
  .setCommand "c1" "" (.playbackBarrier {
    prepare := some {
      mediaGeneration := 0, requestNonce := 2, requestId := some "r2", loadIntent := .newPlayback
      logicalMediaId := "sequel", targetPosition := .finite 0, policy := .allEligible
      quorum := none, quorumPercent := none, timeoutMs := none, timeoutAction := none } }) none

def pausedFilm : ServerRuntime := aliceMeansToPause.next {} (alicePauses.next {} completedFilm)

/-- She prepares the sequel while the film is paused. -/
def preparedSequel : ServerRuntime := alicePreparesSequel.next {} pausedFilm

def Event.removesCoordinator : Event → Bool
  | .coordinatorRemoved _ => true
  | _ => false

theorem sequel_readings :
    (completedFilm.clock.le {} ∧ (alicePauses.next {} completedFilm).clock.le {} ∧
      pausedFilm.clock.le {}) ∧
    pausedFilm.heldByUser "movies" = true ∧
    startReadings preparedSequel "movies" = some (2, .preparing, false) ∧
    (∀ event ∈ preparedSequel.history, event.removesCoordinator = false) ∧
    (preparedSequel.roomReadiness["movies"]?.map fun room =>
      (room.mediaGeneration, room.pauseOwner)) = some (some 2, .user "alice") := by
  decide +kernel

theorem pausedFilm_run : Relation.ReflTransGen Step preparedFilm pausedFilm :=
  have ⟨⟨hcompleted, hpausing, _⟩, _⟩ := sequel_readings
  (completedFilm_run.tail (.act _ _ {} hcompleted)).tail (.act _ _ {} hpausing)

theorem sequel_keeps_coordinator {newer : List Event}
    (h : preparedSequel.history = newer ++ pausedFilm.history) :
    .coordinatorRemoved "movies" ∉ newer := by
  have ⟨_, _, _, hkept, _⟩ := sequel_readings
  intro hmem
  have hremoves := hkept (.coordinatorRemoved "movies") (by
    rw [h]
    exact List.mem_append_left _ hmem)
  cases hremoves

/-- The start of the sequel waits for alice, who paused. -/
theorem user_pause_holds_sequel : preparedSequel.heldByUser "movies" = true := by
  have ⟨⟨_, _, hpaused⟩, hheld, _⟩ := sequel_readings
  have hrun : RunOf (Action.spares "movies") pausedFilm preparedSequel :=
    .step alicePreparesSequel {} (.refl pausedFilm) hpaused trivial
  obtain ⟨newer, hhistory, hstill⟩ :=
    user_pause_holds (preparedFilm_reachable.run pausedFilm_run) hheld hrun
  exact hstill (sequel_keeps_coordinator hhistory)

/-! ### bob pauses the film as well -/

def bobJoins : Action :=
  .hello "c2" { username := "bob", room := "movies", version := "1.7.0", capabilities := {
    playbackBarrierV1 := true, readinessV2 := true } } true "token2"

def bobMeansToPause : Action :=
  .setCommand "c2" "" (.readiness (some {
    operationId := "pause", requestNonce := 1, membershipEpoch := 2, desired := .notReady
    source := .indirectPlayer .pause .nativePlayerControl, targetUsername := none
    expectedUserIntentRevision := none })) none

/-- bob comes to the film that alice paused. -/
def sharedFilm : ServerRuntime := bobJoins.next {} pausedFilm

def ServerRuntime.pausedOwner (s : ServerRuntime) (room : String) : Option (Bool × RoomPauseOwner) :=
  s.roomReadiness[room]?.map fun coordinator =>
    ((s.roomPlaybackState room).paused, coordinator.pauseOwner)

theorem heldBy_of_pausedOwner {actor : String}
    (h : s.pausedOwner room = some (true, .user actor)) : s.HeldBy room (· = actor) := by
  obtain ⟨coordinator, hcoordinator, hread⟩ := Option.map_eq_some_iff.mp h
  obtain ⟨hpaused, howner⟩ := Prod.mk.inj hread
  exact ⟨hpaused, coordinator, actor, hcoordinator, howner, rfl⟩

theorem shared_readings :
    (pausedFilm.clock.le {} ∧ sharedFilm.clock.le {}) ∧
    pausedFilm.pausedOwner "movies" = some (true, .user "alice") ∧
    sharedFilm.pausedOwner "movies" = some (true, .user "alice") ∧
    (bobMeansToPause.next {} sharedFilm).pausedOwner "movies" = some (true, .user "bob") ∧
    ∀ event ∈ (bobMeansToPause.next {} sharedFilm).history, event.removesCoordinator = false := by
  decide +kernel

/-- The sequel that alice prepares is still hers to un-pause. -/
theorem pause_stays_with_users_sequel : preparedSequel.HeldBy "movies" (· = "alice") := by
  have ⟨⟨_, _, hpaused⟩, _⟩ := sequel_readings
  have ⟨_, hheld, _⟩ := shared_readings
  have hrun : RunOf (fun action s => action.spares "movies" s ∧
      action.pausesOnlyBy "movies" (· = "alice") s) pausedFilm preparedSequel :=
    .step alicePreparesSequel {} (.refl pausedFilm) hpaused ⟨trivial, trivial⟩
  obtain ⟨newer, hhistory, hstill⟩ := pause_stays_with_users
    (preparedFilm_reachable.run pausedFilm_run) (heldBy_of_pausedOwner hheld) hrun
  exact hstill (sequel_keeps_coordinator hhistory)

/-- bob's Pause makes the pause his, though nobody played the room. -/
theorem pause_taken_over : ¬ ∀ s t, Reachable s → RunOf (Action.spares "movies") s t →
    s.HeldBy "movies" (· = "alice") → .coordinatorRemoved "movies" ∉ t.history →
    t.HeldBy "movies" (· = "alice") := by
  have ⟨⟨hpaused, hshared⟩, _, hheld, htaken, hkept⟩ := shared_readings
  have hreached : Reachable sharedFilm :=
    preparedFilm_reachable.run (pausedFilm_run.tail (.act _ _ {} hpaused))
  have hrun : RunOf (Action.spares "movies") sharedFilm (bobMeansToPause.next {} sharedFilm) :=
    .step bobMeansToPause {} (.refl _) hshared fun _ _ _ _ => ⟨by decide, by decide⟩
  intro hall
  obtain ⟨-, coordinator, actor, hcoordinator, howner, rfl⟩ :=
    hall _ _ hreached hrun (heldBy_of_pausedOwner hheld) fun hmem => nomatch hkept _ hmem
  rw [ServerRuntime.pausedOwner, hcoordinator, Option.map_some, howner] at htaken
  simp at htaken

/-! ### Owned rooms are paused -/

/-- **Whoever owns a pause, the room is paused**: in a run without a plain selection in a room that
    leaves its playback lifecycle alone, a room whose coordinator names an owner is paused. -/
theorem owned_room_is_paused (h : ReachableUnder Action.claimsPaused s)
    {coordinator : RoomReadinessCoordinator} (hroom : s.roomReadiness[room]? = some coordinator)
    (howner : coordinator.pauseOwner ≠ .none) : (s.roomPlaybackState room).paused = true := by
  have hsound : OwnersSound (fun _ owner => owner ≠ .none) s.ideal := claiming_labels.invariant
    (fun _ hinitial => hinitial.ownersSound)
    (fun _ _ hl hguard hheld => hheld.step (fun _ hnone => hnone rfl) hguard
      (Label.claimsPaused_of_uncounted fun r hr => absurd hr (hl r))) h
  apply hsound.owned room coordinator.ideal _ howner
  show s.roomReadiness[room]?.map _ = _
  rw [hroom, Option.map_some]

/-- Everything alice did. -/
def sequelActions : List Action :=
  [aliceJoins, alicePrepares, aliceIsReady, aliceIsPlayable, aliceHasLoaded, aliceHasStarted,
    alicePauses, aliceMeansToPause, alicePreparesSequel]

theorem sequel_under {ok : Action → ServerRuntime → Prop}
    (hok : ∀ action ∈ sequelActions, ∀ s, ok action s) : ReachableUnder ok preparedSequel := by
  have ⟨⟨hempty, hjoined, hprepared, hready, hplayable, hcommitted⟩, _⟩ := film_readings
  have ⟨⟨hcompleted, hpausing, hpaused⟩, _⟩ := sequel_readings
  simp only [sequelActions, List.forall_mem_cons] at hok
  obtain ⟨h₁, h₂, h₃, h₄, h₅, h₆, h₇, h₈, h₉, -⟩ := hok
  have hfilm : RunOf ok emptyServer preparedFilm :=
    .step alicePrepares {} (.step aliceJoins {} (.refl _) hempty (h₁ _)) hjoined (h₂ _)
  have hplayed : RunOf ok emptyServer playableFilm :=
    .step aliceIsPlayable {} (.step aliceIsReady {} hfilm hprepared (h₃ _)) hready (h₄ _)
  have hcomplete : RunOf ok emptyServer completedFilm :=
    .step aliceHasStarted {} (.step aliceHasLoaded {} hplayed hplayable (h₅ _)) hcommitted (h₆ _)
  have hheld : RunOf ok emptyServer pausedFilm :=
    .step aliceMeansToPause {} (.step alicePauses {} hcomplete hcompleted (h₇ _)) hpausing (h₈ _)
  exact ⟨emptyServer, emptyServer_initial, .step alicePreparesSequel {} hheld hpaused (h₉ _)⟩

theorem owned_room_is_paused_sequel :
    (preparedSequel.roomPlaybackState "movies").paused = true := by
  have ⟨_, _, _, _, howner⟩ := sequel_readings
  obtain ⟨coordinator, hcoordinator, hread⟩ := Option.map_eq_some_iff.mp howner
  have huser : coordinator.pauseOwner = .user "alice" := (Prod.mk.inj hread).2
  have hreached : ReachableUnder Action.claimsPaused preparedSequel := by
    apply sequel_under
    simp only [sequelActions, List.forall_mem_cons]
    exact ⟨fun _ => trivial, fun _ => trivial, fun _ => trivial, fun _ => trivial,
      fun _ => trivial, fun _ => trivial, fun _ => trivial, fun _ => trivial, fun _ => trivial,
      by simp⟩
  apply owned_room_is_paused hreached hcoordinator
  rw [huser]
  exact RoomPauseOwner.noConfusion

/-! ### Owners of a room that plays -/

/-- Whoever owns the room's pause, the room is paused. -/
def ServerRuntime.OwnerPauses (s : ServerRuntime) (room : String) : Prop :=
  ∀ coordinator, s.roomReadiness[room]? = some coordinator → coordinator.pauseOwner ≠ .none →
    (s.roomPlaybackState room).paused = true

/-- No accepted selection claims this room's pause ahead of its players: none selects another
    entry without a guard where a coordinator and no start is known, unless the room is paused. -/
def Action.selectsPaused (room : String) : Action → ServerRuntime → Prop
  | .setCommand clientId _ (.playlistIndex command) _, s => ∀ session,
      s.sessions[clientId]? = some session → session.room = room →
      s.acceptsPlaylistIndex session command = true → s.selectsPlainly session command →
      s.roomReadiness.contains room = true → (s.roomPlaybackState room).paused = true
  | _, _ => True

/-- The owners of this room all count; of other rooms, those that are never claimed ahead. -/
def ownsPause (room r : String) (owner : RoomPauseOwner) : Prop :=
  owner ≠ .none ∧ (owner = .endOfPlaylist → r = room)

theorem not_ownsPause_none (room r : String) : ¬ ownsPause room r .none := fun h => h.1 rfl

/-- A plain selection leaves a paused room paused, and makes no coordinator. -/
theorem idle_of_index {x : State} {l : Label} {plain : Prop}
    (h : x.paused room = true ∨ x.gate room = none) (hl : indexLabel room plain l) :
    (effect x l).paused room = true ∨ (effect x l).gate room = none := by
  cases l with
  | select r =>
    obtain rfl : r = room := hl
    exact .inl (State.setTransport_paused_self ..)
  | selectOwner r =>
    obtain ⟨rfl, -⟩ := hl
    apply h.imp id
    intro hgone
    show (x.setGate r _).gate r = none
    rw [State.setGate_self, hgone]
    rfl
  | playlist | settle | relax => exact h
  | _ => exact hl.elim

/-- One action that claims no pause ahead. -/
theorem ownsPause_of_action {action : Action} {x : State} (hok : action.selectsPaused room s)
    (h : OwnersSound (ownsPause room) s.ideal)
    (hsteps : Relation.ReflTransGen (Steps (actionLabel s action)) s.ideal x) :
    OwnersSound (ownsPause room) x := by
  by_cases hclaims : actionLabel s action (.selectOwner room)
  · -- the selection finds a room that is paused, or has no coordinator to name an owner
    obtain ⟨clientId, token, command, next, session, rfl, hsession, rfl, haccepts, hplain⟩ :=
      selection_of_claim hclaims
    have hidle : s.ideal.paused session.room = true ∨ s.ideal.gate session.room = none := by
      by_cases hroom : s.roomReadiness.contains session.room = true
      · exact .inl (hok session hsession rfl haccepts hplain hroom)
      · right
        show s.roomReadiness[session.room]?.map _ = none
        rw [Std.ExtTreeMap.getElem?_eq_none_of_contains_eq_false (Bool.eq_false_iff.mpr hroom)]
        rfl
    suffices hboth : OwnersSound (ownsPause session.room) x ∧
        (x.paused session.room = true ∨ x.gate session.room = none) from hboth.1
    induction hsteps with
    | refl => exact ⟨h, hidle⟩
    | tail _ hlast ih =>
      obtain ⟨l, hl, hguard, rfl⟩ := hlast
      obtain ⟨hsound, hidle⟩ := ih
      obtain ⟨sent, hsent, hl⟩ := hl
      obtain rfl := Option.some.inj (hsession.symm.trans hsent)
      refine ⟨hsound.step (not_ownsPause_none _) hguard ?_, idle_of_index hidle hl⟩
      cases l with
      | selectOwner r =>
        obtain ⟨rfl, -⟩ := hl
        exact fun _ => hidle
      | _ => trivial
  · induction hsteps with
    | refl => exact h
    | tail _ hlast ih =>
      obtain ⟨l, hl, hguard, rfl⟩ := hlast
      apply ih.step (not_ownsPause_none room) hguard
      apply Label.claimsPaused_of_uncounted
      rintro r rfl ⟨-, hcounts⟩
      rw [hcounts rfl] at hl
      exact hclaims hl

/-- **Who owns a pause**: the room is paused, unless an end of playlist was claimed ahead of its
    players' own pause; and without such a claim, from any state in which owners pause this room,
    they go on doing so. -/
theorem owner_pauses (h : Reachable s) :
    (∀ coordinator, s.roomReadiness[room]? = some coordinator → coordinator.pauseOwner ≠ .none →
      coordinator.pauseOwner ≠ .endOfPlaylist → (s.roomPlaybackState room).paused = true) ∧
    (s.OwnerPauses room → ∀ t, RunOf (Action.selectsPaused room) s t → t.OwnerPauses room) := by
  have hread : ∀ (s : ServerRuntime) room coordinator, s.roomReadiness[room]? = some coordinator →
      s.ideal.gate room = some coordinator.ideal := by
    intro s room coordinator hroom
    show s.roomReadiness[room]?.map _ = _
    rw [hroom, Option.map_some]
  have hsound : OwnersSound (fun _ owner => owner ≠ .none ∧ owner ≠ .endOfPlaylist) s.ideal :=
    h.ideal_invariant (fun _ hinitial => hinitial.ownersSound) fun _ _ hguard hheld =>
      hheld.step (fun _ hnone => hnone.1 rfl) hguard
        (Label.claimsPaused_of_uncounted fun _ _ hcounts => hcounts.2 rfl)
  constructor
  · intro coordinator hroom howner hended
    exact hsound.owned room coordinator.ideal (hread s room _ hroom) ⟨howner, hended⟩
  · intro hpauses t hrun
    have howned : OwnersSound (ownsPause room) s.ideal := by
      refine ⟨hsound.gates, hsound.freezes, ?_⟩
      rintro r g hg ⟨howner, hcounts⟩
      by_cases hended : g.pauseOwner = .endOfPlaylist
      · obtain rfl := hcounts hended
        obtain ⟨coordinator, hcoordinator, rfl⟩ := Option.map_eq_some_iff.mp hg
        exact hpauses coordinator hcoordinator howner
      · exact hsound.owned r g hg ⟨howner, hended⟩
    have hlater := hrun.invariant h
      (fun _ _ hguard hheld => hheld.step (not_ownsPause_none room) hguard trivial)
      (fun _ _ _ hok hheld hsteps => ownsPause_of_action hok hheld hsteps) howned
    intro coordinator hroom howner
    exact hlater.owned room coordinator.ideal (hread t room _ hroom) ⟨howner, fun _ => rfl⟩

theorem owner_pauses_sequel : preparedSequel.OwnerPauses "movies" := by
  have ⟨⟨_, _, hpaused⟩, hheld, _⟩ := sequel_readings
  have hrun : RunOf (Action.selectsPaused "movies") pausedFilm preparedSequel :=
    .step alicePreparesSequel {} (.refl pausedFilm) hpaused trivial
  apply (owner_pauses (preparedFilm_reachable.run pausedFilm_run)).2 _ preparedSequel hrun
  intro coordinator _ _
  exact (Bool.and_eq_true _ _ ▸ hheld).1

/-! ### The pause that is claimed ahead -/

def aliceLeavesStarts : Action := .setCommand "c1" "" (.features { readinessV2 := true }) none

def aliceQueues : Action := .setCommand "c1" "" (.playlistChange ["film", "sequel"]) none

def aliceSelectsSequel : Action :=
  .setCommand "c1" "" (.playlistIndex { index := some 1, precondition := .unconditional }) none

/-- The film plays on, and nobody in the room knows starts any more. -/
def queuedFilm : ServerRuntime := aliceQueues.next {} (aliceLeavesStarts.next {} completedFilm)

theorem selected_readings :
    ((aliceLeavesStarts.next {} completedFilm).clock.le {} ∧ queuedFilm.clock.le {} ∧
      completedFilm.clock.le {}) ∧
    ((aliceSelectsSequel.next {} queuedFilm).roomPlaybackState "movies").paused = false ∧
    ((aliceSelectsSequel.next {} queuedFilm).roomReadiness["movies"]?.map (·.pauseOwner)) =
      some .endOfPlaylist := by
  decide +kernel

/-- The selection names the owner of a pause that its players have yet to make. -/
theorem pause_claimed_ahead : ¬ ∀ s, Reachable s → ∀ room, s.OwnerPauses room := by
  have ⟨⟨hleft, hqueued, hcompleted⟩, hplays, howner⟩ := selected_readings
  have hreached : Reachable (aliceSelectsSequel.next {} queuedFilm) :=
    preparedFilm_reachable.run (((completedFilm_run.tail (.act _ _ {} hcompleted)).tail
      (.act _ _ {} hleft)).tail (.act _ _ {} hqueued))
  intro hall
  obtain ⟨coordinator, hcoordinator, hended⟩ := Option.map_eq_some_iff.mp howner
  have hpaused := hall _ hreached "movies" coordinator hcoordinator (by simp [hended])
  rw [hplays] at hpaused
  cases hpaused

end Sorotte.Server
