import Sorotte.Ideal.Epochs
import Sorotte.Ideal.Replays
import Sorotte.Properties.UserPauses

/-! # Histories of rooms

  What the history of a whole run says: an identity starts playback once, a guard
  lets one mutation of a playlist through, authority over a room belongs to
  whoever presented its password and is still there, and the generations of a
  start, its coordinator and its policy are one.
-/

namespace Sorotte.Server

open Sorotte.Framework Sorotte.Ideal

variable {s t : ServerRuntime} {room username requestId : String}

/-! ### alice comes back -/

/-- alice leaves, and her room with her. -/
def aliceLeaves : Action := .disconnect "c1"

/-- She comes back and prepares the same film under the same identity. -/
def repreparedFilm : ServerRuntime :=
  alicePrepares.next {} (aliceJoins.next {} (aliceLeaves.next {} preparedFilm))

/-- The start that an event records: its room, its identity, its generation and its time. -/
def Event.started : Event → Option (String × Option String × Nat × Seconds)
  | .prepareAccepted room requestId mediaGeneration at_ =>
      some (room, requestId, mediaGeneration, at_)
  | _ => none

theorem event_of_started {i mediaGeneration : Nat} {id : Option String} {at_ : Seconds}
    (h : s.history[i]?.bind Event.started = some (room, id, mediaGeneration, at_)) :
    s.history[i]? = some (.prepareAccepted room id mediaGeneration at_) := by
  obtain ⟨event, hevent, hstarted⟩ := Option.bind_eq_some_iff.mp h
  rw [hevent]
  cases event with
  | prepareAccepted r id' generation at' =>
    simp only [Event.started, Option.some.injEq, Prod.mk.injEq] at hstarted
    obtain ⟨rfl, rfl, rfl, rfl⟩ := hstarted
    rfl
  | _ => cases hstarted

/-! ### alice directs a studio -/

/-- A controlled room. -/
def studio : String := "+room1:CB39A19549E8"

def aliceJoinsStudio : Action :=
  .hello "c1" { username := "alice", room := studio, version := "1.7.0", capabilities := {} } true
    "token"

def aliceAuthenticates : Action := .setCommand "c1" "" (.controllerAuth none "AB-123-456") none

def aliceListsFilms : Action := .setCommand "c1" "" (.playlistChange ["film", "sequel"]) none

def aliceSelectsFilm : Action :=
  .setCommand "c1" "" (.playlistIndex { index := some 0, precondition := .unconditional }) none

/-- She moves on from the film, if nobody did so before. -/
def aliceMovesOn : Action :=
  .setCommand "c1" "" (.playlistIndex { index := some 1, precondition := .expected 0 2 }) none

def directedStudio : ServerRuntime :=
  aliceAuthenticates.next {} (aliceJoinsStudio.next {} emptyServer)

def selectedFilm : ServerRuntime := aliceSelectsFilm.next {} (aliceListsFilms.next {} directedStudio)

/-- She moves on twice. -/
def selectedSequel : ServerRuntime := aliceMovesOn.next {} (aliceMovesOn.next {} selectedFilm)

def Event.discardsRoom : Event → Bool
  | .roomDiscarded _ => true
  | _ => false

theorem history_readings :
    ((preparedFilm.clock.le {} ∧ (aliceLeaves.next {} preparedFilm).clock.le {} ∧
      (aliceJoins.next {} (aliceLeaves.next {} preparedFilm)).clock.le {}) ∧
      repreparedFilm.history[0]?.bind Event.started = some ("movies", some "r1", 2, 0) ∧
      repreparedFilm.history[4]?.bind Event.started = some ("movies", some "r1", 1, 0)) ∧
    ((emptyServer.clock.le {} ∧ (aliceJoinsStudio.next {} emptyServer).clock.le {} ∧
      directedStudio.clock.le {} ∧ (aliceListsFilms.next {} directedStudio).clock.le {} ∧
      selectedFilm.clock.le {} ∧ (aliceMovesOn.next {} selectedFilm).clock.le {}) ∧
      directedStudio.roomPasswordProvider.isControlledRoomName studio = true ∧
      directedStudio.userCanControlPlaylist "alice" studio = true ∧
      (∀ event ∈ selectedSequel.history, event.discardsRoom = false) ∧
      mutations studio selectedSequel.history = [(2, some (0, 2)), (1, none), (0, none)] ∧
      (selectedSequel.roomPlaylistState studio).epoch = 3) := by
  decide +kernel

/-! ### Request identities -/

/-- **An identity starts playback once**: between two starts that took the same identity, the room
    was discarded, or the identity had been displaced and its retention was over. -/
theorem identity_starts_once {i j later earlier : Nat} {at_ before : Seconds} (h : Reachable s)
    (hij : i < j)
    (hlater : s.history[i]? = some (.prepareAccepted room (some requestId) later at_))
    (hearlier : s.history[j]? = some (.prepareAccepted room (some requestId) earlier before)) :
    ∃ k, i < k ∧ k < j ∧ (s.history[k]? = some (.roomDiscarded room) ∨ ∃ since,
      s.history[k]? = some (.requestDisplaced room requestId since) ∧
        since + s.playbackBarrierRequestTombstonePolicy.ttlSeconds ≤ at_) := by
  obtain ⟨newest, middle, oldest, hhistory, hmiddle⟩ := split_of_getElem? hlater hearlier hij
  rcases h.ideal.requests_start_once hhistory with hdiscarded | ⟨since, hdisplaced, hover⟩
  · obtain ⟨k, hik, hkj, hk⟩ := hmiddle _ hdiscarded
    exact ⟨k, hik, hkj, .inl hk⟩
  · obtain ⟨k, hik, hkj, hk⟩ := hmiddle _ hdisplaced
    exact ⟨k, hik, hkj, .inr ⟨since, hk, hover⟩⟩

theorem repreparedFilm_reachable : Reachable repreparedFilm :=
  have ⟨⟨⟨hprepared, hleft, hjoined⟩, _⟩, _⟩ := history_readings
  preparedFilm_reachable.run
    (.tail (.tail (.single (.act _ _ {} hprepared)) (.act _ _ {} hleft)) (.act _ _ {} hjoined))

theorem identity_starts_once_film : ∃ k, 0 < k ∧ k < 4 ∧
    (repreparedFilm.history[k]? = some (.roomDiscarded "movies") ∨ ∃ since,
      repreparedFilm.history[k]? = some (.requestDisplaced "movies" "r1" since) ∧
        since + repreparedFilm.playbackBarrierRequestTombstonePolicy.ttlSeconds ≤ 0) :=
  have ⟨⟨_, hagain, hfirst⟩, _⟩ := history_readings
  identity_starts_once repreparedFilm_reachable (by decide) (event_of_started hagain)
    (event_of_started hfirst)

/-! ### Playlists -/

/-- **Playlists over a run**: while a room is not discarded, the epoch of its playlist counts the
    accepted mutations, a playlist without one is unchanged, and a guard lets at most one
    through. -/
theorem guard_accepted_once (h : Reachable s) (hrun : Relation.ReflTransGen Step s t)
    (room : String) : ∃ newer, t.history = newer ++ s.history ∧ (.roomDiscarded room ∉ newer →
      (t.roomPlaylistState room).epoch =
        (s.roomPlaylistState room).epoch + (mutations room newer).length ∧
      (mutations room newer = [] → t.roomPlaylistState room = s.roomPlaylistState room) ∧
      ∀ index epoch,
        (mutations room newer).countP (fun m => m.2 = some (index, epoch)) ≤ 1) := by
  obtain ⟨newer, hhistory, hcounted⟩ := counted_of_steps (h.ideal_steps hrun) room
  refine ⟨newer, hhistory, fun hkept => ?_⟩
  have hroom := hcounted hkept
  exact ⟨hroom.epoch, hroom.unchanged, count_guard_le_one hroom.orderly⟩

theorem selectedSequel_run : Relation.ReflTransGen Step emptyServer selectedSequel :=
  have ⟨_, ⟨hempty, hjoined, hdirected, hlisted, hselected, hmoved⟩, _⟩ := history_readings
  have hstudio : Relation.ReflTransGen Step emptyServer directedStudio :=
    .tail (.single (.act _ _ {} hempty)) (.act _ _ {} hjoined)
  have hfilm : Relation.ReflTransGen Step emptyServer selectedFilm :=
    .tail (hstudio.tail (.act _ _ {} hdirected)) (.act _ _ {} hlisted)
  .tail (hfilm.tail (.act _ _ {} hselected)) (.act _ _ {} hmoved)

/-- The second time she moved on, the guard was spent. -/
theorem guard_accepted_once_sequel : (selectedSequel.roomPlaylistState studio).epoch =
      (emptyServer.roomPlaylistState studio).epoch +
        (mutations studio selectedSequel.history).length ∧
    (mutations studio selectedSequel.history).countP (fun m => m.2 = some (0, 2)) ≤ 1 := by
  have ⟨_, _, _, _, hkept, _, _⟩ := history_readings
  obtain ⟨newer, hhistory, hcounted⟩ := guard_accepted_once
    ⟨emptyServer, emptyServer_initial, .refl⟩ selectedSequel_run studio
  have hall : selectedSequel.history = newer := by
    rw [hhistory, emptyServer_initial.noHistory, List.append_nil]
  have hroom : .roomDiscarded studio ∉ newer := by
    rw [← hall]
    intro hmem
    cases hkept _ hmem
  obtain ⟨hepoch, -, honce⟩ := hcounted hroom
  rw [hall]
  exact ⟨hepoch, honce 0 2⟩

/-! ### Controllers -/

/-- **Authority is earned**: in a run whose clients authenticate for their own room only, whoever
    can control a controlled room is a session in it that presented its password on this
    connection, and has not left the room since. -/
theorem control_is_earned (h : ReachableUnder Action.authenticatesOwnRoom s)
    (hcontrolled : s.roomPasswordProvider.isControlledRoomName room = true)
    (hcan : s.userCanControlPlaylist username room = true) :
    ∃ clientId session, s.sessions[clientId]? = some session ∧ session.username = username ∧
      session.room = room ∧ ∃ password newer older,
        s.history = newer ++ .controllerAuthenticated clientId room password :: older ∧
        s.roomPasswordProvider.check room password = .ok true ∧
        .sessionEnded clientId ∉ newer ∧ .leftRoom clientId room ∉ newer := by
  have hearned : AuthorityEarned (fun _ r room => r = room) s.ideal := granting_labels.invariant
    (fun _ hinitial => hinitial.authorityEarned) (fun _ _ hl hguard hheld => hheld.step hguard hl) h
  rw [ServerRuntime.userCanControlPlaylist, hcontrolled, Bool.not_true, Bool.false_or] at hcan
  exact hearned room username hcan

theorem control_is_earned_studio : ∃ (clientId : String) (session : ServerSession),
    directedStudio.sessions[clientId]? = some session ∧ session.username = "alice" ∧
      session.room = studio := by
  have ⟨_, ⟨hempty, hjoined, _⟩, hcontrolled, hcan, _⟩ := history_readings
  have hreached : ReachableUnder Action.authenticatesOwnRoom directedStudio :=
    ⟨emptyServer, emptyServer_initial,
      .step aliceAuthenticates {} (.step aliceJoinsStudio {} (.refl _) hempty trivial) hjoined
        trivial⟩
  obtain ⟨clientId, session, hsession, hname, hroom, -⟩ :=
    control_is_earned hreached hcontrolled hcan
  exact ⟨clientId, session, hsession, hname, hroom⟩

/-! ### Inheritance -/

/-- Whoever has the name now presented the room's password on this connection, and has not left the
    room since. -/
def ServerRuntime.Entitled (s : ServerRuntime) (username room : String) : Prop :=
  ∃ clientId session password newer older, s.sessions[clientId]? = some session ∧
    session.username = username ∧
    s.history = newer ++ .controllerAuthenticated clientId room password :: older ∧
    s.roomPasswordProvider.check room password = .ok true ∧
    .sessionEnded clientId ∉ newer ∧ .leftRoom clientId room ∉ newer

/-- The action ends no session whose user controls another room than the session's. -/
def Action.leavesNoAuthority (action : Action) (s : ServerRuntime) : Prop :=
  ∀ clientId session room, action.endsSession s clientId → s.sessions[clientId]? = some session →
    s.userIsRoomController session.username room = true → session.room = room

/-- **Authority is not inherited**: in a run in which no session ends while its user controls
    another room, every controller of a room presented its password, and only those control a
    controlled room. -/
theorem authority_not_inherited (h : ReachableUnder Action.leavesNoAuthority s)
    (room username : String) :
    (s.userIsRoomController username room = true → s.Entitled username room) ∧
    (s.roomPasswordProvider.isControlledRoomName room = true →
      s.userCanControlPlaylist username room = true → s.Entitled username room) := by
  obtain ⟨s₀, hinitial, hrun⟩ := h
  have hearned : AuthorityEarned (fun _ _ _ => True) s.ideal := by
    apply hrun.invariant ⟨s₀, hinitial, .refl⟩ (I := AuthorityEarned fun _ _ _ => True) _ _
      hinitial.ideal.authorityEarned
    · exact fun x now hguard hx => hx.step hguard trivial
    · intro action t x hok ht hsteps
      -- until the action is over, the sessions that it ends count only where they sit
      have hsits : AuthorityEarned (fun c r room => action.endsSession t c → r = room) t.ideal := by
        intro room username hcontroller
        obtain ⟨clientId, session, hsession, rfl, -, hauthenticated⟩ := ht room username hcontroller
        exact ⟨clientId, session, hsession, rfl, fun hends =>
          hok clientId session room hends hsession hcontroller, hauthenticated⟩
      have hafter := invariant_of_steps
        (fun y l hl hguard hy => hy.step hguard (respects_of_label hl)) hsteps hsits
      intro room username hcontroller
      obtain ⟨clientId, session, hsession, hname, -, hrest⟩ := hafter room username hcontroller
      exact ⟨clientId, session, hsession, hname, trivial, hrest⟩
  have hentitled : s.userIsRoomController username room = true → s.Entitled username room := by
    intro hcontroller
    obtain ⟨clientId, session, hsession, hname, -, password, newer, older, hrest⟩ :=
      hearned room username hcontroller
    exact ⟨clientId, session, password, newer, older, hsession, hname, hrest⟩
  refine ⟨hentitled, fun hcontrolled hcan => hentitled ?_⟩
  rwa [ServerRuntime.userCanControlPlaylist, hcontrolled, Bool.not_true, Bool.false_or] at hcan

theorem authority_not_inherited_studio : directedStudio.Entitled "alice" studio := by
  have ⟨_, ⟨hempty, hjoined, _⟩, hcontrolled, hcan, _⟩ := history_readings
  have hreached : ReachableUnder Action.leavesNoAuthority directedStudio := by
    refine ⟨emptyServer, emptyServer_initial,
      .step aliceAuthenticates {} (.step aliceJoinsStudio {} (.refl _) hempty ?_) hjoined
        fun _ _ _ hends => hends.elim⟩
    intro clientId session room _ hsession
    cases hsession
  exact (authority_not_inherited hreached studio "alice").2 hcontrolled hcan

/-- alice authenticates for the studio from elsewhere and leaves; somebody else takes her name. -/
def inheritance : List Action :=
  [joinsMovies "c1" "alice", .setCommand "c1" "" (.controllerAuth (some studio) "AB-123-456") none,
    aliceLeaves, joinsMovies "c2" "alice"]

def Event.authenticates (clientId : String) : Event → Bool
  | .controllerAuthenticated client _ _ => client == clientId
  | _ => false

theorem inheritance_readings : emptyServer.actable inheritance = true ∧
    (emptyServer.acting inheritance).userIsRoomController "alice" studio = true ∧
    (∀ entry ∈ (emptyServer.acting inheritance).sessions.toList, entry.1 = "c2") ∧
    ∀ event ∈ (emptyServer.acting inheritance).history, event.authenticates "c2" = false := by
  decide +kernel

/-- The new alice controls the studio, and presented nothing. -/
theorem authority_inherited : ¬ ∀ s, Reachable s → ∀ room username,
    s.userIsRoomController username room = true → s.Entitled username room := by
  have ⟨hclock, hcontroller, honly, hnone⟩ := inheritance_readings
  intro hall
  obtain ⟨clientId, session, password, newer, older, hsession, -, hhistory, -⟩ := hall _
    (Reachable.acting ⟨emptyServer, emptyServer_initial, .refl⟩ hclock) studio "alice" hcontroller
  obtain rfl := honly (clientId, session) (Std.ExtTreeMap.mem_toList_iff_getElem?_eq_some.mpr hsession)
  have hpresented := hnone (.controllerAuthenticated "c2" studio password) (by simp [hhistory])
  rw [Event.authenticates, beq_self_eq_true] at hpresented
  cases hpresented

/-! ### Generations -/

theorem numbered_generations (h : ReachableUnder Action.serverNumbered s) :
    GenerationsAgree s.ideal ∧ CommitsAgree s.ideal := by
  apply numbered_labels.invariant (I := fun x => GenerationsAgree x ∧ CommitsAgree x) _ _ h
  · intro x hinitial
    refine ⟨hinitial.generationsAgree, fun room snapshot coordinator hmem => ?_⟩
    rw [hinitial.history] at hmem
    cases hmem
  · intro x l hl hguard hheld
    exact ⟨hheld.1.step hguard hl, hheld.2.step hheld.1 hguard⟩

theorem gate_of_coordinator {coordinator : RoomReadinessCoordinator}
    (h : s.roomReadiness[room]? = some coordinator) :
    s.ideal.gate room = some coordinator.ideal := by
  show s.roomReadiness[room]?.map _ = _
  rw [h, Option.map_some]

theorem policy_of_control {control : RoomBufferingControl}
    (h : s.roomBufferingControls[room]? = some control) :
    s.ideal.policy room = some control.ideal := by
  show s.roomBufferingControls[room]?.map _ = _
  rw [h, Option.map_some]

/-- **Generations agree**: while clients leave the numbering to the server, the coordinator and the
    policy of a room with an active start have the generation of the start, and it was allocated. -/
theorem generations_agree (h : ReachableUnder Action.serverNumbered s) {b : RoomPlaybackBarrier}
    (hb : s.roomPlaybackBarriers[room]? = some b)
    (hactive : b.phase = .preparing ∨ b.phase = .committed) :
    1 ≤ b.prepare.mediaGeneration ∧
    b.prepare.mediaGeneration ≤ s.nextPlaybackBarrierGeneration ∧
    (∀ coordinator, s.roomReadiness[room]? = some coordinator →
      coordinator.mediaGeneration = some b.prepare.mediaGeneration) ∧
    ∀ control, s.roomBufferingControls[room]? = some control →
      control.config.mediaGeneration = b.prepare.mediaGeneration ∧
      control.requestedConfig.mediaGeneration = b.prepare.mediaGeneration := by
  have hagree := (numbered_generations h).1
  obtain ⟨hone, hallocated⟩ := (hagree.starts room b hb).allocated
  refine ⟨hone, hallocated, ?_, ?_⟩
  · intro coordinator hcoordinator
    exact hagree.gateAgrees room _ b (gate_of_coordinator hcoordinator) hb hactive
  · intro control hcontrol
    have hpolicy := policy_of_control hcontrol
    have hconfigured := hagree.policyAgrees room _ b hpolicy hb hactive
    exact ⟨hconfigured, (hagree.requested room _ hpolicy).trans hconfigured⟩

/-- The sequel waits for players of its own generation. -/
theorem generations_agree_sequel : ∃ coordinator : RoomReadinessCoordinator,
    preparedSequel.roomReadiness["movies"]? = some coordinator ∧
      coordinator.mediaGeneration = some 2 ∧ 2 ≤ preparedSequel.nextPlaybackBarrierGeneration := by
  have ⟨_, _, hstart, _, howner⟩ := sequel_readings
  obtain ⟨b, hb, hgeneration, hphase, -⟩ := exists_start hstart
  obtain ⟨coordinator, hcoordinator, -⟩ := Option.map_eq_some_iff.mp howner
  have hreached : ReachableUnder Action.serverNumbered preparedSequel := by
    apply sequel_under
    -- neither of her starts comes with a policy
    have hfilm : ∀ s, alicePrepares.serverNumbered s := by
      intro s policy hpolicy
      cases hpolicy
    have hsequel : ∀ s, alicePreparesSequel.serverNumbered s := by
      intro s policy hpolicy
      cases hpolicy
    simp only [sequelActions, List.forall_mem_cons]
    exact ⟨fun _ => trivial, hfilm, fun _ => trivial, fun _ => trivial, fun _ => trivial,
      fun _ => trivial, fun _ => trivial, fun _ => trivial, hsequel, by simp⟩
  obtain ⟨-, hallocated, hagrees, -⟩ := generations_agree hreached hb (.inl hphase)
  rw [hgeneration] at hallocated hagrees
  exact ⟨coordinator, hcoordinator, hagrees coordinator hcoordinator, hallocated⟩

/-- **Generations are the server's**: the generation of a start was always allocated; while clients
    leave the numbering of policies to the server, so was every generation that a policy or a
    coordinator keeps, and beside an active start they keep its own. -/
theorem generations_are_allocated (h : Reachable s) :
    (∀ (room : String) b, s.roomPlaybackBarriers[room]? = some b →
      1 ≤ b.prepare.mediaGeneration ∧
        b.prepare.mediaGeneration ≤ s.nextPlaybackBarrierGeneration) ∧
    (ReachableUnder Action.serverNumbered s →
      (∀ (room : String) control, s.roomBufferingControls[room]? = some control →
        1 ≤ control.config.mediaGeneration ∧
          control.config.mediaGeneration ≤ s.nextPlaybackBarrierGeneration) ∧
      (∀ (room : String) coordinator generation, s.roomReadiness[room]? = some coordinator →
        coordinator.mediaGeneration = some generation →
        1 ≤ generation ∧ generation ≤ s.nextPlaybackBarrierGeneration) ∧
      ∀ (room : String) b, s.roomPlaybackBarriers[room]? = some b →
        (b.phase = .preparing ∨ b.phase = .committed) →
        (∀ control, s.roomBufferingControls[room]? = some control →
          control.config.mediaGeneration = b.prepare.mediaGeneration) ∧
        ∀ coordinator, s.roomReadiness[room]? = some coordinator →
          coordinator.mediaGeneration = some b.prepare.mediaGeneration) := by
  refine ⟨fun room b hb => (h.ideal.startsWellFormed room b hb).allocated, fun hnumbered => ?_⟩
  have hagree := (numbered_generations hnumbered).1
  refine ⟨?_, ?_, ?_⟩
  · intro room control hcontrol
    exact hagree.policyAllocated room _ (policy_of_control hcontrol)
  · intro room coordinator generation hcoordinator hgeneration
    exact hagree.gateAllocated room _ generation (gate_of_coordinator hcoordinator) hgeneration
  · intro room b hb hactive
    refine ⟨fun control hcontrol => ?_, fun coordinator hcoordinator => ?_⟩
    · exact hagree.policyAgrees room _ b (policy_of_control hcontrol) hb hactive
    · exact hagree.gateAgrees room _ b (gate_of_coordinator hcoordinator) hb hactive

theorem generations_are_allocated_film :
    ∃ b, preparedFilm.roomPlaybackBarriers["movies"]? = some b ∧
      1 ≤ b.prepare.mediaGeneration ∧
      b.prepare.mediaGeneration ≤ preparedFilm.nextPlaybackBarrierGeneration := by
  have ⟨_, _, hprepared, _⟩ := film_readings
  obtain ⟨b, hb, -⟩ := exists_start hprepared
  exact ⟨b, hb, (generations_are_allocated preparedFilm_reachable).1 "movies" b hb⟩

/-! ### alice numbers a policy herself -/

def aliceNamesGeneration : Action :=
  .setCommand "c1" "" (.playbackBarrier {
    bufferingPolicy := some {
      mediaGeneration := 9, requestId := none, requestNonce := 0, loadIntent := .newPlayback
      stateRevision := none, policy := .independent, quorumPercent := none, debounceMs := none
      resumeHysteresisMs := none, maxPauseMs := none } }) none

def aliceIsPlayableThere : Action :=
  .state "c1" {
    readiness := some {
      mediaGeneration := 9, membershipEpoch := 1, reportSequence := 1
      authoritativePlaybackRevision := none, phase := .playable, reason := none
      recovery := none, observedAt := none } } 0

def numberedFilm : ServerRuntime := aliceNamesGeneration.next {} preparedFilm

/-- She can play what she named, and is ready. -/
def misnumberedFilm : ServerRuntime := aliceIsPlayableThere.next {} (aliceIsReady.next {} numberedFilm)

def misledFilm : ServerRuntime := aliceHasLoaded.next {} misnumberedFilm

/-- Some required member could play another generation than the one that committed. -/
def Event.misled : Event → Bool
  | .committed _ snapshot => snapshot.coordinator.any fun coordinator =>
      coordinator.participants.toList.any fun entry =>
        entry.2.record.participationRole == .required &&
          entry.2.record.technicalState != .playable snapshot.barrier.prepare.mediaGeneration
  | _ => true

theorem numbered_readings :
    (preparedFilm.clock.le {} ∧ numberedFilm.clock.le {} ∧
      (aliceIsReady.next {} numberedFilm).clock.le {} ∧ misnumberedFilm.clock.le {}) ∧
    (numberedFilm.roomBufferingControls["movies"]?.map (·.config.mediaGeneration)) = some 9 ∧
    numberedFilm.nextPlaybackBarrierGeneration = 1 ∧
    startReadings misnumberedFilm "movies" = some (1, .preparing, false) ∧
    startReadings misledFilm "movies" = some (1, .committed, true) ∧
    ∀ event ∈ misledFilm.history, event.misled = true := by
  decide +kernel

/-- A policy has the generation its client named, which the server never allocated. -/
theorem policy_named_by_client : ∃ control, Reachable numberedFilm ∧
    numberedFilm.roomBufferingControls["movies"]? = some control ∧
    numberedFilm.nextPlaybackBarrierGeneration < control.config.mediaGeneration := by
  have ⟨⟨hprepared, _⟩, hread, hnext, _⟩ := numbered_readings
  obtain ⟨control, hcontrol, hgeneration⟩ := Option.map_eq_some_iff.mp hread
  refine ⟨control, preparedFilm_reachable.run (.single (.act _ _ {} hprepared)), hcontrol, ?_⟩
  omega

/-! ### Coordinated starts -/

/-- A step that commits a start records what the commit had read. -/
theorem commit_of_step {b b' : RoomPlaybackBarrier} (h : Reachable s) (hstep : Step s t)
    (hb : s.roomPlaybackBarriers[room]? = some b) (hpreparing : b.phase = .preparing)
    (hb' : t.roomPlaybackBarriers[room]? = some b') (hcommitted : b'.phase = .committed) :
    ∃ newer snapshot, t.history = newer ++ s.history ∧ .committed room snapshot ∈ newer ∧
      b'.commit = some snapshot.payload ∧ snapshot.barrier.prepare = b'.prepare ∧
      .committed room snapshot ∈ t.history := by
  have hrun : Relation.ReflTransGen Step s t := .single hstep
  obtain ⟨newer, hhistory, hwritten⟩ := commit_of_steps (h.ideal_steps hrun)
  have hpaid := ((h.run hrun).ideal.startsWellFormed room b' hb').started (.inl hcommitted)
  obtain ⟨payload, hpayload⟩ := Option.isSome_iff_exists.mp hpaid
  rcases hwritten room b' payload hb' hpayload with ⟨b₀, hb₀, hheld, -⟩ |
    ⟨snapshot, hmem, rfl, hprepare⟩
  · -- a preparing start has no commit yet
    obtain rfl : b₀ = b := Option.some.inj (hb₀.symm.trans hb)
    rw [(h.ideal.startsWellFormed room b₀ hb).pending (.inl hpreparing)] at hheld
    cases hheld
  · have hrecorded : .committed room snapshot ∈ t.history :=
      (congrArg (_ ∈ ·) hhistory).mpr (List.mem_append_left _ hmem)
    exact ⟨newer, snapshot, hhistory, hmem, hpayload, hprepare, hrecorded⟩

/-- Somebody in the start is ready for it, and in the room. -/
def ReadyInRoom (room : String) (snapshot : CommitSnapshot) : Prop :=
  ∃ (clientId : String) (p : RoomPlaybackBarrierParticipant) (session : ServerSession),
    snapshot.barrier.participants[clientId]? = some p ∧ p.status.phase = .ready ∧
      snapshot.sessions[clientId]? = some session ∧ session.room = room

/-- **A start plays for somebody**: whatever step takes a preparing start to its commit, other than
    the timeout of one in a room without a coordinator, somebody in the start is ready and in the
    room, if and only if its policy does not excuse everyone there is in it. -/
theorem start_plays_for_somebody {b b' : RoomPlaybackBarrier} (h : Reachable s) (hstep : Step s t)
    (hb : s.roomPlaybackBarriers[room]? = some b) (hpreparing : b.phase = .preparing)
    (hb' : t.roomPlaybackBarriers[room]? = some b') (hcommitted : b'.phase = .committed) :
    ∃ newer snapshot, t.history = newer ++ s.history ∧ .committed room snapshot ∈ newer ∧
      b'.commit = some snapshot.payload ∧ snapshot.barrier.prepare = b'.prepare ∧
      (¬ (snapshot.timedOut = true ∧ snapshot.coordinator = none) →
        (ReadyInRoom room snapshot ↔ ¬ Abandoned snapshot)) := by
  have ht := h.run (.single hstep)
  obtain ⟨newer, snapshot, hhistory, hmem, hpayload, hprepare, hrecorded⟩ :=
    commit_of_step h hstep hb hpreparing hb' hcommitted
  refine ⟨newer, snapshot, hhistory, hmem, hpayload, hprepare, fun hintime => ⟨?_, ?_⟩⟩
  · rintro ⟨clientId, p, session, hp, hready, -⟩ ⟨-, hexcused⟩
    have hdegraded := hexcused clientId p hp
    rw [hready] at hdegraded
    cases hdegraded
  · intro hcounted
    rcases (ht.ideal.commitsRecorded.safe room snapshot hrecorded).somebody with
      ⟨clientId, p, hp, hready⟩ | habandoned | ⟨hnone, hoverdue⟩
    · obtain ⟨session, hsession, hroom⟩ := ht.ideal.commitsPresent room snapshot hrecorded clientId
        p hp (by rw [hready]; decide)
      exact ⟨clientId, p, session, hp, hready, hsession, hroom⟩
    · exact absurd habandoned hcounted
    · exact absurd ⟨hoverdue, hnone⟩ hintime

/-- alice's film has a coordinator. -/
theorem start_plays_for_somebody_film : ∃ snapshot, .committed "movies" snapshot ∈ committedFilm.history ∧
    (ReadyInRoom "movies" snapshot ↔ ¬ Abandoned snapshot) := by
  have ⟨⟨_, _, _, _, hplayable, _⟩, _, _, hwaiting, hcommitted, hgoverned, _⟩ := film_readings
  obtain ⟨b, hb, -, hpreparing, -⟩ := exists_start hwaiting
  obtain ⟨b', hb', -, hphase, -⟩ := exists_start hcommitted
  obtain ⟨newer, snapshot, hhistory, hmem, -, -, hplays⟩ := start_plays_for_somebody
    (preparedFilm_reachable.run playableFilm_run) (.act _ aliceHasLoaded {} hplayable) hb hpreparing
    hb' hphase
  have hrecorded : .committed "movies" snapshot ∈ committedFilm.history :=
    hhistory ▸ List.mem_append_left _ hmem
  refine ⟨snapshot, hrecorded, hplays fun hoverdue => ?_⟩
  have hsome := hgoverned _ hrecorded
  rw [Event.governed, hoverdue.2] at hsome
  cases hsome

/-- alice prepares a film without a coordinator, and bob comes to watch. -/
def aloneFilm : ServerRuntime :=
  emptyServer.acting [joinsMovies "c1" "alice", preparesFilm "c1", joinsMovies "c2" "bob"]

/-- She leaves before she has loaded it. -/
def abandonedFilm : ServerRuntime := aliceLeaves.next {} aloneFilm

/-- A commit that no timeout made, and that nobody was ready for. -/
def Event.forNobody : Event → Bool
  | .committed _ snapshot => !snapshot.timedOut &&
      snapshot.barrier.participants.toList.all (·.2.status.phase != .ready)
  | _ => true

theorem abandoned_readings :
    emptyServer.actable [joinsMovies "c1" "alice", preparesFilm "c1", joinsMovies "c2" "bob"] = true ∧
    aloneFilm.clock.le {} ∧ startReadings aloneFilm "movies" = some (1, .preparing, false) ∧
    startReadings abandonedFilm "movies" = some (1, .committed, true) ∧
    (abandonedFilm.roomPlaybackState "movies").paused = false ∧
    ∀ event ∈ abandonedFilm.history, event.forNobody = true := by
  decide +kernel

/-- Her leaving starts the film, for nobody who is ready. -/
theorem film_plays_for_nobody : ∃ b b' newer snapshot, Reachable aloneFilm ∧
    Step aloneFilm abandonedFilm ∧ aloneFilm.roomPlaybackBarriers["movies"]? = some b ∧
    b.phase = .preparing ∧ abandonedFilm.roomPlaybackBarriers["movies"]? = some b' ∧
    b'.phase = .committed ∧ (abandonedFilm.roomPlaybackState "movies").paused = false ∧
    abandonedFilm.history = newer ++ aloneFilm.history ∧ .committed "movies" snapshot ∈ newer ∧
    b'.commit = some snapshot.payload ∧ snapshot.timedOut = false ∧
    ∀ (clientId : String) p, snapshot.barrier.participants[clientId]? = some p →
      p.status.phase ≠ .ready := by
  have ⟨hacted, hclock, hwaiting, hcommitted, hplaying, hnobody⟩ := abandoned_readings
  have hreached : Reachable aloneFilm :=
    Reachable.acting ⟨emptyServer, emptyServer_initial, .refl⟩ hacted
  have hstep : Step aloneFilm abandonedFilm := .act _ _ {} hclock
  obtain ⟨b, hb, -, hpreparing, -⟩ := exists_start hwaiting
  obtain ⟨b', hb', -, hphase, -⟩ := exists_start hcommitted
  obtain ⟨newer, snapshot, hhistory, hmem, hpayload, -, hrecorded⟩ :=
    commit_of_step hreached hstep hb hpreparing hb' hphase
  have hread := hnobody _ hrecorded
  rw [Event.forNobody, Bool.and_eq_true, Bool.not_eq_true', List.all_eq_true] at hread
  refine ⟨b, b', newer, snapshot, hreached, hstep, hb, hpreparing, hb', hphase, hplaying, hhistory,
    hmem, hpayload, hread.1, fun clientId p hp => ?_⟩
  exact bne_iff_ne.mp (hread.2 (clientId, p) (Std.ExtTreeMap.mem_toList_iff_getElem?_eq_some.mpr hp))

end Sorotte.Server
