import Sorotte.Ideal.Allocation
import Sorotte.Ideal.Commits
import Sorotte.Ideal.Presence
import Sorotte.Ideal.Transport
import Sorotte.Refinement.Runs

/-! # Coordinated starts

  The safety of coordinated starts over whole runs of the server, whatever its
  clients send: a preparing start freezes its room, a commit has checked the
  room's members, a start goes through its phases in order and commits once,
  and completes only when everyone in it said so.
-/

namespace Sorotte.Server

open Sorotte.Ideal

variable {s t : ServerRuntime} {room : String} {b b' : RoomPlaybackBarrier}

/-! ### Invariants -/

theorem Reachable.run (h : Reachable s) (hrun : Relation.ReflTransGen Step s t) : Reachable t := by
  obtain ⟨s₀, hinitial, hreached⟩ := h
  exact ⟨s₀, hinitial, hreached.trans hrun⟩

/-- A run of the server from a reachable state, as the ideal server takes it. -/
theorem Reachable.ideal_steps (h : Reachable s) (hrun : Relation.ReflTransGen Step s t) :
    Relation.ReflTransGen (Steps fun _ => True) s.ideal t.ideal := by
  induction hrun with
  | refl => exact .refl
  | tail hbefore hstep ih =>
    cases hstep with
    | act action clock hclock =>
      apply ih.trans
      apply steps_of_moves
      exact evolvesTo_any (action.next_evolves (h.run hbefore).seats hclock)

theorem Reachable.freezes (h : Reachable s) : Freezes s.ideal :=
  h.ideal_invariant (fun _ hinitial => hinitial.freezes) fun _ _ hguard hheld => hheld.step hguard

/-- One generation is one start over a whole run. -/
theorem Reachable.later (h : Reachable s) (hrun : Relation.ReflTransGen Step s t)
    (hb : s.roomPlaybackBarriers[room]? = some b) (hb' : t.roomPlaybackBarriers[room]? = some b')
    (hsame : b'.prepare.mediaGeneration = b.prepare.mediaGeneration) : Later b b' :=
  later_of_steps (h.ideal_steps hrun) h.ideal.startsWellFormed hb hb' hsame

/-! ### alice starts a film -/

def aliceJoins : Action :=
  .hello "c1" { username := "alice", room := "movies", version := "1.7.0", capabilities := {
    playbackBarrierV1 := true, readinessV2 := true } } true "token"

def alicePrepares : Action :=
  .setCommand "c1" "" (.playbackBarrier {
    prepare := some {
      mediaGeneration := 0, requestNonce := 1, requestId := some "r1", loadIntent := .newPlayback
      logicalMediaId := "film", targetPosition := .finite 5, policy := .allEligible
      quorum := none, quorumPercent := none, timeoutMs := none, timeoutAction := none } }) none

def aliceIsReady : Action :=
  .setCommand "c1" "" (.readiness (some {
    operationId := "op", requestNonce := 1, membershipEpoch := 1, desired := .ready
    source := .directUser .guiButton, targetUsername := none
    expectedUserIntentRevision := none })) none

def aliceIsPlayable : Action :=
  .state "c1" {
    readiness := some {
      mediaGeneration := 1, membershipEpoch := 1, reportSequence := 1
      authoritativePlaybackRevision := none, phase := .playable, reason := none
      recovery := none, observedAt := none } } 0

def aliceHasLoaded : Action :=
  .state "c1" {
    playbackBarrier := some {
      ready := some { mediaGeneration := 1, loaded := true, seekable := none
                      bufferReady := true } } } 0

def aliceHasStarted : Action :=
  .state "c1" {
    playbackBarrier := some {
      started := some { mediaGeneration := 1, stateRevision := 1
                        observedPosition := .finite 5 } } } 0

/-- alice prepares a film in an empty room. -/
def preparedFilm : ServerRuntime := alicePrepares.next {} (aliceJoins.next {} emptyServer)

/-- She is ready and can play it. -/
def playableFilm : ServerRuntime := aliceIsPlayable.next {} (aliceIsReady.next {} preparedFilm)

def committedFilm : ServerRuntime := aliceHasLoaded.next {} playableFilm

def completedFilm : ServerRuntime := aliceHasStarted.next {} committedFilm

/-- What is read of the start of a room. -/
def startReadings (s : ServerRuntime) (room : String) :
    Option (Nat × PlaybackBarrierPhase × Bool) :=
  s.roomPlaybackBarriers[room]?.map fun b =>
    (b.prepare.mediaGeneration, b.phase, b.commit.isSome)

def Event.governed : Event → Bool
  | .committed _ snapshot => snapshot.coordinator.isSome
  | _ => true

/-- The clock never goes back in alice's run, and her film goes from phase to phase. -/
theorem film_readings :
    (emptyServer.clock.le {} ∧ (aliceJoins.next {} emptyServer).clock.le {} ∧
      preparedFilm.clock.le {} ∧ (aliceIsReady.next {} preparedFilm).clock.le {} ∧
      playableFilm.clock.le {} ∧ committedFilm.clock.le {}) ∧
    preparedFilm.nextPlaybackBarrierGeneration = 1 ∧
    startReadings preparedFilm "movies" = some (1, .preparing, false) ∧
    startReadings playableFilm "movies" = some (1, .preparing, false) ∧
    startReadings committedFilm "movies" = some (1, .committed, true) ∧
    (∀ event ∈ committedFilm.history, event.governed = true) ∧
    startReadings completedFilm "movies" = some (1, .complete, true) := by
  decide +kernel

theorem preparedFilm_reachable : Reachable preparedFilm :=
  have ⟨⟨hempty, hjoined, _⟩, _⟩ := film_readings
  ⟨emptyServer, emptyServer_initial,
    .tail (.single (.act _ _ {} hempty)) (.act _ _ {} hjoined)⟩

theorem playableFilm_run : Relation.ReflTransGen Step preparedFilm playableFilm :=
  have ⟨⟨_, _, hprepared, hready, _⟩, _⟩ := film_readings
  .tail (.single (.act _ _ {} hprepared)) (.act _ _ {} hready)

theorem committedFilm_run : Relation.ReflTransGen Step preparedFilm committedFilm :=
  have ⟨⟨_, _, _, _, hplayable, _⟩, _⟩ := film_readings
  playableFilm_run.tail (.act _ _ {} hplayable)

theorem completedFilm_run : Relation.ReflTransGen Step preparedFilm completedFilm :=
  have ⟨⟨_, _, _, _, _, hcommitted⟩, _⟩ := film_readings
  committedFilm_run.tail (.act _ _ {} hcommitted)

theorem exists_start {s : ServerRuntime} {generation : Nat} {phase : PlaybackBarrierPhase}
    {committed : Bool} (h : startReadings s room = some (generation, phase, committed)) :
    ∃ b, s.roomPlaybackBarriers[room]? = some b ∧ b.prepare.mediaGeneration = generation ∧
      b.phase = phase ∧ b.commit.isSome = committed := by
  obtain ⟨b, hb, hread⟩ := Option.map_eq_some_iff.mp h
  simp only [Prod.mk.injEq] at hread
  exact ⟨b, hb, hread⟩

/-! ### A preparing start freezes its room -/

/-- A room whose start prepares is paused at its target, and a paused playstate does not age. -/
theorem Reachable.playstate_frozen (h : Reachable s) (hb : s.roomPlaybackBarriers[room]? = some b)
    (hphase : b.phase = .preparing) (now : Seconds) :
    (s.roomPlaybackStateAt room now).paused = true ∧
      (s.roomPlaybackStateAt room now).position = b.prepare.targetPosition := by
  have hfrozen := h.freezes room b hb hphase
  have hpaused : (s.roomPlaybackState room).paused = true := hfrozen.paused
  have hposition : (s.roomPlaybackState room).position = b.prepare.targetPosition :=
    hfrozen.position
  refine ⟨hpaused, ?_⟩
  show (s.roomPlaybackState room).positionAt now = _
  unfold RoomPlaybackState.positionAt
  rw [hpaused]
  exact hposition

/-- **Preparing freezes the canonical playstate**: from the prepare of a start on and as long as
    it prepares, its room is paused at its target, at every clock reading, and no member is
    known to be anywhere else. -/
theorem preparing_room_is_frozen (h : Reachable s) (hrun : Relation.ReflTransGen Step s t)
    (hb : s.roomPlaybackBarriers[room]? = some b) (hb' : t.roomPlaybackBarriers[room]? = some b')
    (hsame : b'.prepare.mediaGeneration = b.prepare.mediaGeneration)
    (hphase : b'.phase = .preparing) :
    b.phase = .preparing ∧ 0 ≤ b.prepare.targetPosition ∧
    (∀ now, (t.roomPlaybackStateAt room now).paused = true ∧
      (t.roomPlaybackStateAt room now).position = b.prepare.targetPosition) ∧
    ∀ (clientId : String) session state x, t.sessions[clientId]? = some session →
      session.room = room → t.clientPlaybackStates[clientId]? = some state →
      state.position = some x → x = b.prepare.targetPosition := by
  have hlater := h.later hrun hb hb' hsame
  refine ⟨?_, (h.ideal.startsWellFormed room b hb).target, ?_, ?_⟩
  · have hle := hlater.phase
    rw [hphase] at hle
    exact hle.antisymm trivial
  · rw [← hlater.prepare]
    exact (h.run hrun).playstate_frozen hb' hphase
  · intro clientId session state x hsession hroom hstate hx
    have hfrozen := (h.run hrun).freezes room b' hb' hphase
    rw [hlater.prepare] at hfrozen
    apply hfrozen.sample clientId x ⟨session, hsession, hroom⟩
    show t.clientPlaybackStates[clientId]?.bind _ = some x
    rw [hstate]
    exact hx

theorem preparing_room_is_frozen_film :
    ∃ b, preparedFilm.roomPlaybackBarriers["movies"]? = some b ∧ b.phase = .preparing ∧
      (playableFilm.roomPlaybackStateAt "movies" 9).position = b.prepare.targetPosition := by
  have ⟨_, _, hprepared, hplayable, _⟩ := film_readings
  obtain ⟨b, hb, hgeneration, -, -⟩ := exists_start hprepared
  obtain ⟨b', hb', hsame, hphase, -⟩ := exists_start hplayable
  obtain ⟨hpreparing, -, hplaced, -⟩ := preparing_room_is_frozen preparedFilm_reachable
    playableFilm_run hb hb' (hsame.trans hgeneration.symm) hphase
  exact ⟨b, hb, hpreparing, (hplaced 9).2⟩

/-- **A preparing start holds its room still**: in every reachable state its room is paused at the
    target, which is no negative one, and remains so through every later step that leaves the start
    preparing. -/
theorem preparing_freezes_playstate (h : Reachable s)
    (hb : s.roomPlaybackBarriers[room]? = some b) (hphase : b.phase = .preparing) :
    0 ≤ b.prepare.targetPosition ∧ (s.roomPlaybackState room).paused = true ∧
    (s.roomPlaybackState room).position = b.prepare.targetPosition ∧
    ∀ t b', Relation.ReflTransGen Step s t → t.roomPlaybackBarriers[room]? = some b' →
      b'.prepare.mediaGeneration = b.prepare.mediaGeneration → b'.phase = .preparing →
      (t.roomPlaybackState room).paused = true ∧
      (t.roomPlaybackState room).position = b.prepare.targetPosition ∧
      ∀ now, (t.roomPlaybackStateAt room now).paused = true ∧
        (t.roomPlaybackStateAt room now).position = b.prepare.targetPosition := by
  have hfrozen := h.freezes room b hb hphase
  refine ⟨(h.ideal.startsWellFormed room b hb).target, hfrozen.paused, hfrozen.position, ?_⟩
  intro t b' hrun hb' hsame hstill
  have hprepare := (h.later hrun hb hb' hsame).prepare
  have hthere := (h.run hrun).freezes room b' hb' hstill
  rw [← hprepare]
  exact ⟨hthere.paused, hthere.position, (h.run hrun).playstate_frozen hb' hstill⟩

/-- Ready and able to play, alice still waits at the target of the film. -/
theorem preparing_freezes_playstate_film :
    ∃ b, preparedFilm.roomPlaybackBarriers["movies"]? = some b ∧
      (playableFilm.roomPlaybackState "movies").paused = true ∧
      (playableFilm.roomPlaybackState "movies").position = b.prepare.targetPosition := by
  have ⟨_, _, hprepared, hplayable, _⟩ := film_readings
  obtain ⟨b, hb, hgeneration, hphase, -⟩ := exists_start hprepared
  obtain ⟨b', hb', hsame, hstill, -⟩ := exists_start hplayable
  obtain ⟨-, -, -, hlater⟩ := preparing_freezes_playstate preparedFilm_reachable hb hphase
  obtain ⟨hpaused, hposition, -⟩ := hlater playableFilm b' playableFilm_run hb'
    (hsame.trans hgeneration.symm) hstill
  exact ⟨b, hb, hpaused, hposition⟩

/-! ### A preparing start counts on its room -/

/-- **A preparing start counts on members of its room**: a participant that it has not given up
    has a live session, and that session is in the room. -/
theorem preparing_start_counts_on_members {clientId : String}
    {p : RoomPlaybackBarrierParticipant} (h : Reachable s)
    (hb : s.roomPlaybackBarriers[room]? = some b) (hphase : b.phase = .preparing)
    (hp : b.participants[clientId]? = some p) (hcounts : p.status.phase ≠ .degraded) :
    ∃ session, s.sessions[clientId]? = some session ∧ session.room = room := by
  rcases h.ideal.startsPresent room b hb hphase clientId p hp with hin | hdegraded
  · exact hin
  · exact absurd hdegraded hcounts

/-- The phase in which a start has one of its participants. -/
def participantReading (s : ServerRuntime) (room clientId : String) :
    Option PlaybackBarrierParticipantPhase :=
  (s.roomPlaybackBarriers[room]?.bind (·.participants[clientId]?)).map (·.status.phase)

theorem participantReading_film : participantReading preparedFilm "movies" "c1" = some .pending := by
  decide +kernel

theorem preparing_start_counts_on_members_film :
    ∃ session, preparedFilm.sessions["c1"]? = some session ∧ session.room = "movies" := by
  have ⟨_, _, hprepared, _⟩ := film_readings
  obtain ⟨b, hb, -, hphase, -⟩ := exists_start hprepared
  have hread := participantReading_film
  rw [participantReading, hb] at hread
  obtain ⟨p, hp, hpending⟩ := Option.map_eq_some_iff.mp hread
  apply preparing_start_counts_on_members preparedFilm_reachable hb hphase hp
  rw [hpending]
  decide

/-! ### Commits -/

/-- **Commits are safe**: every commit of a run had checked its room's coordinator and its start,
    every commit that a start carries was made for it, and commits are numbered in order. -/
theorem commits_are_safe (h : Reachable s) :
    (∀ room snapshot, .committed room snapshot ∈ s.history → CommitSafe room snapshot) ∧
    (∀ (room : String) b payload, s.roomPlaybackBarriers[room]? = some b →
      b.commit = some payload → ∃ snapshot, .committed room snapshot ∈ s.history ∧
        snapshot.payload = payload ∧ snapshot.barrier.prepare = b.prepare) ∧
    (committedRevisions s.history).Pairwise (· > ·) := by
  have hcommits := h.ideal.commitsRecorded
  exact ⟨hcommits.safe, hcommits.backed, hcommits.ordered⟩

/-- The film's commit counted on its coordinator. -/
theorem commits_are_safe_film :
    ∃ snapshot coordinator, .committed "movies" snapshot ∈ committedFilm.history ∧
      snapshot.coordinator = some coordinator ∧ GovernedSafely "movies" snapshot coordinator := by
  have ⟨_, _, _, _, hcommitted, hgoverned, _⟩ := film_readings
  obtain ⟨b, hb, -, -, hcommit⟩ := exists_start hcommitted
  obtain ⟨payload, hpayload⟩ := Option.isSome_iff_exists.mp hcommit
  obtain ⟨hsafe, hbacked, -⟩ := commits_are_safe (preparedFilm_reachable.run committedFilm_run)
  obtain ⟨snapshot, hmem, -, -⟩ := hbacked "movies" b payload hb hpayload
  obtain ⟨coordinator, hcoordinator⟩ := Option.isSome_iff_exists.mp (hgoverned _ hmem)
  exact ⟨snapshot, coordinator, hmem, hcoordinator,
    (hsafe "movies" snapshot hmem).governed coordinator hcoordinator⟩

/-- **One commit for each start**: generations are accepted in order, each commits at most once,
    and a commit comes after the start that it commits was accepted in its room. -/
theorem starts_commit_once (h : Reachable s) :
    (acceptedGenerations s.history).Pairwise (· > ·) ∧
    (∀ generation, s.history.countP (commitsGeneration generation) ≤ 1) ∧
    ∀ newer older room snapshot, s.history = newer ++ .committed room snapshot :: older →
      ∃ id at_, .prepareAccepted room id snapshot.payload.mediaGeneration at_ ∈ older := by
  have horder := h.ideal.startsOnce.inOrder
  refine ⟨acceptedGenerations_decreasing horder, count_commits_le_one horder, ?_⟩
  intro newer older room snapshot hhistory
  have hpast : Framework.Throughout InOrder s.history := horder
  rw [hhistory] at hpast
  exact hpast.past.1

/-- The film commits once, after alice prepared it. -/
theorem starts_commit_once_film :
    ∃ generation id at_, .prepareAccepted "movies" id generation at_ ∈ completedFilm.history ∧
      completedFilm.history.countP (commitsGeneration generation) = 1 := by
  have ⟨_, _, _, _, _, _, hcompleted⟩ := film_readings
  obtain ⟨b, hb, -, -, hcommit⟩ := exists_start hcompleted
  obtain ⟨payload, hpayload⟩ := Option.isSome_iff_exists.mp hcommit
  have hreachable := preparedFilm_reachable.run completedFilm_run
  obtain ⟨snapshot, hmem, -, -⟩ := hreachable.ideal.commitsRecorded.backed "movies" b payload hb
    hpayload
  obtain ⟨-, honce, hafter⟩ := starts_commit_once hreachable
  obtain ⟨newer, older, hhistory⟩ : ∃ newer older,
      completedFilm.history = newer ++ .committed "movies" snapshot :: older :=
    List.append_of_mem hmem
  obtain ⟨id, at_, haccepted⟩ := hafter newer older "movies" snapshot hhistory
  refine ⟨snapshot.payload.mediaGeneration, id, at_, ?_, le_antisymm (honce _) ?_⟩
  · rw [hhistory]
    exact List.mem_append_right _ (List.mem_cons_of_mem _ haccepted)
  · have hcounted : commitsGeneration snapshot.payload.mediaGeneration (.committed "movies" snapshot)
        = true := beq_self_eq_true _
    exact List.countP_pos_iff.mpr ⟨_, hmem, hcounted⟩

/-! ### The lifecycle of a start -/

/-- **Lifecycle**: whatever start a room has after a run was allocated in it, or is the one it had
    before, no earlier in its lifecycle, with the same prepare and with the commit it had. -/
theorem start_lifecycle (h : Reachable s) (hrun : Relation.ReflTransGen Step s t)
    (hb' : t.roomPlaybackBarriers[room]? = some b') :
    WellFormed t.ideal b' ∧ (s.nextPlaybackBarrierGeneration < b'.prepare.mediaGeneration ∨
      ∃ b, s.roomPlaybackBarriers[room]? = some b ∧ Later b b') := by
  obtain ⟨hwell, -, horigin⟩ := origin_of_steps (h.ideal_steps hrun) h.ideal.startsWellFormed
  exact ⟨hwell room b' hb', horigin room b' hb'⟩

/-- Loaded and started, the film is the one that was prepared. -/
theorem start_lifecycle_film :
    ∃ b b', preparedFilm.roomPlaybackBarriers["movies"]? = some b ∧
      completedFilm.roomPlaybackBarriers["movies"]? = some b' ∧ Later b b' := by
  have ⟨_, hallocated, _, _, _, _, hcompleted⟩ := film_readings
  obtain ⟨b', hb', hgeneration, -, -⟩ := exists_start hcompleted
  obtain ⟨-, hnew | ⟨b, hb, hlater⟩⟩ := start_lifecycle preparedFilm_reachable completedFilm_run hb'
  · omega
  · exact ⟨b, b', hb, hb', hlater⟩

/-! ### Completion -/

/-- **Completion**: a start is complete only if everyone who was in it when it completed had
    acknowledged Started for exactly its generation and its commit's revision. -/
theorem complete_start_was_acknowledged (h : Reachable s)
    (hb : s.roomPlaybackBarriers[room]? = some b) (hphase : b.phase = .complete) :
    ∃ b₀, .becameComplete room b₀ ∈ s.history ∧ b₀.prepare = b.prepare ∧
      b₀.stateRevision = b.stateRevision ∧ AllAcknowledged s.history room b₀ := by
  have hrecorded := h.ideal.completionsRecorded
  obtain ⟨b₀, hmem, hprepare, hrevision⟩ := hrecorded.completed room b hb hphase
  exact ⟨b₀, hmem, hprepare, hrevision, hrecorded.everyone room b₀ hmem⟩

theorem complete_start_was_acknowledged_film :
    ∃ b₀, .becameComplete "movies" b₀ ∈ completedFilm.history ∧
      AllAcknowledged completedFilm.history "movies" b₀ := by
  have ⟨_, _, _, _, _, _, hcompleted⟩ := film_readings
  obtain ⟨b, hb, -, hphase, -⟩ := exists_start hcompleted
  obtain ⟨b₀, hmem, -, -, hall⟩ := complete_start_was_acknowledged
    (preparedFilm_reachable.run completedFilm_run) hb hphase
  exact ⟨b₀, hmem, hall⟩

/-! ### A start from beginning to end -/

/-- An acknowledgement for another start does nothing. -/
theorem ready_for_another_start {clientId : String} {session : ServerSession}
    {ready : MediaReadyPayload} (hsession : s.sessions[clientId]? = some session)
    (hb : s.roomPlaybackBarriers[session.room]? = some b)
    (hother : ready.mediaGeneration ≠ b.prepare.mediaGeneration) :
    recordPlaybackBarrierReady clientId ready s = (.ok [], s) := by
  have hrefused : (!session.capabilities.playbackBarrierV1 || b.phase != .preparing
      || ready.mediaGeneration != b.prepare.mediaGeneration
      || !b.participants.contains clientId) = true := by simp [hother]
  unfold recordPlaybackBarrierReady
  rw [Framework.Prog.get_bind_run, hsession]
  dsimp only
  rw [hb]
  dsimp only
  rw [if_pos hrefused]
  rfl

theorem started_for_another_commit {clientId : String} {session : ServerSession}
    {started : StartedAckPayload} (hsession : s.sessions[clientId]? = some session)
    (hb : s.roomPlaybackBarriers[session.room]? = some b)
    (hother : started.mediaGeneration ≠ b.prepare.mediaGeneration ∨
      some started.stateRevision ≠ b.stateRevision) :
    recordPlaybackBarrierStarted clientId started s = (.ok [], s) := by
  have hrefused : (!session.capabilities.playbackBarrierV1 || b.phase != .committed
      || started.mediaGeneration != b.prepare.mediaGeneration
      || some started.stateRevision != b.stateRevision
      || !b.participants.contains clientId) = true := by
    rcases hother with hother | hother <;> simp [hother]
  unfold recordPlaybackBarrierStarted
  rw [Framework.Prog.get_bind_run, hsession]
  cases started.observedPosition with
  | finite observedPosition =>
    dsimp only
    rw [hb]
    dsimp only
    rw [if_pos hrefused]
    rfl
  | _ => rfl

/-- **A start from beginning to end**: over any run, the start of one generation goes forward
    through its phases with its prepare and the commit it has; commit and revision are written
    together, by one commit, in order; it completes when everyone in it, or the connection whose
    place they took, has acknowledged exactly that commit; and acknowledgements for other starts
    do nothing. -/
theorem start_goes_forward (h : Reachable s) (hrun : Relation.ReflTransGen Step s t) :
    (∀ (room : String) b b', s.roomPlaybackBarriers[room]? = some b →
      t.roomPlaybackBarriers[room]? = some b' →
      b'.prepare.mediaGeneration = b.prepare.mediaGeneration → Later b b') ∧
    (∀ (room : String) b, t.roomPlaybackBarriers[room]? = some b → WellFormed t.ideal b ∧
      (∀ payload, b.commit = some payload → ∃ snapshot, .committed room snapshot ∈ t.history ∧
        snapshot.payload = payload ∧ snapshot.barrier.prepare = b.prepare) ∧
      (b.phase = .complete → ∃ b₀, .becameComplete room b₀ ∈ t.history ∧
        b₀.prepare = b.prepare ∧ b₀.stateRevision = b.stateRevision)) ∧
    (∀ generation, t.history.countP (commitsGeneration generation) ≤ 1) ∧
    (committedRevisions t.history).Pairwise (· > ·) ∧
    (∀ room b₀, .becameComplete room b₀ ∈ t.history → AllAcknowledged t.history room b₀) ∧
    ∀ clientId session b, t.sessions[clientId]? = some session →
      t.roomPlaybackBarriers[session.room]? = some b →
      (∀ ready : MediaReadyPayload, ready.mediaGeneration ≠ b.prepare.mediaGeneration →
        recordPlaybackBarrierReady clientId ready t = (.ok [], t)) ∧
      ∀ started : StartedAckPayload, started.mediaGeneration ≠ b.prepare.mediaGeneration ∨
          some started.stateRevision ≠ b.stateRevision →
        recordPlaybackBarrierStarted clientId started t = (.ok [], t) := by
  have ht := h.run hrun
  have hcommits := ht.ideal.commitsRecorded
  have hcompletions := ht.ideal.completionsRecorded
  refine ⟨fun room b b' => h.later hrun, fun room b hb => ⟨ht.ideal.startsWellFormed room b hb,
    fun payload => hcommits.backed room b payload hb, hcompletions.completed room b hb⟩,
    count_commits_le_one ht.ideal.startsOnce.inOrder, hcommits.ordered, hcompletions.everyone, ?_⟩
  intro clientId session b hsession hb
  exact ⟨fun ready => ready_for_another_start hsession hb,
    fun started => started_for_another_commit hsession hb⟩

/-- alice's film goes from preparing to complete under one commit. -/
theorem start_goes_forward_film :
    ∃ b b', preparedFilm.roomPlaybackBarriers["movies"]? = some b ∧
      completedFilm.roomPlaybackBarriers["movies"]? = some b' ∧ Later b b' ∧
      b.commit = none ∧ b'.commit.isSome = true := by
  have ⟨_, _, hprepared, _, _, _, hcompleted⟩ := film_readings
  obtain ⟨b, hb, hgeneration, -, hcommit⟩ := exists_start hprepared
  obtain ⟨b', hb', hgeneration', -, hcommit'⟩ := exists_start hcompleted
  obtain ⟨hlater, -⟩ := start_goes_forward preparedFilm_reachable completedFilm_run
  exact ⟨b, b', hb, hb', hlater "movies" b b' hb hb' (hgeneration'.trans hgeneration.symm),
    by simpa using hcommit, hcommit'⟩

/-! ### A connection that takes over -/

/-- Whether the clock lets these actions happen, all at its zero. -/
def ServerRuntime.actable : ServerRuntime → List Action → Bool
  | _, [] => true
  | s, action :: actions => decide (s.clock.le {}) && (action.next {} s).actable actions

def ServerRuntime.acting (s : ServerRuntime) (actions : List Action) : ServerRuntime :=
  actions.foldl (fun s action => action.next {} s) s

theorem Reachable.acting {actions : List Action} (h : Reachable s)
    (hclock : s.actable actions = true) : Reachable (s.acting actions) := by
  induction actions generalizing s with
  | nil => exact h
  | cons action actions ih =>
    obtain ⟨hnow, hlater⟩ := Bool.and_eq_true _ _ ▸ hclock
    exact ih (h.run (.single (.act s action {} (of_decide_eq_true hnow)))) hlater

def joinsMovies (clientId username : String) : Action :=
  .hello clientId { username, room := "movies", version := "1.7.0", capabilities := {
    playbackBarrierV1 := true } } true clientId

def preparesFilm (clientId : String) : Action :=
  .setCommand clientId "" (.playbackBarrier {
    prepare := some {
      mediaGeneration := 0, requestNonce := 1, requestId := some "r1", loadIntent := .newPlayback
      logicalMediaId := "film", targetPosition := .finite 5, policy := .allEligible
      quorum := none, quorumPercent := none, timeoutMs := none, timeoutAction := none } }) none

def hasLoaded (clientId : String) : Action :=
  .state clientId {
    playbackBarrier := some {
      ready := some { mediaGeneration := 1, loaded := true, seekable := none
                      bufferReady := true } } } 0

def hasStarted (clientId : String) : Action :=
  .state clientId {
    playbackBarrier := some {
      started := some { mediaGeneration := 1, stateRevision := 1
                        observedPosition := .finite 5 } } } 0

/-- alice starts a film with bob and repeats her request on a new connection, before bob has
    started. -/
def takenOverFilm : ServerRuntime :=
  emptyServer.acting [joinsMovies "c1" "alice", joinsMovies "c2" "bob", preparesFilm "c1",
    hasLoaded "c1", hasLoaded "c2", hasStarted "c1", joinsMovies "c3" "alice", preparesFilm "c3",
    hasStarted "c2"]

def Event.acknowledgedBy (clientId : String) : Event → Bool
  | .startedAcknowledged _ _ _ client => client == clientId
  | _ => false

theorem takeover_readings :
    emptyServer.actable [joinsMovies "c1" "alice", joinsMovies "c2" "bob", preparesFilm "c1",
      hasLoaded "c1", hasLoaded "c2", hasStarted "c1", joinsMovies "c3" "alice",
      preparesFilm "c3", hasStarted "c2"] = true ∧
    (takenOverFilm.roomPlaybackBarriers["movies"]?.map fun b =>
      (b.phase, b.participants.contains "c3")) = some (.complete, true) ∧
    ∀ event ∈ takenOverFilm.history, event.acknowledgedBy "c3" = false := by
  decide +kernel

/-- The new connection is in the complete start, but the old one acknowledged it. -/
theorem takeover_acknowledged_nothing : ¬ ∀ s, Reachable s → ∀ (room : String) b,
    s.roomPlaybackBarriers[room]? = some b → b.phase = .complete →
    ∀ clientId, clientId ∈ b.participants → ∃ generation revision,
      .startedAcknowledged room generation revision clientId ∈ s.history := by
  have ⟨hclock, hread, hnone⟩ := takeover_readings
  obtain ⟨b, hb, hsame⟩ := Option.map_eq_some_iff.mp hread
  obtain ⟨hphase, hmember⟩ := Prod.mk.inj hsame
  have hreached : Reachable takenOverFilm :=
    Reachable.acting ⟨emptyServer, emptyServer_initial, .refl⟩ hclock
  intro hall
  obtain ⟨generation, revision, hmem⟩ := hall takenOverFilm hreached "movies" b hb hphase "c3"
    (Std.ExtTreeMap.mem_iff_contains.mpr hmember)
  cases hnone _ hmem

end Sorotte.Server
