import Sorotte.Quotas.Ledger
import Sorotte.Server.Dispatch

/-! # Persistent rooms over runs

  Every action leaves persistent rooms alone, discards rooms, edits a room that
  needs no creation, or makes one creation.  A run of the server is therefore a
  run of the ledger, with the creations of its actions in order.
-/

namespace Sorotte.Server

open Sorotte.Framework Sorotte.Framework.Prog ServerRuntime

variable {s t : ServerRuntime} {clientId : String}

/-! ### Creations -/

/-- The creation that a playlist change makes. -/
def ServerRuntime.playlistCreation (s : ServerRuntime) (clientId : String)
    (session : ServerSession) (files : List String) :
    Option (QuotaCreation String String Seconds) :=
  let s := s.ensureRoomState session.room
  if s.acceptsPlaylistChange clientId session files
      && s.persistentRoomCreationRequired session.room files then
    let identity := s.persistentRoomCreationIdentity clientId
    some
      { resource := session.room, owner := identity, reading := s.currentTimeSeconds
        dropped := s.persistentRooms.dropped session.room identity s.currentTimeSeconds }
  else none

/-- The creation that an action makes. -/
def Action.creation (action : Action) (s : ServerRuntime) :
    Option (QuotaCreation String String Seconds) :=
  match action with
  | .setCommand clientId _ (.playlistChange files) _ =>
      s.sessions[clientId]?.bind fun session => s.playlistCreation clientId session files
  | _ => none

/-- What a change of persistent rooms is for a run of their ledger. -/
def FollowsLedger (creation : Option (QuotaCreation String String Seconds))
    (p q : PersistentRooms) : Prop :=
  q.quota = p.quota ∧ ∀ hp : {room | p.Counts room}.Finite, ∃ hq : {room | q.Counts room}.Finite,
    ∀ start log, QuotaLedger.Run p.quota start log (p.ledger hp) →
      QuotaLedger.Run p.quota start (log ++ creation.toList) (q.ledger hq)

variable {p q : PersistentRooms} {room identity : String} {files : List String} {now : Seconds}

theorem followsLedger_of_discards (h : Relation.ReflTransGen PersistentRooms.Discards p q) :
    FollowsLedger none p q := by
  refine ⟨PersistentRooms.quota_discards h, ?_⟩
  intro hp
  have hq : {room | q.Counts room}.Finite := PersistentRooms.finite_discards h hp
  refine ⟨hq, ?_⟩
  intro start log hrun
  rw [Option.toList_none, List.append_nil]
  exact PersistentRooms.run_discards h hp hq hrun

/-- A room that is new is created, if it is admitted. -/
theorem followsLedger_create (hneeds : p.NeedsCreation room files)
    (hadmits : ∀ hp, QuotaLedger.Admits p.quota (p.ledger hp) identity now) :
    FollowsLedger
      (some
        { resource := room, owner := identity, reading := now
          dropped := p.dropped room identity now })
      p (p.create room files identity now) := by
  refine ⟨rfl, ?_⟩
  intro hp
  have hq := PersistentRooms.create_finite hneeds hp identity now
  refine ⟨hq, ?_⟩
  intro start log hrun
  exact hrun.create (hadmits hp) (PersistentRooms.create_created hneeds hp hq)

theorem followsLedger_edit (hfiles : files ≠ []) (hneeds : ¬ p.NeedsCreation room files) :
    FollowsLedger none p (p.edit room files) := by
  refine ⟨rfl, ?_⟩
  intro hp
  have hcounts := PersistentRooms.counts_edit hfiles hneeds
  have hq : {other | (p.edit room files).Counts other}.Finite :=
    hp.subset fun other => (hcounts other).mp
  refine ⟨hq, ?_⟩
  intro start log hrun
  have hkept : (p.edit room files).ledger hq = p.ledger hp := by
    apply QuotaLedger.ext
    · ext other
      exact hcounts other
    · rfl
    · rfl
  rw [Option.toList_none, List.append_nil, hkept]
  exact hrun

/-! ### Programs -/

theorem followsLedger_of_onlyDiscards {α : Type} {m : ServerM α} (h : OnlyDiscards s m) :
    FollowsLedger none s.persistentRooms (after (silently m) s).persistentRooms := by
  rw [after_silently]
  exact followsLedger_of_discards h

theorem followsLedger_of_keeps {α : Type} (m : ServerM α) [KeepsRooms m] (s : ServerRuntime) :
    FollowsLedger none s.persistentRooms (after (silently m) s).persistentRooms :=
  followsLedger_of_onlyDiscards (onlyDiscards_of_keeps m)

/-- What an accepted playlist change does to persistent rooms is a step of their ledger. -/
theorem followsLedger_changed (hallowed : s.persistentRoomCreationAllowed room files identity now
      = true) :
    FollowsLedger
      (if s.persistentRoomCreationRequired room files then
        some
          { resource := room, owner := identity, reading := now
            dropped := s.persistentRooms.dropped room identity now }
      else none)
      s.persistentRooms
      (s.persistentRooms.changed (s.persistentRoomCreationRequired room files) room files identity
        now) := by
  unfold PersistentRooms.changed
  by_cases hrequired : s.persistentRoomCreationRequired room files = true
  · simp only [hrequired, if_true]
    apply followsLedger_create ((s.needsCreation_iff room files).mpr hrequired)
    intro _
    exact s.admits_of_allowed hrequired hallowed
  · simp only [hrequired, Bool.false_eq_true, if_false]
    split
    · exact followsLedger_of_discards (.single (.room room))
    · next hempty =>
      apply followsLedger_edit
      · rintro rfl
        exact hempty rfl
      · intro hneeds
        exact hrequired ((s.needsCreation_iff room files).mp hneeds)

theorem setPlaylistChange_followsLedger (hs : Seats s) (session : ServerSession)
    (files : List String) (next : Option ServerSetCommand) :
    FollowsLedger (s.playlistCreation clientId session files) s.persistentRooms
      (after (setPlaylistChange clientId session files next) s).persistentRooms := by
  unfold setPlaylistChange ServerRuntime.playlistCreation
  rw [after_modify_bind, after_get_bind]
  rw [← s.persistentRooms_ensureRoomState session.room]
  have hensured := hs.quiet (s.quiet_ensureRoomState session.room)
  generalize s.ensureRoomState session.room = ensured at hensured ⊢
  by_cases haccepts : ensured.acceptsPlaylistChange clientId session files = true
  · simp only [haccepts, if_true, Bool.true_and]
    rw [after_bind_pure, acceptPlaylistChange_persistentRooms hensured]
    unfold ServerRuntime.acceptsPlaylistChange at haccepts
    rw [Bool.and_eq_true] at haccepts
    exact followsLedger_changed haccepts.2
  · simp only [haccepts, Bool.false_eq_true, if_false, Bool.false_and]
    exact followsLedger_of_discards .refl

theorem applySetCommand_followsLedger (hs : Seats s) (freshToken : String)
    (command : ServerSetCommand) (next : Option ServerSetCommand) :
    FollowsLedger ((Action.setCommand clientId freshToken command next).creation s)
      s.persistentRooms
      (after (applySetCommand clientId freshToken command next) s).persistentRooms := by
  unfold applySetCommand
  rw [after_get_bind]
  cases hsession : s.sessions[clientId]? with
  | none =>
    have hnone : (Action.setCommand clientId freshToken command next).creation s = none := by
      cases command <;> simp [Action.creation, hsession]
    rw [hnone]
    exact followsLedger_of_discards .refl
  | some session =>
    cases command with
    | playlistChange files =>
      have hsome : (Action.setCommand clientId freshToken (.playlistChange files) next).creation s =
          s.playlistCreation clientId session files := by
        simp [Action.creation, hsession]
      rw [hsome]
      exact setPlaylistChange_followsLedger hs session files next
    | room name =>
      dsimp only
      rw [after_bind_pure]
      exact followsLedger_of_discards (setRoom_discards session name freshToken)
    | file file =>
      dsimp only
      rw [after_bind_pure]
      exact followsLedger_of_discards (onlyDiscards_of_keeps _)
    | controllerAuth room password =>
      dsimp only
      rw [after_bind_pure]
      exact followsLedger_of_discards (onlyDiscards_of_keeps _)
    | ready isReady manuallyInitiated username =>
      dsimp only
      rw [after_bind_pure]
      exact followsLedger_of_discards (onlyDiscards_of_keeps _)
    | playlistIndex command =>
      dsimp only
      rw [after_bind_pure]
      exact followsLedger_of_discards (setPlaylistIndex_discards session command)
    | features capabilities =>
      dsimp only
      rw [after_bind_pure]
      exact followsLedger_of_discards (onlyDiscards_of_keeps _)
    | playbackBarrier extension =>
      dsimp only
      rw [after_bind_pure]
      exact followsLedger_of_discards (onlyDiscards_of_keeps _)
    | readiness intent =>
      dsimp only
      rw [after_bind_pure]
      exact followsLedger_of_discards (onlyDiscards_of_keeps _)

/-- **Every action is a step of the ledger**, and makes at most one creation. -/
theorem Action.followsLedger (action : Action) (hs : Seats s) :
    FollowsLedger (action.creation s) s.persistentRooms (after action.run s).persistentRooms := by
  cases action with
  | hello clientId command framesFit freshToken =>
    exact followsLedger_of_onlyDiscards (handleHelloForPeer_discards command framesFit freshToken)
  | setCommand clientId freshToken command next =>
    unfold Action.run
    rw [after_silently]
    exact applySetCommand_followsLedger hs freshToken command next
  | state clientId command forwardDelay => exact followsLedger_of_keeps _ s
  | chat clientId message framesFit => exact followsLedger_of_keeps _ s
  | list clientId => exact followsLedger_of_keeps _ s
  | tls clientId startTls contextAvailable => exact followsLedger_of_keeps _ s
  | fencedInput clientId => exact followsLedger_of_keeps _ s
  | disconnect clientId => exact followsLedger_of_onlyDiscards timeoutDisconnectMessages_discards
  | pruneMemberships => exact followsLedger_of_discards .refl
  | pruneTombstones => exact followsLedger_of_discards .refl
  | persistActivity =>
    have hsame := s.persistentRooms_persistActivity s.currentTimeSeconds
    show FollowsLedger none s.persistentRooms
      (s.persistOccupiedRoomActivityIfDueAtForAllRooms s.currentTimeSeconds).persistentRooms
    rw [hsame]
    exact followsLedger_of_discards .refl
  | expireRoom roomName => exact followsLedger_of_discards (discardRoom_discards s roomName)
  | duePrepare roomName =>
    unfold Action.run
    rw [after_get_bind]
    exact followsLedger_of_keeps _ s
  | dueStarted roomName => exact followsLedger_of_keeps _ s
  | dueBuffering roomName =>
    unfold Action.run
    rw [after_get_bind]
    exact followsLedger_of_keeps _ s
  | dueTimeout clientId => exact followsLedger_of_onlyDiscards timeoutDueClient_discards
  | dueTick clientId =>
    unfold Action.run
    rw [after_get_bind]
    exact followsLedger_of_onlyDiscards (tickDueClient_discards s.currentTimeSeconds)

/-! ### Owners of rooms that stay -/

/-- A creation is of a room that did not count. -/
theorem Action.creation_new {action : Action} {creation : QuotaCreation String String Seconds}
    (h : action.creation s = some creation) : ¬ s.persistentRooms.Counts creation.resource := by
  cases action with
  | setCommand clientId freshToken command next =>
    cases command with
    | playlistChange files =>
      obtain ⟨session, -, hcreation⟩ := Option.bind_eq_some_iff.mp h
      unfold ServerRuntime.playlistCreation at hcreation
      dsimp only at hcreation
      split at hcreation
      · next haccepted =>
        cases hcreation
        rw [Bool.and_eq_true] at haccepted
        obtain ⟨-, -, -, -, hnone⟩ := (needsCreation_iff _ _ _).mpr haccepted.2
        rw [s.persistentRooms_ensureRoomState] at hnone
        exact fun hcounts => hcounts.1 hnone
      · cases hcreation
    | _ => cases h
  | _ => cases h

/-- A room that counts before and after an action keeps its owner. -/
theorem Action.owner_kept (action : Action) (hs : Seats s) {room : String}
    (hbefore : s.persistentRooms.Counts room)
    (hafter : (after action.run s).persistentRooms.Counts room) :
    (after action.run s).persistentRoomOwnerByRoom[room]? =
      s.persistentRoomOwnerByRoom[room]? := by
  obtain ⟨-, hledger⟩ := action.followsLedger hs
  obtain ⟨hfinite, hruns⟩ := hledger s.counts_finite
  apply (hruns s.ledger [] .start).owner_kept hafter
  intro creation hcreation hroom
  rw [List.nil_append, Option.mem_toList] at hcreation
  exact action.creation_new hcreation (hroom ▸ hbefore)

/-! ### Runs -/

/-- A run, with the creations of its actions in order. -/
inductive CreationRun (s₀ : ServerRuntime) :
    List (QuotaCreation String String Seconds) → ServerRuntime → Prop
  | start : CreationRun s₀ [] s₀
  | act {log : List (QuotaCreation String String Seconds)} {s : ServerRuntime} (action : Action)
      (clock : Clock) (run : CreationRun s₀ log s) (h : s.clock.le clock) :
      CreationRun s₀ (log ++ (action.creation { s with clock }).toList) (action.next clock s)

theorem CreationRun.seats {s₀ s : ServerRuntime} {log : List (QuotaCreation String String Seconds)}
    (h : CreationRun s₀ log s) (hstart : Seats s₀) : Seats s := by
  induction h with
  | start => exact hstart
  | act action clock _ hclock ih => exact (Step.act _ action clock hclock).seats ih

/-- **A run of the server is a run of the ledger**, under the quota it was started with. -/
theorem CreationRun.ledger {s₀ s : ServerRuntime}
    {log : List (QuotaCreation String String Seconds)} (hstart : Seats s₀)
    (h : CreationRun s₀ log s) :
    s.persistentRooms.quota = s₀.persistentRooms.quota
      ∧ QuotaLedger.Run s₀.persistentRooms.quota s₀.ledger log s.ledger := by
  suffices hall : Seats s ∧ s.persistentRooms.quota = s₀.persistentRooms.quota
      ∧ QuotaLedger.Run s₀.persistentRooms.quota s₀.ledger log s.ledger from hall.2
  induction h with
  | start => exact ⟨hstart, rfl, .start⟩
  | @act log s action clock run hclock ih =>
    obtain ⟨hs, hquota, hrun⟩ := ih
    have hread : Seats { s with clock } := hs.quiet (quiet_clock s clock)
    refine ⟨(Step.act s action clock hclock).seats hs, ?_⟩
    have hstep := action.followsLedger hread
    obtain ⟨hkept, hledger⟩ := hstep
    refine ⟨hkept.trans hquota, ?_⟩
    obtain ⟨hfinite, hruns⟩ := hledger s.counts_finite
    have hcreated := hruns s₀.ledger log
    rw [← hquota]
    rw [← hquota] at hrun
    exact hcreated hrun

end Sorotte.Server
