import Sorotte.Membership.MessageWalks

/-! # Readiness projections and Set batches

  What coherent seats mean to a client: the flags it is shown are the ones its
  record derives, and a Set message is applied as a whole or not at all.
-/

namespace Sorotte.Server

open Sorotte.Framework Sorotte.Framework.Prog

variable {s : ServerRuntime}

/-! ### Projections -/

theorem FlagsDerived.ready_iff {generation : Option Nat} {record : ParticipantReadiness}
    (h : FlagsDerived generation record) :
    record.roomReady = true ↔
      record.userIntent = .ready ∧ record.terminalTechnicalBlock = none := by
  rw [h.ready, Bool.and_eq_true, beq_iff_eq, Option.isNone_iff_eq_none]

theorem playableForGeneration_iff {state : TechnicalPlayability} {generation : Option Nat} :
    playableForGeneration state generation = true ↔
      ∃ current, generation = some current ∧ state = .playable current := by
  unfold playableForGeneration
  constructor
  · intro h
    split at h
    · next playable =>
      exact ⟨playable, by simpa using Eq.symm (beq_iff_eq.mp h), rfl⟩
    · cases h
  · rintro ⟨current, rfl, rfl⟩
    simp

theorem FlagsDerived.eligible_iff {generation : Option Nat} {record : ParticipantReadiness}
    (h : FlagsDerived generation record) :
    record.startEligible = true ↔ record.participationRole = .required ∧ record.roomReady = true
      ∧ ∃ current, generation = some current ∧ record.technicalState = .playable current := by
  rw [h.eligible, Bool.and_eq_true, Bool.and_eq_true, beq_iff_eq, playableForGeneration_iff,
    and_assoc]

/-- A refresh reconciles the cohort, and what it does after that is quiet. -/
theorem refreshCohort_quiet (s : ServerRuntime) (room : String) :
    Quiet (s.reconcileMixedReadinessCohortState room)
      (after (refreshMixedReadinessCohort room) s) := by
  have hrefreshed : Succeeds (fun _ t => Quiet (s.reconcileMixedReadinessCohortState room) t) s
      (refreshMixedReadinessCohort room) := by
    refine succeeds_get_bind ?_
    extract_lets changed
    refine succeeds_modify_from (succeeds_get_bind ?_)
    extract_lets barrierChanged
    split
    · exact succeeds_pure _ _
    · refine succeeds_modify_bind (ServerRuntime.quiet_refreshReadinessGatePhase _ room)
        (succeeds_get_bind ?_)
      exact succeeds_bind (maybeCommitReadinessGate_quiet _ room) fun _ t _ => succeeds_pure t _
  obtain ⟨out, t, hrun, hquiet⟩ := hrefreshed
  rw [after, hrun]
  exact hquiet

/-- A refreshed cohort has exactly the roles its sessions entitle it to. -/
theorem refreshed_role (hs : Seats s) {room username : String} {p : ServerReadinessParticipant}
    {session : ServerSession} (hp : s.readinessParticipant room username = some p)
    (hsession : s.sessions[p.clientId]? = some session) (hroom : session.room = room)
    (hname : session.username = username) (hcapable : session.capabilities.readinessV2 = true) :
    ∃ refreshed,
      (after (refreshMixedReadinessCohort room) s).readinessParticipant room username =
        some refreshed
      ∧ refreshed.clientId = p.clientId
      ∧ (refreshed.record.participationRole = .required ↔
        session.capabilities.playbackBarrierV1 = true
          ∧ s.playbackBarrierFencedClients.contains p.clientId = false) := by
  obtain ⟨k, hk, hseat⟩ := Option.bind_eq_some_iff.mp hp
  have hedits := editsCoordinator_reconcile (hs.enabled room k hk) hk
  have hdesired : s.desiredParticipationRole room username p = .required ↔
      session.capabilities.playbackBarrierV1 = true
        ∧ s.playbackBarrierFencedClients.contains p.clientId = false := by
    unfold ServerRuntime.desiredParticipationRole
    rw [hsession]
    cases s.playbackBarrierFencedClients.contains p.clientId <;> simp [hroom, hname, hcapable]
  rw [(refreshCohort_quiet s room).same.participant, hedits.participant, if_pos rfl, hk,
    Option.bind_some]
  unfold ServerRuntime.reconciledCoordinator
  dsimp only
  rw [Std.ExtTreeMap.getElem?_map, hseat]
  -- a role that is the desired one already is left alone
  by_cases hrole : p.record.participationRole = s.desiredParticipationRole room username p
  · refine ⟨p, ?_, rfl, by rw [hrole]; exact hdesired⟩
    rw [Option.map_some, if_pos hrole]
  · rw [Option.map_some, if_neg hrole]
    exact ⟨_, rfl, rfl, hdesired⟩

/-- **Readiness projections are coherent**, in every reachable state and for
    every participant of every coordinator. -/
theorem readiness_projection_coherent (h : Reachable s) (room username : String)
    (p : ServerReadinessParticipant) (hp : s.readinessParticipant room username = some p) :
    (p.record.roomReady = true ↔
      p.record.userIntent = .ready ∧ p.record.terminalTechnicalBlock = none)
    ∧ (p.record.startEligible = true ↔
      p.record.participationRole = .required ∧ p.record.roomReady = true
        ∧ ∃ generation, s.readinessMediaGeneration room = some generation
          ∧ p.record.technicalState = .playable generation)
    ∧ (∃ session, s.sessions[p.clientId]? = some session ∧ session.room = room
      ∧ session.username = username ∧ session.capabilities.readinessV2 = true
      ∧ ∃ refreshed,
        (after (refreshMixedReadinessCohort room) s).readinessParticipant room username =
          some refreshed
        ∧ refreshed.clientId = p.clientId
        ∧ (refreshed.record.participationRole = .required ↔
          session.capabilities.playbackBarrierV1 = true
            ∧ s.playbackBarrierFencedClients.contains p.clientId = false))
    ∧ s.storedUserReady username room = some p.record.roomReady := by
  have hs := h.seats
  have hderived := hs.derived room username p hp
  obtain ⟨session, hsession, hroom, hname, hcapable⟩ := hs.seated room username p hp
  have hcapable := hcapable.resolve_right id
  exact ⟨hderived.ready_iff, hderived.eligible_iff,
    ⟨session, hsession, hroom, hname, hcapable,
      refreshed_role hs hp hsession hroom hname hcapable⟩,
    hs.projected room username p hp id⟩

/-- alice joins a room with readiness support. -/
def readyClient : ServerRuntime :=
  let join : Action := .hello "c1"
    { username := "alice", room := "movies", version := "1.7.0",
      capabilities := { readinessV2 := true } } true "token"
  join.next {} emptyServer

theorem readyClient_reachable : Reachable readyClient :=
  ⟨emptyServer, emptyServer_initial, .single (.act _ _ {} (by decide +kernel))⟩

theorem readiness_projection_coherent_alice :
    ∃ p, readyClient.readinessParticipant "movies" "alice" = some p
      ∧ readyClient.storedUserReady "alice" "movies" = some p.record.roomReady := by
  have hseat : (readyClient.readinessParticipant "movies" "alice").isSome = true := by
    decide +kernel
  obtain ⟨p, hp⟩ := Option.isSome_iff_exists.mp hseat
  exact ⟨p, hp,
    (readiness_projection_coherent readyClient_reachable "movies" "alice" p hp).2.2.2⟩

/-! ### Set messages -/

/-- **Set messages are all or nothing**: in every reachable state a Set message of any client with
    any commands is refused, before its first mutation, for want of a session or because a frame
    of it does not fit; any other is applied, each of its commands in turn and with success. -/
theorem set_batch_atomic (h : Reachable s) (clientId : String)
    (commands : List (ServerSetCommand × String)) (framesFit : Bool) :
    (s.sessions.contains clientId = false →
      handleSet clientId commands framesFit s = (.error (.missingSession clientId), s))
    ∧ (s.sessions.contains clientId = true → framesFit = false →
      handleSet clientId commands framesFit s = (.error .frameCapacity, s))
    ∧ (s.sessions.contains clientId = true → framesFit = true →
      ∃ outbound s', handleSet clientId commands framesFit s = (.ok outbound, s')
        ∧ runSetCommands clientId commands s = (.ok outbound, s')
        ∧ Applied clientId commands s outbound s') := by
  unfold handleSet
  rw [get_bind_run]
  refine ⟨fun hgone => ?_, fun hlive hfits => ?_, fun hlive hfits => ?_⟩
  · rw [hgone]
    rfl
  · rw [hlive, hfits]
    rfl
  · have hsession : (s.sessions[clientId]?).isSome = true := by
      rw [← Std.ExtTreeMap.contains_eq_isSome_getElem?]
      exact hlive
    obtain ⟨outbound, s', hrun, happlied⟩ := runSetCommands_applied commands h.seats hsession
    refine ⟨outbound, s', ?_, hrun, happlied⟩
    rw [hlive, hfits]
    exact hrun

/-- alice changes rooms and says that she is ready. -/
theorem set_batch_atomic_alice :
    ∃ outbound s',
      handleSet "c1" [(.room "lobby", "token"), (.ready true true none, "")] true readyClient =
        (.ok outbound, s')
      ∧ Applied "c1" [(.room "lobby", "token"), (.ready true true none, "")] readyClient outbound
        s' := by
  obtain ⟨outbound, s', hrun, -, happlied⟩ :=
    (set_batch_atomic readyClient_reachable "c1"
      [(.room "lobby", "token"), (.ready true true none, "")] true).2.2 (by decide +kernel) rfl
  exact ⟨outbound, s', hrun, happlied⟩

end Sorotte.Server
