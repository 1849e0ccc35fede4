import Sorotte.Refinement.Policy

/-! # Refinement: the playback barrier

  Acknowledgements, commits, timeouts and retirements of a start.  The centre
  is `commitStart_step`: whatever the code checked before a commit is what the
  ideal server asks of one.
-/

namespace Sorotte.Server

open Sorotte.Framework Sorotte.Framework.Prog Sorotte.Ideal

/-! ### Participants -/

theorem noNewStarted_mapStatus (b : RoomPlaybackBarrier)
    (f : PlaybackBarrierParticipantStatus → PlaybackBarrierParticipantStatus)
    (hf : ∀ status, (f status).phase = .started → status.phase = .started) :
    NoNewStarted b (b.mapStatus f) := by
  intro clientId p' hp'
  simp only [RoomPlaybackBarrier.mapStatus, Std.ExtTreeMap.getElem?_map,
    Option.map_eq_some_iff] at hp'
  obtain ⟨p, hp, rfl⟩ := hp'
  exact ⟨p, hp, hf p.status⟩

theorem noNewStarted_refl (b : RoomPlaybackBarrier) : NoNewStarted b b :=
  fun _ p hp => ⟨p, hp, id⟩

theorem settledAtCommit_started (timedOut : Bool) (status : PlaybackBarrierParticipantStatus)
    (h : (ServerRuntime.settledAtCommit timedOut status).phase = .started) :
    status.phase = .started := by
  unfold ServerRuntime.settledAtCommit at h
  split at h
  · exact h
  · split at h
    · exact h
    · cases timedOut <;> simp at h

/-- A status change that only ever ends a participant's wait. -/
theorem prepareTimedOutStatus_started (status : PlaybackBarrierParticipantStatus)
    (h : (prepareTimedOutStatus status).phase = .started) : status.phase = .started := by
  unfold prepareTimedOutStatus at h
  split at h
  · exact h
  · cases h

theorem startedTimedOutStatus_started (status : PlaybackBarrierParticipantStatus)
    (h : (startedTimedOutStatus status).phase = .started) : status.phase = .started := by
  unfold startedTimedOutStatus at h
  split at h
  · cases h
  · cases h
  · exact h

theorem userInterruptedStatus_started (status : PlaybackBarrierParticipantStatus)
    (h : (userInterruptedStatus status).phase = .started) : status.phase = .started := by
  unfold userInterruptedStatus at h
  split at h
  · assumption
  · cases h

theorem supersededStatus_started (status : PlaybackBarrierParticipantStatus)
    (h : (supersededStatus status).phase = .started) : status.phase = .started := by
  cases h

namespace ServerRuntime

/-! ### What a commit has checked -/

section guards

variable {s : ServerRuntime} {room : String} {coordinator : RoomReadinessCoordinator}

theorem mem_requiredParticipants (coordinator : RoomReadinessCoordinator) (username : String)
    (p : ServerReadinessParticipant) :
    (username, p) ∈ requiredParticipants coordinator ↔
      coordinator.participants[username]? = some p ∧ p.record.participationRole = .required := by
  simp [requiredParticipants, Std.ExtTreeMap.mem_toList_iff_getElem?_eq_some]

/-- Under the strict policy a start is blocked by any member without both
    capabilities. -/
theorem capable_of_not_blocked (hroom : s.roomReadiness[room]? = some coordinator)
    (h : s.readinessMixedRoomBlocksStart room = false)
    (hpolicy : s.mixedReadinessPolicy = .requireAllMembers) (clientId : String)
    (session : ServerSession) (hsession : s.sessions[clientId]? = some session)
    (hin : session.room = room) (hfenced : clientId ∉ s.playbackBarrierFencedClients) :
    session.capabilities.readinessV2 = true ∧ session.capabilities.playbackBarrierV1 = true := by
  have hcontains : s.roomReadiness.contains room = true := by
    rw [Std.ExtTreeMap.contains_eq_isSome_getElem?, hroom]
    rfl
  have hnone : ∀ entry ∈ s.sessions.toList, ¬ (entry.2.room == room
      && !s.playbackBarrierFencedClients.contains entry.1
      && !(entry.2.capabilities.readinessV2 && entry.2.capabilities.playbackBarrierV1)) = true := by
    simpa [readinessMixedRoomBlocksStart, hpolicy, hcontains] using h
  have hentry := hnone (clientId, session)
    (Std.ExtTreeMap.mem_toList_iff_getElem?_eq_some.mpr hsession)
  have hfenced' : s.playbackBarrierFencedClients.contains clientId = false :=
    Bool.eq_false_iff.mpr fun hc => hfenced (Std.ExtTreeSet.contains_iff_mem.mp hc)
  simpa [hin, hfenced'] using hentry

/-- The cached cohort check, read back into facts about the room. -/
theorem cohort_of_startEligible (henabled : s.readinessEnabled = true)
    (hroom : s.roomReadiness[room]? = some coordinator) {b : RoomPlaybackBarrier}
    (hbarrier : s.roomPlaybackBarriers[room]? = some b)
    (h : s.readinessRequiredCohortStartEligible room = true) :
    s.readinessMixedRoomBlocksStart room = false ∧
    (∃ (username : String) (p : ServerReadinessParticipant),
      coordinator.participants[username]? = some p ∧ p.record.participationRole = .required) ∧
    ∀ (username : String) p, coordinator.participants[username]? = some p →
      p.record.participationRole = .required →
      p.record.startEligible = true ∧ p.clientId ∈ b.participants ∧
        ∃ session, s.sessions[p.clientId]? = some session ∧ session.room = room := by
  simp only [readinessRequiredCohortStartEligible, henabled, hroom, hbarrier] at h
  cases hmixed : s.readinessMixedRoomBlocksStart room with
  | true => simp [hmixed] at h
  | false =>
    simp only [hmixed, Bool.not_true, Bool.false_eq_true, if_false, Bool.and_eq_true,
      List.all_eq_true, Bool.not_eq_true', List.isEmpty_eq_false_iff_exists_mem] at h
    obtain ⟨⟨⟨username, p⟩, hmem⟩, hall⟩ := h
    refine ⟨rfl, ⟨username, p, (mem_requiredParticipants _ _ _).mp hmem⟩, ?_⟩
    intro username p hp hrole
    have hentry := hall (username, p) ((mem_requiredParticipants _ _ _).mpr ⟨hp, hrole⟩)
    obtain ⟨⟨heligible, hcontains⟩, hsession⟩ := hentry
    refine ⟨heligible, by simpa using hcontains, ?_⟩
    cases hs : s.sessions[p.clientId]? with
    | none => simp [hs] at hsession
    | some session =>
      simp [hs] at hsession
      exact ⟨session, rfl, hsession.1.1⟩

/-- A participant that the code counts as ready. -/
theorem readyParticipant_of_isReady (snapshot : CommitSnapshot)
    (hsnapshot : snapshot.sessions = s.sessions) (clientId : String)
    (p : RoomPlaybackBarrierParticipant) (h : s.participantIsReady room clientId p = true) :
    readyParticipant room snapshot (s.readinessGoverned room = true) clientId p := by
  simp only [participantIsReady, Bool.and_eq_true, beq_iff_eq, Bool.or_eq_true,
    Bool.not_eq_true'] at h
  refine ⟨h.1, fun hgoverned => ?_⟩
  rcases h.2 with hfree | hsession
  · rw [hgoverned] at hfree
    cases hfree
  · rw [hsnapshot]
    cases hs : s.sessions[clientId]? with
    | none => simp [hs] at hsession
    | some session =>
      simp [hs] at hsession
      exact ⟨session, rfl, hsession.1.1.1⟩

/-- The policy check, read back into facts about the participants. -/
theorem policyMet_of_satisfied (snapshot : CommitSnapshot)
    (hsnapshot : snapshot.sessions = s.sessions)
    (hbarrier : s.roomPlaybackBarriers[room]? = some snapshot.barrier)
    (h : s.playbackBarrierPolicySatisfied room = true) :
    PolicyMet room snapshot (s.readinessGoverned room = true) := by
  simp only [playbackBarrierPolicySatisfied, hbarrier, Bool.and_eq_true] at h
  have hpolicy := h.2
  unfold PolicyMet
  cases hkind : snapshot.barrier.prepare.policy with
  | allEligible =>
    simp only [hkind, List.all_eq_true, Bool.or_eq_true, beq_iff_eq] at hpolicy
    intro clientId p hp
    have hentry := hpolicy (clientId, p) (Std.ExtTreeMap.mem_toList_iff_getElem?_eq_some.mpr hp)
    exact hentry.imp id (readyParticipant_of_isReady snapshot hsnapshot clientId p)
  | controller =>
    simp only [hkind] at hpolicy
    cases hp : snapshot.barrier.participants[snapshot.barrier.initiatorClientId]? with
    | none => simp [hp] at hpolicy
    | some p =>
      simp only [hp, Option.any_some] at hpolicy
      exact ⟨p, rfl, readyParticipant_of_isReady snapshot hsnapshot _ p hpolicy⟩
  | quorum =>
    intro hquorum
    simp only [hkind, decide_eq_true_eq] at hpolicy
    have hlength := hquorum.trans hpolicy
    obtain ⟨⟨clientId, p⟩, hmem⟩ := List.exists_mem_of_length_pos hlength
    rw [List.mem_filter] at hmem
    exact ⟨clientId, p, Std.ExtTreeMap.mem_toList_iff_getElem?_eq_some.mp hmem.1,
      readyParticipant_of_isReady snapshot hsnapshot clientId p hmem.2⟩

theorem policyMet_imp {snapshot : CommitSnapshot} {governed governed' : Prop}
    (h : PolicyMet room snapshot governed) (himp : governed' → governed) :
    PolicyMet room snapshot governed' := by
  have hready : ∀ clientId p, readyParticipant room snapshot governed clientId p →
      readyParticipant room snapshot governed' clientId p :=
    fun clientId p hp => ⟨hp.1, fun hg => hp.2 (himp hg)⟩
  unfold PolicyMet at h ⊢
  cases hkind : snapshot.barrier.prepare.policy with
  | allEligible =>
    simp only [hkind] at h ⊢
    exact fun clientId p hp => (h clientId p hp).imp id (hready clientId p)
  | controller =>
    simp only [hkind] at h ⊢
    obtain ⟨p, hp, hr⟩ := h
    exact ⟨p, hp, hready _ p hr⟩
  | quorum =>
    simp only [hkind] at h ⊢
    intro hquorum
    obtain ⟨clientId, p, hp, hr⟩ := h hquorum
    exact ⟨clientId, p, hp, hready clientId p hr⟩

end guards

/-! ### The commit -/

/-- What makes a preparing start commit: its deadline, or a satisfied policy
    that somebody or some coordinator brought about. -/
def CommitTriggered (s : ServerRuntime) (room : String) (timedOut : Bool) : Prop :=
  timedOut = true ∨ s.playbackBarrierPolicySatisfied room = true ∧
    ((∃ coordinator, s.roomReadiness[room]? = some coordinator) ∨
      ∀ b, s.roomPlaybackBarriers[room]? = some b → ∃ clientId, clientId ∈ b.participants)

/-- What `commitStart` records of the state it commits in. -/
def commitSnapshot (s : ServerRuntime) (room : String) (b : RoomPlaybackBarrier)
    (timedOut : Bool) (now : Seconds) : CommitSnapshot :=
  { timedOut, barrier := b, coordinator := s.roomReadiness[room]?, sessions := s.sessions
    fencedClients := s.playbackBarrierFencedClients
    mixedReadinessPolicy := s.mixedReadinessPolicy, payload := s.commitPayload room b now }

theorem readinessGoverned_of_some {s : ServerRuntime} {room : String}
    {coordinator : RoomReadinessCoordinator} (henabled : s.readinessEnabled = true)
    (hroom : s.roomReadiness[room]? = some coordinator) : s.readinessGoverned room = true := by
  rw [readinessGoverned, henabled, Std.ExtTreeMap.contains_eq_isSome_getElem?, hroom]
  rfl

theorem governedStart_of_not_blocked (s : ServerRuntime) (room : String) (b : RoomPlaybackBarrier)
    (timedOut : Bool) (now : Seconds) (hbarrier : s.roomPlaybackBarriers[room]? = some b)
    (hblocked : s.commitBlocked room b = false) (henabled : s.readinessEnabled = true)
    (coordinator : RoomReadinessCoordinator)
    (hroom : s.roomReadiness[room]? = some coordinator) :
    GovernedStart room (s.commitSnapshot room b timedOut now) coordinator := by
  have hgoverned := readinessGoverned_of_some henabled hroom
  have hchecks : s.playbackBarrierPolicySatisfied room = true ∧
      s.readinessGateOwnsPause room b.prepare.mediaGeneration = true := by
    simpa [commitBlocked, hgoverned] using hblocked
  have howner : coordinator.pauseOwner = .readinessStartGate b.prepare.mediaGeneration := by
    simpa [readinessGateOwnsPause, hroom] using hchecks.2
  have heligible : s.readinessRequiredCohortStartEligible room = true := by
    have hsatisfied := hchecks.1
    simp only [playbackBarrierPolicySatisfied, hbarrier, Bool.and_eq_true] at hsatisfied
    exact hsatisfied.1
  obtain ⟨hmixed, hnonempty, hrequired⟩ :=
    cohort_of_startEligible henabled hroom hbarrier heligible
  refine ⟨howner, ?_, hnonempty, hrequired, ?_, ?_⟩
  · simp [commitSnapshot, commitPayload, readinessRevisionForCommit, henabled, hroom, howner]
  · intro hpolicy clientId session hsession hin hfenced
    exact capable_of_not_blocked hroom hmixed hpolicy clientId session hsession hin hfenced
  · exact policyMet_imp (policyMet_of_satisfied (s.commitSnapshot room b timedOut now) rfl hbarrier
      hchecks.1) fun _ => hgoverned

theorem lawfulCommit (s : ServerRuntime) (room : String) (b : RoomPlaybackBarrier)
    (timedOut : Bool) (now : Seconds) (hbarrier : s.roomPlaybackBarriers[room]? = some b)
    (hphase : b.phase = .preparing) (hblocked : s.commitBlocked room b = false)
    (htrigger : s.CommitTriggered room timedOut) :
    LawfulCommit s.ideal room (s.commitSnapshot room b timedOut now) := by
  refine ⟨hbarrier, hphase, fun _ => rfl, rfl, rfl, ?_, ?_, ?_, ?_⟩
  · show s.roomReadiness[room]?.map _ = (s.roomReadiness[room]?.map _).map _
    rw [Option.map_map]
    rfl
  · intro coordinator hroom
    refine ⟨coordinator.ideal, ?_, fun username => rfl⟩
    show s.roomReadiness[room]?.map _ = _
    rw [show s.roomReadiness[room]? = some coordinator from hroom]
    rfl
  · exact fun henabled coordinator hroom =>
      governedStart_of_not_blocked s room b timedOut now hbarrier hblocked henabled coordinator hroom
  · intro hnone
    have hroom : s.roomReadiness[room]? = none := hnone
    rcases htrigger with htimeout | ⟨hsatisfied, hcause⟩
    · exact .inl htimeout
    · refine .inr ⟨policyMet_imp (policyMet_of_satisfied (s.commitSnapshot room b timedOut now) rfl
        hbarrier hsatisfied) False.elim, ?_⟩
      rcases hcause with ⟨coordinator, hsome⟩ | hparticipants
      · rw [hroom] at hsome
        cases hsome
      · exact hparticipants b hbarrier

theorem commits_committedBarrier (s : ServerRuntime) (room : String) (b : RoomPlaybackBarrier)
    (timedOut : Bool) (now : Seconds) :
    Commits b (s.committedBarrier room b timedOut now) (s.commitPayload room b now) where
  prepare := rfl
  commit := rfl
  stateRevision := rfl
  phase := rfl
  participants := noNewStarted_mapStatus b _ (settledAtCommit_started timedOut)

theorem commitStart_step (s : ServerRuntime) (room : String) (b : RoomPlaybackBarrier)
    (timedOut : Bool) (now : Seconds) (hbarrier : s.roomPlaybackBarriers[room]? = some b)
    (hphase : b.phase = .preparing) (hblocked : s.commitBlocked room b = false)
    (htrigger : s.CommitTriggered room timedOut) :
    step s.ideal (.commit room (s.commitSnapshot room b timedOut now)
        (s.committedBarrier room b timedOut now))
      (s.commitStart room b timedOut now).ideal := by
  refine ⟨⟨s.lawfulCommit room b timedOut now hbarrier hphase hblocked htrigger,
    s.commits_committedBarrier room b timedOut now⟩, ?_⟩
  have hstored := ideal_setBarriers
    { s with
      nextPlaybackBarrierRevision := s.nextPlaybackBarrierRevision + 1
      history := .committed room (s.commitSnapshot room b timedOut now) :: s.history } room
    (some (s.committedBarrier room b timedOut now)) _ (lookup_insert _ _ _)
  have htransported := ideal_establishRoomTransport
    { s with
      roomPlaybackBarriers := s.roomPlaybackBarriers.insert room
        (s.committedBarrier room b timedOut now)
      nextPlaybackBarrierRevision := s.nextPlaybackBarrierRevision + 1
      history := .committed room (s.commitSnapshot room b timedOut now) :: s.history } room
    { position := b.prepare.targetPosition
      paused := false
      setBy := some b.initiatorUsername
      updatedAtSeconds := now }
  rw [hstored] at htransported
  simp only [commitStart, effect]
  cases hrevision : (s.commitPayload room b now).readinessRevision with
  | none =>
    rw [if_neg (by simp [commitSnapshot, hrevision])]
    exact htransported
  | some revision =>
    rw [if_pos (by simp [commitSnapshot, hrevision])]
    dsimp only
    rw [ideal_markReadinessGateCommitted]
    exact congrArg (State.setOwner · room .none) htransported

end ServerRuntime

/-- The commit of a room's start. -/
def commitLabel (room : String) : Label → Prop
  | .commit r _ _ => r = room
  | _ => False

theorem commitPlaybackBarrier_refines (s : ServerRuntime) (room : String) (timedOut : Bool)
    (now : Seconds) (h : s.CommitTriggered room timedOut) :
    Refines (commitLabel room) s (commitPlaybackBarrier room timedOut now) := by
  refine follows_get_bind ?_
  split
  · exact follows_pure _ _
  · next b hbarrier =>
    split
    · exact follows_pure _ _
    · next hguard =>
      have hchecks : b.phase = .preparing ∧ s.commitBlocked room b = false := by
        simpa using hguard
      have hstep := s.commitStart_step room b timedOut now hbarrier hchecks.1 hchecks.2 h
      refine follows_modify_bind (.single ⟨_, ?_, hstep⟩) ?_
      · rfl
      refine follows_get_bind ?_
      refine refines_bind (Invisible.refines (forcedStateFanout_invisible ..)) fun _ _ => ?_
      exact follows_get_bind (follows_pure _ _)

theorem maybeCommitReadinessGate_refines (s : ServerRuntime) (room : String)
    (coordinator : RoomReadinessCoordinator)
    (hroom : s.roomReadiness[room]? = some coordinator) :
    Refines (commitLabel room) s (maybeCommitReadinessGate room) := by
  refine follows_get_bind ?_
  split
  · next h =>
    exact commitPlaybackBarrier_refines s room false _ (.inr ⟨h.2, .inl ⟨coordinator, hroom⟩⟩)
  · exact follows_pure _ _

/-! ### Acknowledgements -/

/-- A MediaReady of a participant, which may complete the policy. -/
def readyLabel (clientId room : String) : Label → Prop
  | .ready c r _ _ => c = clientId ∧ r = room
  | l => commitLabel room l

theorem mem_mapParticipant (b : RoomPlaybackBarrier) (clientId other : String)
    (f : PlaybackBarrierParticipantStatus → PlaybackBarrierParticipantStatus) :
    other ∈ (b.mapParticipant clientId f).participants ↔ other ∈ b.participants := by
  simp [RoomPlaybackBarrier.mapParticipant, Std.ExtTreeMap.mem_modify]

theorem updateBarrier_lookup (s : ServerRuntime) (room : String) (b : RoomPlaybackBarrier)
    (f : RoomPlaybackBarrier → RoomPlaybackBarrier)
    (h : s.roomPlaybackBarriers[room]? = some b) :
    (s.updateBarrier room f).roomPlaybackBarriers[room]? = some (f b) := by
  simp [ServerRuntime.updateBarrier, h]

theorem ideal_updateBarrier_some (s : ServerRuntime) (room : String) (b : RoomPlaybackBarrier)
    (f : RoomPlaybackBarrier → RoomPlaybackBarrier)
    (h : s.roomPlaybackBarriers[room]? = some b) :
    (s.updateBarrier room f).ideal = s.ideal.setBarrier room (some (f b)) := by
  rw [ServerRuntime.ideal_updateBarrier, h]
  rfl

theorem recordPlaybackBarrierReady_refines (s : ServerRuntime) (clientId : String)
    (session : ServerSession) (hsession : s.sessions[clientId]? = some session)
    (ready : MediaReadyPayload) :
    Refines (readyLabel clientId session.room) s (recordPlaybackBarrierReady clientId ready) := by
  refine follows_get_bind ?_
  simp only [hsession]
  split
  · exact follows_pure _ _
  · next b hbarrier =>
    split
    · exact follows_pure _ _
    · next hguard =>
      have hchecks : (b.phase = .preparing ∧ ready.mediaGeneration = b.prepare.mediaGeneration) ∧
          clientId ∈ b.participants := by
        simp at hguard
        obtain ⟨⟨⟨_, hphase⟩, hgeneration⟩, hmem⟩ := hguard
        exact ⟨⟨hphase, hgeneration⟩, Std.ExtTreeMap.contains_iff_mem.mp hmem⟩
      have hmarked := ideal_updateBarrier_some s session.room b
        (·.mapParticipant clientId (readyStatus ready)) hbarrier
      refine follows_modify_bind (one_step (l := .ready clientId session.room b ready) ⟨rfl, rfl⟩
        ⟨hbarrier, hchecks.1.1, ⟨session, hsession, rfl⟩, hchecks.1.2, hchecks.2⟩ hmarked) ?_
      refine follows_get_bind ?_
      split
      · next hsatisfied =>
        refine (commitPlaybackBarrier_refines _ _ false _ (.inr ⟨hsatisfied, .inr ?_⟩)).weaken
          fun l hl => ?_
        · intro b' hb'
          rw [updateBarrier_lookup s session.room b _ hbarrier] at hb'
          obtain rfl := Option.some.inj hb'
          exact ⟨clientId, (mem_mapParticipant b clientId clientId _).mpr hchecks.2⟩
        · cases l <;> first | exact hl | exact hl.elim
      · exact follows_pure _ _

/-- A Started of a participant; the last one clears the gate. -/
def startedLabel (clientId room : String) : Label → Prop
  | .started c r _ _ _ => c = clientId ∧ r = room
  | .release r => r = room
  | _ => False

theorem recordPlaybackBarrierStarted_refines (s : ServerRuntime) (clientId : String)
    (session : ServerSession) (hsession : s.sessions[clientId]? = some session)
    (started : StartedAckPayload) :
    Refines (startedLabel clientId session.room) s
      (recordPlaybackBarrierStarted clientId started) := by
  refine follows_get_bind ?_
  simp only [hsession]
  cases hposition : started.observedPosition with
  | nonFinite => exact follows_pure _ _
  | finite observedPosition =>
    dsimp only
    split
    · exact follows_pure _ _
    · next b hbarrier =>
      split
      · exact follows_pure _ _
      · next hguard =>
        have hchecks : b.phase = .committed ∧
            started.mediaGeneration = b.prepare.mediaGeneration ∧
            some started.stateRevision = b.stateRevision ∧ clientId ∈ b.participants := by
          simp at hguard
          obtain ⟨⟨⟨⟨_, hphase⟩, hgeneration⟩, hrevision⟩, hmem⟩ := hguard
          exact ⟨hphase, hgeneration, hrevision, Std.ExtTreeMap.contains_iff_mem.mp hmem⟩
        obtain ⟨hphase, hgeneration, hrevision, hmem⟩ := hchecks
        refine follows_modify_bind (one_step
          (l := .started clientId session.room b started observedPosition) ⟨rfl, rfl⟩
          ⟨hbarrier, hphase, hgeneration, hrevision.symm, hmem⟩ ?_) ?_
        · have hstored := ServerRuntime.ideal_setBarriers s session.room
            (some (b.withStarted clientId observedPosition)) _ (lookup_insert _ _ _)
          have hrecord := congrArg (State.record ·
            ((if (b.withStarted clientId observedPosition).phase = .complete then
                [.becameComplete session.room (b.withStarted clientId observedPosition)] else []) ++
              [.startedAcknowledged session.room started.mediaGeneration started.stateRevision
                clientId])) hstored
          refine Eq.trans ?_ hrecord
          unfold ServerRuntime.acknowledgeStarted
          dsimp only
          split <;> rfl
        · refine follows_get_bind ?_
          split
          · refine refines_bind ?_ fun _ _ => follows_pure _ _
            exact (clearReadinessGate_refines _ session.room).weaken fun l hl => by rw [hl]; rfl
          · exact follows_pure _ _

/-! ### Timeouts and retirement -/

/-- The end of a room's start without its commit. -/
def settleLabel (room : String) : Label → Prop
  | .settle r _ _ => r = room
  | _ => False

theorem settles_mapStatus (b : RoomPlaybackBarrier) (b' : RoomPlaybackBarrier)
    (f : PlaybackBarrierParticipantStatus → PlaybackBarrierParticipantStatus)
    (hf : ∀ status, (f status).phase = .started → status.phase = .started)
    (hparticipants : b'.participants = (b.mapStatus f).participants)
    (hprepare : b'.prepare = b.prepare) (hcommit : b'.commit = b.commit)
    (hrevision : b'.stateRevision = b.stateRevision)
    (hphase : b'.phase = .degraded ∨ (b.phase = .preparing ∧ b'.phase = .awaitingDecision)) :
    Settles b b' := by
  refine ⟨hprepare, hcommit, hrevision, hphase, ?_⟩
  have h := noNewStarted_mapStatus b f hf
  unfold NoNewStarted at h ⊢
  rwa [hparticipants]

/-- An update of a barrier that settles it, if there is one. -/
theorem updateBarrier_settles (s : ServerRuntime) (room : String)
    (f : RoomPlaybackBarrier → RoomPlaybackBarrier)
    (h : ∀ b, s.roomPlaybackBarriers[room]? = some b → Settles b (f b)) :
    Relation.ReflTransGen (Steps (settleLabel room)) s.ideal (s.updateBarrier room f).ideal := by
  cases hbarrier : s.roomPlaybackBarriers[room]? with
  | none =>
    have hnone : s.ideal.barrier room = none := hbarrier
    rw [ServerRuntime.ideal_updateBarrier, hbarrier, Option.map_none, ← hnone, State.setBarrier,
      Function.update_eq_self]
  | some b =>
    rw [ideal_updateBarrier_some s room b f hbarrier]
    exact one_step (l := .settle room b (f b)) rfl ⟨hbarrier, h b hbarrier⟩ rfl

theorem barrier_phase {s : ServerRuntime} {room : String} {b : RoomPlaybackBarrier}
    {phase : PlaybackBarrierPhase} (hb : s.roomPlaybackBarriers[room]? = some b)
    (h : s.barrierPhase room = some phase) : b.phase = phase := by
  simpa [ServerRuntime.barrierPhase, hb] using h

theorem finishPrepareTimeoutWithoutCommit_refines (s : ServerRuntime) (room : String)
    (awaiting : Bool) :
    Refines (settleLabel room) s (finishPrepareTimeoutWithoutCommit room awaiting) := by
  refine follows_get_bind ?_
  split
  · next hphase =>
    refine follows_modify_bind (updateBarrier_settles s room _ fun b hb => ?_) (follows_gets _ _)
    refine settles_mapStatus b _ _ prepareTimedOutStatus_started rfl rfl rfl rfl ?_
    have hpreparing := barrier_phase hb hphase
    cases awaiting with
    | true => exact .inr ⟨hpreparing, rfl⟩
    | false => exact .inl rfl
  · exact follows_pure _ _

theorem finishDuePrepare_refines (s : ServerRuntime) (room : String) (now : Seconds) :
    Refines (fun l => settleLabel room l ∨ commitLabel room l) s (finishDuePrepare room now) := by
  have hfinish : ∀ t awaiting, Refines (fun l => settleLabel room l ∨ commitLabel room l) t
      (finishPrepareTimeoutWithoutCommit room awaiting) := fun t awaiting =>
    (finishPrepareTimeoutWithoutCommit_refines t room awaiting).weaken fun l hl => .inl hl
  have hdegraded : ∀ t reason, Refines (fun l => settleLabel room l ∨ commitLabel room l) t
      (markReadinessGateDegraded room reason) := fun t reason =>
    Invisible.refines (markReadinessGateDegraded_invisible t room reason)
  refine follows_get_bind ?_
  dsimp only
  split
  · split
    · exact refines_bind (hfinish _ _) fun _ _ =>
        refines_bind (hdegraded _ _) fun _ _ => follows_pure _ _
    · exact (commitPlaybackBarrier_refines s room true now (.inl rfl)).weaken fun l hl => .inr hl
  all_goals
    refine refines_bind (hfinish _ _) fun _ _ => ?_
    split
    · exact refines_bind (hdegraded _ _) fun _ _ => follows_pure _ _
    · exact follows_pure _ _

theorem finishDueStarted_refines (s : ServerRuntime) (room : String) :
    Refines (fun l => settleLabel room l ∨ l = .release room) s (finishDueStarted room) := by
  have hsettle := updateBarrier_settles s room
    (fun barrier => { barrier.mapStatus startedTimedOutStatus with phase := .degraded })
    fun b _ => settles_mapStatus b _ _ startedTimedOutStatus_started rfl rfl rfl rfl (.inl rfl)
  refine follows_modify_bind (Relation.ReflTransGen.mono
    (Steps.mono fun l hl => .inl hl) _ _ hsettle) (follows_gets_bind ?_)
  refine refines_bind ?_ fun _ _ => follows_pure _ _
  exact (clearReadinessGate_refines _ room).weaken fun l hl => .inr hl

theorem retireAwaitingPlaybackBarrierDecision_refines (s : ServerRuntime)
    (clientId room : String) :
    Refines (settleLabel room) s (retireAwaitingPlaybackBarrierDecision clientId room) := by
  refine follows_get_bind ?_
  dsimp only
  split
  · refine follows_modify_bind (updateBarrier_settles s room _ fun b _ => ?_) (follows_gets _ _)
    exact ⟨rfl, rfl, rfl, .inl rfl, noNewStarted_refl b⟩
  · exact follows_pure _ _

/-- A selection ends the room's start and forgets the policy's pause. -/
def retireLabel (room : String) : Label → Prop
  | .settle r _ _ | .relax r => r = room
  | _ => False

theorem ideal_updateControl_relax (s : ServerRuntime) (room : String)
    (f : RoomBufferingControl → RoomBufferingControl)
    (h : ∀ control, (f control).ideal = control.ideal.withPause false) :
    (s.updateControl room f).ideal = s.ideal.relax room := by
  rw [ServerRuntime.ideal_updateControl, State.relax]
  show _ = s.ideal.setPolicy room (Option.map _ (Option.map _ _))
  rw [Option.map_map, Option.map_map]
  congr 2
  funext control
  exact h control

theorem retirePlaybackCoordinationForSelection_refines (s : ServerRuntime) (room : String) :
    Refines (retireLabel room) s (retirePlaybackCoordinationForSelection room) := by
  have hsettle := updateBarrier_settles s room (fun barrier =>
    { barrier.mapStatus supersededStatus with phase := .degraded, startedDeadline := none })
    fun b _ => settles_mapStatus b _ _ supersededStatus_started rfl rfl rfl rfl (.inl rfl)
  refine follows_modify_bind (Relation.ReflTransGen.mono (Steps.mono fun l hl => ?_) _ _ hsettle)
    (follows_gets_bind ?_)
  · cases l <;> first | exact hl | exact hl.elim
  · refine follows_modify_bind (one_step (l := .relax room) rfl trivial
      (ideal_updateControl_relax _ room retiredControl fun _ => rfl)) ?_
    refine follows_get_bind ?_
    split <;> exact follows_pure _ _

/-! ### User pauses -/

/-- A committed start after an accepted user pause. -/
def interruptedBarrier (b : RoomPlaybackBarrier) : RoomPlaybackBarrier :=
  if b.phase = .committed then
    { b.mapStatus userInterruptedStatus with phase := .degraded, startedDeadline := none }
  else b

/-- A room whose policy and start leave its pause to a user. -/
def interruptedState (t : State) (room : String) : State :=
  (t.relax room).setBarrier room ((t.barrier room).map interruptedBarrier)

def interruptLabel (room : String) : Label → Prop
  | .settle r _ _ | .relax r => r = room
  | _ => False

theorem interruptedState_steps (t : State) (room : String) :
    Relation.ReflTransGen (Steps (interruptLabel room)) t (interruptedState t room) := by
  have hrelax : Relation.ReflTransGen (Steps (interruptLabel room)) t (t.relax room) :=
    one_step (l := .relax room) rfl trivial rfl
  apply hrelax.trans
  have hquiet : ∀ b, t.barrier room = b → (t.relax room).setBarrier room b = t.relax room := by
    intro b hb
    rw [State.setBarrier, ← hb]
    show { t.relax room with barrier := Function.update t.barrier room (t.barrier room) } = _
    rw [Function.update_eq_self]
    rfl
  unfold interruptedState
  cases hb : t.barrier room with
  | none => rw [Option.map_none, hquiet none hb]
  | some b =>
    by_cases hphase : b.phase = .committed
    · refine one_step (l := .settle room b (interruptedBarrier b)) rfl ⟨hb, ?_⟩ rfl
      rw [interruptedBarrier, if_pos hphase]
      exact settles_mapStatus b _ _ userInterruptedStatus_started rfl rfl rfl rfl (.inl rfl)
    · rw [Option.map_some, interruptedBarrier, if_neg hphase, hquiet _ hb]

/-- What a user's claim of a room's pause does. -/
def claimedState (t : State) (room actor : String) : State :=
  (interruptedState t room).setOwner room (.user actor)

def claimLabel (room actor : String) : Label → Prop
  | .claim r a => r = room ∧ a = actor
  | l => interruptLabel room l

theorem claimedState_steps (t : State) (room actor : String) (h : t.paused room = true) :
    Relation.ReflTransGen (Steps (claimLabel room actor)) t (claimedState t room actor) := by
  have hinterrupted : Relation.ReflTransGen (Steps (claimLabel room actor)) t
      (interruptedState t room) := by
    apply Relation.ReflTransGen.mono (Steps.mono _) _ _ (interruptedState_steps t room)
    intro l hl
    cases l <;> first | exact hl | exact hl.elim
  exact hinterrupted.trans (one_step (l := .claim room actor) ⟨rfl, rfl⟩ h rfl)

/-- Owners set later hide what clearing a gate did. -/
theorem ideal_clearReadinessGate_setOwner (s : ServerRuntime) (room : String)
    (owner : RoomPauseOwner) :
    (s.clearReadinessGate room).ideal.setOwner room owner = s.ideal.setOwner room owner := by
  rw [ServerRuntime.clearReadinessGate, ServerRuntime.ideal_updateReadiness]
  simp only [State.setOwner, State.setGate, Function.update_self, Function.update_idem,
    Option.map_map]
  congr 2
  show _ = Option.map _ (Option.map _ _)
  rw [Option.map_map]
  congr 1
  funext coordinator
  simp only [Function.comp_apply]
  split <;> rfl

theorem ideal_claimUserPauseOwnership (s : ServerRuntime) (room actor : String) :
    (s.claimUserPauseOwnership room actor).ideal = claimedState s.ideal room actor := by
  have hrelax : (s.releaseBufferingEpisode room).ideal = s.ideal.relax room :=
    ideal_updateControl_relax s room _ fun _ => rfl
  have hphase : (s.releaseBufferingEpisode room).barrierPhase room = s.barrierPhase room := rfl
  have hbarrier : ∀ b, s.roomPlaybackBarriers[room]? = some b →
      (s.barrierPhase room = some .committed ↔ b.phase = .committed) := by
    intro b hb
    simp [ServerRuntime.barrierPhase, hb]
  rw [ServerRuntime.claimUserPauseOwnership, ServerRuntime.ideal_refreshReadinessGatePhase,
    ServerRuntime.ideal_setReadinessPauseOwner,
    ServerRuntime.retireCommittedPlaybackBarrierForUserPause, hphase, claimedState,
    interruptedState]
  by_cases hcommitted : s.barrierPhase room = some .committed
  · rw [if_pos hcommitted, ideal_clearReadinessGate_setOwner, ServerRuntime.retireCommittedBarrier,
      hphase, if_pos hcommitted, ServerRuntime.ideal_updateBarrier, hrelax]
    congr 2
    show s.roomPlaybackBarriers[room]?.map _ = s.roomPlaybackBarriers[room]?.map _
    cases hb : s.roomPlaybackBarriers[room]? with
    | none => rfl
    | some b =>
      simp only [Option.map_some]
      rw [interruptedBarrier, if_pos ((hbarrier b hb).mp hcommitted)]
  · rw [if_neg hcommitted, hrelax]
    congr 1
    have hsame : (s.ideal.barrier room).map interruptedBarrier = (s.ideal.relax room).barrier room := by
      show s.roomPlaybackBarriers[room]?.map _ = s.roomPlaybackBarriers[room]?
      cases hb : s.roomPlaybackBarriers[room]? with
      | none => rfl
      | some b =>
        rw [Option.map_some, interruptedBarrier,
          if_neg fun h => hcommitted ((hbarrier b hb).mpr h)]
    rw [hsame, State.setBarrier, Function.update_eq_self]

theorem claimUserPauseOwnership_refines (s : ServerRuntime) (room actor : String)
    (h : (s.roomPlaybackState room).paused = true) :
    Refines (claimLabel room actor) s (claimUserPauseOwnership room actor) := by
  refine follows_get_bind (follows_modify_bind ?_ (follows_pure _ _))
  rw [ideal_claimUserPauseOwnership]
  exact claimedState_steps s.ideal room actor h

end Sorotte.Server
