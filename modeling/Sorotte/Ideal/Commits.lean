import Sorotte.Ideal.History
import Sorotte.Ideal.Lifecycle

/-! # Commits

  A commit has checked its room's coordinator and its start.  The coordinator
  caches per member whether it may start; as long as every cached flag is backed
  by the facts it summarises, what the commit checked is what its members said.
-/

namespace Sorotte.Ideal

open Server

variable {s s' : State} {l : Label} {room : String} {g : Gate}

/-! ### Coherent coordinators -/

theorem Gate.Coherent.withOwner (h : g.Coherent) (owner : RoomPauseOwner) :
    (g.withOwner owner).Coherent := h

theorem replaceGeneration_coherent (g : Gate) (generation : Option Nat) :
    (g.replaceGeneration generation).Coherent := by
  intro username m hm heligible
  obtain ⟨held, -, rfl⟩ := Option.map_eq_some_iff.mp hm
  exact recompute_startEligible _ generation heligible

/-- A member leaves. -/
theorem Gate.Coherent.withdraw (h : g.Coherent) (username : String) :
    Gate.Coherent { g with members := Function.update g.members username none } := by
  intro other m hm heligible
  dsimp only at hm
  by_cases hother : other = username
  · subst hother
    rw [Function.update_self] at hm
    cases hm
  · rw [Function.update_of_ne hother] at hm
    exact h other m hm heligible

/-- **Invariant**: coordinators exist only where readiness is enabled, and are coherent. -/
def GatesSound (s : State) : Prop :=
  ∀ room g, s.gate room = some g → s.readinessEnabled = true ∧ g.Coherent

theorem GatesSound.congr (h : GatesSound s) (henabled : s'.readinessEnabled = s.readinessEnabled)
    (hgate : s'.gate = s.gate) : GatesSound s' := by
  intro room g hg
  rw [hgate] at hg
  rw [henabled]
  exact h room g hg

theorem GatesSound.setGate (h : GatesSound s) (r : String) (written : Option Gate)
    (hwritten : ∀ g, written = some g → s.readinessEnabled = true ∧ g.Coherent) :
    GatesSound (s.setGate r written) := by
  intro room g hg
  by_cases hr : room = r
  · subst hr
    rw [State.setGate_self] at hg
    exact hwritten g hg
  · have hkept : (s.setGate r written).gate room = s.gate room := Function.update_of_ne hr _ _
    exact h room g (hkept ▸ hg)

/-- An edit that works on whatever coordinator the room has. -/
theorem GatesSound.mapGate (h : GatesSound s) (r : String) (f : Gate → Gate)
    (hf : ∀ g, g.Coherent → (f g).Coherent) : GatesSound (s.setGate r ((s.gate r).map f)) := by
  apply h.setGate
  intro g hg
  obtain ⟨held, hheld, rfl⟩ := Option.map_eq_some_iff.mp hg
  obtain ⟨henabled, hcoherent⟩ := h r held hheld
  exact ⟨henabled, hf held hcoherent⟩

theorem GatesSound.setOwner (h : GatesSound s) (r : String) (owner : RoomPauseOwner) :
    GatesSound (s.setOwner r owner) :=
  h.mapGate r (·.withOwner owner) fun _ hg => hg.withOwner owner

/-- A joining member is not eligible, and finds nobody eligible for another generation. -/
theorem enroll_coherent {username : String} {member : Member} {generation : Option Nat}
    (hguard : guard s (.enroll room username member generation)) (h : GatesSound s)
    {g' : Gate} (hgeneration : g'.mediaGeneration = generation)
    (hmembers : g'.members = Function.update
      ((s.gate room).elim (fun _ => none) Gate.members) username (some member)) : g'.Coherent := by
  obtain ⟨-, -, hjoining, hmember⟩ := hguard
  intro other m hm heligible
  rw [hmembers] at hm
  rw [hgeneration]
  by_cases hother : other = username
  · subst hother
    rw [Function.update_self] at hm
    rw [← Option.some.inj hm, hmember] at heligible
    cases heligible
  · rw [Function.update_of_ne hother] at hm
    cases hgate : s.gate room with
    | none =>
      rw [hgate] at hm
      cases hm
    | some g =>
      rw [hgate] at hm
      obtain ⟨hrole, hintent, hblock, playable, hstate, hmedia⟩ :=
        (h room g hgate).2 other m hm heligible
      refine ⟨hrole, hintent, hblock, playable, hstate, ?_⟩
      rw [JoiningGeneration, hgate, Option.bind_some, hmedia] at hjoining
      exact hjoining

theorem GatesSound.step (h : GatesSound s) (hguard : guard s l) : GatesSound (effect s l) := by
  cases l with
  | play r | recover r | hold r | resume r | pause r | claim r | arm r | rearm r | release r
  | disown r
  | automatic r | selectOwner r => exact (h.setOwner r _).congr rfl rfl
  | select r =>
    have hended : GatesSound (s.endGeneration r) :=
      h.mapGate r _ fun g _ => (replaceGeneration_coherent g none).withOwner _
    exact hended.congr rfl rfl
  | records r g g' =>
    apply h.setGate
    intro g₁ hg₁
    obtain rfl := Option.some.inj hg₁
    obtain ⟨henabled, hcoherent⟩ := h r g hguard.1
    exact ⟨henabled, hguard.2.2.2.2 hcoherent⟩
  | follow r generation source =>
    exact h.mapGate r _ fun g _ => replaceGeneration_coherent g _
  | enroll r username member generation =>
    apply h.setGate
    intro g₁ hg₁
    obtain rfl := Option.some.inj hg₁
    exact ⟨hguard.1, enroll_coherent hguard h rfl rfl⟩
  | withdraw r username => exact h.mapGate r _ fun g hg => hg.withdraw username
  | dissolve r =>
    have hgone : GatesSound (s.setGate r none) := h.setGate r none fun g hg => by cases hg
    exact hgone.congr rfl rfl
  | reconcile r g g' b' =>
    have hedited : GatesSound (s.setGate r (some g')) := by
      apply h.setGate
      intro g₁ hg₁
      obtain rfl := Option.some.inj hg₁
      obtain ⟨henabled, hcoherent⟩ := h r g hguard.1
      exact ⟨henabled, hguard.2.1.2.2.2 hcoherent⟩
    exact hedited.congr rfl rfl
  | prepare r b =>
    have hstarted := h.mapGate r (fun g =>
      (g.replaceGeneration (some b.prepare.mediaGeneration)).withOwner
        (if g.pauseOwner.isUser then g.pauseOwner
          else .readinessStartGate b.prepare.mediaGeneration)) fun g _ =>
      (replaceGeneration_coherent g _).withOwner _
    simp only [effect, State.beginGeneration]
    split
    · exact hstarted.congr rfl rfl
    · exact h.congr rfl rfl
  | commit r snapshot b' =>
    simp only [effect]
    split
    · exact (h.setOwner r .none).congr rfl rfl
    · exact h.congr rfl rfl
  | _ => exact h.congr rfl rfl

theorem Initial.gatesSound (h : Initial s) : GatesSound s := by
  intro room g hg
  rw [h.gate room] at hg
  cases hg

theorem Reachable.gatesSound (h : Reachable s) : GatesSound s :=
  h.invariant (fun _ hinitial => hinitial.gatesSound) fun _ _ hguard hheld => hheld.step hguard

/-! ### What a commit has checked -/

/-- What the commit of a room with a coordinator has checked of its members. -/
structure GovernedSafely (room : String) (snapshot : CommitSnapshot)
    (coordinator : RoomReadinessCoordinator) : Prop where
  owner : coordinator.pauseOwner = .readinessStartGate snapshot.barrier.prepare.mediaGeneration
  revision : snapshot.payload.readinessRevision = some coordinator.revision
  nonempty : ∃ (username : String) (p : ServerReadinessParticipant),
    coordinator.participants[username]? = some p ∧ p.record.participationRole = .required
  /-- Every required member wants to start, can play the coordinator's generation and is live. -/
  required : ∀ (username : String) p, coordinator.participants[username]? = some p →
    p.record.participationRole = .required →
    p.record.userIntent = .ready ∧ p.record.terminalTechnicalBlock = none ∧
    (∃ generation, p.record.technicalState = .playable generation ∧
      coordinator.mediaGeneration = some generation) ∧
    p.clientId ∈ snapshot.barrier.participants ∧
    ∃ session, snapshot.sessions[p.clientId]? = some session ∧ session.room = room
  mixed : snapshot.mixedReadinessPolicy = .requireAllMembers →
    ∀ (clientId : String) session, snapshot.sessions[clientId]? = some session →
      session.room = room → clientId ∉ snapshot.fencedClients →
      session.capabilities.readinessV2 = true ∧ session.capabilities.playbackBarrierV1 = true
  policy : PolicyMet room snapshot True

/-- Somebody in the start is ready for it. -/
def SomebodyReady (snapshot : CommitSnapshot) : Prop :=
  ∃ (clientId : String) (p : RoomPlaybackBarrierParticipant),
    snapshot.barrier.participants[clientId]? = some p ∧ p.status.phase = .ready

/-- Everyone in the start has given it up, and its policy excuses them. -/
def Abandoned (snapshot : CommitSnapshot) : Prop :=
  snapshot.barrier.prepare.policy = .allEligible ∧
    ∀ (clientId : String) p, snapshot.barrier.participants[clientId]? = some p →
      p.status.phase = .degraded

/-- A satisfied policy counts on somebody, or has nobody left to count on. -/
theorem PolicyMet.somebody {snapshot : CommitSnapshot} {governed : Prop}
    (h : PolicyMet room snapshot governed)
    (hquorum : snapshot.barrier.prepare.policy = .quorum →
      ∃ q, snapshot.barrier.prepare.quorum = some q ∧ 1 ≤ q) :
    SomebodyReady snapshot ∨ Abandoned snapshot := by
  unfold PolicyMet at h
  cases hpolicy : snapshot.barrier.prepare.policy with
  | allEligible =>
    simp only [hpolicy] at h
    by_cases hready : SomebodyReady snapshot
    · exact .inl hready
    · right
      apply And.intro hpolicy
      intro clientId p hp
      rcases h clientId p hp with hdegraded | hcounts
      · exact hdegraded
      · exact absurd ⟨clientId, p, hp, hcounts.1⟩ hready
  | controller =>
    simp only [hpolicy] at h
    obtain ⟨p, hp, hcounts⟩ := h
    exact .inl ⟨_, p, hp, hcounts.1⟩
  | quorum =>
    simp only [hpolicy] at h
    obtain ⟨q, hq, hone⟩ := hquorum hpolicy
    rw [hq] at h
    obtain ⟨clientId, p, hp, hcounts⟩ := h hone
    exact .inl ⟨clientId, p, hp, hcounts.1⟩

/-- What every commit has checked. -/
structure CommitSafe (room : String) (snapshot : CommitSnapshot) : Prop where
  phase : snapshot.barrier.phase = .preparing
  generation : snapshot.payload.mediaGeneration = snapshot.barrier.prepare.mediaGeneration
  governed : ∀ coordinator, snapshot.coordinator = some coordinator →
    GovernedSafely room snapshot coordinator
  ungoverned : snapshot.coordinator = none → snapshot.timedOut = true ∨
    (PolicyMet room snapshot False ∧ ∃ clientId, clientId ∈ snapshot.barrier.participants)
  /-- Only an overdue start of a room without a coordinator, or one that everybody gave up,
      plays for nobody who is ready. -/
  somebody : SomebodyReady snapshot ∨ Abandoned snapshot ∨
    (snapshot.coordinator = none ∧ snapshot.timedOut = true)

theorem LawfulCommit.governedSafely {snapshot : CommitSnapshot} (h : LawfulCommit s room snapshot)
    (hgates : GatesSound s) {coordinator : RoomReadinessCoordinator}
    (hcoordinator : snapshot.coordinator = some coordinator) :
    GovernedSafely room snapshot coordinator := by
  obtain ⟨g, hg, hmembers⟩ := h.members coordinator hcoordinator
  obtain ⟨henabled, hcoherent⟩ := hgates room g hg
  have hgeneration : g.mediaGeneration = coordinator.mediaGeneration := by
    have hread := h.coordinator
    rw [hcoordinator, hg] at hread
    exact (congrArg Prod.fst (Option.some.inj hread)).symm
  have hstart := h.governed henabled coordinator hcoordinator
  refine ⟨hstart.owner, hstart.revision, hstart.nonempty, ?_, hstart.mixed, hstart.policy⟩
  intro username p hp hrole
  obtain ⟨heligible, hmember, hsession⟩ := hstart.required username p hp hrole
  -- the flag the commit read is backed by what the member said
  have hbacked := hcoherent username ⟨p.clientId, p.record⟩ (by rw [hmembers, hp]; rfl) heligible
  obtain ⟨-, hintent, hblock, generation, hstate, hmedia⟩ := hbacked
  exact ⟨hintent, hblock, ⟨generation, hstate, hgeneration ▸ hmedia⟩, hmember, hsession⟩

theorem LawfulCommit.safe {snapshot : CommitSnapshot} (h : LawfulCommit s room snapshot)
    (hgates : GatesSound s) (hstarts : StartsWellFormed s) : CommitSafe room snapshot where
  phase := h.phase
  generation := h.mediaGeneration
  ungoverned := h.ungoverned
  governed _ hcoordinator := h.governedSafely hgates hcoordinator
  somebody := by
    have hquorum := (hstarts room _ h.barrier).quorum
    cases hcoordinator : snapshot.coordinator with
    | none =>
      rcases h.ungoverned hcoordinator with hoverdue | ⟨hmet, -⟩
      · exact .inr (.inr ⟨rfl, hoverdue⟩)
      · exact (hmet.somebody hquorum).imp_right .inl
    | some coordinator =>
      have hmet := (h.governedSafely hgates hcoordinator).policy
      exact (hmet.somebody hquorum).imp_right .inl

/-! ### Commits of a run -/

/-- The state revisions of the commits in a history, newest first. -/
def committedRevisions (history : List Event) : List Nat :=
  history.filterMap fun event => match event with
    | .committed _ snapshot => some snapshot.payload.stateRevision
    | _ => none

theorem committedRevisions_append (newer older : List Event) :
    committedRevisions (newer ++ older) = committedRevisions newer ++ committedRevisions older :=
  List.filterMap_append

theorem committedRevisions_events (hlabel : ∀ room snapshot b', l ≠ .commit room snapshot b') :
    committedRevisions (events s l) = [] := by
  cases l with
  | commit room snapshot b' => exact absurd rfl (hlabel room snapshot b')
  | started clientId room b started position =>
    simp only [events]
    split <;> rfl
  | retain room requestIds => simp [events, committedRevisions]
  | _ => rfl

/-- What a run leaves of its commits. -/
structure CommitsRecorded (s : State) : Prop where
  /-- Every commit was safe when it was made. -/
  safe : ∀ room snapshot, .committed room snapshot ∈ s.history → CommitSafe room snapshot
  /-- The commit a start carries was made for it. -/
  backed : ∀ room b payload, s.barrier room = some b → b.commit = some payload →
    ∃ snapshot, .committed room snapshot ∈ s.history ∧ snapshot.payload = payload ∧
      snapshot.barrier.prepare = b.prepare
  /-- State revisions are handed out once, in order. -/
  ordered : (committedRevisions s.history).Pairwise (· > ·)
  bounded : ∀ revision ∈ committedRevisions s.history, revision ≤ s.revision

/-- Only a commit records one. -/
theorem commit_of_event {snapshot : CommitSnapshot} (h : .committed room snapshot ∈ events s l) :
    ∃ b', l = .commit room snapshot b' := by
  cases l with
  | commit r taken b' =>
    simp only [events, List.mem_singleton, Event.committed.injEq] at h
    obtain ⟨rfl, rfl⟩ := h
    exact ⟨b', rfl⟩
  | started clientId r b started position =>
    simp only [events] at h
    split at h <;> simp at h
  | _ => simp [events] at h

/-- The commit a start carries was there before, or is being made for it. -/
theorem commit_written (hguard : guard s l) {b' : RoomPlaybackBarrier} {payload : CommitStartPayload}
    (hb' : (effect s l).barrier room = some b') (hpayload : b'.commit = some payload) :
    (∃ b, s.barrier room = some b ∧ b.commit = some payload ∧ b.prepare = b'.prepare) ∨
      ∃ snapshot, .committed room snapshot ∈ events s l ∧ snapshot.payload = payload ∧
        snapshot.barrier.prepare = b'.prepare := by
  rcases advances_of_effect hguard hb' with rfl | ⟨b, hb, hadvances⟩
  · rw [hguard.commit] at hpayload
    cases hpayload
  · cases hadvances with
    | stays hprepare hcommit => exact .inl ⟨b, hb, hcommit ▸ hpayload, hprepare.symm⟩
    | commits snapshot hlabel hbarrier hcommits =>
      subst hlabel hbarrier
      rw [hcommits.commit] at hpayload
      exact .inr ⟨snapshot, List.mem_singleton_self _, Option.some.inj hpayload,
        hcommits.prepare.symm⟩
    | completes clientId started position _ hcompleted =>
      subst hcompleted
      rw [withStarted_commit] at hpayload
      exact .inl ⟨b, hb, hpayload, (withStarted_prepare ..).symm⟩
    | settles _ hsettles =>
      exact .inl ⟨b, hb, hsettles.commit ▸ hpayload, hsettles.prepare.symm⟩

theorem CommitsRecorded.step (h : CommitsRecorded s) (hguard : guard s l) (hgates : GatesSound s)
    (hstarts : StartsWellFormed s) : CommitsRecorded (effect s l) where
  safe := by
    intro room snapshot hmem
    rcases mem_effect_history.mp hmem with hnew | hold
    · obtain ⟨b', rfl⟩ := commit_of_event hnew
      exact hguard.1.safe hgates hstarts
    · exact h.safe room snapshot hold
  backed := by
    intro room b' payload hb' hpayload
    rcases commit_written hguard hb' hpayload with ⟨b, hb, hheld, hprepare⟩ |
      ⟨snapshot, hmem, hpaid, hprepare⟩
    · obtain ⟨snapshot, hmem, hpaid, hsame⟩ := h.backed room b payload hb hheld
      exact ⟨snapshot, mem_effect_history.mpr (.inr hmem), hpaid, hsame.trans hprepare⟩
    · exact ⟨snapshot, mem_effect_history.mpr (.inl hmem), hpaid, hprepare⟩
  ordered := by
    rw [effect_history, committedRevisions_append]
    by_cases hcommit : ∃ room snapshot b', l = .commit room snapshot b'
    · obtain ⟨room, snapshot, b', rfl⟩ := hcommit
      have hrevision : committedRevisions (events s (.commit room snapshot b')) =
          [snapshot.payload.stateRevision] := rfl
      rw [hrevision, List.singleton_append, List.pairwise_cons]
      refine ⟨fun revision hmem => ?_, h.ordered⟩
      have hbound := h.bounded revision hmem
      have hnext := hguard.1.stateRevision
      omega
    · rw [committedRevisions_events fun room snapshot b' hl => hcommit ⟨room, snapshot, b', hl⟩,
        List.nil_append]
      exact h.ordered
  bounded := by
    intro revision hmem
    rw [effect_history, committedRevisions_append, List.mem_append] at hmem
    rcases hmem with hnew | hold
    · by_cases hcommit : ∃ room snapshot b', l = .commit room snapshot b'
      · obtain ⟨room, snapshot, b', rfl⟩ := hcommit
        have hrevision : committedRevisions (events s (.commit room snapshot b')) =
            [snapshot.payload.stateRevision] := rfl
        rw [hrevision, List.mem_singleton] at hnew
        rw [hnew, hguard.1.stateRevision, effect_commit_revision]
      · rw [committedRevisions_events fun room snapshot b' hl => hcommit ⟨room, snapshot, b', hl⟩]
          at hnew
        cases hnew
    · exact (h.bounded revision hold).trans (effect_revision_le l)

/-- The commit a start carries after a run was there before, or was made for it meanwhile. -/
theorem commit_of_steps (h : Relation.ReflTransGen (Steps fun _ => True) s s') :
    ∃ newer, s'.history = newer ++ s.history ∧ ∀ room b' payload,
      s'.barrier room = some b' → b'.commit = some payload →
        (∃ b, s.barrier room = some b ∧ b.commit = some payload ∧ b.prepare = b'.prepare) ∨
        ∃ snapshot, .committed room snapshot ∈ newer ∧ snapshot.payload = payload ∧
          snapshot.barrier.prepare = b'.prepare := by
  induction h with
  | refl => exact ⟨[], rfl, fun room b' payload hb' hpayload => .inl ⟨b', hb', hpayload, rfl⟩⟩
  | @tail t u _ hlast ih =>
    obtain ⟨newer, hhistory, hwritten⟩ := ih
    obtain ⟨l, -, hguard, rfl⟩ := hlast
    refine ⟨events t l ++ newer, ?_, ?_⟩
    · rw [effect_history, hhistory, List.append_assoc]
    · intro room b' payload hb' hpayload
      rcases commit_written hguard hb' hpayload with ⟨b, hb, hheld, hprepare⟩ |
        ⟨snapshot, hmem, hpaid, hprepare⟩
      · rcases hwritten room b payload hb hheld with ⟨b₀, hb₀, hheld₀, hprepare₀⟩ |
          ⟨snapshot, hmem, hpaid, hsame⟩
        · exact .inl ⟨b₀, hb₀, hheld₀, hprepare₀.trans hprepare⟩
        · exact .inr ⟨snapshot, List.mem_append_right _ hmem, hpaid, hsame.trans hprepare⟩
      · exact .inr ⟨snapshot, List.mem_append_left _ hmem, hpaid, hprepare⟩

theorem Initial.commitsRecorded (h : Initial s) : CommitsRecorded s where
  safe room snapshot hmem := by
    rw [h.history] at hmem
    cases hmem
  backed room b payload hb := by
    rw [h.barrier room] at hb
    cases hb
  ordered := by
    rw [h.history]
    exact List.Pairwise.nil
  bounded revision hmem := by
    rw [h.history] at hmem
    cases hmem

theorem Reachable.commitsRecorded (h : Reachable s) : CommitsRecorded s := by
  have hall : GatesSound s ∧ StartsWellFormed s ∧ CommitsRecorded s :=
    h.invariant (I := fun t => GatesSound t ∧ StartsWellFormed t ∧ CommitsRecorded t)
      (fun _ hinitial =>
        ⟨hinitial.gatesSound, hinitial.startsWellFormed, hinitial.commitsRecorded⟩)
      fun _ _ hguard ⟨hgates, hstarts, hcommits⟩ =>
        ⟨hgates.step hguard, hstarts.step hguard, hcommits.step hguard hgates hstarts⟩
  exact hall.2.2

end Sorotte.Ideal
