import Sorotte.Refinement.Requests

/-! # Refinement: memberships and the mixed-room cohort

  Attaching and detaching readiness memberships, and the cohort of a preparing
  start that follows them.
-/

namespace Sorotte.Server

open Sorotte.Framework Sorotte.Framework.Prog Sorotte.Ideal

/-! ### Records -/

/-- An edit of a coordinator that recomputes every record it changes. -/
theorem keepsMembers_of_records {g g' : Gate} (hgeneration : g'.mediaGeneration = g.mediaGeneration)
    (howner : g'.pauseOwner = g.pauseOwner)
    (hmembers : ∀ username, g'.members username = g.members username ∨
      ∃ m record, g.members username = some m ∧
        g'.members username = some ⟨m.clientId,
          recomputeParticipantReadiness record g.mediaGeneration⟩) : KeepsMembers g g' := by
  refine ⟨hgeneration, howner, fun username => ?_, fun hcoherent username m hm heligible => ?_⟩
  · rcases hmembers username with hsame | ⟨m, record, hm, hm'⟩
    · rw [hsame]
    · rw [hm, hm']
      rfl
  · rcases hmembers username with hsame | ⟨m₀, record, hm₀, hm'⟩
    · rw [hsame] at hm
      rw [hgeneration]
      exact hcoherent username m hm heligible
    · rw [hm'] at hm
      obtain rfl := Option.some.inj hm
      rw [hgeneration]
      exact recompute_startEligible record g.mediaGeneration heligible

/-! ### The cohort -/

theorem mem_foldl_insert {V : Type} (key : V → String) (value : V → String) (c : String) :
    ∀ (entries : List V) (m : BTreeMap String String),
      c ∈ entries.foldl (fun clients entry => clients.insert (key entry) (value entry)) m →
        c ∈ m ∨ ∃ entry ∈ entries, key entry = c := by
  intro entries
  induction entries with
  | nil => exact fun m h => .inl h
  | cons entry entries ih =>
    intro m h
    rcases ih _ h with hm | ⟨other, hother, hkey⟩
    · rw [Std.ExtTreeMap.mem_insert] at hm
      rcases hm with hkey | hm
      · exact .inr ⟨entry, List.mem_cons_self, by simpa using hkey⟩
      · exact .inl hm
    · exact .inr ⟨other, List.mem_cons_of_mem _ hother, hkey⟩

theorem lookup_foldl_insertIfNew {V W : Type} (value : String × W → V) (c : String) (p : V) :
    ∀ (entries : List (String × W)) (m : BTreeMap String V),
      (entries.foldl (fun m entry => m.insertIfNew entry.1 (value entry)) m)[c]? = some p →
        m[c]? = some p ∨ ∃ entry ∈ entries, entry.1 = c ∧ p = value entry := by
  intro entries
  induction entries with
  | nil => exact fun m h => .inl h
  | cons entry entries ih =>
    intro m h
    rcases ih _ h with hm | ⟨other, hother, hkey⟩
    · rw [Std.ExtTreeMap.getElem?_insertIfNew] at hm
      split at hm
      · next hnew =>
        exact .inr ⟨entry, List.mem_cons_self, by simpa using hnew.1, (Option.some.inj hm).symm⟩
      · exact .inl hm
    · exact .inr ⟨other, List.mem_cons_of_mem _ hother, hkey⟩

/-- The cohort of a room's start follows its coordinator. -/
def reconcileLabel (room : String) : Label → Prop
  | .reconcile r _ _ _ => r = room
  | _ => False

/-- What a new membership does to its room. -/
def attachLabel (clientId room : String) : Label → Prop
  | .enroll r _ member _ => r = room ∧ member.clientId = clientId
  | .arm r _ => r = room
  | .commit r _ _ => r = room
  | l => reconcileLabel room l

namespace ServerRuntime

/-- Reconciled roles are the ones the sessions ask for. -/
theorem reconciled_role (s : ServerRuntime) (room : String)
    (coordinator : RoomReadinessCoordinator) (username : String) (p : ServerReadinessParticipant)
    (hp : (s.reconciledCoordinator room coordinator).participants[username]? = some p) :
    ∃ p₀, coordinator.participants[username]? = some p₀ ∧ p.clientId = p₀.clientId ∧
      p.record.participationRole = s.desiredParticipationRole room username p₀ := by
  simp only [reconciledCoordinator, Std.ExtTreeMap.getElem?_map, Option.map_eq_some_iff] at hp
  obtain ⟨p₀, hp₀, rfl⟩ := hp
  refine ⟨p₀, hp₀, ?_, ?_⟩
  · split <;> rfl
  · split
    · next hrole => exact hrole
    · rfl

/-- Required members of a reconciled coordinator are in the room. -/
theorem live_of_requiredClients (s : ServerRuntime) (room : String)
    (coordinator : RoomReadinessCoordinator) (clientId : String)
    (h : clientId ∈ requiredClients (s.reconciledCoordinator room coordinator)) :
    s.ideal.inRoom clientId room := by
  rcases mem_foldl_insert (fun entry : String × ServerReadinessParticipant => entry.2.clientId)
    Prod.fst clientId _ _ h with hempty | ⟨⟨username, p⟩, hp, rfl⟩
  · exact (Std.ExtTreeMap.not_mem_empty hempty).elim
  · obtain ⟨hlookup, hrole⟩ := (mem_requiredParticipants _ username p).mp hp
    obtain ⟨p₀, -, hclient, hdesired⟩ := s.reconciled_role room coordinator username p hlookup
    rw [hdesired, desiredParticipationRole] at hrole
    split at hrole
    · next hrequired =>
      rw [← hclient] at hrequired
      cases hsession : s.sessions[p.clientId]? with
      | none => simp [hsession] at hrequired
      | some session =>
        simp only [hsession, Option.any_some, Bool.and_eq_true, beq_iff_eq] at hrequired
        exact ⟨session, hsession, hrequired.1.1.1.1⟩
    · cases hrole

theorem reconciles_reconciledBarrier (s : ServerRuntime) (room : String)
    (coordinator : RoomReadinessCoordinator) (b : RoomPlaybackBarrier) :
    Reconciles (fun clientId => s.ideal.inRoom clientId room) b
      (s.reconciledBarrier room (requiredClients (s.reconciledCoordinator room coordinator)) b) := by
  unfold reconciledBarrier
  split
  · next hpreparing =>
    refine ⟨rfl, rfl, rfl, rfl, fun h => (h hpreparing).elim, fun _ clientId p hp => ?_⟩
    have hlive := s.live_of_requiredClients room coordinator clientId
    rcases lookup_foldl_insertIfNew _ clientId p _ _ hp with hkept | ⟨entry, hentry, hkey, rfl⟩
    · rw [Std.ExtTreeMap.getElem?_filter', Option.filter_eq_some_iff] at hkept
      exact ⟨hlive (Std.ExtTreeMap.contains_iff_mem.mp hkept.2), .inl hkept.1⟩
    · refine ⟨hlive ?_, .inr rfl⟩
      rw [← hkey, Std.ExtTreeMap.mem_iff_isSome_getElem?,
        Std.ExtTreeMap.mem_toList_iff_getElem?_eq_some.mp hentry]
      rfl
  · next hsettled =>
    exact ⟨rfl, rfl, rfl, rfl, fun _ => rfl, fun h => (hsettled h).elim⟩

theorem keepsMembers_reconciled (s : ServerRuntime) (room : String)
    (coordinator : RoomReadinessCoordinator) :
    KeepsMembers coordinator.ideal (s.reconciledCoordinator room coordinator).ideal := by
  refine keepsMembers_of_records rfl rfl fun username => ?_
  simp only [RoomReadinessCoordinator.ideal, reconciledCoordinator, Std.ExtTreeMap.getElem?_map]
  cases coordinator.participants[username]? with
  | none => exact .inl rfl
  | some p =>
    simp only [Option.map_some]
    split
    · exact .inl rfl
    · exact .inr ⟨_, _, rfl, rfl⟩

theorem reconcile_steps (s : ServerRuntime) (room : String) :
    Relation.ReflTransGen (Steps (reconcileLabel room)) s.ideal
      (s.reconcileMixedReadinessCohortState room).ideal := by
  unfold reconcileMixedReadinessCohortState
  split
  · exact .refl
  · cases hroom : s.roomReadiness[room]? with
    | none => exact .refl
    | some coordinator =>
      have hgate : s.ideal.gate room = some coordinator.ideal := by simp [ideal, hroom]
      refine one_step (l := .reconcile room coordinator.ideal
        (s.reconciledCoordinator room coordinator).ideal
        (s.roomPlaybackBarriers[room]?.map (s.reconciledBarrier room
          (requiredClients (s.reconciledCoordinator room coordinator))))) rfl
        ⟨hgate, s.keepsMembers_reconciled room coordinator, ?_⟩ ?_
      · show Option.Rel _ s.roomPlaybackBarriers[room]? _
        cases s.roomPlaybackBarriers[room]? with
        | none => exact .none
        | some b => exact .some (s.reconciles_reconciledBarrier room coordinator b)
      · have hbarriers := ideal_setBarriers
          { s with
            roomReadiness := s.roomReadiness.insert room
              (s.reconciledCoordinator room coordinator) } room _ _
          (lookup_modify _ _ (s.reconciledBarrier room
            (requiredClients (s.reconciledCoordinator room coordinator))))
        rw [ideal_setReadiness s room _ _ (lookup_insert _ _ _)] at hbarriers
        exact hbarriers

/-! ### Attach -/

theorem joiningGeneration_lawful (s : ServerRuntime) (room : String) :
    JoiningGeneration s.ideal room (s.joiningGeneration room) := by
  have hgate : (s.ideal.gate room).bind Gate.mediaGeneration = s.readinessMediaGeneration room := by
    show Option.bind (Option.map _ _) _ = _
    rw [readinessMediaGeneration, Option.bind_map]
    rfl
  unfold JoiningGeneration joiningGeneration
  rw [hgate]
  cases s.readinessMediaGeneration room with
  | some generation => rfl
  | none =>
    rw [Option.none_or]
    dsimp only
    cases hb : s.roomPlaybackBarriers[room]?.filter fun b =>
        b.phase == .preparing || b.phase == .committed with
    | some b =>
      obtain ⟨hbarrier, hphase⟩ := Option.filter_eq_some_iff.mp hb
      have hactive : active b := by
        simpa [active] using hphase
      exact .inl ⟨b, hbarrier, hactive, rfl⟩
    | none =>
      refine .inr ⟨fun b hbarrier hactive => ?_, ?_⟩
      · have hbarrier' : s.roomPlaybackBarriers[room]? = some b := hbarrier
        have hphase : (b.phase == .preparing || b.phase == .committed) = true := by
          simpa [active] using hactive
        rw [hbarrier', Option.filter_some, if_pos hphase] at hb
        cases hb
      · rw [Option.map_none, Option.none_or]
        cases hcontrol : s.roomBufferingControls[room]?.filter fun control =>
            !control.retiredForSelection with
        | none => exact .inl rfl
        | some control =>
          have hheld := (Option.filter_eq_some_iff.mp hcontrol).1
          exact .inr ⟨control.ideal, by simp [ideal, hheld], rfl⟩

theorem joinedRecord_startEligible (record : ParticipantReadiness) (revision : Nat)
    (generation generation' : Option Nat)
    (h : record.technicalState = initialTechnicalState generation) :
    (joinedRecord record revision generation').startEligible = false := by
  rw [← Bool.not_eq_true]
  intro heligible
  obtain ⟨-, -, -, g, hplayable, -⟩ := recompute_startEligible record generation' heligible
  rw [h] at hplayable
  cases generation <;> cases hplayable

theorem joinCoordinator_steps (s : ServerRuntime) (clientId : String) (session : ServerSession)
    (participant : ServerReadinessParticipant) (restoredRevision : Nat)
    (henabled : s.readinessEnabled = true) (hsession : s.sessions[clientId]? = some session)
    (hclient : participant.clientId = clientId)
    (hunready : participant.record.technicalState =
      initialTechnicalState (s.joiningGeneration session.room)) :
    Relation.ReflTransGen (Steps (attachLabel clientId session.room)) s.ideal
      (s.joinCoordinator session.room session.username participant restoredRevision
        (s.joiningGeneration session.room)).ideal := by
  have hlawful := s.joiningGeneration_lawful session.room
  set generation := s.joiningGeneration session.room with hgeneration
  set coordinator := s.roomReadiness.getD session.room {} with hcoordinator
  set member : Member := ⟨clientId, joinedRecord participant.record
    (max coordinator.revision restoredRevision + 1) (generation.or coordinator.mediaGeneration)⟩
  have hmember : member.record.startEligible = false :=
    joinedRecord_startEligible participant.record _ generation _ hunready
  -- the coordinator keeps its generation, or takes the joiner's if it has none
  have hmedia : generation.or coordinator.mediaGeneration = generation := by
    cases hcoordinatorGeneration : coordinator.mediaGeneration with
    | none => exact Option.or_none
    | some g =>
      have hmedia : s.readinessMediaGeneration session.room = some g := by
        rw [readinessMediaGeneration]
        rw [hcoordinator, Std.ExtTreeMap.getD_eq_getD_getElem?] at hcoordinatorGeneration
        cases hroom : s.roomReadiness[session.room]? with
        | none => simp [hroom] at hcoordinatorGeneration
        | some room => simpa [hroom] using hcoordinatorGeneration
      rw [hgeneration, joiningGeneration, hmedia]
      rfl
  refine one_step (l := .enroll session.room session.username member generation) ⟨rfl, rfl⟩
    ⟨henabled, ⟨session, hsession, rfl, rfl⟩, hlawful, hmember⟩ ?_
  have hstored := ideal_setReadiness s session.room _ _ (lookup_insert s.roomReadiness session.room
    (joinedCoordinator coordinator session.username participant restoredRevision generation))
  refine hstored.trans ?_
  have hheld : s.ideal.gate session.room = s.roomReadiness[session.room]?.map
      RoomReadinessCoordinator.ideal := rfl
  have howner : ((s.ideal.gate session.room).map Gate.pauseOwner).getD .none =
      coordinator.pauseOwner := by
    rw [hheld, hcoordinator, Std.ExtTreeMap.getD_eq_getD_getElem?]
    cases s.roomReadiness[session.room]? <;> rfl
  have hmembers : (s.ideal.gate session.room).elim (fun _ => none) Gate.members =
      coordinator.ideal.members := by
    rw [hheld, hcoordinator, Std.ExtTreeMap.getD_eq_getD_getElem?]
    cases s.roomReadiness[session.room]? with
    | some room => rfl
    | none =>
      funext username
      simp [RoomReadinessCoordinator.ideal]
  have hjoined : (joinedCoordinator coordinator session.username participant restoredRevision
      generation).ideal =
      { mediaGeneration := generation
        pauseOwner := coordinator.pauseOwner
        members := Function.update coordinator.ideal.members session.username (some member) } := by
    simp only [RoomReadinessCoordinator.ideal, joinedCoordinator, Gate.mk.injEq, true_and]
    refine ⟨hmedia, ?_⟩
    have hinsert := lookup_insert coordinator.participants session.username
      { participant with
        record := joinedRecord participant.record (max coordinator.revision restoredRevision + 1)
          (generation.or coordinator.mediaGeneration) }
    funext username
    rw [congrFun hinsert username]
    refine (congrFun (map_update _ session.username _ ServerReadinessParticipant.ideal)
      username).trans ?_
    rw [Option.map_some, ServerReadinessParticipant.ideal, hclient]
  rw [Option.map_some, hjoined, effect, howner, hmembers]

theorem claimPauseForActiveStart_steps (s : ServerRuntime) (clientId room : String) :
    Relation.ReflTransGen (Steps (attachLabel clientId room)) s.ideal
      (s.claimPauseForActiveStart room).ideal := by
  unfold claimPauseForActiveStart
  split
  · next b coordinator hbarrier hroom =>
    split
    · next hclaims =>
      refine one_step (l := .arm room b) rfl ⟨hbarrier, hclaims.1, fun g hg => ?_⟩
        (ideal_setReadinessPauseOwner s room _)
      have hgate : s.ideal.gate room = some coordinator.ideal := by simp [ideal, hroom]
      obtain rfl := Option.some.inj (hgate.symm.trans hg)
      have howner : coordinator.pauseOwner.isUser = false := by simpa using hclaims.2
      exact howner
    · exact .refl
  · exact .refl

/-- The cohort and the pause follow a membership that just joined. -/
theorem afterJoin_steps (s : ServerRuntime) (clientId room : String) :
    Relation.ReflTransGen (Steps (attachLabel clientId room)) s.ideal
      (((s.reconcileMixedReadinessCohortState room).claimPauseForActiveStart
        room).refreshReadinessGatePhase room).ideal := by
  rw [ideal_refreshReadinessGatePhase]
  refine Relation.ReflTransGen.trans ?_ (claimPauseForActiveStart_steps _ clientId room)
  refine Relation.ReflTransGen.mono (Steps.mono fun l hl => ?_) _ _ (s.reconcile_steps room)
  cases l <;> first | exact hl | exact hl.elim

theorem attachMembership_steps (s : ServerRuntime) (clientId : String) (session : ServerSession)
    (restored : Option DetachedReadinessMembership) (seedSyncplayReadyIntent : Bool)
    (henabled : s.readinessEnabled = true) (hsession : s.sessions[clientId]? = some session) :
    Relation.ReflTransGen (Steps (attachLabel clientId session.room)) s.ideal
      (s.attachMembership clientId session restored seedSyncplayReadyIntent).ideal := by
  unfold attachMembership
  cases restored with
  | some restored =>
    exact (s.joinCoordinator_steps clientId session _ _ henabled hsession rfl rfl).trans
      (afterJoin_steps _ clientId session.room)
  | none =>
    exact (joinCoordinator_steps { s with
      nextReadinessMembershipEpoch := s.nextReadinessMembershipEpoch + 1 } clientId session _ _
      henabled hsession rfl rfl).trans (afterJoin_steps _ clientId session.room)

theorem joinCoordinator_gate (s : ServerRuntime) (room username : String)
    (participant : ServerReadinessParticipant) (restoredRevision : Nat)
    (generation : Option Nat) :
    ((s.joinCoordinator room username participant restoredRevision generation).ideal.gate
      room).isSome = true := by
  show (Option.map _ (Std.ExtTreeMap.insert _ room _)[room]?).isSome = true
  rw [Std.ExtTreeMap.getElem?_insert_self]
  rfl

end ServerRuntime

/-- A room whose ideal server has a coordinator has one. -/
theorem coordinator_of_gate {s : ServerRuntime} {room : String}
    (h : (s.ideal.gate room).isSome = true) :
    ∃ coordinator, s.roomReadiness[room]? = some coordinator := by
  rw [show s.ideal.gate room = s.roomReadiness[room]?.map RoomReadinessCoordinator.ideal from rfl,
    Option.isSome_map] at h
  exact Option.isSome_iff_exists.mp h

theorem gate_of_steps {allowed : Label → Prop} {room : String}
    (h : ∀ l, allowed l → l ≠ .dissolve room) {t t' : State}
    (hsteps : Relation.ReflTransGen (Steps allowed) t t') (hgate : (t.gate room).isSome = true) :
    (t'.gate room).isSome = true := by
  induction hsteps with
  | refl => exact hgate
  | tail _ hstep ih =>
    obtain ⟨l, hl, -, rfl⟩ := hstep
    exact effect_gate_isSome (h l hl) ih

theorem attachLabel_keepsGate (clientId room : String) (l : Label)
    (h : attachLabel clientId room l) : l ≠ .dissolve room := by
  rintro rfl
  exact h

/-- A room with a new membership has a coordinator. -/
theorem attachMembership_gate (s : ServerRuntime) (clientId : String) (session : ServerSession)
    (restored : Option DetachedReadinessMembership) (seedSyncplayReadyIntent : Bool) :
    ((s.attachMembership clientId session restored seedSyncplayReadyIntent).ideal.gate
      session.room).isSome = true := by
  unfold ServerRuntime.attachMembership
  refine gate_of_steps (attachLabel_keepsGate clientId session.room)
    (ServerRuntime.afterJoin_steps _ clientId session.room) ?_
  cases restored with
  | some restored => exact ServerRuntime.joinCoordinator_gate ..
  | none => exact ServerRuntime.joinCoordinator_gate ..

theorem ideal_bindReconnectIdentity (s : ServerRuntime) (clientId : String)
    (session : ServerSession) (presentedToken : Option String) (freshToken : String) :
    (s.bindReconnectIdentity clientId session presentedToken freshToken).ideal = s.ideal := by
  unfold ServerRuntime.bindReconnectIdentity
  split <;> rfl

theorem bindReconnectIdentity_session (s : ServerRuntime) (clientId : String)
    (session : ServerSession) (presentedToken : Option String) (freshToken : String) :
    (s.bindReconnectIdentity clientId session presentedToken freshToken).readinessEnabled =
      s.readinessEnabled ∧
    (s.bindReconnectIdentity clientId session presentedToken freshToken).sessions = s.sessions := by
  unfold ServerRuntime.bindReconnectIdentity
  split <;> exact ⟨rfl, rfl⟩

theorem attachReadinessMembership_refines (s : ServerRuntime) (clientId : String)
    (session : ServerSession) (presentedToken : Option String) (freshToken : String)
    (issueReconnectToken seedSyncplayReadyIntent : Bool)
    (hsession : s.sessions[clientId]? = some session) :
    Refines (attachLabel clientId session.room) s
      (attachReadinessMembership clientId presentedToken freshToken issueReconnectToken
        seedSyncplayReadyIntent) := by
  refine follows_quiet_bind rfl (follows_get_bind ?_)
  have hsession' : (s.clearPendingUserTransport clientId).sessions[clientId]? = some session :=
    hsession
  rw [hsession']
  dsimp only
  split
  · exact follows_pure _ _
  · next hmember =>
    refine follows_quiet_bind rfl (follows_get_bind ?_)
    set pruned := (s.clearPendingUserTransport clientId).pruneReadinessReconnectCache
    have henabled : pruned.readinessEnabled = true := by
      rw [Bool.or_eq_true, not_or] at hmember
      have hunpruned : (s.clearPendingUserTransport clientId).readinessEnabled = true := by
        simpa using hmember.1
      exact hunpruned
    set bound := if issueReconnectToken then
      pruned.bindReconnectIdentity clientId session presentedToken freshToken else pruned with hbound
    have hfacts : bound.ideal = pruned.ideal ∧ bound.readinessEnabled = true ∧
        bound.sessions[clientId]? = some session := by
      rw [hbound]
      split
      · obtain ⟨hsame, hsessions⟩ :=
          bindReconnectIdentity_session pruned clientId session presentedToken freshToken
        exact ⟨ideal_bindReconnectIdentity .., hsame.trans henabled, by rw [hsessions]; exact hsession⟩
      · exact ⟨rfl, henabled, hsession⟩
    obtain ⟨hideal, henabled', hsession''⟩ := hfacts
    refine follows_quiet_bind hideal (follows_get_bind ?_)
    refine follows_modify_bind (bound.attachMembership_steps clientId session _
      seedSyncplayReadyIntent henabled' hsession'') (follows_get_bind ?_)
    refine refines_invisible_bind (setRosterReady_invisible ..) fun _ t ht => follows_get_bind ?_
    have hgate := attachMembership_gate bound clientId session
      (if issueReconnectToken then pruned.restorableMembership session presentedToken else none)
      seedSyncplayReadyIntent
    rw [← ht] at hgate
    obtain ⟨coordinator, hroom⟩ := coordinator_of_gate hgate
    refine refines_bind (Refines.weaken (maybeCommitReadinessGate_refines t session.room coordinator
      hroom) fun l hl => ?_) fun _ _ => follows_pure _ _
    cases l <;> first | exact hl | exact hl.elim

/-! ### Detach -/

/-- What settles a detached membership. -/
def settleDetachedLabel (room : String) : Label → Prop
  | .release r | .dissolve r => r = room
  | l => commitLabel room l

/-- What a departing membership does to its room. -/
def detachLabel (room : String) : Label → Prop
  | .withdraw r _ => r = room
  | l => settleDetachedLabel room l

/-- The client is no member of the room's coordinator under this name. -/
def Withdrawn (clientId room username : String) (t : State) : Prop :=
  ∀ g m, t.gate room = some g → g.members username = some m → m.clientId ≠ clientId

theorem withdrawn_congr {clientId room username : String} {t t' : State}
    (hmembers : (t'.gate room).map Gate.members = (t.gate room).map Gate.members)
    (h : Withdrawn clientId room username t) : Withdrawn clientId room username t' := by
  intro g' m hg' hm
  rw [hg'] at hmembers
  obtain ⟨g, hg, hsame⟩ := Option.map_eq_some_iff.mp hmembers.symm
  exact h g m hg (by rw [hsame]; exact hm)

theorem withdrawn_effect {clientId room username : String} {t : State} {l : Label}
    (hl : ¬ l.writesMembers ∨ l = .dissolve room) (h : Withdrawn clientId room username t) :
    Withdrawn clientId room username (effect t l) := by
  rcases hl with hkeeps | rfl
  · exact withdrawn_congr (effect_members hkeeps room) h
  · intro g m hg
    have hnone : (effect t (.dissolve room)).gate room = none := Function.update_self ..
    rw [hnone] at hg
    cases hg

theorem withdrawn_of_steps {clientId room username : String} {allowed : Label → Prop}
    (hallowed : ∀ l, allowed l → ¬ l.writesMembers ∨ l = .dissolve room) {t t' : State}
    (hsteps : Relation.ReflTransGen (Steps allowed) t t')
    (h : Withdrawn clientId room username t) : Withdrawn clientId room username t' := by
  induction hsteps with
  | refl => exact h
  | tail _ hstep ih =>
    obtain ⟨l, hl, -, rfl⟩ := hstep
    exact withdrawn_effect (hallowed l hl) ih

theorem settleDetachedLabel_members (room : String) (l : Label) (h : settleDetachedLabel room l) :
    ¬ l.writesMembers ∨ l = .dissolve room := by
  cases l with
  | dissolve r =>
    obtain rfl : r = room := h
    exact .inr rfl
  | _ => first | exact .inl id | exact h.elim

theorem discardEmptyCoordinator_steps (s : ServerRuntime) (room : String) :
    Relation.ReflTransGen (Steps (settleDetachedLabel room)) s.ideal
      (s.discardEmptyCoordinator room).ideal := by
  unfold ServerRuntime.discardEmptyCoordinator
  split
  · next hempty =>
    refine one_step (l := .dissolve room) rfl (fun g username hg => ?_) ?_
    · obtain ⟨coordinator, hroom, rfl⟩ := Option.map_eq_some_iff.mp
        (show s.roomReadiness[room]?.map RoomReadinessCoordinator.ideal = some g from hg)
      rw [hroom, Option.any_some, Std.ExtTreeMap.isEmpty_iff] at hempty
      show Option.map _ coordinator.participants[username]? = none
      rw [hempty]
      rfl
    · exact congrArg (State.record · [.coordinatorRemoved room])
        (ServerRuntime.ideal_setReadiness s room none _ (lookup_erase _ _))
  · exact .refl

theorem settleDetachedMembership_refines (s : ServerRuntime) (room : String)
    (coordinator : RoomReadinessCoordinator) (hroom : s.roomReadiness[room]? = some coordinator) :
    Refines (settleDetachedLabel room) s (settleDetachedMembership room) := by
  refine follows_gets_bind (refines_bind (Refines.weaken
    (maybeCommitReadinessGate_refines s room coordinator hroom) fun l hl => ?_) fun _ t =>
      follows_get_bind ?_)
  · cases l <;> first | exact hl | exact hl.elim
  · split
    · refine refines_bind (Refines.weaken (clearReadinessGate_refines t room) fun l hl => ?_)
        fun _ u => follows_modify_bind (discardEmptyCoordinator_steps u room) (follows_pure _ _)
      obtain rfl := hl
      exact rfl
    · exact follows_pure _ _

theorem removeParticipant_steps (s : ServerRuntime) (room username : String) :
    step s.ideal (.withdraw room username) (s.removeParticipant room username).ideal := by
  refine ⟨trivial, ?_⟩
  rw [ServerRuntime.removeParticipant, ServerRuntime.ideal_refreshReadinessGatePhase,
    ServerRuntime.ideal_updateReadiness]
  show s.ideal.setGate room _ = s.ideal.setGate room (Option.map _ (Option.map _ _))
  rw [Option.map_map, Option.map_map]
  congr 2
  funext coordinator
  simp only [Function.comp_apply, RoomReadinessCoordinator.ideal, Gate.mk.injEq, true_and]
  funext u
  rw [congrFun (lookup_erase coordinator.participants username) u]
  exact congrFun (map_update _ username none ServerReadinessParticipant.ideal) u

theorem ideal_setReconnectCache (s : ServerRuntime)
    (cache : BTreeMap String DetachedReadinessMembership) :
    { s with readinessReconnectCache := cache }.ideal = s.ideal := rfl

theorem ideal_retainForReconnect (s : ServerRuntime) (clientId : String) (session : ServerSession)
    (participant : ServerReadinessParticipant) (roomRevision : Nat) (retain : Bool) :
    (match retain, s.readinessReconnectIdentityByClient[clientId]? with
      | true, some token => s.retainForReconnect session participant roomRevision token
      | _, _ => s).ideal = s.ideal := by
  split
  · exact ideal_setReconnectCache s.pruneReadinessReconnectCache _
  · rfl

theorem removeParticipant_withdrawn (s : ServerRuntime) (clientId room username : String) :
    Withdrawn clientId room username (s.removeParticipant room username).ideal := by
  rw [(removeParticipant_steps s room username).2]
  intro g m hg hm
  have hgate : (s.ideal.gate room).map (fun g : Gate =>
      { g with members := Function.update g.members username none }) = some g :=
    (Function.update_self (f := s.ideal.gate) room _).symm.trans hg
  obtain ⟨g₀, -, rfl⟩ := Option.map_eq_some_iff.mp hgate
  have hnone : Function.update g₀.members username none username = none :=
    Function.update_self ..
  exact absurd (hnone.symm.trans hm) (by simp)

/-- A detached client is withdrawn from its room's coordinator. -/
theorem detachReadinessMembership_spec (s : ServerRuntime) (clientId : String)
    (session : ServerSession) (retainForReconnect : Bool)
    (hsession : s.sessions[clientId]? = some session) :
    FollowsTo ServerRuntime.ideal (Steps (detachLabel session.room))
      (Withdrawn clientId session.room session.username) s
      (detachReadinessMembership clientId retainForReconnect) := by
  refine followsTo_quiet_bind rfl (followsTo_get_bind ?_)
  have hsession' : (s.clearPendingUserTransport clientId).sessions[clientId]? = some session :=
    hsession
  rw [hsession']
  dsimp only
  have hmember : ∀ g m, s.ideal.gate session.room = some g →
      g.members session.username = some m →
      ∃ p, (s.clearPendingUserTransport clientId).readinessParticipant session.room
        session.username = some p ∧ m = p.ideal := by
    intro g m hg hm
    obtain ⟨coordinator, hroom, rfl⟩ := Option.map_eq_some_iff.mp
      (show s.roomReadiness[session.room]?.map RoomReadinessCoordinator.ideal = some g from hg)
    obtain ⟨p, hp, rfl⟩ := Option.map_eq_some_iff.mp
      (show coordinator.participants[session.username]?.map _ = some m from hm)
    refine ⟨p, ?_, rfl⟩
    show s.roomReadiness[session.room]?.bind _ = some p
    rw [hroom]
    exact hp
  split
  · next hnone =>
    refine followsTo_pure _ fun g m hg hm => ?_
    obtain ⟨p, hp, -⟩ := hmember g m hg hm
    rw [hnone] at hp
    cases hp
  · next participant hparticipant =>
    split
    · next hother =>
      refine followsTo_pure _ fun g m hg hm => ?_
      obtain ⟨p, hp, rfl⟩ := hmember g m hg hm
      rw [hparticipant] at hp
      obtain rfl := Option.some.inj hp
      exact hother
    · set cleared := s.clearPendingUserTransport clientId
      have hwithdraw := removeParticipant_steps cleared session.room session.username
      have hsettle : ∀ t : ServerRuntime,
          t.ideal = (cleared.removeParticipant session.room session.username).ideal →
          FollowsTo ServerRuntime.ideal (Steps (detachLabel session.room))
            (Withdrawn clientId session.room session.username) t
            (settleDetachedMembership session.room) := by
        intro t ht
        have hgate : (t.ideal.gate session.room).isSome = true := by
          rw [ht, hwithdraw.2]
          refine effect_gate_isSome (by simp) ?_
          show (s.roomReadiness[session.room]?.map _).isSome = true
          have hbind : s.roomReadiness[session.room]?.bind
              (fun room => room.participants[session.username]?) = some participant := hparticipant
          obtain ⟨coordinator, hroom, -⟩ := Option.bind_eq_some_iff.mp hbind
          rw [hroom]
          rfl
        obtain ⟨coordinator, hroom⟩ := coordinator_of_gate hgate
        have hsteps := settleDetachedMembership_refines t session.room coordinator hroom
        refine ⟨Refines.weaken hsteps fun l hl => ?_, ?_⟩
        · cases l <;> first | exact hl | exact hl.elim
        · refine withdrawn_of_steps (settleDetachedLabel_members session.room) hsteps ?_
          rw [ht]
          exact removeParticipant_withdrawn cleared clientId session.room session.username
      refine followsTo_modify_bind (one_step (l := .withdraw session.room session.username) rfl
        hwithdraw.1 hwithdraw.2) ?_
      have hretained := ideal_retainForReconnect
        (cleared.removeParticipant session.room session.username) clientId session participant
        ((cleared.roomReadiness[session.room]?.map (·.revision + 1)).getD 0) retainForReconnect
      exact followsTo_quiet_bind hretained (hsettle _ hretained)

/-! ### The mixed-room cohort -/

/-- What a re-evaluation of the cohort does to its room. -/
def cohortLabel (room : String) : Label → Prop
  | .reconcile r _ _ _ => r = room
  | l => commitLabel room l

theorem refreshMixedReadinessCohort_refines (s : ServerRuntime) (room : String) :
    Refines (cohortLabel room) s (refreshMixedReadinessCohort room) := by
  refine follows_get_bind ?_
  extract_lets changed
  refine follows_modify_bind (Relation.ReflTransGen.mono (Steps.mono fun l hl => ?_) _ _
    (s.reconcile_steps room)) (follows_get_bind ?_)
  · cases l <;> first | exact hl | exact hl.elim
  · extract_lets barrierChanged
    split
    · exact follows_pure _ _
    · next hchanged =>
      -- something changed, so the room has a coordinator
      have hgate : (s.ideal.gate room).isSome = true := by
        show (s.roomReadiness[room]?.map _).isSome = true
        rw [Option.isSome_map]
        cases hroom : s.roomReadiness[room]? with
        | some coordinator => rfl
        | none =>
          have hungoverned : s.readinessGoverned room = false := by
            rw [ServerRuntime.readinessGoverned, Bool.and_eq_false_iff]
            refine .inr ?_
            rw [Bool.eq_false_iff, Ne, Std.ExtTreeMap.contains_iff_mem,
              Std.ExtTreeMap.mem_iff_isSome_getElem?, hroom]
            simp
          have hsame : changed = [] := by
            simp only [changed, hroom]
            cases s.readinessEnabled <;> rfl
          exact absurd (by simp [hsame, barrierChanged, hungoverned]) hchanged
      have hkeeps : ∀ l, reconcileLabel room l → l ≠ .dissolve room := by
        rintro l hl rfl
        exact hl
      have hgate' := gate_of_steps hkeeps (s.reconcile_steps room) hgate
      set reconciled := s.reconcileMixedReadinessCohortState room
      have hquiet := reconciled.ideal_refreshReadinessGatePhase room
      rw [← hquiet] at hgate'
      obtain ⟨coordinator, hroom⟩ := coordinator_of_gate hgate'
      refine follows_quiet_bind hquiet (follows_get_bind ?_)
      refine refines_bind (Refines.weaken (maybeCommitReadinessGate_refines _ room coordinator
        hroom) fun l hl => ?_) fun _ _ => follows_pure _ _
      cases l <;> first | exact hl | exact hl.elim

end Sorotte.Server
