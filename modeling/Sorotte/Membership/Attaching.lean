import Sorotte.Membership.Seating

/-! # Attaching

  A client is seated with a fresh membership or with the one that its presented
  token names, which then leaves the reconnect cache.  The seat is the only one
  that is new; the tokens have no part in who is where.
-/

namespace Sorotte.Server

open Sorotte.Framework Sorotte.Framework.Prog

variable {stale : String → String → Prop} {excused : String → Prop} {s s' : ServerRuntime}

/-! ### A new seat -/

/-- `s'` differs from `s`, as far as memberships go, in one seat of `room`; the
    coordinator keeps the generation it had. -/
structure SeatAdded (room username : String) (p' : ServerReadinessParticipant)
    (s s' : ServerRuntime) : Prop where
  participant : ∀ a b, s'.readinessParticipant a b =
    if a = room ∧ b = username then some p' else s.readinessParticipant a b
  rooms : ∀ (a : String) k', s'.roomReadiness[a]? = some k' →
    a = room ∨ ∃ k, s.roomReadiness[a]? = some k
  generation : ∀ a, s'.readinessMediaGeneration a = s.readinessMediaGeneration a
    ∨ (a = room ∧ s.readinessMediaGeneration a = none)
  derived : FlagsDerived (s'.readinessMediaGeneration room) p'.record
  sessions : s'.sessions = s.sessions
  roster : s'.roomRoster = s.roomRoster
  enabled : s'.readinessEnabled = s.readinessEnabled

theorem joiningGeneration_of_current {room : String} {generation : Nat}
    (h : s.readinessMediaGeneration room = some generation) :
    s.joiningGeneration room = some generation := by
  unfold ServerRuntime.joiningGeneration
  rw [h]
  rfl

/-- What a coordinator with room for one more holds. -/
theorem joinCoordinator_added (s : ServerRuntime) (room username : String)
    (participant : ServerReadinessParticipant) (restoredRevision : Nat) (generation : Option Nat)
    (hgeneration : ∀ current, s.readinessMediaGeneration room = some current →
      generation = some current)
    (hplayable : ∀ playable, participant.record.technicalState ≠ .playable playable) :
    SeatAdded room username
      { participant with
        record := ServerRuntime.joinedRecord participant.record
          (max (s.roomReadiness.getD room {}).revision restoredRevision + 1)
          (generation.or (s.roomReadiness.getD room {}).mediaGeneration) }
      s (s.joinCoordinator room username participant restoredRevision generation) := by
  set k := s.roomReadiness.getD room {}
  set joined := ServerRuntime.joinedCoordinator k username participant restoredRevision generation
  have hlookup : ∀ a : String,
      (s.joinCoordinator room username participant restoredRevision generation).roomReadiness[a]? =
        if a = room then some joined else s.roomReadiness[a]? := by
    intro a
    show (s.roomReadiness.insert room joined)[a]? = _
    rw [Std.ExtTreeMap.getElem?_insert]
    by_cases ha : a = room
    · rw [if_pos (by simp [ha]), if_pos ha]
    · rw [if_neg (by simpa using Ne.symm ha), if_neg ha]
  have hseats : ∀ b : String, k.participants[b]? = s.readinessParticipant room b := by
    intro b
    show (s.roomReadiness.getD room {}).participants[b]? = _
    unfold ServerRuntime.readinessParticipant
    rw [Std.ExtTreeMap.getD_eq_getD_getElem?]
    cases s.roomReadiness[room]? with
    | none => exact Std.ExtTreeMap.getElem?_empty
    | some k => rfl
  have hcurrent : k.mediaGeneration = s.readinessMediaGeneration room := by
    show (s.roomReadiness.getD room {}).mediaGeneration = _
    unfold ServerRuntime.readinessMediaGeneration
    rw [Std.ExtTreeMap.getD_eq_getD_getElem?]
    cases s.roomReadiness[room]? <;> rfl
  have hmoved : (s.joinCoordinator room username participant restoredRevision generation
      ).readinessMediaGeneration room = generation.or k.mediaGeneration := by
    unfold ServerRuntime.readinessMediaGeneration
    rw [hlookup, if_pos rfl]
    rfl
  refine ⟨fun a b => ?_, fun a k' hk' => ?_, fun a => ?_, ?_, rfl, rfl, rfl⟩
  · unfold ServerRuntime.readinessParticipant
    rw [hlookup]
    by_cases ha : a = room
    · subst ha
      rw [if_pos rfl, Option.bind_some]
      show (k.participants.insert username _)[b]? = _
      rw [Std.ExtTreeMap.getElem?_insert]
      by_cases hb : b = username
      · rw [if_pos (by simp [hb]), if_pos ⟨rfl, hb⟩]
      · rw [if_neg (by simpa using Ne.symm hb), if_neg (fun h => hb h.2), hseats]
        rfl
    · rw [if_neg ha, if_neg (fun h => ha h.1)]
  · rw [hlookup] at hk'
    by_cases ha : a = room
    · exact .inl ha
    · rw [if_neg ha] at hk'
      exact .inr ⟨k', hk'⟩
  · by_cases ha : a = room
    · subst ha
      cases hnow : s.readinessMediaGeneration a with
      | none => exact .inr ⟨rfl, rfl⟩
      | some current =>
        refine .inl ?_
        rw [hmoved, hgeneration current hnow]
        rfl
    · refine .inl ?_
      unfold ServerRuntime.readinessMediaGeneration
      rw [hlookup, if_neg ha]
  · rw [hmoved]
    exact ⟨rfl, rfl, fun playable hstate => absurd hstate (hplayable playable)⟩

/-- A seat for a live, capable session may be added at any time; the roster
    owes its projection. -/
theorem Members.seat {room username : String} {p' : ServerReadinessParticipant}
    {session : ServerSession} (h : Members stale excused s)
    (hadded : SeatAdded room username p' s s') (henabled : s.readinessEnabled = true)
    (hsession : s.sessions[p'.clientId]? = some session) (hroom : session.room = room)
    (hname : session.username = username) (hcapable : session.capabilities.readinessV2 = true) :
    Members (fun a b => stale a b ∨ (a = room ∧ b = username)) excused s' where
  enabled a k' hk' := by rw [hadded.enabled, henabled]
  seated a b p hp := by
    rw [hadded.participant] at hp
    rw [hadded.sessions]
    by_cases hab : a = room ∧ b = username
    · rw [if_pos hab] at hp
      cases hp
      exact ⟨session, hsession, hroom.trans hab.1.symm, hname.trans hab.2.symm, .inl hcapable⟩
    · rw [if_neg hab] at hp
      exact h.seated a b p hp
  derived a b p hp := by
    rw [hadded.participant] at hp
    by_cases hab : a = room ∧ b = username
    · rw [if_pos hab] at hp
      cases hp
      rw [hab.1]
      exact hadded.derived
    · rw [if_neg hab] at hp
      have hderived := h.derived a b p hp
      rcases hadded.generation a with hsame | ⟨-, hnone⟩
      · rw [hsame]
        exact hderived
      · rw [hnone] at hderived
        exact hderived.of_none _
  projected a b p hp hstale := by
    rw [hadded.participant, if_neg fun hab => hstale (.inr hab)] at hp
    rw [← h.projected a b p hp fun hs => hstale (.inl hs)]
    unfold ServerRuntime.storedUserReady
    rw [hadded.roster]
  named c c' session session' := by
    rw [hadded.sessions]
    exact h.named c c' session session'
  rostered a b := by
    rw [hadded.sessions, ← h.rostered a b]
    unfold ServerRuntime.rosterFlag
    rw [hadded.roster]

/-! ### Attaching -/

theorem joinedMembership_added (s : ServerRuntime) (clientId : String) (session : ServerSession)
    (restored : Option DetachedReadinessMembership) (seed : Bool) :
    ∃ p, p.clientId = clientId
      ∧ SeatAdded session.room session.username p s
        (s.joinedMembership clientId session restored seed) := by
  have hplayable := initialTechnicalState_not_playable (s.joiningGeneration session.room)
  have hcurrent : ∀ current, s.readinessMediaGeneration session.room = some current →
      s.joiningGeneration session.room = some current := fun _ => joiningGeneration_of_current
  cases restored with
  | some d =>
    exact ⟨_, rfl, joinCoordinator_added s session.room session.username
      (ServerRuntime.restoredParticipant clientId d
        (if session.capabilities.playbackBarrierV1 then .required else .excludedUnsupported)
        (s.joiningGeneration session.room))
      d.roomReadinessRevision (s.joiningGeneration session.room) hcurrent hplayable⟩
  | none =>
    have hadded := joinCoordinator_added
      { s with nextReadinessMembershipEpoch := s.nextReadinessMembershipEpoch + 1 }
      session.room session.username
      (ServerRuntime.freshParticipant clientId s.nextReadinessMembershipEpoch
        (if seed ∧ s.storedUserReady session.username session.room = some true then .ready
          else .notReady)
        (if session.capabilities.playbackBarrierV1 then .required else .excludedUnsupported)
        (s.joiningGeneration session.room))
      0 (s.joiningGeneration session.room) hcurrent hplayable
    exact ⟨_, rfl, hadded.participant, hadded.rooms, hadded.generation, hadded.derived, rfl, rfl,
      rfl⟩

/-- Reconciling, claiming the pause and publishing the gate after a join. -/
theorem attachMembership_settled (s : ServerRuntime) (clientId : String)
    (session : ServerSession) (restored : Option DetachedReadinessMembership) (seed : Bool) :
    Quiet
      ((s.joinedMembership clientId session restored seed).reconcileMixedReadinessCohortState
        session.room)
      (s.attachMembership clientId session restored seed) := by
  unfold ServerRuntime.attachMembership
  exact (ServerRuntime.quiet_claimPauseForActiveStart _ _).trans
    (ServerRuntime.quiet_refreshReadinessGatePhase _ _)

theorem attachMembership_seatsKept (s : ServerRuntime) (clientId : String)
    (session : ServerSession) (restored : Option DetachedReadinessMembership) (seed : Bool) :
    SeatsKept (s.joinedMembership clientId session restored seed)
      (s.attachMembership clientId session restored seed) :=
  (seatsKept_reconcile _ _).trans
    (attachMembership_settled s clientId session restored seed).same.seatsKept

theorem Members.attach (h : Members stale excused s) {clientId : String}
    {session : ServerSession} (restored : Option DetachedReadinessMembership) (seed : Bool)
    (hsession : s.sessions[clientId]? = some session) (henabled : s.readinessEnabled = true)
    (hcapable : session.capabilities.readinessV2 = true) :
    Members stale excused ((s.attachMembership clientId session restored seed).projectReady
      session.room session.username) := by
  obtain ⟨p, hclient, hadded⟩ := joinedMembership_added s clientId session restored seed
  have hjoined := h.seat hadded henabled (hclient ▸ hsession) rfl rfl hcapable
  have hsettled := (hjoined.reconcile session.room).quiet
    (attachMembership_settled s clientId session restored seed)
  refine (hsettled.project ?_).weaken fun a b q _ hs => ?_
  · rw [hsettled.rostered, (attachMembership_seatsKept s clientId session restored seed).sessions,
      hadded.sessions]
    exact ⟨clientId, session, hsession, rfl, rfl⟩
  · rcases hs.1 with hstale | hab
    · exact hstale
    · exact absurd hab hs.2

/-- `s'` differs from `s` in the cache and the tokens of connections only. -/
structure OnlyTokens (s s' : ServerRuntime) : Prop where
  readiness : s'.roomReadiness = s.roomReadiness
  sessions : s'.sessions = s.sessions
  roster : s'.roomRoster = s.roomRoster
  enabled : s'.readinessEnabled = s.readinessEnabled
  scopes : s'.roomParticipantStatusScopes = s.roomParticipantStatusScopes
  states : s'.clientPlaybackStates = s.clientPlaybackStates
  sampleRooms : s'.sampleRooms = s.sampleRooms
  history : s'.history = s.history

theorem OnlyTokens.participant (h : OnlyTokens s s') (room username : String) :
    s'.readinessParticipant room username = s.readinessParticipant room username := by
  unfold ServerRuntime.readinessParticipant
  rw [h.readiness]

theorem OnlyTokens.generation (h : OnlyTokens s s') (room : String) :
    s'.readinessMediaGeneration room = s.readinessMediaGeneration room := by
  unfold ServerRuntime.readinessMediaGeneration
  rw [h.readiness]

theorem OnlyTokens.seatsKept (h : OnlyTokens s s') : SeatsKept s s' where
  sessions := h.sessions
  enabled := h.enabled
  rooms room k' hk' := ⟨k', by rw [← h.readiness, hk']⟩
  seats room username p' hp' := ⟨p', by rw [← h.participant, hp'], rfl⟩

theorem Members.tokens (h : Members stale excused s) (htokens : OnlyTokens s s') :
    Members stale excused s' := by
  refine h.edit htokens.seatsKept htokens.roster (fun room username p p' hp hp' => ?_)
    fun room username p p' hp hp' hstale => ⟨?_, hstale⟩
  · rw [htokens.generation]
    rw [htokens.participant] at hp'
    exact h.derived room username p' hp'
  · rw [htokens.participant, hp] at hp'
    cases hp'
    rfl

theorem bind_onlyTokens (s : ServerRuntime) (clientId : String) (session : ServerSession)
    (presentedToken : Option String) (freshToken : String) :
    OnlyTokens s (s.bindReconnectIdentity clientId session presentedToken freshToken) := by
  unfold ServerRuntime.bindReconnectIdentity
  split <;> exact ⟨rfl, rfl, rfl, rfl, rfl, rfl, rfl, rfl⟩

theorem Members.attachSeat (h : Members stale excused s) {clientId : String}
    {session : ServerSession} (presentedToken : Option String) (freshToken : String) (seed : Bool)
    (hsession : s.sessions[clientId]? = some session) (henabled : s.readinessEnabled = true)
    (hcapable : session.capabilities.readinessV2 = true) :
    Members stale excused (s.attachSeat clientId session presentedToken freshToken seed) := by
  have htokens := bind_onlyTokens s clientId session presentedToken freshToken
  refine (h.tokens htokens).attach _ seed ?_ ?_ hcapable
  · rw [htokens.sessions, hsession]
  · rw [htokens.enabled, henabled]

theorem onlyRoster_project (s : ServerRuntime) (room username : String) :
    OnlyRoster s (s.projectReady room username) :=
  ⟨rfl, rfl, rfl, rfl, rfl, rfl, rfl⟩

end Sorotte.Server
