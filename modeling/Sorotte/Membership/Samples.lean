import Sorotte.Membership.Coherence

/-! # Samples and authorities

  What moves do to client samples and to the transport authorities they are
  made against.  Authorities only go back when a room's state is discarded, and
  every move but a room switch keeps samples sound: the switch labels the new
  sample with the authority of the room that is left.
-/

namespace Sorotte.Server

open Sorotte.Framework Sorotte.Framework.Prog

variable {stale : String → String → Prop} {excused : String → Prop} {s s' : ServerRuntime}

/-! ### Moves that keep samples -/

structure SamplesKept (s s' : ServerRuntime) : Prop where
  authorities : AuthoritiesKept s s'
  samples : SamplesSound s → SamplesSound s'
  history : s.history <:+ s'.history

theorem SamplesKept.refl (s : ServerRuntime) : SamplesKept s s :=
  ⟨.refl s, id, List.suffix_refl _⟩

theorem SamplesKept.trans {t : ServerRuntime} (h : SamplesKept s t) (h' : SamplesKept t s') :
    SamplesKept s s' :=
  ⟨h.authorities.trans h'.authorities, h'.samples ∘ h.samples, h.history.trans h'.history⟩

theorem SamplesKept.of_quiet (h : Quiet s s') : SamplesKept s s' :=
  ⟨h.authorities, h.samples, h.history⟩

theorem authoritiesKept_of_scopes
    (h : s'.roomParticipantStatusScopes = s.roomParticipantStatusScopes) :
    AuthoritiesKept s s' := by
  intro room before hbefore
  refine ⟨before, ?_, le_refl _⟩
  show s'.roomParticipantStatusScopes[room]?.map _ = some before
  rw [h]
  exact hbefore

/-- An update that has no part in samples. -/
theorem SamplesKept.of_frame (hsessions : s'.sessions = s.sessions)
    (hscopes : s'.roomParticipantStatusScopes = s.roomParticipantStatusScopes)
    (hstates : s'.clientPlaybackStates = s.clientPlaybackStates)
    (hrooms : s'.sampleRooms = s.sampleRooms) (hhistory : s.history <:+ s'.history) :
    SamplesKept s s' :=
  have hkept := authoritiesKept_of_scopes hscopes
  ⟨hkept, samplesSound_of_kept hsessions hstates hrooms hkept, hhistory⟩

theorem SamplesKept.of_roster (h : OnlyRoster s s') : SamplesKept s s' :=
  .of_frame h.sessions h.scopes h.states h.sampleRooms (h.history ▸ List.suffix_refl _)

theorem SamplesKept.of_tokens (h : OnlyTokens s s') : SamplesKept s s' :=
  .of_frame h.sessions h.scopes h.states h.sampleRooms (h.history ▸ List.suffix_refl _)

theorem samplesKept_updateReadiness (s : ServerRuntime) (room : String)
    (f : RoomReadinessCoordinator → RoomReadinessCoordinator) :
    SamplesKept s (s.updateReadiness room f) :=
  .of_frame rfl rfl rfl rfl (List.suffix_refl _)

theorem samplesKept_reconcile (s : ServerRuntime) (room : String) :
    SamplesKept s (s.reconcileMixedReadinessCohortState room) := by
  obtain ⟨hscopes, hstates, hrooms, hsessions, hhistory⟩ := reconcile_frame s room
  exact .of_frame hsessions hscopes hstates hrooms (hhistory ▸ List.suffix_refl _)

theorem samplesKept_replaceGeneration (s : ServerRuntime) (room : String)
    (generation : Option Nat) (ownsStartPause : Bool) :
    SamplesKept s (s.replaceReadinessGeneration room generation ownsStartPause) := by
  unfold ServerRuntime.replaceReadinessGeneration
  extract_lets cleared
  have hcleared : SamplesKept s cleared :=
    .of_quiet (s.quiet_clearPendingUserTransportInRoom room)
  split
  · exact hcleared
  · exact (hcleared.trans (samplesKept_updateReadiness _ _ _)).trans
      (.of_quiet (ServerRuntime.quiet_refreshReadinessGatePhase _ room))

theorem samplesKept_attachSeat (s : ServerRuntime) (clientId : String) (session : ServerSession)
    (presentedToken : Option String) (freshToken : String) (seed : Bool) :
    SamplesKept s (s.attachSeat clientId session presentedToken freshToken seed) := by
  unfold ServerRuntime.attachSeat
  generalize s.restorableMembership session presentedToken = restored
  set bound := s.bindReconnectIdentity clientId session presentedToken freshToken
  have hjoined : SamplesKept bound (bound.joinedMembership clientId session restored seed) := by
    unfold ServerRuntime.joinedMembership
    cases restored <;> exact .of_frame rfl rfl rfl rfl (List.suffix_refl _)
  have hbound : SamplesKept s bound := .of_tokens (bind_onlyTokens _ _ _ _ _)
  have hsettled := SamplesKept.of_quiet (attachMembership_settled bound clientId session restored
    seed)
  exact (((hbound.trans hjoined).trans (samplesKept_reconcile _ _)).trans hsettled).trans
    (.of_roster (onlyRoster_project _ _ _))

theorem samplesKept_detachSeat (s : ServerRuntime) (clientId : String) (session : ServerSession)
    (participant : ServerReadinessParticipant) (retain : Bool) :
    SamplesKept s (s.detachSeat clientId session participant retain) := by
  have hdetached := detachSeat_detached s clientId session participant retain
  exact .of_frame hdetached.kept.sessions hdetached.scopes hdetached.states hdetached.sampleRooms
    (hdetached.history ▸ List.suffix_refl _)

theorem samplesKept_dissolve (s : ServerRuntime) (room : String) :
    SamplesKept s (s.discardEmptyCoordinator room) := by
  unfold ServerRuntime.discardEmptyCoordinator
  split
  · exact .of_frame rfl rfl rfl rfl (List.suffix_cons _ _)
  · exact .refl s

theorem samplesKept_updateSession (s : ServerRuntime) (clientId : String)
    {f : ServerSession → ServerSession} (hf : ∀ session, (f session).room = session.room) :
    SamplesKept s (s.updateSession clientId f) := by
  refine ⟨authoritiesKept_of_scopes rfl, fun hsound c session' hsession' => ?_,
    List.suffix_refl _⟩
  -- the room, which is all that a sample depends on, is the one it was
  obtain ⟨session, hsession, hroom⟩ : ∃ session, s.sessions[c]? = some session
      ∧ session'.room = session.room := by
    rw [updateSession_lookup] at hsession'
    by_cases hc : c = clientId
    · subst hc
      rw [if_pos rfl] at hsession'
      obtain ⟨session, hsession, rfl⟩ := Option.map_eq_some_iff.mp hsession'
      exact ⟨session, hsession, hf session⟩
    · rw [if_neg hc] at hsession'
      exact ⟨session', hsession', rfl⟩
  obtain ⟨current, hcurrent, hfits⟩ := hsound c session hsession
  refine ⟨current, by rw [hroom]; exact hcurrent, fun state hstate => ?_⟩
  have hfit := hfits state hstate
  exact ⟨hfit.bounded, by rw [hroom]; exact hfit.taken⟩

/-! ### Entering and leaving -/

/-- The authority of a room whose records were just ensured. -/
theorem authority_readyForJoin (s : ServerRuntime) (room : String) (now : Seconds) (a : String) :
    (s.readyForJoin room now).authority a =
      if a = room then some ((s.authority room).getD 1) else s.authority a := by
  have hscopes : (s.readyForJoin room now).roomParticipantStatusScopes =
      s.roomParticipantStatusScopes.insertIfNew room {} := by
    unfold ServerRuntime.readyForJoin ServerRuntime.refreshRoomPlaybackStateFromClientsAt
    dsimp only
    split
    · rfl
    · split <;> rfl
  show (s.readyForJoin room now).roomParticipantStatusScopes[a]?.map _ = _
  rw [hscopes, Std.ExtTreeMap.getElem?_insertIfNew]
  by_cases ha : a = room
  · subst ha
    rw [if_pos rfl]
    by_cases hmem : a ∈ s.roomParticipantStatusScopes
    · rw [if_neg fun h => h.2 hmem]
      rw [Std.ExtTreeMap.mem_iff_isSome_getElem?] at hmem
      obtain ⟨scope, hscope⟩ := Option.isSome_iff_exists.mp hmem
      show s.roomParticipantStatusScopes[a]?.map _ =
        some ((s.roomParticipantStatusScopes[a]?.map _).getD 1)
      rw [hscope]
      rfl
    · rw [if_pos ⟨by simp, hmem⟩]
      show _ = some ((s.roomParticipantStatusScopes[a]?.map _).getD 1)
      rw [Std.ExtTreeMap.getElem?_eq_none hmem]
      rfl
  · rw [if_neg ha, if_neg fun h => ha (Std.LawfulEqOrd.eq_of_compare h.1).symm]
    rfl

/-- The records of one sample replaced: it fits if it is labelled with at most
    the authority of its session's room. -/
theorem samplesSound_of_seed {clientId : String} {session : ServerSession}
    {state : ClientPlaybackState} (hsound : SamplesSound s)
    (hsessions : s'.sessions = s.sessions.insert clientId session)
    (hstates : s'.clientPlaybackStates = s.clientPlaybackStates.insert clientId state)
    (hrooms : ∀ c : String, c ≠ clientId → s'.sampleRooms[c]? = s.sampleRooms[c]?)
    (hkept : AuthoritiesKept s s')
    (hfits : ∃ current, s'.authority session.room = some current
      ∧ SampleFits s' clientId session state current) : SamplesSound s' := by
  intro c other hother
  rw [hsessions] at hother
  rcases lookup_insert_cases hother with ⟨rfl, rfl⟩ | ⟨hne, hbefore⟩
  · obtain ⟨current, hcurrent, hfit⟩ := hfits
    refine ⟨current, hcurrent, fun held hheld => ?_⟩
    rw [hstates, Std.ExtTreeMap.getElem?_insert_self] at hheld
    cases hheld
    exact hfit
  · obtain ⟨current, hcurrent, hfit⟩ := hsound c other hbefore
    obtain ⟨after, hafter, hle⟩ := hkept other.room current hcurrent
    refine ⟨after, hafter, fun held hheld => ?_⟩
    rw [hstates, Std.ExtTreeMap.getElem?_insert,
      if_neg (by simpa using Ne.symm hne)] at hheld
    obtain ⟨hbounded, htaken⟩ := hfit held hheld
    refine ⟨fun revision hrevision => le_trans (hbounded revision hrevision) hle, ?_⟩
    rw [hrooms c hne]
    rcases htaken with hroom | hnone | ⟨revision, hrevision, hlt⟩
    · exact .inl hroom
    · exact .inr (.inl hnone)
    · exact .inr (.inr ⟨revision, hrevision, lt_of_lt_of_le hlt hle⟩)

theorem samplesKept_joinSession (s : ServerRuntime) (clientId : String) (session : ServerSession)
    (now : Seconds) : SamplesKept s (s.joinSession clientId session now) := by
  have hready := s.quiet_readyForJoin session.room now
  have hauthority := authority_readyForJoin s session.room now session.room
  rw [if_pos rfl] at hauthority
  unfold ServerRuntime.joinSession
  extract_lets roomName position room joined seeded
  have hput : joined.sessions[clientId]? = some session := Std.ExtTreeMap.getElem?_insert_self
  have hlabel : (joined.sessions[clientId]?.bind fun session =>
      joined.transportAuthorityRevisionForRoom session.room) = room.authority session.room := by
    rw [hput]
    rfl
  have hkept : AuthoritiesKept room { seeded with
      clientStateCounters := seeded.clientStateCounters.insert clientId {}
      clientLastStateUpdateAt :=
        seeded.clientLastStateUpdateAt.insert clientId seeded.localTimeSeconds
      clientNextPeriodicStateAt := seeded.clientNextPeriodicStateAt.insert clientId
        (seeded.localTimeSeconds + serverInitialStateDelaySeconds) } :=
    authoritiesKept_of_scopes rfl
  refine ⟨hready.authorities.trans hkept, fun hsound => ?_, hready.history⟩
  refine @samplesSound_of_seed room _ clientId session _ (hready.samples hsound) rfl rfl
    (fun c hne => ?_) hkept ⟨_, hauthority, ?_, .inl ?_⟩
  · show (joined.noteSampleRoom clientId)[c]? = _
    rw [ServerRuntime.noteSampleRoom, hput, Std.ExtTreeMap.getElem?_insert,
      if_neg (by simpa using Ne.symm hne)]
  · intro revision hrevision
    have hlabelled := hlabel.symm.trans hrevision
    exact le_of_eq (Option.some.inj (hlabelled.symm.trans hauthority))
  · show (joined.noteSampleRoom clientId)[clientId]? = _
    rw [ServerRuntime.noteSampleRoom, hput]
    exact Std.ExtTreeMap.getElem?_insert_self

theorem samplesKept_removeSessionTracking (s : ServerRuntime) (clientId : String)
    (session : ServerSession) : SamplesKept s (s.removeSessionTracking clientId session) := by
  have hkept : AuthoritiesKept s (s.removeSessionTracking clientId session) :=
    authoritiesKept_of_scopes rfl
  refine ⟨hkept, fun hsound c other hother => ?_, List.suffix_cons _ _⟩
  have herased : (s.sessions.erase clientId)[c]? = some other := hother
  rw [Std.ExtTreeMap.getElem?_erase] at herased
  split at herased
  · cases herased
  · obtain ⟨current, hcurrent, hfits⟩ := hsound c other herased
    refine ⟨current, hcurrent, fun state hstate => ?_⟩
    have hheld : (s.clientPlaybackStates.erase clientId)[c]? = some state := hstate
    rw [Std.ExtTreeMap.getElem?_erase] at hheld
    split at hheld
    · cases hheld
    · exact ⟨(hfits state hheld).bounded, (hfits state hheld).taken⟩

/-! ### Room switches -/

/-- A switch finds the old room's authority below the new room's, or at it
    while the new room seeds no position. -/
def SwitchesUpwards (s : ServerRuntime) (oldRoom newRoom : String) : Prop :=
  (s.authority oldRoom).getD 1 < (s.authority newRoom).getD 1
    ∨ ((s.authority oldRoom).getD 1 = (s.authority newRoom).getD 1
      ∧ s.seedsJoinerPosition newRoom = false)

/-- What a switch does to authorities and samples. -/
theorem moveSession_samples {clientId newRoom : String} {session : ServerSession}
    {roster : BTreeMap String (BTreeMap String (Option Bool))} (now : Seconds)
    (hsession : s.sessions[clientId]? = some session) (hroom : session.room ≠ newRoom) :
    AuthoritiesKept s (s.moveSession clientId session newRoom roster now)
      ∧ s.history <:+ (s.moveSession clientId session newRoom roster now).history
      ∧ (SwitchesUpwards s session.room newRoom → SamplesSound s →
        SamplesSound (s.moveSession clientId session newRoom roster now)) := by
  unfold ServerRuntime.moveSession
  extract_lets ready seeds left position room joined seeded
  have hready : Quiet left room := left.quiet_readyForJoin newRoom now
  have hleft : AuthoritiesKept s left := authoritiesKept_of_scopes rfl
  have hnew : room.authority newRoom = some ((s.authority newRoom).getD 1) := by
    have hauthority := authority_readyForJoin left newRoom now newRoom
    rw [if_pos rfl] at hauthority
    exact hauthority
  have hold : room.authority session.room = s.authority session.room := by
    have hauthority := authority_readyForJoin left newRoom now session.room
    rw [if_neg hroom] at hauthority
    exact hauthority
  have hput : joined.sessions[clientId]? = some session := by
    show room.sessions[clientId]? = _
    rw [hready.same.sessions]
    exact hsession
  -- the label of the sample: the session still names the old room
  have hlabel : (joined.sessions[clientId]?.bind fun session =>
      joined.transportAuthorityRevisionForRoom session.room) = s.authority session.room := by
    rw [hput]
    exact hold
  have hkept : AuthoritiesKept room { seeded with
      sessions := seeded.sessions.insert clientId { session with room := newRoom }
      history := .leftRoom clientId session.room :: seeded.history } :=
    authoritiesKept_of_scopes rfl
  refine ⟨(hleft.trans hready.authorities).trans hkept,
    hready.history.trans (List.suffix_cons _ _), fun hupwards hsound => ?_⟩
  have hsound' : SamplesSound left := samplesSound_of_kept (s := s) rfl rfl rfl hleft hsound
  obtain ⟨current, hcurrent, -⟩ := hsound clientId session hsession
  refine @samplesSound_of_seed room _ clientId { session with room := newRoom } _
    (hready.samples hsound') rfl rfl (fun c hne => ?_) hkept ⟨_, hnew, ?_, ?_⟩
  · show (joined.noteSampleRoom clientId)[c]? = _
    rw [ServerRuntime.noteSampleRoom, hput, Std.ExtTreeMap.getElem?_insert,
      if_neg (by simpa using Ne.symm hne)]
  · intro revision hrevision
    have hlabelled := hlabel.symm.trans hrevision
    unfold SwitchesUpwards at hupwards
    rw [hlabelled] at hupwards
    rcases hupwards with hlt | ⟨heq, -⟩
    · exact le_of_lt hlt
    · exact le_of_eq heq
  · unfold SwitchesUpwards at hupwards
    rw [hcurrent] at hupwards
    rcases hupwards with hlt | ⟨-, hunseeded⟩
    · exact .inr (.inr ⟨current, hlabel.trans hcurrent, hlt⟩)
    · refine .inr (.inl ?_)
      show position = none
      simp only [position, seeds, hunseeded]
      rfl

/-! ### Discarded rooms -/

theorem authority_discard (s : ServerRuntime) (room a : String) (h : a ≠ room) :
    ((s.removeRoomRuntimeState room).deletePersistedRoomIfNeeded room).authority a =
      (s.clearReadinessGate room).authority a := by
  have hscopes : ((s.removeRoomRuntimeState room).deletePersistedRoomIfNeeded room
      ).roomParticipantStatusScopes =
        (s.clearReadinessGate room).roomParticipantStatusScopes.erase room := by
    unfold ServerRuntime.deletePersistedRoomIfNeeded
    split
    · rfl
    · split <;> rfl
  show ((s.removeRoomRuntimeState room).deletePersistedRoomIfNeeded room
    ).roomParticipantStatusScopes[a]?.map _ = _
  rw [hscopes, Std.ExtTreeMap.getElem?_erase, if_neg (by simpa using Ne.symm h)]
  rfl

theorem mem_clientsInRoom {clientId room : String} :
    clientId ∈ s.clientsInRoom room ↔
      ∃ session : ServerSession, s.sessions[clientId]? = some session ∧ session.room = room := by
  unfold ServerRuntime.clientsInRoom
  rw [List.mem_map]
  constructor
  · rintro ⟨⟨c, session⟩, hmem, rfl⟩
    obtain ⟨hlist, hroom⟩ := List.mem_filter.mp hmem
    exact ⟨session, Std.ExtTreeMap.mem_toList_iff_getElem?_eq_some.mp hlist, by simpa using hroom⟩
  · rintro ⟨session, hsession, hroom⟩
    refine ⟨(clientId, session), List.mem_filter.mpr ⟨?_, by simpa using hroom⟩, rfl⟩
    exact Std.ExtTreeMap.mem_toList_iff_getElem?_eq_some.mpr hsession

/-- A room without members may lose its authority: no sample is held to it. -/
theorem discard_samples {room : String} (hempty : s.clientsInRoom room = [])
    (hsound : SamplesSound s) :
    SamplesSound ((s.removeRoomRuntimeState room).deletePersistedRoomIfNeeded room) := by
  have hsame := sameMembers_discard s room
  have hcleared := s.quiet_clearReadinessGate room
  have hstates : ((s.removeRoomRuntimeState room).deletePersistedRoomIfNeeded room
      ).clientPlaybackStates = (s.clearReadinessGate room).clientPlaybackStates
      ∧ ((s.removeRoomRuntimeState room).deletePersistedRoomIfNeeded room
      ).sampleRooms = (s.clearReadinessGate room).sampleRooms := by
    unfold ServerRuntime.deletePersistedRoomIfNeeded
    split
    · exact ⟨rfl, rfl⟩
    · split <;> exact ⟨rfl, rfl⟩
  intro clientId session hsession
  rw [hsame.sessions] at hsession
  have hroom : session.room ≠ room := by
    intro hroom
    have hmem := mem_clientsInRoom.mpr ⟨session, hsession, hroom⟩
    rw [hempty] at hmem
    cases hmem
  have hsession' : (s.clearReadinessGate room).sessions[clientId]? = some session := by
    rw [hcleared.same.sessions]
    exact hsession
  obtain ⟨current, hcurrent, hfits⟩ := hcleared.samples hsound clientId session hsession'
  refine ⟨current, ?_, fun state hstate => ?_⟩
  · rw [authority_discard s room session.room hroom]
    exact hcurrent
  · rw [hstates.1] at hstate
    obtain ⟨hbounded, htaken⟩ := hfits state hstate
    exact ⟨hbounded, by rw [hstates.2]; exact htaken⟩

/-- Authorities after a discarded room: only that room's may be lost. -/
theorem discard_authorities (s : ServerRuntime) (room : String) :
    (∀ a before, a ≠ room → s.authority a = some before →
      ∃ after, ((s.removeRoomRuntimeState room).deletePersistedRoomIfNeeded room).authority a
        = some after ∧ before ≤ after)
      ∧ ∃ fresh, ((s.removeRoomRuntimeState room).deletePersistedRoomIfNeeded room).history
        = .roomDiscarded room :: fresh ++ s.history := by
  have hcleared := s.quiet_clearReadinessGate room
  refine ⟨fun a before ha hbefore => ?_, ?_⟩
  · rw [authority_discard s room a ha]
    exact hcleared.authorities a before hbefore
  · obtain ⟨fresh, hfresh⟩ := hcleared.history
    refine ⟨fresh, ?_⟩
    have hhistory : ((s.removeRoomRuntimeState room).deletePersistedRoomIfNeeded room).history =
        .roomDiscarded room :: (s.clearReadinessGate room).history := by
      unfold ServerRuntime.deletePersistedRoomIfNeeded
      split
      · rfl
      · split <;> rfl
    rw [hhistory, ← hfresh]
    rfl

/-! ### All moves -/

/-- Moves other than a room switch and a discarded room. -/
def Move.keepsSamples : Move → Prop
  | .relocate _ | .discard _ => False
  | _ => True

theorem Moves.samplesKept {move : Move} (h : Moves move s s') (hkeeps : move.keepsSamples) :
    SamplesKept s s' := by
  cases h with
  | quiet h => exact .of_quiet h
  | prune => exact .of_tokens (prune_onlyTokens s)
  | reconcile room => exact samplesKept_reconcile s room
  | regenerate room generation ownsStartPause hquiet =>
    exact ((samplesKept_replaceGeneration s room generation ownsStartPause).trans
      (.of_quiet hquiet)).trans (.of_roster (onlyRoster_projectAll _ _ _))
  | attach presentedToken freshToken seed hsession henabled hcapable =>
    exact samplesKept_attachSeat s _ _ presentedToken freshToken seed
  | detach retain hsession hseat hclient => exact samplesKept_detachSeat s _ _ _ retain
  | @demote _ t clientId session participant capabilities hquiet hsession hseat hclient =>
    exact ((samplesKept_updateSession s clientId
      (f := fun session => { session with capabilities }) fun _ => rfl).trans
      (.of_quiet hquiet)).trans (samplesKept_detachSeat t _ _ _ true)
  | dissolve room => exact samplesKept_dissolve s room
  | spend room username nonce => exact samplesKept_updateReadiness s room _
  | intend desired source actor hseat =>
    exact (samplesKept_updateReadiness s _ _).trans (.of_roster (onlyRoster_project _ _ _))
  | accept source hsession hseat =>
    exact ((samplesKept_updateReadiness s _ _).trans (samplesKept_updateReadiness _ _ _)).trans
      (.of_roster (onlyRoster_project _ _ _))
  | report report hgeneration hseat =>
    exact (samplesKept_updateReadiness s _ _).trans (.of_roster (onlyRoster_project _ _ _))
  | enter now hnew hname => exact samplesKept_joinSession s _ _ now
  | leave hsession hunattached => exact samplesKept_removeSessionTracking s _ _
  | relocate now hsession hunattached hroom hleft => exact hkeeps.elim
  | publish f hf hcapable => exact samplesKept_updateSession s _ fun session => (hf session).2
  | discard hempty => exact hkeeps.elim
  | flag ready hflag hseat => exact .of_frame rfl rfl rfl rfl (List.suffix_refl _)

end Sorotte.Server
