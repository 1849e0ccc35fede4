import Sorotte.Framework.Success
import Sorotte.Server.Runs

/-! # What leaves memberships and samples alone

  Most of the server neither touches who is where nor what the readiness
  coordinators know about their members.  `Quiet` is the change such code makes:
  memberships stay as they are, room revisions and transport authorities never
  go back, and a client sample that does not outrun its room's authority still
  does not.
-/

namespace Sorotte.Server

open Sorotte.Framework Sorotte.Framework.Prog

/-! ### Memberships -/

/-- What a coordinator knows about its members. -/
def RoomReadinessCoordinator.membership (room : RoomReadinessCoordinator) :
    Option Nat × BTreeMap String ServerReadinessParticipant :=
  (room.mediaGeneration, room.participants)

/-- Sessions, roster and members are the same. -/
structure SameMembers (s s' : ServerRuntime) : Prop where
  sessions : s'.sessions = s.sessions
  roster : s'.roomRoster = s.roomRoster
  enabled : s'.readinessEnabled = s.readinessEnabled
  nameLimit : s'.maxUsernameLength = s.maxUsernameLength
  members : ∀ room : String, s'.roomReadiness[room]?.map RoomReadinessCoordinator.membership =
    s.roomReadiness[room]?.map RoomReadinessCoordinator.membership
  revisions : ∀ (room : String) k k', s.roomReadiness[room]? = some k →
    s'.roomReadiness[room]? = some k' → k.revision ≤ k'.revision

theorem SameMembers.refl (s : ServerRuntime) : SameMembers s s where
  sessions := rfl
  roster := rfl
  enabled := rfl
  nameLimit := rfl
  members _ := rfl
  revisions room k k' hk hk' := by
    rw [hk] at hk'
    cases hk'
    exact le_refl _

/-- The coordinator that a quiet change leaves in a room. -/
theorem SameMembers.coordinator {s s' : ServerRuntime} (h : SameMembers s s') {room : String}
    {k : RoomReadinessCoordinator} (hk : s.roomReadiness[room]? = some k) :
    ∃ k', s'.roomReadiness[room]? = some k' ∧ k'.mediaGeneration = k.mediaGeneration
      ∧ k'.participants = k.participants ∧ k.revision ≤ k'.revision := by
  have hmembers := h.members room
  rw [hk] at hmembers
  obtain ⟨k', hk', hsame⟩ := Option.map_eq_some_iff.mp hmembers
  obtain ⟨hgeneration, hparticipants⟩ := Prod.mk.injEq .. ▸ hsame
  exact ⟨k', hk', hgeneration, hparticipants, h.revisions room k k' hk hk'⟩

theorem SameMembers.coordinator_before {s s' : ServerRuntime} (h : SameMembers s s')
    {room : String} {k' : RoomReadinessCoordinator} (hk' : s'.roomReadiness[room]? = some k') :
    ∃ k, s.roomReadiness[room]? = some k ∧ k'.mediaGeneration = k.mediaGeneration
      ∧ k'.participants = k.participants ∧ k.revision ≤ k'.revision := by
  have hmembers := h.members room
  rw [hk'] at hmembers
  obtain ⟨k, hk, hsame⟩ := Option.map_eq_some_iff.mp hmembers.symm
  obtain ⟨hgeneration, hparticipants⟩ := Prod.mk.injEq .. ▸ hsame
  exact ⟨k, hk, hgeneration.symm, hparticipants.symm, h.revisions room k k' hk hk'⟩

theorem SameMembers.trans {s t u : ServerRuntime} (h : SameMembers s t) (h' : SameMembers t u) :
    SameMembers s u where
  sessions := h'.sessions.trans h.sessions
  roster := h'.roster.trans h.roster
  enabled := h'.enabled.trans h.enabled
  nameLimit := h'.nameLimit.trans h.nameLimit
  members room := (h'.members room).trans (h.members room)
  revisions room k k'' hk hk'' := by
    obtain ⟨k', hk', -, -, hle⟩ := h.coordinator hk
    exact le_trans hle (h'.revisions room k' k'' hk' hk'')

/-- An update that keeps every coordinator as it is. -/
theorem SameMembers.of_fields {s s' : ServerRuntime} (hsessions : s'.sessions = s.sessions)
    (hroster : s'.roomRoster = s.roomRoster) (henabled : s'.readinessEnabled = s.readinessEnabled)
    (hreadiness : s'.roomReadiness = s.roomReadiness)
    (hlimit : s'.maxUsernameLength = s.maxUsernameLength) : SameMembers s s' where
  sessions := hsessions
  roster := hroster
  enabled := henabled
  nameLimit := hlimit
  members room := by rw [hreadiness]
  revisions room k k' hk hk' := by
    rw [hreadiness, hk] at hk'
    cases hk'
    exact le_refl _

/-- An edit of one coordinator that its members do not notice. -/
theorem SameMembers.of_readiness {s s' : ServerRuntime} {room : String}
    {f : RoomReadinessCoordinator → RoomReadinessCoordinator}
    (h : s' = { s with roomReadiness := s.roomReadiness.modify room f })
    (hf : ∀ k, (f k).membership = k.membership ∧ k.revision ≤ (f k).revision) :
    SameMembers s s' := by
  subst h
  refine ⟨rfl, rfl, rfl, rfl, fun a => ?_, fun a k k' hk hk' => ?_⟩
  · show (s.roomReadiness.modify room f)[a]?.map _ = _
    rw [Std.ExtTreeMap.getElem?_modify]
    by_cases ha : compare room a = .eq
    · rw [if_pos ha, Std.LawfulEqOrd.eq_of_compare ha, Option.map_map]
      congr 1
      funext k
      exact (hf k).1
    · rw [if_neg ha]
  · have hmodified : (s.roomReadiness.modify room f)[a]? = some k' := hk'
    rw [Std.ExtTreeMap.getElem?_modify] at hmodified
    by_cases ha : compare room a = .eq
    · rw [if_pos ha, Std.LawfulEqOrd.eq_of_compare ha, hk] at hmodified
      cases hmodified
      exact (hf k).2
    · rw [if_neg ha, hk] at hmodified
      cases hmodified
      exact le_refl _

/-! ### Samples -/

/-- The authority that a room is at. -/
abbrev ServerRuntime.authority (s : ServerRuntime) (room : String) : Option Nat :=
  s.transportAuthorityRevisionForRoom room

/-- A sample of a live session whose room is at authority `current`: it does
    not outrun the room, and one that passes for current was taken in it. -/
structure SampleFits (s : ServerRuntime) (clientId : String) (session : ServerSession)
    (state : ClientPlaybackState) (current : Nat) : Prop where
  bounded : ∀ revision, state.transportRevision = some revision → revision ≤ current
  taken : s.sampleRooms[clientId]? = some session.room ∨ state.position = none
    ∨ ∃ revision, state.transportRevision = some revision ∧ revision < current

/-- Every live session's room has an authority that its sample fits. -/
def SamplesSound (s : ServerRuntime) : Prop :=
  ∀ (clientId : String) session, s.sessions[clientId]? = some session →
    ∃ current, s.authority session.room = some current ∧
      ∀ state, s.clientPlaybackStates[clientId]? = some state →
        SampleFits s clientId session state current

/-- Authorities never go back. -/
def AuthoritiesKept (s s' : ServerRuntime) : Prop :=
  ∀ room before, s.authority room = some before → ∃ after, s'.authority room = some after
    ∧ before ≤ after

theorem AuthoritiesKept.refl (s : ServerRuntime) : AuthoritiesKept s s :=
  fun _ before h => ⟨before, h, le_refl _⟩

theorem AuthoritiesKept.trans {s t u : ServerRuntime} (h : AuthoritiesKept s t)
    (h' : AuthoritiesKept t u) : AuthoritiesKept s u := by
  intro room before hbefore
  obtain ⟨middle, hmiddle, hle⟩ := h room before hbefore
  obtain ⟨after, hafter, hle'⟩ := h' room middle hmiddle
  exact ⟨after, hafter, le_trans hle hle'⟩

/-- A sample keeps fitting while its room's authority moves on. -/
theorem SampleFits.later {s s' : ServerRuntime} {clientId : String} {session : ServerSession}
    {state : ClientPlaybackState} {current after : Nat}
    (h : SampleFits s clientId session state current) (hrooms : s'.sampleRooms = s.sampleRooms)
    (hle : current ≤ after) : SampleFits s' clientId session state after := by
  refine ⟨fun revision hrevision => le_trans (h.bounded revision hrevision) hle, ?_⟩
  rcases h.taken with htaken | hnone | ⟨revision, hrevision, hlt⟩
  · rw [hrooms]
    exact .inl htaken
  · exact .inr (.inl hnone)
  · exact .inr (.inr ⟨revision, hrevision, lt_of_lt_of_le hlt hle⟩)

/-- Samples that were not touched stay sound when authorities are kept. -/
theorem samplesSound_of_kept {s s' : ServerRuntime} (hsessions : s'.sessions = s.sessions)
    (hstates : s'.clientPlaybackStates = s.clientPlaybackStates)
    (hrooms : s'.sampleRooms = s.sampleRooms) (hkept : AuthoritiesKept s s')
    (h : SamplesSound s) : SamplesSound s' := by
  intro clientId session hsession
  rw [hsessions] at hsession
  obtain ⟨current, hcurrent, hfits⟩ := h clientId session hsession
  obtain ⟨after, hafter, hle⟩ := hkept session.room current hcurrent
  refine ⟨after, hafter, fun state hstate => ?_⟩
  rw [hstates] at hstate
  exact (hfits state hstate).later hrooms hle

/-! ### Quiet changes -/

structure Quiet (s s' : ServerRuntime) : Prop where
  same : SameMembers s s'
  authorities : AuthoritiesKept s s'
  samples : SamplesSound s → SamplesSound s'
  history : s.history <:+ s'.history

instance : Change Quiet where
  refl s := ⟨SameMembers.refl s, AuthoritiesKept.refl s, id, List.suffix_refl _⟩
  trans h h' :=
    ⟨h.same.trans h'.same, h.authorities.trans h'.authorities, h'.samples ∘ h.samples,
      h.history.trans h'.history⟩

theorem Quiet.refl (s : ServerRuntime) : Quiet s s := Change.refl s

theorem Quiet.trans {s t u : ServerRuntime} (h : Quiet s t) (h' : Quiet t u) : Quiet s u :=
  Change.trans h h'

/-- A change that keeps samples and authorities is quiet when it keeps members. -/
theorem Quiet.of_same {s s' : ServerRuntime} (h : SameMembers s s')
    (hscopes : s'.roomParticipantStatusScopes = s.roomParticipantStatusScopes)
    (hstates : s'.clientPlaybackStates = s.clientPlaybackStates)
    (hrooms : s'.sampleRooms = s.sampleRooms) (hhistory : s.history <:+ s'.history) :
    Quiet s s' := by
  have hauthority : s'.authority = s.authority := by
    funext room
    show s'.roomParticipantStatusScopes[room]?.map _ = s.roomParticipantStatusScopes[room]?.map _
    rw [hscopes]
  have hkept : AuthoritiesKept s s' := by
    intro room before hbefore
    rw [hauthority]
    exact ⟨before, hbefore, le_refl _⟩
  exact ⟨h, hkept, samplesSound_of_kept h.sessions hstates hrooms hkept, hhistory⟩

/-- An update of fields that have no part in memberships and samples. -/
theorem Quiet.of_fields {s s' : ServerRuntime} (hsessions : s'.sessions = s.sessions)
    (hroster : s'.roomRoster = s.roomRoster) (henabled : s'.readinessEnabled = s.readinessEnabled)
    (hreadiness : s'.roomReadiness = s.roomReadiness)
    (hscopes : s'.roomParticipantStatusScopes = s.roomParticipantStatusScopes)
    (hstates : s'.clientPlaybackStates = s.clientPlaybackStates)
    (hrooms : s'.sampleRooms = s.sampleRooms) (hhistory : s'.history = s.history)
    (hlimit : s'.maxUsernameLength = s.maxUsernameLength) : Quiet s s' :=
  Quiet.of_same (SameMembers.of_fields hsessions hroster henabled hreadiness hlimit) hscopes
    hstates hrooms (hhistory ▸ List.suffix_refl _)

namespace ServerRuntime

theorem quiet_updateReadiness (s : ServerRuntime) (room : String)
    {f : RoomReadinessCoordinator → RoomReadinessCoordinator}
    (hf : ∀ k, (f k).membership = k.membership ∧ k.revision ≤ (f k).revision) :
    Quiet s (s.updateReadiness room f) :=
  Quiet.of_same (SameMembers.of_readiness rfl hf) rfl rfl rfl (List.suffix_refl _)

theorem quiet_updateBarrier (s : ServerRuntime) (room : String)
    (f : RoomPlaybackBarrier → RoomPlaybackBarrier) : Quiet s (s.updateBarrier room f) :=
  Quiet.of_fields rfl rfl rfl rfl rfl rfl rfl rfl rfl

theorem quiet_updateControl (s : ServerRuntime) (room : String)
    (f : RoomBufferingControl → RoomBufferingControl) : Quiet s (s.updateControl room f) :=
  Quiet.of_fields rfl rfl rfl rfl rfl rfl rfl rfl rfl

theorem quiet_updateStateCounters (s : ServerRuntime) (clientId : String)
    (f : ClientStateCounters → ClientStateCounters) : Quiet s (s.updateStateCounters clientId f) :=
  Quiet.of_fields rfl rfl rfl rfl rfl rfl rfl rfl rfl

/-! ### Canonical room state -/

theorem authority_insertScope (s : ServerRuntime) (room : String)
    (scope : RoomParticipantStatusScope)
    (h : ∀ before, s.authority room = some before → before ≤ scope.transportRevision) :
    AuthoritiesKept s
      { s with roomParticipantStatusScopes := s.roomParticipantStatusScopes.insert room scope } := by
  intro a before hbefore
  show ∃ after, (s.roomParticipantStatusScopes.insert room scope)[a]?.map _ = some after ∧ _
  rw [Std.ExtTreeMap.getElem?_insert]
  by_cases ha : compare room a = .eq
  · rw [if_pos ha]
    cases Std.LawfulEqOrd.eq_of_compare ha
    exact ⟨scope.transportRevision, rfl, h before hbefore⟩
  · rw [if_neg ha]
    exact ⟨before, hbefore, le_refl _⟩

theorem quiet_ensureRoomState (s : ServerRuntime) (room : String) :
    Quiet s (s.ensureRoomState room) := by
  have hkept : AuthoritiesKept s (s.ensureRoomState room) := by
    intro a before hbefore
    refine ⟨before, ?_, le_refl _⟩
    show (s.roomParticipantStatusScopes.insertIfNew room {})[a]?.map _ = some before
    rw [Std.ExtTreeMap.getElem?_insertIfNew]
    have hbefore' : s.roomParticipantStatusScopes[a]?.map (·.transportRevision) = some before :=
      hbefore
    split
    · next hnew =>
      obtain ⟨ha, hmissing⟩ := hnew
      cases Std.LawfulEqOrd.eq_of_compare ha
      rw [Std.ExtTreeMap.getElem?_eq_none hmissing] at hbefore'
      cases hbefore'
    · exact hbefore'
  exact ⟨SameMembers.of_fields rfl rfl rfl rfl rfl, hkept,
    samplesSound_of_kept rfl rfl rfl hkept, List.suffix_refl _⟩

/-- Moving a room's scope on to the next authority. -/
theorem quiet_nextScope (s : ServerRuntime) (room : String) (scope : RoomParticipantStatusScope)
    (hscope : (s.roomParticipantStatusScope room).transportRevision ≤ scope.transportRevision) :
    Quiet s
      { s with roomParticipantStatusScopes := s.roomParticipantStatusScopes.insert room scope } := by
  have hkept := s.authority_insertScope room scope (by
    intro before hbefore
    refine le_trans (le_of_eq ?_) hscope
    obtain ⟨held, hheld, rfl⟩ := Option.map_eq_some_iff.mp hbefore
    rw [roomParticipantStatusScope, Std.ExtTreeMap.getD_eq_getD_getElem?, hheld]
    rfl)
  exact ⟨SameMembers.of_fields rfl rfl rfl rfl rfl, hkept,
    samplesSound_of_kept rfl rfl rfl hkept, List.suffix_refl _⟩

theorem quiet_advanceParticipantStatusMediaGeneration (s : ServerRuntime) (room : String)
    (generation : Option Nat) :
    Quiet s (s.advanceParticipantStatusMediaGeneration room generation) :=
  (s.quiet_ensureRoomState room).trans
    (quiet_nextScope _ room _ (Nat.le_succ _))

theorem quiet_advanceMediaGenerationWhen (s : ServerRuntime) (room : String) (changes : Bool) :
    Quiet s (if changes then s.advanceParticipantStatusMediaGeneration room none else s) := by
  split
  · exact s.quiet_advanceParticipantStatusMediaGeneration room none
  · exact .refl s

theorem quiet_advanceParticipantStatusTransportRevision (s : ServerRuntime) (room : String) :
    Quiet s (s.advanceParticipantStatusTransportRevision room) :=
  (s.quiet_ensureRoomState room).trans
    (quiet_nextScope _ room _ (Nat.le_succ _))

theorem quiet_setRoomPlaybackState (s : ServerRuntime) (room : String)
    (state : RoomPlaybackState) : Quiet s (s.setRoomPlaybackState room state) :=
  Quiet.of_fields rfl rfl rfl rfl rfl rfl rfl rfl rfl

theorem quiet_persistRoomAtIfNeeded (s : ServerRuntime) (room : String) (now : Seconds) :
    Quiet s (s.persistRoomAtIfNeeded room now) := by
  unfold persistRoomAtIfNeeded
  split
  · exact Quiet.refl s
  · dsimp only
    split
    · exact Quiet.of_fields rfl rfl rfl rfl rfl rfl rfl rfl rfl
    · split <;> exact Quiet.of_fields rfl rfl rfl rfl rfl rfl rfl rfl rfl

theorem quiet_persistRoomIfNeeded (s : ServerRuntime) (room : String) :
    Quiet s (s.persistRoomIfNeeded room) := s.quiet_persistRoomAtIfNeeded room _

/-! ### Samples -/

/-- A sample that names the current authority of its client's room. -/
theorem quiet_insertSample (s : ServerRuntime) (clientId : String) (state : ClientPlaybackState)
    (h : ∀ session revision, s.sessions[clientId]? = some session →
      state.transportRevision = some revision → s.authority session.room = some revision) :
    Quiet s { s with
      clientPlaybackStates := s.clientPlaybackStates.insert clientId state
      sampleRooms := s.noteSampleRoom clientId } := by
  refine ⟨SameMembers.of_fields rfl rfl rfl rfl rfl, AuthoritiesKept.refl s, ?_,
    List.suffix_refl _⟩
  intro hsound a session hsession
  obtain ⟨current, hcurrent, hfits⟩ := hsound a session hsession
  refine ⟨current, hcurrent, fun held hheld => ?_⟩
  have hinserted : (s.clientPlaybackStates.insert clientId state)[a]? = some held := hheld
  rw [Std.ExtTreeMap.getElem?_insert] at hinserted
  by_cases ha : compare clientId a = .eq
  · rw [if_pos ha] at hinserted
    cases Std.LawfulEqOrd.eq_of_compare ha
    cases hinserted
    refine ⟨fun revision hrevision => ?_, .inl ?_⟩
    · have hsame := (h session revision hsession hrevision).symm.trans hcurrent
      exact le_of_eq (Option.some.inj hsame)
    · show (s.noteSampleRoom clientId)[clientId]? = some session.room
      have hsession' : s.sessions[clientId]? = some session := hsession
      rw [noteSampleRoom, hsession']
      exact Std.ExtTreeMap.getElem?_insert_self
  · rw [if_neg ha] at hinserted
    have hfit := hfits held hinserted
    refine ⟨hfit.bounded, ?_⟩
    rcases hfit.taken with htaken | hrest
    · refine .inl ?_
      show (s.noteSampleRoom clientId)[a]? = some session.room
      rw [← htaken, noteSampleRoom]
      split
      · rw [Std.ExtTreeMap.getElem?_insert, if_neg ha]
      · rw [Std.ExtTreeMap.getElem?_erase, if_neg ha]
    · exact .inr hrest

theorem quiet_seedClientPlaybackState (s : ServerRuntime) (clientId : String)
    (position : Option Seconds) (now : Seconds) :
    Quiet s (s.seedClientPlaybackState clientId position now) := by
  apply quiet_insertSample
  intro session revision hsession hrevision
  have hseeded : (s.sessions[clientId]?.bind fun session =>
      s.transportAuthorityRevisionForRoom session.room) = some revision := hrevision
  rw [hsession] at hseeded
  exact hseeded

theorem quiet_seedRoomClientPlaybackStates (s : ServerRuntime) (room : String)
    (position now : Seconds) : Quiet s (s.seedRoomClientPlaybackStates room position now) := by
  unfold seedRoomClientPlaybackStates
  generalize s.clientsInRoom room = clients
  induction clients generalizing s with
  | nil => exact Quiet.refl s
  | cons clientId clients ih =>
    exact (s.quiet_seedClientPlaybackState clientId (some position) now).trans (ih _)

theorem quiet_recordClientPlaybackStateSample (s : ServerRuntime) (clientId : String)
    (position : Option Seconds) (now : Seconds) (transportRevision : Option Nat)
    (h : ∀ session revision, s.sessions[clientId]? = some session →
      transportRevision = some revision → s.authority session.room = some revision) :
    Quiet s (s.recordClientPlaybackStateSample clientId position now transportRevision) :=
  s.quiet_insertSample clientId _ h

end ServerRuntime

end Sorotte.Server
