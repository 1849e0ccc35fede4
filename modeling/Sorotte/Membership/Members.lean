import Sorotte.Framework.Maps
import Sorotte.Membership.QuietPrograms

/-! # Members

  What holds of every coordinator participant and of the roster.  `Members`
  allows for two kinds of debt that the server has in the middle of an
  operation: projections that the roster does not show yet, and a client whose
  session lost the capability that its membership needs.
-/

namespace Sorotte.Server

open Sorotte.Framework Sorotte.Framework.Prog

/-! ### Derived flags -/

/-- The cached flags of a record are what they summarise, for a coordinator at
    `generation`; a record is never playable for any other generation. -/
structure FlagsDerived (generation : Option Nat) (record : ParticipantReadiness) : Prop where
  ready : record.roomReady = (record.userIntent == .ready && record.terminalTechnicalBlock.isNone)
  eligible : record.startEligible = (record.participationRole == .required && record.roomReady
    && playableForGeneration record.technicalState generation)
  current : ∀ playable, record.technicalState = .playable playable → generation = some playable

theorem flagsDerived_recompute {record : ParticipantReadiness} {generation : Option Nat}
    (h : ∀ playable, record.technicalState = .playable playable → generation = some playable) :
    FlagsDerived generation (recomputeParticipantReadiness record generation) :=
  ⟨rfl, rfl, h⟩

theorem initialTechnicalState_not_playable (generation : Option Nat) (playable : Nat) :
    initialTechnicalState generation ≠ .playable playable := by
  cases generation <;> simp [initialTechnicalState]

/-- Without a generation nobody is playable, so any generation may follow. -/
theorem FlagsDerived.of_none {record : ParticipantReadiness} (h : FlagsDerived none record)
    (generation : Option Nat) : FlagsDerived generation record := by
  have hnot : ∀ playable, record.technicalState ≠ .playable playable := by
    intro playable hplayable
    cases h.current playable hplayable
  refine ⟨h.ready, ?_, fun playable hplayable => absurd hplayable (hnot playable)⟩
  rw [h.eligible]
  congr 1
  cases hstate : record.technicalState with
  | playable playable => exact absurd hstate (hnot playable)
  | _ => rfl

/-! ### The roster -/

/-- What the roster holds for a user of a room. -/
def ServerRuntime.rosterFlag (s : ServerRuntime) (room username : String) :
    Option (Option Bool) :=
  s.roomRoster[room]?.bind fun users => users[username]?

theorem storedUserReady_eq (s : ServerRuntime) (username room : String) :
    s.storedUserReady username room = (s.rosterFlag room username).join := by
  unfold ServerRuntime.storedUserReady ServerRuntime.rosterFlag
  cases s.roomRoster[room]? <;> rfl

/-- What a roster holds for a user of a room. -/
def flagIn (roster : BTreeMap String (BTreeMap String (Option Bool))) (room username : String) :
    Option (Option Bool) :=
  roster[room]?.bind fun users => users[username]?

theorem flagIn_joinRoomWithReady (roster : BTreeMap String (BTreeMap String (Option Bool)))
    (username room : String) (ready : Option Bool) (a b : String) :
    flagIn (Roster.joinRoomWithReady roster username room ready) a b =
      if a = room ∧ b = username then some ready else flagIn roster a b :=
  nestedLookup_insert roster room a username b ready

/-- A user who is on the roster can be marked, and leave. -/
theorem Roster.setReady_of_flag {roster : BTreeMap String (BTreeMap String (Option Bool))}
    {username room : String} (h : (flagIn roster room username).isSome) (ready : Bool) :
    Roster.setReady roster username room ready =
      .ok (Roster.joinRoomWithReady roster username room (some ready)) := by
  unfold flagIn at h
  unfold Roster.setReady Roster.joinRoomWithReady
  rw [Std.ExtTreeMap.getD_eq_getD_getElem?]
  cases hroom : roster[room]? with
  | none => rw [hroom] at h; cases h
  | some users =>
    rw [hroom, Option.bind_some] at h
    have hmem : username ∈ users := Std.ExtTreeMap.mem_iff_isSome_getElem?.mpr h
    dsimp only
    rw [if_pos hmem]
    rfl

theorem Roster.leaveRoom_of_flag {roster : BTreeMap String (BTreeMap String (Option Bool))}
    {username room : String} (h : (flagIn roster room username).isSome) :
    ∃ left, Roster.leaveRoom roster username room = .ok left ∧
      ∀ a b, flagIn left a b = if a = room ∧ b = username then none else flagIn roster a b := by
  unfold flagIn at h
  cases hroom : roster[room]? with
  | none => rw [hroom] at h; cases h
  | some users =>
    rw [hroom, Option.bind_some] at h
    have hmem : username ∈ users := Std.ExtTreeMap.mem_iff_isSome_getElem?.mpr h
    by_cases hempty : (users.erase username).isEmpty = true
    · refine ⟨roster.erase room, ?_, ?_⟩
      · unfold Roster.leaveRoom
        rw [hroom]
        dsimp only
        rw [if_pos hmem, if_pos hempty]
      · intro a b
        unfold flagIn
        rw [Std.ExtTreeMap.getElem?_erase]
        by_cases ha : a = room
        · subst ha
          rw [if_pos (by simp), Option.bind_none, hroom, Option.bind_some]
          by_cases hb : b = username
          · rw [if_pos ⟨rfl, hb⟩]
          · rw [if_neg (fun h => hb h.2)]
            have hkept : (users.erase username)[b]? = users[b]? := by
              rw [Std.ExtTreeMap.getElem?_erase, if_neg (by simpa using Ne.symm hb)]
            rw [← hkept, Std.ExtTreeMap.isEmpty_iff.mp hempty, Std.ExtTreeMap.getElem?_empty]
        · rw [if_neg (by simpa using Ne.symm ha), if_neg (fun h => ha h.1)]
    · refine ⟨roster.insert room (users.erase username), ?_, ?_⟩
      · unfold Roster.leaveRoom
        rw [hroom]
        dsimp only
        rw [if_pos hmem, if_neg hempty]
      · intro a b
        unfold flagIn
        rw [Std.ExtTreeMap.getElem?_insert]
        by_cases ha : a = room
        · subst ha
          rw [if_pos (by simp), hroom, Option.bind_some, Option.bind_some,
            Std.ExtTreeMap.getElem?_erase]
          by_cases hb : b = username
          · rw [if_pos (by simp [hb]), if_pos ⟨rfl, hb⟩]
          · rw [if_neg (by simpa using Ne.symm hb), if_neg (fun h => hb h.2)]
        · rw [if_neg (by simpa using Ne.symm ha), if_neg (fun h => ha h.1)]

/-! ### The invariant -/

/-- Who is in a room's coordinator, on the roster and in a session.  `stale`
    are the projections that the roster does not show yet, `excused` the clients
    whose session lost readiness support. -/
structure Members (stale : String → String → Prop) (excused : String → Prop)
    (s : ServerRuntime) : Prop where
  enabled : ∀ (room : String) k, s.roomReadiness[room]? = some k → s.readinessEnabled = true
  seated : ∀ room username p, s.readinessParticipant room username = some p →
    ∃ session, s.sessions[p.clientId]? = some session ∧ session.room = room
      ∧ session.username = username
      ∧ (session.capabilities.readinessV2 = true ∨ excused p.clientId)
  derived : ∀ room username p, s.readinessParticipant room username = some p →
    FlagsDerived (s.readinessMediaGeneration room) p.record
  projected : ∀ room username p, s.readinessParticipant room username = some p →
    ¬ stale room username → s.storedUserReady username room = some p.record.roomReady
  named : ∀ (c c' : String) session session', s.sessions[c]? = some session →
    s.sessions[c']? = some session' → session.username = session'.username → c = c'
  rostered : ∀ room username, (s.rosterFlag room username).isSome = true ↔
    ∃ (c : String) (session : ServerSession), s.sessions[c]? = some session
      ∧ session.room = room ∧ session.username = username

/-- No debt. -/
abbrev Seats (s : ServerRuntime) : Prop := Members (fun _ _ => False) (fun _ => False) s

theorem Members.weaken {stale stale' : String → String → Prop} {excused : String → Prop}
    {s : ServerRuntime} (h : Members stale excused s)
    (hstale : ∀ room username p, s.readinessParticipant room username = some p →
      stale room username → stale' room username) : Members stale' excused s where
  enabled := h.enabled
  seated := h.seated
  derived := h.derived
  projected room username p hp hnot :=
    h.projected room username p hp fun hs => hnot (hstale room username p hp hs)
  named := h.named
  rostered := h.rostered

/-- A seated user is on the roster. -/
theorem Members.flag {stale : String → String → Prop} {excused : String → Prop}
    {s : ServerRuntime} (h : Members stale excused s) {room username : String}
    {p : ServerReadinessParticipant} (hp : s.readinessParticipant room username = some p) :
    (s.rosterFlag room username).isSome = true := by
  obtain ⟨session, hsession, hroom, hname, -⟩ := h.seated room username p hp
  exact (h.rostered room username).mpr ⟨p.clientId, session, hsession, hroom, hname⟩

/-- The client has no seat. -/
def Unattached (clientId : String) (s : ServerRuntime) : Prop :=
  ∀ room username p, s.readinessParticipant room username = some p → p.clientId ≠ clientId

/-! ### Edits of seats -/

/-- Every seat of `s'` is one of `s`, under the same client and epoch. -/
structure SeatsKept (s s' : ServerRuntime) : Prop where
  sessions : s'.sessions = s.sessions
  enabled : s'.readinessEnabled = s.readinessEnabled
  rooms : ∀ (room : String) k', s'.roomReadiness[room]? = some k' →
    ∃ k, s.roomReadiness[room]? = some k
  seats : ∀ room username p', s'.readinessParticipant room username = some p' →
    ∃ p, s.readinessParticipant room username = some p ∧ p'.clientId = p.clientId

theorem Members.edit {stale stale' : String → String → Prop} {excused : String → Prop}
    {s s' : ServerRuntime} (h : Members stale excused s) (hkept : SeatsKept s s')
    (hroster : s'.roomRoster = s.roomRoster)
    (hderived : ∀ room username p p', s.readinessParticipant room username = some p →
      s'.readinessParticipant room username = some p' →
      FlagsDerived (s'.readinessMediaGeneration room) p'.record)
    (hprojected : ∀ room username p p', s.readinessParticipant room username = some p →
      s'.readinessParticipant room username = some p' → ¬ stale' room username →
      p'.record.roomReady = p.record.roomReady ∧ ¬ stale room username) :
    Members stale' excused s' where
  enabled room k' hk' := by
    obtain ⟨k, hk⟩ := hkept.rooms room k' hk'
    rw [hkept.enabled]
    exact h.enabled room k hk
  seated room username p' hp' := by
    obtain ⟨p, hp, hclient⟩ := hkept.seats room username p' hp'
    rw [hkept.sessions, hclient]
    exact h.seated room username p hp
  derived room username p' hp' := by
    obtain ⟨p, hp, -⟩ := hkept.seats room username p' hp'
    exact hderived room username p p' hp hp'
  projected room username p' hp' hstale' := by
    obtain ⟨p, hp, -⟩ := hkept.seats room username p' hp'
    obtain ⟨hready, hstale⟩ := hprojected room username p p' hp hp' hstale'
    rw [hready, ← h.projected room username p hp hstale]
    unfold ServerRuntime.storedUserReady
    rw [hroster]
  named c c' session session' := by
    rw [hkept.sessions]
    exact h.named c c' session session'
  rostered room username := by
    rw [hkept.sessions, ← h.rostered room username]
    unfold ServerRuntime.rosterFlag
    rw [hroster]

theorem Unattached.edit {s s' : ServerRuntime} {clientId : String} (h : Unattached clientId s)
    (hkept : SeatsKept s s') : Unattached clientId s' := by
  intro room username p' hp'
  obtain ⟨p, hp, hclient⟩ := hkept.seats room username p' hp'
  rw [hclient]
  exact h room username p hp

/-! ### Quiet changes keep seats -/

theorem SameMembers.participant {s s' : ServerRuntime} (h : SameMembers s s')
    (room username : String) :
    s'.readinessParticipant room username = s.readinessParticipant room username := by
  have hmembers := congrArg (fun o => o.bind fun membership :
    Option Nat × BTreeMap String ServerReadinessParticipant => membership.2[username]?)
    (h.members room)
  simp only [Option.bind_map] at hmembers
  exact hmembers

theorem SameMembers.generation {s s' : ServerRuntime} (h : SameMembers s s') (room : String) :
    s'.readinessMediaGeneration room = s.readinessMediaGeneration room := by
  have hmembers := congrArg (fun o => o.bind fun membership :
    Option Nat × BTreeMap String ServerReadinessParticipant => membership.1) (h.members room)
  simp only [Option.bind_map] at hmembers
  exact hmembers

theorem SameMembers.seatsKept {s s' : ServerRuntime} (h : SameMembers s s') : SeatsKept s s' where
  sessions := h.sessions
  enabled := h.enabled
  rooms room k' hk' := by
    obtain ⟨k, hk, -⟩ := h.coordinator_before hk'
    exact ⟨k, hk⟩
  seats room username p' hp' := ⟨p', by rw [← h.participant, hp'], rfl⟩

theorem Members.quiet {stale : String → String → Prop} {excused : String → Prop}
    {s s' : ServerRuntime} (h : Members stale excused s) (hquiet : Quiet s s') :
    Members stale excused s' := by
  refine h.edit hquiet.same.seatsKept hquiet.same.roster (fun room username p p' hp hp' => ?_)
    (fun room username p p' hp hp' hstale => ⟨?_, hstale⟩)
  · rw [hquiet.same.generation]
    rw [hquiet.same.participant] at hp'
    exact h.derived room username p' hp'
  · rw [hquiet.same.participant, hp] at hp'
    cases hp'
    rfl

end Sorotte.Server
