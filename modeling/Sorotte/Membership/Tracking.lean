import Sorotte.Membership.Detaching

/-! # Tracking sessions

  The moves that put a session in place, change it or forget it.  Coordinators
  stay as they are; the roster follows the sessions.
-/

namespace Sorotte.Server

open Sorotte.Framework Sorotte.Framework.Prog

variable {stale : String → String → Prop} {excused : String → Prop} {s s' : ServerRuntime}

/-- Seats and generations are the same. -/
structure SameCoordinators (s s' : ServerRuntime) : Prop where
  participant : ∀ a b, s'.readinessParticipant a b = s.readinessParticipant a b
  generation : ∀ a, s'.readinessMediaGeneration a = s.readinessMediaGeneration a
  rooms : ∀ (a : String) k', s'.roomReadiness[a]? = some k' →
    ∃ k, s.roomReadiness[a]? = some k
  enabled : s'.readinessEnabled = s.readinessEnabled

theorem SameCoordinators.of_quiet (h : Quiet s s') : SameCoordinators s s' where
  participant := h.same.participant
  generation := h.same.generation
  rooms := h.same.seatsKept.rooms
  enabled := h.same.enabled

theorem SameCoordinators.of_eq (hreadiness : s'.roomReadiness = s.roomReadiness)
    (henabled : s'.readinessEnabled = s.readinessEnabled) : SameCoordinators s s' where
  participant a b := by
    unfold ServerRuntime.readinessParticipant
    rw [hreadiness]
  generation a := by
    unfold ServerRuntime.readinessMediaGeneration
    rw [hreadiness]
  rooms a k' hk' := ⟨k', by rw [← hreadiness, hk']⟩
  enabled := henabled

theorem SameCoordinators.trans {t : ServerRuntime} (h : SameCoordinators s t)
    (h' : SameCoordinators t s') : SameCoordinators s s' where
  participant a b := (h'.participant a b).trans (h.participant a b)
  generation a := (h'.generation a).trans (h.generation a)
  rooms a k' hk' := by
    obtain ⟨k, hk⟩ := h'.rooms a k' hk'
    exact h.rooms a k hk
  enabled := h'.enabled.trans h.enabled

/-- Sessions and roster may change around the seats. -/
theorem Members.resession {excused' : String → Prop} (h : Members stale excused s)
    (hsame : SameCoordinators s s')
    (hseated : ∀ a b p session, s.readinessParticipant a b = some p →
      s.sessions[p.clientId]? = some session → session.room = a → session.username = b →
      (session.capabilities.readinessV2 = true ∨ excused p.clientId) →
      ∃ session', s'.sessions[p.clientId]? = some session' ∧ session'.room = a
        ∧ session'.username = b
        ∧ (session'.capabilities.readinessV2 = true ∨ excused' p.clientId))
    (hflags : ∀ a b p, s.readinessParticipant a b = some p →
      s'.rosterFlag a b = s.rosterFlag a b)
    (hnamed : ∀ (c c' : String) session session', s'.sessions[c]? = some session →
      s'.sessions[c']? = some session' → session.username = session'.username → c = c')
    (hrostered : ∀ a b, (s'.rosterFlag a b).isSome = true ↔
      ∃ (c : String) (session : ServerSession), s'.sessions[c]? = some session
        ∧ session.room = a ∧ session.username = b) : Members stale excused' s' where
  enabled a k' hk' := by
    obtain ⟨k, hk⟩ := hsame.rooms a k' hk'
    rw [hsame.enabled]
    exact h.enabled a k hk
  seated a b p hp := by
    rw [hsame.participant] at hp
    obtain ⟨session, hsession, hroom, hname, hcapable⟩ := h.seated a b p hp
    exact hseated a b p session hp hsession hroom hname hcapable
  derived a b p hp := by
    rw [hsame.participant] at hp
    rw [hsame.generation]
    exact h.derived a b p hp
  projected a b p hp hstale := by
    rw [hsame.participant] at hp
    rw [storedUserReady_eq, hflags a b p hp, ← storedUserReady_eq]
    exact h.projected a b p hp hstale
  named := hnamed
  rostered := hrostered

/-! ### Entering a room -/

/-- What a join leaves: the session, its user on the roster, and a sample. -/
structure SessionJoined (clientId : String) (session : ServerSession) (s s' : ServerRuntime) :
    Prop where
  same : SameCoordinators s s'
  sessions : s'.sessions = s.sessions.insert clientId session
  flags : ∀ a b, s'.rosterFlag a b =
    if a = session.room ∧ b = session.username then some none else s.rosterFlag a b

theorem joinSession_joined (s : ServerRuntime) (clientId : String) (session : ServerSession)
    (now : Seconds) : SessionJoined clientId session s (s.joinSession clientId session now) := by
  have hready := s.quiet_readyForJoin session.room now
  have hroster : (s.readyForJoin session.room now).roomRoster = s.roomRoster := hready.same.roster
  unfold ServerRuntime.joinSession
  extract_lets roomName position room joined seeded
  refine ⟨(SameCoordinators.of_quiet hready).trans (.of_eq rfl rfl), ?_, fun a b => ?_⟩
  · show room.sessions.insert clientId session = _
    rw [show room.sessions = _ from hready.same.sessions]
  · show flagIn (Roster.joinRoomWithReady room.roomRoster session.username session.room none) a b
      = _
    rw [flagIn_joinRoomWithReady, show room.roomRoster = _ from hroster]
    rfl

theorem lookup_insert_cases {K V : Type} [Ord K] [Std.TransOrd K] [Std.LawfulEqOrd K]
    {m : BTreeMap K V} {k a : K} {v w : V} (h : (m.insert k v)[a]? = some w) :
    (a = k ∧ w = v) ∨ (a ≠ k ∧ m[a]? = some w) := by
  rw [Std.ExtTreeMap.getElem?_insert] at h
  by_cases ha : compare k a = .eq
  · rw [if_pos ha] at h
    exact .inl ⟨(Std.LawfulEqOrd.eq_of_compare ha).symm, (Option.some.inj h).symm⟩
  · rw [if_neg ha] at h
    refine .inr ⟨?_, h⟩
    rintro rfl
    exact ha Std.ReflOrd.compare_self

theorem SessionJoined.members {clientId : String} {session : ServerSession}
    (h : SessionJoined clientId session s s') (hs : Members stale excused s)
    (hnew : s.sessions[clientId]? = none)
    (hfree : ∀ (c : String) other, s.sessions[c]? = some other →
      other.username ≠ session.username) : Members stale excused s' := by
  have hkept : ∀ (c : String) other, s.sessions[c]? = some other →
      s'.sessions[c]? = some other := by
    intro c other hother
    have hne : c ≠ clientId := by
      rintro rfl
      rw [hnew] at hother
      cases hother
    rw [h.sessions, Std.ExtTreeMap.getElem?_insert, if_neg (by simpa using Ne.symm hne), hother]
  have hput : s'.sessions[clientId]? = some session := by
    rw [h.sessions]
    exact Std.ExtTreeMap.getElem?_insert_self
  refine hs.resession h.same (fun a b p other _ hother hroom hname hcapable =>
    ⟨other, hkept _ other hother, hroom, hname, hcapable⟩) (fun a b p hp => ?_)
    (fun c c' other other' hother hother' hsame => ?_) fun a b => ?_
  · obtain ⟨other, hother, -, hname, -⟩ := hs.seated a b p hp
    rw [h.flags, if_neg]
    rintro ⟨-, hb⟩
    exact hfree _ other hother (hname.trans hb)
  · rw [h.sessions] at hother hother'
    rcases lookup_insert_cases hother with ⟨rfl, rfl⟩ | ⟨-, hbefore⟩
    · rcases lookup_insert_cases hother' with ⟨rfl, -⟩ | ⟨-, hbefore'⟩
      · rfl
      · exact absurd hsame.symm (hfree c' other' hbefore')
    · rcases lookup_insert_cases hother' with ⟨rfl, rfl⟩ | ⟨-, hbefore'⟩
      · exact absurd hsame (hfree c other hbefore)
      · exact hs.named c c' other other' hbefore hbefore' hsame
  · rw [h.flags]
    by_cases hab : a = session.room ∧ b = session.username
    · rw [if_pos hab]
      exact ⟨fun _ => ⟨clientId, session, hput, hab.1.symm, hab.2.symm⟩, fun _ => rfl⟩
    · rw [if_neg hab, hs.rostered]
      constructor
      · rintro ⟨c, other, hother, hroom, hname⟩
        exact ⟨c, other, hkept c other hother, hroom, hname⟩
      · rintro ⟨c, other, hother, hroom, hname⟩
        rw [h.sessions] at hother
        rcases lookup_insert_cases hother with ⟨-, rfl⟩ | ⟨-, hbefore⟩
        · exact absurd ⟨hroom.symm, hname.symm⟩ hab
        · exact ⟨c, other, hbefore, hroom, hname⟩

/-! ### Leaving the server -/

/-- What forgetting a connection leaves. -/
structure SessionForgotten (clientId : String) (session : ServerSession)
    (s s' : ServerRuntime) : Prop where
  same : SameCoordinators s s'
  sessions : s'.sessions = s.sessions.erase clientId
  flags : ∀ a b, s'.rosterFlag a b =
    if a = session.room ∧ b = session.username then none else s.rosterFlag a b

theorem removeSessionTracking_forgotten {clientId : String} {session : ServerSession}
    (hs : Members stale excused s) (hsession : s.sessions[clientId]? = some session) :
    SessionForgotten clientId session s (s.removeSessionTracking clientId session) := by
  have hflag := (hs.rostered session.room session.username).mpr
    ⟨clientId, session, hsession, rfl, rfl⟩
  obtain ⟨left, hleft, hflags⟩ := Roster.leaveRoom_of_flag hflag
  have hroster : (s.removeSessionTracking clientId session).roomRoster = left := by
    unfold ServerRuntime.removeSessionTracking
    dsimp only [ServerRuntime.removeRoomController]
    rw [hleft]
  refine ⟨.of_eq rfl rfl, rfl, fun a b => ?_⟩
  show flagIn (s.removeSessionTracking clientId session).roomRoster a b = _
  rw [hroster]
  exact hflags a b

theorem SessionForgotten.session_kept {clientId : String} {session : ServerSession}
    (h : SessionForgotten clientId session s s') {c : String} {other : ServerSession} :
    s'.sessions[c]? = some other ↔ c ≠ clientId ∧ s.sessions[c]? = some other := by
  rw [h.sessions, Std.ExtTreeMap.getElem?_erase]
  by_cases hc : c = clientId
  · rw [if_pos (by simp [hc])]
    exact ⟨fun hnone => absurd hnone (by simp), fun hne => absurd hc hne.1⟩
  · rw [if_neg (by simpa using Ne.symm hc)]
    exact ⟨fun hother => ⟨hc, hother⟩, And.right⟩

theorem SessionForgotten.members {clientId : String} {session : ServerSession}
    (h : SessionForgotten clientId session s s') (hs : Members stale excused s)
    (hsession : s.sessions[clientId]? = some session) (hunattached : Unattached clientId s) :
    Members stale excused s' := by
  refine hs.resession h.same (fun a b p other hp hother hroom hname hcapable =>
    ⟨other, h.session_kept.mpr ⟨hunattached a b p hp, hother⟩, hroom, hname, hcapable⟩)
    (fun a b p hp => ?_) (fun c c' other other' hother hother' hsame => ?_) fun a b => ?_
  · obtain ⟨other, hother, -, hname, -⟩ := hs.seated a b p hp
    rw [h.flags, if_neg]
    rintro ⟨-, hb⟩
    exact hunattached a b p hp (hs.named _ _ other session hother hsession (hname.trans hb))
  · exact hs.named c c' other other' (h.session_kept.mp hother).2 (h.session_kept.mp hother').2
      hsame
  · rw [h.flags]
    by_cases hab : a = session.room ∧ b = session.username
    · rw [if_pos hab]
      refine ⟨fun hnone => absurd hnone (by simp), ?_⟩
      rintro ⟨c, other, hother, -, hname⟩
      obtain ⟨hne, hbefore⟩ := h.session_kept.mp hother
      exact absurd (hs.named c clientId other session hbefore hsession (hname.trans hab.2)) hne
    · rw [if_neg hab, hs.rostered]
      constructor
      · rintro ⟨c, other, hother, hroom, hname⟩
        refine ⟨c, other, h.session_kept.mpr ⟨?_, hother⟩, hroom, hname⟩
        rintro rfl
        rw [hsession] at hother
        cases hother
        exact hab ⟨hroom.symm, hname.symm⟩
      · rintro ⟨c, other, hother, hroom, hname⟩
        exact ⟨c, other, (h.session_kept.mp hother).2, hroom, hname⟩

/-! ### Moving to another room -/

/-- What a room switch leaves of sessions and roster. -/
structure SessionMoved (clientId newRoom : String) (session : ServerSession)
    (s s' : ServerRuntime) : Prop where
  same : SameCoordinators s s'
  sessions : s'.sessions = s.sessions.insert clientId { session with room := newRoom }
  flags : ∀ a b, (s'.rosterFlag a b).isSome =
    if a = newRoom ∧ b = session.username then true
    else if a = session.room ∧ b = session.username then false else (s.rosterFlag a b).isSome
  others : ∀ a b, b ≠ session.username → s'.rosterFlag a b = s.rosterFlag a b

theorem moveSession_moved {clientId newRoom : String} {session : ServerSession}
    {roster : BTreeMap String (BTreeMap String (Option Bool))}
    (hs : Members stale excused s) (hsession : s.sessions[clientId]? = some session)
    (hleft : Roster.leaveRoom s.roomRoster session.username session.room = .ok roster)
    (now : Seconds) :
    SessionMoved clientId newRoom session s
      (s.moveSession clientId session newRoom roster now) := by
  have hflag := (hs.rostered session.room session.username).mpr
    ⟨clientId, session, hsession, rfl, rfl⟩
  obtain ⟨roster', hleft', hflags⟩ := Roster.leaveRoom_of_flag hflag
  cases hleft.symm.trans hleft'
  unfold ServerRuntime.moveSession
  extract_lets ready seeds left position room joined seeded
  have hready : Quiet left room := left.quiet_readyForJoin newRoom now
  have hjoinedFlags : ∀ a b, flagIn joined.roomRoster a b =
      if a = newRoom ∧ b = session.username then some ready else flagIn roster a b := by
    intro a b
    show flagIn (Roster.joinRoomWithReady room.roomRoster session.username newRoom ready) a b = _
    rw [flagIn_joinRoomWithReady, show room.roomRoster = _ from hready.same.roster]
    rfl
  refine ⟨(SameCoordinators.of_eq rfl rfl : SameCoordinators s left).trans
    ((SameCoordinators.of_quiet hready).trans (.of_eq rfl rfl)), ?_, fun a b => ?_,
    fun a b hb => ?_⟩
  · show room.sessions.insert clientId { session with room := newRoom } = _
    rw [show room.sessions = _ from hready.same.sessions]
    rfl
  · show (flagIn joined.roomRoster a b).isSome = _
    rw [hjoinedFlags]
    by_cases hab : a = newRoom ∧ b = session.username
    · rw [if_pos hab, if_pos hab]
      rfl
    · rw [if_neg hab, if_neg hab, hflags]
      split <;> rfl
  · show flagIn joined.roomRoster a b = _
    rw [hjoinedFlags, if_neg fun h => hb h.2, hflags, if_neg fun h => hb h.2]
    rfl

theorem SessionMoved.members {clientId newRoom : String} {session : ServerSession}
    (h : SessionMoved clientId newRoom session s s') (hs : Members stale excused s)
    (hsession : s.sessions[clientId]? = some session) (hunattached : Unattached clientId s)
    (hroom : session.room ≠ newRoom) : Members stale excused s' := by
  have hkept : ∀ (c : String) other, c ≠ clientId → s.sessions[c]? = some other →
      s'.sessions[c]? = some other := by
    intro c other hne hother
    rw [h.sessions, Std.ExtTreeMap.getElem?_insert, if_neg (by simpa using Ne.symm hne), hother]
  refine hs.resession h.same (fun a b p other hp hother hroom hname hcapable =>
    ⟨other, hkept _ other (hunattached a b p hp) hother, hroom, hname, hcapable⟩)
    (fun a b p hp => ?_) (fun c c' other other' hother hother' hsame => ?_) fun a b => ?_
  · obtain ⟨other, hother, -, hname, -⟩ := hs.seated a b p hp
    refine h.others a b fun hb => hunattached a b p hp ?_
    exact hs.named _ _ other session hother hsession (hname.trans hb)
  · -- user names are the ones that the sessions had before
    have hbefore : ∀ (c : String) other, s'.sessions[c]? = some other →
        ∃ other₀, s.sessions[c]? = some other₀ ∧ other₀.username = other.username := by
      intro c other hother
      rw [h.sessions] at hother
      rcases lookup_insert_cases hother with ⟨rfl, rfl⟩ | ⟨-, hbefore⟩
      · exact ⟨session, hsession, rfl⟩
      · exact ⟨other, hbefore, rfl⟩
    obtain ⟨other₀, hother₀, hname⟩ := hbefore c other hother
    obtain ⟨other₁, hother₁, hname'⟩ := hbefore c' other' hother'
    exact hs.named c c' other₀ other₁ hother₀ hother₁ (hname.trans (hsame.trans hname'.symm))
  · rw [h.flags]
    by_cases hnew : a = newRoom ∧ b = session.username
    · rw [if_pos hnew]
      refine ⟨fun _ => ⟨clientId, { session with room := newRoom }, ?_, hnew.1.symm,
        hnew.2.symm⟩, fun _ => rfl⟩
      rw [h.sessions]
      exact Std.ExtTreeMap.getElem?_insert_self
    · rw [if_neg hnew]
      by_cases hold : a = session.room ∧ b = session.username
      · rw [if_pos hold]
        refine ⟨fun hfalse => by simp at hfalse, ?_⟩
        rintro ⟨c, other, hother, hother', hname⟩
        rw [h.sessions] at hother
        rcases lookup_insert_cases hother with ⟨rfl, rfl⟩ | ⟨hne, hbefore⟩
        · exact absurd (hold.1.symm.trans hother'.symm) hroom
        · exact absurd (hs.named c clientId other session hbefore hsession
            (hname.trans hold.2)) hne
      · rw [if_neg hold, hs.rostered]
        constructor
        · rintro ⟨c, other, hother, hother', hname⟩
          refine ⟨c, other, hkept c other ?_ hother, hother', hname⟩
          rintro rfl
          rw [hsession] at hother
          cases hother
          exact hold ⟨hother'.symm, hname.symm⟩
        · rintro ⟨c, other, hother, hother', hname⟩
          rw [h.sessions] at hother
          rcases lookup_insert_cases hother with ⟨rfl, rfl⟩ | ⟨-, hbefore⟩
          · exact absurd ⟨hother'.symm, hname.symm⟩ hnew
          · exact ⟨c, other, hbefore, hother', hname⟩

/-! ### Published facts -/

theorem updateSession_lookup (s : ServerRuntime) (clientId : String)
    (f : ServerSession → ServerSession) (c : String) :
    (s.updateSession clientId f).sessions[c]? =
      if c = clientId then s.sessions[clientId]?.map f else s.sessions[c]? := by
  show (s.sessions.modify clientId f)[c]? = _
  rw [Std.ExtTreeMap.getElem?_modify]
  by_cases hc : c = clientId
  · rw [if_pos (by simp [hc]), if_pos hc]
  · rw [if_neg (by simpa using Ne.symm hc), if_neg hc]

/-- A session's file and capabilities may change; a capability that its seat
    needs is missed until the seat is taken away. -/
theorem Members.updateSession (h : Members stale excused s) (clientId : String)
    {f : ServerSession → ServerSession}
    (hf : ∀ session, (f session).username = session.username
      ∧ (f session).room = session.room) :
    Members stale (fun c => excused c ∨ c = clientId) (s.updateSession clientId f) := by
  have hbefore : ∀ (c : String) other, (s.updateSession clientId f).sessions[c]? = some other →
      ∃ other₀, s.sessions[c]? = some other₀ ∧ other₀.username = other.username
        ∧ other₀.room = other.room := by
    intro c other hother
    rw [updateSession_lookup] at hother
    by_cases hc : c = clientId
    · subst hc
      rw [if_pos rfl] at hother
      obtain ⟨other₀, hother₀, rfl⟩ := Option.map_eq_some_iff.mp hother
      exact ⟨other₀, hother₀, (hf other₀).1.symm, (hf other₀).2.symm⟩
    · rw [if_neg hc] at hother
      exact ⟨other, hother, rfl, rfl⟩
  have hafter : ∀ (c : String) other, s.sessions[c]? = some other →
      ∃ other', (s.updateSession clientId f).sessions[c]? = some other'
        ∧ other'.username = other.username ∧ other'.room = other.room
        ∧ (c ≠ clientId → other' = other) := by
    intro c other hother
    rw [updateSession_lookup]
    by_cases hc : c = clientId
    · subst hc
      rw [if_pos rfl, hother]
      exact ⟨f other, rfl, (hf other).1, (hf other).2, fun hne => absurd rfl hne⟩
    · rw [if_neg hc]
      exact ⟨other, hother, rfl, rfl, fun _ => rfl⟩
  refine h.resession (.of_eq rfl rfl)
    (fun a b p other hp hother hroom hname hcapable => ?_) (fun _ _ _ _ => rfl)
    (fun c c' other other' hother hother' hsame => ?_) fun a b => ?_
  · obtain ⟨other', hother', hname', hroom', hsame⟩ := hafter p.clientId other hother
    refine ⟨other', hother', hroom'.trans hroom, hname'.trans hname, ?_⟩
    by_cases hc : p.clientId = clientId
    · exact .inr (.inr hc)
    · rw [hsame hc]
      exact hcapable.imp id .inl
  · obtain ⟨other₀, hother₀, hname, -⟩ := hbefore c other hother
    obtain ⟨other₁, hother₁, hname', -⟩ := hbefore c' other' hother'
    exact h.named c c' other₀ other₁ hother₀ hother₁ (hname.trans (hsame.trans hname'.symm))
  · rw [show (s.updateSession clientId f).rosterFlag a b = s.rosterFlag a b from rfl, h.rostered]
    constructor
    · rintro ⟨c, other, hother, hroom, hname⟩
      obtain ⟨other', hother', hname', hroom', -⟩ := hafter c other hother
      exact ⟨c, other', hother', hroom'.trans hroom, hname'.trans hname⟩
    · rintro ⟨c, other, hother, hroom, hname⟩
      obtain ⟨other₀, hother₀, hname', hroom'⟩ := hbefore c other hother
      exact ⟨c, other₀, hother₀, hroom'.trans hroom, hname'.trans hname⟩

/-- An excuse is not needed for a client without a seat, nor for a session that
    has what its seat needs. -/
theorem Members.unexcuse {clientId : String}
    (h : Members stale (fun c => excused c ∨ c = clientId) s)
    (hneedless : Unattached clientId s ∨ ∀ session, s.sessions[clientId]? = some session →
      session.capabilities.readinessV2 = true) : Members stale excused s := by
  refine ⟨h.enabled, fun a b p hp => ?_, h.derived, h.projected, h.named, h.rostered⟩
  obtain ⟨session, hsession, hroom, hname, hcapable⟩ := h.seated a b p hp
  refine ⟨session, hsession, hroom, hname, ?_⟩
  rcases hcapable with hcapable | hexcused | rfl
  · exact .inl hcapable
  · exact .inr hexcused
  · rcases hneedless with hunattached | hcapable
    · exact absurd rfl (hunattached a b p hp)
    · exact .inl (hcapable session hsession)

end Sorotte.Server
