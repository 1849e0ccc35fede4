import Sorotte.Ideal.History

/-! # Controller authority

  Authority is kept by room and user name, and withdrawn with the session that
  earned it.  As long as sessions sit where their authority counts, a name has
  authority exactly because a session of that name, which has not left the room
  since, presented a valid password for it.
-/

namespace Sorotte.Ideal

open Server

variable {s : State} {l : Label} {room clientId username : String}
variable {sits : String → String → String → Prop}

/-- The client presented a valid password for the room, on this connection and without leaving
    the room since. -/
def Authenticated (s : State) (clientId room : String) : Prop :=
  ∃ password newer older,
    s.history = newer ++ .controllerAuthenticated clientId room password :: older ∧
      s.passwords.check room password = .ok true ∧
      .sessionEnded clientId ∉ newer ∧ .leftRoom clientId room ∉ newer

/-- The live session of this name authenticated for the room, and sits where that counts. -/
def Earned (sits : String → String → String → Prop) (s : State) (room username : String) : Prop :=
  ∃ clientId session, s.sessions clientId = some session ∧ session.username = username ∧
    sits clientId session.room room ∧ Authenticated s clientId room

/-- **Invariant**: authority is earned. -/
def AuthorityEarned (sits : String → String → String → Prop) (s : State) : Prop :=
  ∀ room username, s.controllers room username = true → Earned sits s room username

/-- The label grants authority where the session sits, and ends a stay only there. -/
def Label.respects (sits : String → String → String → Prop) : Label → Prop
  | .grant clientId session room _ => sits clientId session.room room
  | .leave clientId session => ∀ room, sits clientId session.room room → session.room = room
  | .move clientId session newRoom _ =>
      ∀ room, sits clientId session.room room → session.room ≠ room → sits clientId newRoom room
  | _ => True

/-- Nothing happened to the client's stay in the room. -/
theorem Authenticated.step (h : Authenticated s clientId room)
    (hended : .sessionEnded clientId ∉ events s l) (hleft : .leftRoom clientId room ∉ events s l) :
    Authenticated (effect s l) clientId room := by
  obtain ⟨password, newer, older, hhistory, hcheck, hnoend, hnoleave⟩ := h
  refine ⟨password, events s l ++ newer, older, ?_, ?_, ?_, ?_⟩
  · rw [effect_history, hhistory, List.append_assoc]
  · rw [effect_passwords]
    exact hcheck
  · simp [hended, hnoend]
  · simp [hleft, hnoleave]

/-- Authority of another session does not depend on a label about this one. -/
theorem Earned.step (h : Earned sits s room username)
    (hstays : ∀ clientId session, s.sessions clientId = some session →
      session.username = username → sits clientId session.room room →
      (∃ session', (effect s l).sessions clientId = some session' ∧
        session'.username = username ∧ sits clientId session'.room room) ∧
      .sessionEnded clientId ∉ events s l ∧ .leftRoom clientId room ∉ events s l) :
    Earned sits (effect s l) room username := by
  obtain ⟨clientId, session, hsession, hname, hsits, hauthenticated⟩ := h
  obtain ⟨⟨session', hsession', hname', hsits'⟩, hended, hleft⟩ :=
    hstays clientId session hsession hname hsits
  exact ⟨clientId, session', hsession', hname', hsits', hauthenticated.step hended hleft⟩

/-- Whoever keeps authority after a session let go of its room is somebody else. -/
theorem controller_of_withdrawn {session : ServerSession}
    (h : Function.update s.controllers session.room (Function.update
      (s.controllers session.room) session.username false) room username = true) :
    s.controllers room username = true ∧ ¬ (room = session.room ∧ username = session.username) := by
  by_cases hroom : room = session.room
  · subst hroom
    rw [Function.update_self] at h
    by_cases hname : username = session.username
    · subst hname
      rw [Function.update_self] at h
      cases h
    · rw [Function.update_of_ne hname] at h
      exact ⟨h, fun hboth => hname hboth.2⟩
  · rw [Function.update_of_ne hroom] at h
    exact ⟨h, fun hboth => hroom hboth.1⟩

/-- A label that ends no stay and moves nobody keeps what is earned. -/
theorem Earned.still (h : Earned sits s room username) (hsessions : (effect s l).sessions = s.sessions)
    (hended : ∀ clientId, .sessionEnded clientId ∉ events s l)
    (hleft : ∀ clientId, .leftRoom clientId room ∉ events s l) :
    Earned sits (effect s l) room username := by
  apply h.step
  intro clientId session hsession hname hroom
  exact ⟨⟨session, by rw [hsessions, hsession], hname, hroom⟩, hended clientId, hleft clientId⟩

theorem AuthorityEarned.step (h : AuthorityEarned sits s) (hguard : guard s l)
    (hrespects : l.respects sits) : AuthorityEarned sits (effect s l) := by
  intro room username hcontroller
  cases l with
  | join clientId session position =>
    apply (h room username hcontroller).step
    intro c held hheld hname hsits
    have hc : c ≠ clientId := by
      rintro rfl
      rw [hguard.1] at hheld
      cases hheld
    refine ⟨⟨held, ?_, hname, hsits⟩, by simp [events], by simp [events]⟩
    exact (Function.update_of_ne hc _ _).trans hheld
  | leave clientId session =>
    obtain ⟨hbefore, hother⟩ := controller_of_withdrawn hcontroller
    apply (h room username hbefore).step
    intro c held hheld hname hsits
    have hc : c ≠ clientId := by
      rintro rfl
      rw [hguard.1] at hheld
      obtain rfl := Option.some.inj hheld
      exact hother ⟨(hrespects room hsits).symm, hname.symm⟩
    refine ⟨⟨held, ?_, hname, hsits⟩, by simp [events, hc], by simp [events]⟩
    exact (Function.update_of_ne hc _ _).trans hheld
  | move clientId session newRoom position =>
    obtain ⟨hbefore, hother⟩ := controller_of_withdrawn hcontroller
    apply (h room username hbefore).step
    intro c held hheld hname hsits
    by_cases hc : c = clientId
    · subst hc
      rw [hguard.1] at hheld
      obtain rfl := Option.some.inj hheld
      -- a room it authenticated for from elsewhere is not the one it leaves
      have hroom : session.room ≠ room := fun hroom => hother ⟨hroom.symm, hname.symm⟩
      exact ⟨⟨_, Function.update_self .., hname, hrespects room hsits hroom⟩, by simp [events],
        by simp [events, hroom.symm]⟩
    · refine ⟨⟨held, ?_, hname, hsits⟩, by simp [events], by simp [events, hc]⟩
      exact (Function.update_of_ne hc _ _).trans hheld
  | describe clientId session session' =>
    apply (h room username hcontroller).step
    intro c held hheld hname hsits
    refine ⟨?_, by simp [events], by simp [events]⟩
    by_cases hc : c = clientId
    · subst hc
      rw [hguard.1] at hheld
      obtain rfl := Option.some.inj hheld
      exact ⟨session', Function.update_self .., hguard.2.1.trans hname, hguard.2.2 ▸ hsits⟩
    · exact ⟨held, (Function.update_of_ne hc _ _).trans hheld, hname, hsits⟩
  | grant clientId session r password =>
    have hupdated : Function.update s.controllers r (Function.update (s.controllers r)
      session.username true) room username = true := hcontroller
    by_cases hnew : room = r ∧ username = session.username
    · -- the name that was just granted authority belongs to this session
      obtain ⟨rfl, rfl⟩ := hnew
      refine ⟨clientId, session, hguard.1, rfl, hrespects, password, [], s.history, rfl, hguard.2, ?_, ?_⟩
        <;> exact List.not_mem_nil
    · have hbefore : s.controllers room username = true := by
        by_cases hroom : room = r
        · subst hroom
          rw [Function.update_self, Function.update_of_ne fun hname => hnew ⟨rfl, hname⟩] at hupdated
          exact hupdated
        · rwa [Function.update_of_ne hroom] at hupdated
      exact (h room username hbefore).still rfl (by simp [events]) (by simp [events])
  | discard r =>
    have hupdated : Function.update s.controllers r (fun _ => false) room username = true :=
      hcontroller
    by_cases hroom : room = r
    · subst hroom
      rw [Function.update_self] at hupdated
      cases hupdated
    · rw [Function.update_of_ne hroom] at hupdated
      exact (h room username hupdated).still rfl (by simp [events]) (by simp [events])
  | prepare r b =>
    rw [effect_controllers id] at hcontroller
    exact (h room username hcontroller).still (effect_sessions id) (by simp [events])
      (by simp [events])
  | commit r snapshot b' =>
    rw [effect_controllers id] at hcontroller
    exact (h room username hcontroller).still (effect_sessions id) (by simp [events])
      (by simp [events])
  | started c r b started position =>
    apply (h room username hcontroller).still rfl <;>
    · intro clientId hmem
      simp only [events] at hmem
      split at hmem <;> simp at hmem
  | _ => exact (h room username hcontroller).still rfl (by simp [events]) (by simp [events])

theorem Initial.authorityEarned (h : Initial s) : AuthorityEarned sits s := by
  intro room username hcontroller
  rw [h.controllers room username] at hcontroller
  cases hcontroller

end Sorotte.Ideal
