import Sorotte.Ideal.Commits
import Sorotte.Ideal.Completion

/-! # Presence

  A preparing start waits for its participants.  Whoever it still counts on has a
  session in its room: a client that goes is told to the start before its session
  ends, and nobody joins a start from elsewhere.  So has whoever a commit counts on.
-/

namespace Sorotte.Ideal

open Server

variable {s s' : State} {l : Label} {room clientId : String} {b b' : RoomPlaybackBarrier}

/-- Whoever a preparing start counts on is in its room. -/
def Present (s : State) (room : String) (b : RoomPlaybackBarrier) : Prop :=
  b.phase = .preparing → ∀ (clientId : String) p, b.participants[clientId]? = some p →
    s.inRoom clientId room ∨ p.status.phase = .degraded

/-- **Invariant**: preparing starts count on members of their rooms only. -/
def StartsPresent (s : State) : Prop := ∀ room b, s.barrier room = some b → Present s room b

theorem inRoom_congr (h : s'.sessions = s.sessions) :
    s'.inRoom clientId room ↔ s.inRoom clientId room := by
  unfold State.inRoom
  rw [h]

/-- Nobody leaves a room because of somebody else. -/
theorem inRoom_setSession {c : String} {session : Option ServerSession} (hc : c ≠ clientId)
    (h : s.inRoom c room) : ∃ held, Function.update s.sessions clientId session c = some held ∧
      held.room = room := by
  obtain ⟨held, hheld, hroom⟩ := h
  exact ⟨held, (Function.update_of_ne hc _ _).trans hheld, hroom⟩

/-- A client that may go is counted on nowhere. -/
theorem StartsPresent.degraded (h : StartsPresent s) {session : ServerSession}
    (hsession : s.sessions clientId = some session) (hdeparted : Departed s clientId session)
    (hb : s.barrier room = some b) (hphase : b.phase = .preparing)
    {p : RoomPlaybackBarrierParticipant} (hp : b.participants[clientId]? = some p) :
    p.status.phase = .degraded := by
  rcases h room b hb hphase clientId p hp with ⟨held, hheld, hroom⟩ | hdegraded
  · rw [hsession] at hheld
    obtain rfl := Option.some.inj hheld
    subst hroom
    exact hdeparted.1 b p hb hphase hp
  · exact hdegraded

/-- Labels about sessions: a client that goes was given up by its start. -/
theorem StartsPresent.sessions_step (h : StartsPresent s) (hguard : guard s l)
    (hmoves : l.movesSessions) : StartsPresent (effect s l) := by
  intro room b hb hphase c p hp
  cases l with
  | join clientId session position =>
    rcases h room b hb hphase c p hp with hin | hdegraded
    · -- who joins had no session, and was nowhere
      have hc : c ≠ clientId := by
        rintro rfl
        obtain ⟨held, hheld, -⟩ := hin
        rw [hguard.1] at hheld
        cases hheld
      exact .inl (inRoom_setSession hc hin)
    · exact .inr hdegraded
  | leave clientId session =>
    by_cases hc : c = clientId
    · subst hc
      exact .inr (h.degraded hguard.1 hguard.2 hb hphase hp)
    · exact (h room b hb hphase c p hp).imp_left fun hin => inRoom_setSession hc hin
  | move clientId session r position =>
    by_cases hc : c = clientId
    · subst hc
      exact .inr (h.degraded hguard.1 hguard.2.2.1 hb hphase hp)
    · exact (h room b hb hphase c p hp).imp_left fun hin => inRoom_setSession hc hin
  | describe clientId session session' =>
    rcases h room b hb hphase c p hp with hin | hdegraded
    · left
      by_cases hc : c = clientId
      · subst hc
        obtain ⟨held, hheld, hroom⟩ := hin
        rw [hguard.1] at hheld
        obtain rfl := Option.some.inj hheld
        exact ⟨session', Function.update_self .., hguard.2.2.trans hroom⟩
      · exact inRoom_setSession hc hin
    · exact .inr hdegraded
  | _ => exact hmoves.elim

/-- A start with another phase counts on nobody yet, or any longer. -/
theorem present_of_phase (h : b.phase ≠ .preparing) : Present s room b :=
  fun hphase => absurd hphase h

/-- Labels about starts: whoever a start comes to count on is in its room. -/
theorem StartsPresent.barrier_step (h : StartsPresent s) (hguard : guard s l)
    (hmoves : ¬ l.movesSessions) (hwrites : l.writesBarrier) : StartsPresent (effect s l) := by
  intro room b' hb'
  have hsessions := effect_sessions (s := s) hmoves
  suffices hpresent : Present s room b' by
    intro hphase c p hp
    exact (hpresent hphase c p hp).imp_left (inRoom_congr hsessions).mpr
  cases l with
  | discard r | drop r =>
    rcases held_of_update hb' with ⟨-, hwritten⟩ | hb
    · cases hwritten
    · exact h room b' hb
  | prepare r installed =>
    rw [effect_barrier_prepare] at hb'
    rcases held_of_update hb' with ⟨rfl, hwritten⟩ | hb
    · obtain rfl := Option.some.inj hwritten
      intro _ c p hp
      exact .inl (hguard.cohort c p hp).2
    · exact h room b' hb
  | commit r snapshot committed =>
    rw [effect_barrier_commit] at hb'
    rcases held_of_update hb' with ⟨rfl, hwritten⟩ | hb
    · obtain rfl := Option.some.inj hwritten
      apply present_of_phase
      rw [hguard.2.phase]
      decide
    · exact h room b' hb
  | ready clientId r held ready =>
    rcases held_of_update hb' with ⟨rfl, hwritten⟩ | hb
    · obtain rfl := Option.some.inj hwritten
      intro hphase c p hp
      rw [mapParticipant_lookup] at hp
      split at hp
      · next hc =>
        subst hc
        exact .inl hguard.2.2.1
      · exact h room held hguard.1 hphase c p hp
    · exact h room b' hb
  | disconnect clientId r held =>
    rcases held_of_update hb' with ⟨rfl, hwritten⟩ | hb
    · obtain rfl := Option.some.inj hwritten
      intro hphase c p hp
      rw [mapParticipant_lookup] at hp
      split at hp
      · -- whoever disconnects is given up here, while its session still lasts
        obtain ⟨p₀, -, rfl⟩ := Option.map_eq_some_iff.mp hp
        exact .inr rfl
      · exact h room held hguard.1 hphase c p hp
    · exact h room b' hb
  | started clientId r held started position =>
    rcases held_of_update hb' with ⟨rfl, hwritten⟩ | hb
    · obtain rfl := Option.some.inj hwritten
      apply present_of_phase
      rcases withStarted_phase held clientId position with hcomplete | hsame
      · rw [hcomplete]
        decide
      · rw [hsame, hguard.2.1]
        decide
    · exact h room b' hb
  | settle r held settled =>
    rcases held_of_update hb' with ⟨rfl, hwritten⟩ | hb
    · obtain rfl := Option.some.inj hwritten
      apply present_of_phase
      rcases hguard.2.phase with hdegraded | ⟨-, hawaiting⟩
      · rw [hdegraded]
        decide
      · rw [hawaiting]
        decide
    · exact h room b' hb
  | rebind clientId session sequence held =>
    rcases held_of_update hb' with ⟨hroom, hwritten⟩ | hb
    · obtain ⟨hsession, hheld⟩ := hguard
      rw [← hroom] at hheld
      obtain rfl := Option.some.inj hwritten
      intro hphase c p hp
      -- the new connection is in the room; the old one leaves the start
      by_cases hc : clientId = c
      · subst hc
        exact .inl ⟨session, hsession, hroom.symm⟩
      · rw [reboundBarrier_lookup, if_neg hc] at hp
        split at hp
        · cases hp
        · exact h room held hheld hphase c p hp
    · exact h room b' hb
  | reconcile r g g' reconciled =>
    rcases held_of_update hb' with ⟨rfl, hwritten⟩ | hb
    · have hrel := hguard.2.2
      rw [hwritten] at hrel
      cases hheld : s.barrier room with
      | none =>
        rw [hheld] at hrel
        cases hrel
      | some held =>
        rw [hheld] at hrel
        cases hrel with
        | some hsame =>
          -- a reconciled cohort is drawn from the room's members
          intro hphase c p hp
          exact .inl (hsame.cohort (hsame.phase ▸ hphase) c p hp).1
    · exact h room b' hb
  | _ => exact hwrites.elim

theorem StartsPresent.step (h : StartsPresent s) (hguard : guard s l) :
    StartsPresent (effect s l) := by
  by_cases hmoves : l.movesSessions
  · exact h.sessions_step hguard hmoves
  · by_cases hwrites : l.writesBarrier
    · exact h.barrier_step hguard hmoves hwrites
    · intro room b hb hphase c p hp
      rw [effect_barrier hwrites] at hb
      exact (h room b hb hphase c p hp).imp_left (inRoom_congr (effect_sessions hmoves)).mpr

theorem Initial.startsPresent (h : Initial s) : StartsPresent s := by
  intro room b hb
  rw [h.barrier room] at hb
  cases hb

theorem Reachable.startsPresent (h : Reachable s) : StartsPresent s :=
  h.invariant (fun _ hinitial => hinitial.startsPresent) fun _ _ hguard hheld => hheld.step hguard

/-! ### Commits -/

/-- **Invariant**: whoever a commit counted on was in its room. -/
def CommitsPresent (s : State) : Prop :=
  ∀ room snapshot, .committed room snapshot ∈ s.history → ∀ (clientId : String) p,
    snapshot.barrier.participants[clientId]? = some p → p.status.phase ≠ .degraded →
    ∃ session, snapshot.sessions[clientId]? = some session ∧ session.room = room

theorem CommitsPresent.step (h : CommitsPresent s) (hguard : guard s l)
    (hstarts : StartsPresent s) : CommitsPresent (effect s l) := by
  intro room snapshot hmem clientId p hp hcounts
  rcases mem_effect_history.mp hmem with hnew | hold
  · obtain ⟨b', rfl⟩ := commit_of_event hnew
    have hlawful := hguard.1
    rcases hstarts room _ hlawful.barrier hlawful.phase clientId p hp with
      ⟨session, hsession, hroom⟩ | hdegraded
    · exact ⟨session, (hlawful.sessions clientId).trans hsession, hroom⟩
    · exact absurd hdegraded hcounts
  · exact h room snapshot hold clientId p hp hcounts

theorem Reachable.commitsPresent (h : Reachable s) : CommitsPresent s := by
  have hall : StartsPresent s ∧ CommitsPresent s :=
    h.invariant (I := fun t => StartsPresent t ∧ CommitsPresent t)
      (fun x hinitial => ⟨hinitial.startsPresent, fun room snapshot hmem => by
        rw [hinitial.history] at hmem
        cases hmem⟩)
      fun _ _ hguard ⟨hstarts, hcommits⟩ => ⟨hstarts.step hguard, hcommits.step hguard hstarts⟩
  exact hall.2

end Sorotte.Ideal
