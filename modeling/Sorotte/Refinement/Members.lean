import Sorotte.Refinement.Intents

/-! # Refinement: joins, departures and room cleanup

  A departure marks the client in its room's start, takes it out of the
  coordinator and forgets its session.  Three callers do this in different
  orders; each runs to its end, so that seen from outside a departure is one
  move.
-/

namespace Sorotte.Server

open Sorotte.Framework Sorotte.Framework.Prog Sorotte.Ideal

/-! ### On the way out -/

/-- The client's entry in a preparing start is marked, or it has none. -/
def Marked (clientId room : String) (t : State) : Prop :=
  ∀ b p, t.barrier room = some b → b.phase = .preparing → b.participants[clientId]? = some p →
    p.status.phase = .degraded

theorem marked_congr {clientId room : String} {t t' : State}
    (hbarrier : t'.barrier room = t.barrier room) (h : Marked clientId room t) :
    Marked clientId room t' := by
  intro b p hb
  rw [hbarrier] at hb
  exact h b p hb

theorem marked_of_commit {clientId room : String} {t : State} {snapshot : CommitSnapshot}
    {b' : RoomPlaybackBarrier} (hguard : Ideal.guard t (.commit room snapshot b')) :
    Marked clientId room (effect t (.commit room snapshot b')) := by
  intro b p hb hpreparing
  rw [effect_commit_barrier] at hb
  obtain rfl := Option.some.inj hb
  rw [hguard.2.phase] at hpreparing
  cases hpreparing

/-- Committing and releasing never prepares a start again. -/
theorem marked_of_departing {clientId room : String} {t t' : State}
    (hsteps : Relation.ReflTransGen (Steps (departingLabel room)) t t')
    (h : Marked clientId room t) : Marked clientId room t' := by
  induction hsteps with
  | refl => exact h
  | tail _ hstep ih =>
    obtain ⟨l, hl, hguard, rfl⟩ := hstep
    cases l with
    | commit r snapshot b' =>
      obtain rfl : r = room := hl
      exact marked_of_commit hguard
    | withdraw | release | dissolve | hold | resume | relax | refresh =>
      exact marked_congr rfl ih
    | _ => exact hl.elim

theorem withdrawn_of_disconnect {clientId other room username : String} {t t' : State}
    (hsteps : Relation.ReflTransGen (Steps (disconnectLabel other room)) t t')
    (h : Withdrawn clientId room username t) : Withdrawn clientId room username t' := by
  refine withdrawn_of_steps (fun l hl => .inl ?_) hsteps h
  cases l <;> first | exact id | exact hl.elim

theorem withdrawn_of_policy {clientId room username : String} {t t' : State}
    (hsteps : Relation.ReflTransGen (Steps (policyLabel room)) t t')
    (h : Withdrawn clientId room username t) : Withdrawn clientId room username t' := by
  refine withdrawn_of_steps (fun l hl => .inl ?_) hsteps h
  cases l <;> first | exact id | exact hl.elim

/-- A departing client is marked in its room's start, which may complete the
    policy. -/
theorem markPlaybackBarrierParticipantDisconnected_spec (s : ServerRuntime)
    (clientId room : String) :
    FollowsTo ServerRuntime.ideal (Steps (disconnectLabel clientId room)) (Marked clientId room) s
      (markPlaybackBarrierParticipantDisconnected clientId room) := by
  refine followsTo_get_bind ?_
  split
  · next hnone =>
    refine followsTo_pure _ fun b p hb => ?_
    rw [show s.ideal.barrier room = none from hnone] at hb
    cases hb
  · next b hbarrier =>
    split
    · next hguard =>
      refine followsTo_pure _ fun b' p hb hpreparing hp => ?_
      obtain rfl := Option.some.inj ((show s.ideal.barrier room = some b from hbarrier).symm.trans hb)
      have hmem : clientId ∈ b.participants := by
        rw [Std.ExtTreeMap.mem_iff_isSome_getElem?, hp]
        rfl
      rw [hpreparing] at hguard
      simp [Std.ExtTreeMap.contains_iff_mem.mpr hmem] at hguard
    · next hguard =>
      have hchecks : active b ∧ clientId ∈ b.participants := by
        simp at hguard
        refine ⟨?_, Std.ExtTreeMap.contains_iff_mem.mp hguard.2⟩
        by_cases h : b.phase = .preparing
        · exact .inl h
        · exact .inr (hguard.1 h)
      have hideal := ideal_updateBarrier_some s room b
        (·.mapParticipant clientId disconnectedStatus) hbarrier
      set marked := s.updateBarrier room (·.mapParticipant clientId disconnectedStatus)
      have hmarked : Marked clientId room marked.ideal := by
        intro b' p hb _ hp
        rw [hideal, State.setBarrier_self] at hb
        obtain rfl := Option.some.inj hb
        have hmodified : (b.participants.modify clientId fun participant =>
            { participant with status := disconnectedStatus participant.status })[clientId]? =
            some p := hp
        rw [Std.ExtTreeMap.getElem?_modify_self] at hmodified
        obtain ⟨p₀, -, rfl⟩ := Option.map_eq_some_iff.mp hmodified
        rfl
      refine followsTo_modify_bind (one_step (l := .disconnect clientId room b) ⟨rfl, rfl⟩
        ⟨hbarrier, hchecks.1, hchecks.2⟩ hideal) (followsTo_get_bind ?_)
      split
      · next hsatisfied =>
        have hcommit := commitPlaybackBarrier_refines marked room false marked.currentTimeSeconds
          (.inr ⟨hsatisfied.2, .inr fun b' hb' => by
            rw [updateBarrier_lookup s room b _ hbarrier] at hb'
            obtain rfl := Option.some.inj hb'
            exact ⟨clientId, (mem_mapParticipant b clientId clientId _).mpr hchecks.2⟩⟩)
        refine ⟨hcommit.weaken fun l hl => ?_, ?_⟩
        · cases l <;> first | exact hl | exact hl.elim
        · refine marked_of_departing (Relation.ReflTransGen.mono (Steps.mono fun l hl => ?_) _ _
            hcommit) hmarked
          cases l <;> first | exact hl | exact hl.elim
      · exact followsTo_pure _ hmarked

end Sorotte.Server
