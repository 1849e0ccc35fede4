import Sorotte.Ideal.Frames

/-! # Runs of the ideal server

  A run is a sequence of moves from a server that has just started.  A departure
  is one move, but what happens in it happens in steps, so what every step
  preserves, every run preserves.
-/

namespace Sorotte.Ideal

open Server

variable {allowed : Label → Prop} {s s' : State}

/-- A server that has just started: nobody is there and every room is paused. -/
structure Initial (s : State) : Prop where
  sessions : ∀ clientId, s.sessions clientId = none
  controllers : ∀ room username, s.controllers room username = false
  paused : ∀ room, s.paused room = true
  sample : ∀ clientId, s.sample clientId = none
  barrier : ∀ room, s.barrier room = none
  policy : ∀ room, s.policy room = none
  gate : ∀ room, s.gate room = none
  tombstone : ∀ room requestId, s.tombstone room requestId = none
  generation : s.generation = 0
  revision : s.revision = 0
  history : s.history = []

/-- The steps of a move. -/
theorem Move.steps (h : Move allowed s s') : Relation.ReflTransGen (Steps allowed) s s' := by
  have hdeparting : ∀ {clientId room : String} {t : State}, Departing allowed clientId room s t →
      Relation.ReflTransGen (Steps allowed) s t := by
    rintro clientId room t ⟨t₁, t₂, hfirst, hsecond, hthird⟩
    have hforget : ∀ {p : Label → Prop} {x y : State},
        Relation.ReflTransGen (Steps fun l => p l ∧ allowed l) x y →
        Relation.ReflTransGen (Steps allowed) x y :=
      fun hsteps => Relation.ReflTransGen.mono (Steps.mono fun _ hl => hl.2) _ _ hsteps
    exact (hforget hfirst).trans ((hforget hsecond).trans (hforget hthird))
  cases h with
  | step label hallowed _ hstep => exact .single ⟨label, hallowed, hstep⟩
  | leave clientId session t hdep hallowed hstep =>
    exact (hdeparting hdep).tail ⟨_, hallowed, hstep⟩
  | move clientId session room position t hdep hallowed hstep =>
    exact (hdeparting hdep).tail ⟨_, hallowed, hstep⟩

theorem steps_of_moves (h : Relation.ReflTransGen (Move allowed) s s') :
    Relation.ReflTransGen (Steps allowed) s s' := by
  induction h with
  | refl => exact .refl
  | tail _ hmove ih => exact ih.trans hmove.steps

/-- **Invariant rule**: what every allowed step preserves, every run preserves. -/
theorem invariant_of_steps {I : State → Prop}
    (hstep : ∀ s l, allowed l → guard s l → I s → I (effect s l))
    (h : Relation.ReflTransGen (Steps allowed) s s') (hs : I s) : I s' := by
  induction h with
  | refl => exact hs
  | tail _ hlast ih =>
    obtain ⟨l, hl, hguard, rfl⟩ := hlast
    exact hstep _ l hl hguard ih

theorem invariant_of_moves {I : State → Prop}
    (hstep : ∀ s l, allowed l → guard s l → I s → I (effect s l))
    (h : Relation.ReflTransGen (Move allowed) s s') (hs : I s) : I s' :=
  invariant_of_steps hstep (steps_of_moves h) hs

/-- States of an ideal server that runs from a start. -/
def Reachable (s : State) : Prop :=
  ∃ s₀, Initial s₀ ∧ Relation.ReflTransGen (Move fun _ => True) s₀ s

theorem Reachable.invariant {I : State → Prop} (hinitial : ∀ s, Initial s → I s)
    (hstep : ∀ s l, guard s l → I s → I (effect s l)) (h : Reachable s) : I s := by
  obtain ⟨s₀, hstart, hmoves⟩ := h
  exact invariant_of_moves (fun t l _ => hstep t l) hmoves (hinitial s₀ hstart)

end Sorotte.Ideal
