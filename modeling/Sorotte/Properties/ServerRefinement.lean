import Sorotte.Properties.CoordinatedStarts

/-! # The server refines the ideal server

  The ideal server says what a start, a pause, a policy, a request identity and
  a controller grant are for; the handlers say how messages bring them about.
  Every action of a reachable server is a sequence of ideal moves, of the kinds
  that the action may make, and every reachable server reads as an ideal one.
-/

namespace Sorotte.Server

open Sorotte.Ideal

/-- **Refinement**: a reachable server reads as a state of an ideal run, and whatever it does
    next continues that run with moves of the action's own kinds. -/
theorem server_refines_ideal {s : ServerRuntime} (h : Reachable s) (action : Action)
    (clock : Clock) (hclock : s.clock.le clock) :
    (∃ x, Ideal.Initial x ∧ Relation.ReflTransGen (Ideal.Move fun _ => True) x s.ideal) ∧
    Relation.ReflTransGen (Ideal.Move (stepLabel s action clock)) s.ideal
      (action.next clock s).ideal :=
  ⟨h.ideal, action.next_evolves h.seats hclock⟩

/-- alice's player has loaded the film that she prepared, which commits the start of her room. -/
theorem server_refines_ideal_film :
    ((∃ x, Ideal.Initial x ∧ Relation.ReflTransGen (Ideal.Move fun _ => True) x
      playableFilm.ideal) ∧
    Relation.ReflTransGen (Ideal.Move (stepLabel playableFilm aliceHasLoaded {}))
      playableFilm.ideal committedFilm.ideal) ∧
    committedFilm.ideal ≠ playableFilm.ideal := by
  have ⟨⟨_, _, _, _, hplayable, _⟩, _, _, hpreparing, hcommitted, _⟩ := film_readings
  refine ⟨server_refines_ideal (preparedFilm_reachable.run playableFilm_run) aliceHasLoaded {}
    hplayable, ?_⟩
  -- the start is preparing before and committed after
  intro hsame
  have hread : startReadings committedFilm "movies" = startReadings playableFilm "movies" :=
    congrArg (fun x => (x.barrier "movies").map fun b =>
      (b.prepare.mediaGeneration, b.phase, b.commit.isSome)) hsame
  rw [hcommitted, hpreparing] at hread
  cases hread

end Sorotte.Server
