import Sorotte.Ideal.System

/-! # What a step leaves alone

  Frame conditions of the ideal server: most components have few labels that
  write them.
-/

namespace Sorotte.Ideal

open Server

/-- The label changes who is connected where. -/
def Label.movesSessions : Label → Prop
  | .join _ _ _ | .leave _ _ | .move _ _ _ _ | .describe _ _ _ => True
  | _ => False

theorem effect_sessions {s : State} {l : Label} (h : ¬ l.movesSessions) :
    (effect s l).sessions = s.sessions := by
  cases l with
  | join | leave | move | describe => exact (h trivial).elim
  | commit => simp only [effect]; split <;> rfl
  | prepare => simp only [effect, State.beginGeneration]; split <;> rfl
  | _ => rfl

@[simp] theorem effect_passwords (s : State) (l : Label) :
    (effect s l).passwords = s.passwords := by
  cases l with
  | prepare room b => simp only [effect, State.beginGeneration]; split <;> rfl
  | commit room snapshot b' => simp only [effect]; split <;> rfl
  | _ => rfl

/-- The label grants authority over a room, or takes it away. -/
def Label.writesControllers : Label → Prop
  | .leave _ _ | .move _ _ _ _ | .grant _ _ _ _ | .discard _ => True
  | _ => False

theorem effect_controllers {s : State} {l : Label} (h : ¬ l.writesControllers) :
    (effect s l).controllers = s.controllers := by
  cases l with
  | leave | move | grant | discard => exact (h trivial).elim
  | prepare room b => simp only [effect, State.beginGeneration]; split <;> rfl
  | commit room snapshot b' => simp only [effect]; split <;> rfl
  | _ => rfl

/-- What no allowed label writes, a run keeps. -/
theorem frame_of_steps {α : Type} {f : State → α} {allowed : Label → Prop}
    (h : ∀ l, allowed l → ∀ s, f (effect s l) = f s) {s s' : State}
    (hsteps : Relation.ReflTransGen (Steps allowed) s s') : f s' = f s := by
  induction hsteps with
  | refl => rfl
  | tail _ hstep ih =>
    obtain ⟨l, hl, -, rfl⟩ := hstep
    rw [h l hl, ih]

theorem sessions_of_steps {allowed : Label → Prop} (h : ∀ l, allowed l → ¬ l.movesSessions)
    {s s' : State} (hsteps : Relation.ReflTransGen (Steps allowed) s s') :
    s'.sessions = s.sessions :=
  frame_of_steps (fun l hl _ => effect_sessions (h l hl)) hsteps

@[simp] theorem effect_readinessEnabled (s : State) (l : Label) :
    (effect s l).readinessEnabled = s.readinessEnabled := by
  cases l with
  | commit => simp only [effect]; split <;> rfl
  | prepare => simp only [effect, State.beginGeneration]; split <;> rfl
  | _ => rfl

/-! ### Transport -/

def Label.writesPaused : Label → Prop
  | .discard _ | .place _ _ _ | .play _ _ | .recover _ _ | .hold _ _ _ | .resume _ _ | .select _
  | .pause _ _ _ | .prepare _ _ | .commit _ _ _ => True
  | _ => False

theorem effect_paused {s : State} {l : Label} (h : ¬ l.writesPaused) :
    (effect s l).paused = s.paused := by
  cases l with
  | discard | place | play | recover | hold | resume | select | pause | prepare | commit =>
    exact (h trivial).elim
  | _ => rfl

/-! ### Barriers -/

def Label.writesBarrier : Label → Prop
  | .discard _ | .reconcile _ _ _ _ | .prepare _ _ | .commit _ _ _ | .ready _ _ _ _
  | .disconnect _ _ _ | .started _ _ _ _ _ | .settle _ _ _ | .rebind _ _ _ _ | .drop _ => True
  | _ => False

theorem effect_barrier {s : State} {l : Label} (h : ¬ l.writesBarrier) :
    (effect s l).barrier = s.barrier := by
  cases l with
  | discard | reconcile | prepare | commit | ready | disconnect | started | settle | rebind
  | drop => exact (h trivial).elim
  | _ => rfl

theorem effect_barrier_prepare (s : State) (room : String) (b : RoomPlaybackBarrier) :
    (effect s (.prepare room b)).barrier = Function.update s.barrier room (some b) := by
  simp only [effect, State.beginGeneration]
  split <;> rfl

theorem effect_barrier_commit (s : State) (room : String) (snapshot : CommitSnapshot)
    (b' : RoomPlaybackBarrier) :
    (effect s (.commit room snapshot b')).barrier = Function.update s.barrier room (some b') := by
  simp only [effect]
  split <;> rfl

@[simp] theorem effect_commit_barrier (s : State) (room : String) (snapshot : CommitSnapshot)
    (b' : RoomPlaybackBarrier) :
    (effect s (.commit room snapshot b')).barrier room = some b' := by
  rw [effect_barrier_commit, Function.update_self]

/-! ### Coordinators -/

/-- A recomputed start-eligibility flag is backed by its facts. -/
theorem recompute_startEligible (record : ParticipantReadiness) (generation : Option Nat)
    (h : (recomputeParticipantReadiness record generation).startEligible = true) :
    record.participationRole = .required ∧ record.userIntent = .ready ∧
    record.terminalTechnicalBlock = none ∧
    ∃ g, record.technicalState = .playable g ∧ generation = some g := by
  simp only [recomputeParticipantReadiness, Bool.and_eq_true, beq_iff_eq,
    Option.isNone_iff_eq_none] at h
  obtain ⟨⟨hrole, hintent, hterminal⟩, hplayable⟩ := h
  refine ⟨hrole, hintent, hterminal, ?_⟩
  unfold playableForGeneration at hplayable
  split at hplayable
  · next g hstate => exact ⟨g, hstate, (beq_iff_eq.mp hplayable).symm⟩
  · cases hplayable

/-- The coordinator, if it is there, keeps its members and its generation. -/
def Label.writesMembers : Label → Prop
  | .records _ _ _ | .follow _ _ _ | .enroll _ _ _ _ | .withdraw _ _ | .dissolve _
  | .reconcile _ _ _ _ | .prepare _ _ | .select _ => True
  | _ => False

theorem setOwner_members (s : State) (room : String) (owner : RoomPauseOwner) (r : String) :
    ((s.setOwner room owner).gate r).map Gate.members = (s.gate r).map Gate.members := by
  show (Function.update s.gate room _ r).map _ = _
  by_cases h : r = room
  · subst h
    rw [Function.update_self, Option.map_map]
    rfl
  · rw [Function.update_of_ne h]

theorem effect_members {s : State} {l : Label} (h : ¬ l.writesMembers) (r : String) :
    ((effect s l).gate r).map Gate.members = (s.gate r).map Gate.members := by
  cases l with
  | records | follow | enroll | withdraw | dissolve | reconcile | prepare | select =>
    exact (h trivial).elim
  | commit room snapshot b' =>
    simp only [effect]
    split
    · exact setOwner_members _ _ _ _
    · rfl
  | play | recover | hold | resume | pause | claim | arm | rearm | release | disown | automatic
  | selectOwner =>
    exact setOwner_members _ _ _ _
  | _ => rfl

/-- Every label but `dissolve` keeps a coordinator in place. -/
theorem effect_gate_isSome {s : State} {l : Label} {r : String} (h : l ≠ .dissolve r)
    (hgate : (s.gate r).isSome = true) : ((effect s l).gate r).isSome = true := by
  have hset : ∀ (room : String) (f : Gate → Gate),
      ((s.setGate room ((s.gate room).map f)).gate r).isSome = true := by
    intro room f
    show (Function.update s.gate room _ r).isSome = true
    by_cases hr : r = room
    · subst hr
      rw [Function.update_self, Option.isSome_map]
      exact hgate
    · rw [Function.update_of_ne hr]
      exact hgate
  have hsome : ∀ (room : String) (g : Gate), ((s.setGate room (some g)).gate r).isSome = true := by
    intro room g
    show (Function.update s.gate room _ r).isSome = true
    by_cases hr : r = room
    · subst hr
      rw [Function.update_self]
      rfl
    · rw [Function.update_of_ne hr]
      exact hgate
  cases l with
  | dissolve room =>
    show (Function.update s.gate room none r).isSome = true
    rw [Function.update_of_ne fun hr => h (by rw [hr])]
    exact hgate
  | records room g g' => exact hsome room g'
  | enroll room username member generation => exact hsome room _
  | reconcile room g g' b' => exact hsome room g'
  | commit room snapshot b' =>
    simp only [effect]
    split
    · exact hset room _
    · exact hgate
  | prepare room b =>
    simp only [effect, State.beginGeneration]
    split
    · exact hset room _
    · exact hgate
  | play room | recover room | hold room | resume room | pause room | claim room | arm room
  | rearm room | release room | disown room | automatic room | selectOwner room | follow room
  | withdraw room
  | select room =>
    exact hset room _
  | _ => exact hgate

end Sorotte.Ideal
