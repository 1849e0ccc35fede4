import Sorotte.Ideal.Starts

/-! # The lifecycle of a start

  Generations are allocated once, so a generation names one start.  Its prepare
  never changes, its phase only moves forward, and its commit is written once.
-/

namespace Sorotte.Ideal

open Server

variable {s s' : State} {l : Label} {room : String} {b b' b'' : RoomPlaybackBarrier}

/-! ### Counters -/

@[simp] theorem effect_prepare_generation (s : State) (room : String) (b : RoomPlaybackBarrier) :
    (effect s (.prepare room b)).generation = b.prepare.mediaGeneration := by
  simp only [effect, State.beginGeneration]
  split <;> rfl

@[simp] theorem effect_prepare_revision (s : State) (room : String) (b : RoomPlaybackBarrier) :
    (effect s (.prepare room b)).revision = s.revision := by
  simp only [effect, State.beginGeneration]
  split <;> rfl

@[simp] theorem effect_commit_generation (s : State) (room : String) (snapshot : CommitSnapshot)
    (b : RoomPlaybackBarrier) : (effect s (.commit room snapshot b)).generation = s.generation := by
  simp only [effect]
  split <;> rfl

@[simp] theorem effect_commit_revision (s : State) (room : String) (snapshot : CommitSnapshot)
    (b : RoomPlaybackBarrier) : (effect s (.commit room snapshot b)).revision = s.revision + 1 := by
  simp only [effect]
  split <;> rfl

/-- Neither counter ever goes back. -/
theorem effect_generation_le (hguard : guard s l) : s.generation ≤ (effect s l).generation := by
  cases l with
  | prepare room b =>
    rw [effect_prepare_generation, hguard.generation]
    omega
  | allocate => exact Nat.le_succ _
  | commit room snapshot b' => rw [effect_commit_generation]
  | _ => exact le_refl _

theorem effect_revision_le (l : Label) : s.revision ≤ (effect s l).revision := by
  cases l with
  | prepare room b => rw [effect_prepare_revision]
  | commit room snapshot b' =>
    rw [effect_commit_revision]
    omega
  | _ => exact le_refl _

/-! ### Well-formed starts -/

/-- A start as any state of a run holds it. -/
structure WellFormed (s : State) (b : RoomPlaybackBarrier) : Prop where
  allocated : 1 ≤ b.prepare.mediaGeneration ∧ b.prepare.mediaGeneration ≤ s.generation
  target : 0 ≤ b.prepare.targetPosition
  quorum : b.prepare.policy = .quorum → ∃ q, b.prepare.quorum = some q ∧ 1 ≤ q
  /-- Commit and state revision are written together. -/
  together : b.stateRevision = b.commit.map (·.stateRevision)
  commit : ∀ payload, b.commit = some payload →
    payload.mediaGeneration = b.prepare.mediaGeneration ∧
      1 ≤ payload.stateRevision ∧ payload.stateRevision ≤ s.revision
  pending : b.phase = .preparing ∨ b.phase = .awaitingDecision → b.commit = none
  started : b.phase = .committed ∨ b.phase = .complete → b.commit.isSome = true

/-- **Invariant**: every start is well formed. -/
def StartsWellFormed (s : State) : Prop :=
  ∀ room b, s.barrier room = some b → WellFormed s b

theorem WellFormed.later (h : WellFormed s b) (hgeneration : s.generation ≤ s'.generation)
    (hrevision : s.revision ≤ s'.revision) : WellFormed s' b where
  allocated := ⟨h.allocated.1, h.allocated.2.trans hgeneration⟩
  target := h.target
  quorum := h.quorum
  together := h.together
  commit payload hpayload :=
    let ⟨hmedia, hone, hle⟩ := h.commit payload hpayload
    ⟨hmedia, hone, hle.trans hrevision⟩
  pending := h.pending
  started := h.started

/-- A start whose commit is unchanged, in a phase that fits it. -/
theorem WellFormed.same_commit (h : WellFormed s b) (hprepare : b'.prepare = b.prepare)
    (hcommit : b'.commit = b.commit) (hrevision : b'.stateRevision = b.stateRevision)
    (hpending : b'.phase = .preparing ∨ b'.phase = .awaitingDecision → b.commit = none)
    (hstarted : b'.phase = .committed ∨ b'.phase = .complete → b.commit.isSome = true) :
    WellFormed s b' where
  allocated := by rw [hprepare]; exact h.allocated
  target := by rw [hprepare]; exact h.target
  quorum := by rw [hprepare]; exact h.quorum
  together := by rw [hrevision, hcommit, h.together]
  commit payload hpayload := by
    rw [hprepare]
    exact h.commit payload (hcommit ▸ hpayload)
  pending hphase := hcommit.trans (hpending hphase)
  started hphase := by rw [hcommit]; exact hstarted hphase

theorem StartsWellFormed.step (h : StartsWellFormed s) (hguard : guard s l) :
    StartsWellFormed (effect s l) := by
  intro room b' hb'
  rcases advances_of_effect hguard hb' with rfl | ⟨b, hb, hadvances⟩
  · have hpreparing : ∀ {p : PlaybackBarrierPhase}, b'.phase = p → p = .preparing :=
      fun hp => hp.symm.trans hguard.phase
    constructor
    · rw [effect_prepare_generation, hguard.generation]
      exact ⟨Nat.le_add_left 1 _, le_refl _⟩
    · exact hguard.target
    · exact hguard.quorum
    · rw [hguard.stateRevision, hguard.commit]
      rfl
    · intro payload hpayload
      rw [hguard.commit] at hpayload
      cases hpayload
    · exact fun _ => hguard.commit
    · rintro (hphase | hphase) <;> cases hpreparing hphase
  · have hheld := (h room b hb).later (effect_generation_le hguard) (effect_revision_le l)
    cases hadvances with
    | stays hprepare hcommit hrevision hphase =>
      apply hheld.same_commit hprepare hcommit hrevision
      · rw [hphase]
        exact hheld.pending
      · rw [hphase]
        exact hheld.started
    | commits snapshot hlabel hbarrier hcommits =>
      subst hlabel hbarrier
      have hlawful := hguard.1
      constructor
      · rw [hcommits.prepare]
        exact hheld.allocated
      · rw [hcommits.prepare]
        exact hheld.target
      · rw [hcommits.prepare]
        exact hheld.quorum
      · rw [hcommits.stateRevision, hcommits.commit]
        rfl
      · intro payload hpayload
        rw [hcommits.commit] at hpayload
        obtain rfl := Option.some.inj hpayload
        rw [effect_commit_revision, hlawful.stateRevision, hcommits.prepare]
        exact ⟨hlawful.mediaGeneration, Nat.le_add_left 1 _, le_refl _⟩
      · rw [hcommits.phase]
        rintro (hphase | hphase) <;> cases hphase
      · intro _
        rw [hcommits.commit]
        rfl
    | completes clientId started position hlabel hcompleted hphase =>
      subst hlabel hcompleted
      apply hheld.same_commit (withStarted_prepare ..) (withStarted_commit ..)
        (withStarted_stateRevision ..)
      · rw [hphase]
        rintro (hother | hother) <;> cases hother
      · exact fun _ => hheld.started (.inl hguard.2.1)
    | settles hlabel hsettles =>
      apply hheld.same_commit hsettles.prepare hsettles.commit hsettles.stateRevision
      · intro hphase
        rcases hsettles.phase with hdegraded | ⟨hpreparing, -⟩
        · rw [hdegraded] at hphase
          rcases hphase with hphase | hphase <;> cases hphase
        · exact hheld.pending (.inl hpreparing)
      · intro hphase
        rcases hsettles.phase with hother | ⟨-, hother⟩ <;> rw [hother] at hphase <;>
          rcases hphase with hphase | hphase <;> cases hphase

theorem Initial.startsWellFormed (h : Initial s) : StartsWellFormed s := by
  intro room b hb
  rw [h.barrier room] at hb
  cases hb

theorem Reachable.startsWellFormed (h : Reachable s) : StartsWellFormed s :=
  h.invariant (fun _ hinitial => hinitial.startsWellFormed) fun _ _ hguard hheld =>
    hheld.step hguard

/-! ### Phases -/

/-- The order in which a start goes through its phases. -/
def PhaseLe : PlaybackBarrierPhase → PlaybackBarrierPhase → Prop
  | .preparing, _ => True
  | .committed, q => q = .committed ∨ q = .complete ∨ q = .degraded
  | .awaitingDecision, q => q = .awaitingDecision ∨ q = .degraded
  | .complete, q => q = .complete ∨ q = .degraded
  | .degraded, q => q = .degraded

theorem PhaseLe.refl (p : PlaybackBarrierPhase) : PhaseLe p p := by
  cases p <;> simp [PhaseLe]

theorem phaseLe_degraded (p : PlaybackBarrierPhase) : PhaseLe p .degraded := by
  cases p <;> simp [PhaseLe]

theorem PhaseLe.trans {p q r : PlaybackBarrierPhase} (h : PhaseLe p q) (h' : PhaseLe q r) :
    PhaseLe p r := by
  cases p <;> cases q <;> simp_all [PhaseLe]

theorem PhaseLe.antisymm {p q : PlaybackBarrierPhase} (h : PhaseLe p q) (h' : PhaseLe q p) :
    p = q := by
  cases p <;> cases q <;> simp_all [PhaseLe]

/-- The same start, later. -/
structure Later (b b' : RoomPlaybackBarrier) : Prop where
  prepare : b'.prepare = b.prepare
  phase : PhaseLe b.phase b'.phase
  /-- A commit is final. -/
  commit : b.commit.isSome = true → b'.commit = b.commit ∧ b'.stateRevision = b.stateRevision

theorem Later.refl (b : RoomPlaybackBarrier) : Later b b := ⟨rfl, PhaseLe.refl _, fun _ => ⟨rfl, rfl⟩⟩

theorem Later.trans (h : Later b b') (h' : Later b' b'') : Later b b'' where
  prepare := h'.prepare.trans h.prepare
  phase := h.phase.trans h'.phase
  commit hsome := by
    obtain ⟨hcommit, hrevision⟩ := h.commit hsome
    obtain ⟨hcommit', hrevision'⟩ := h'.commit (hcommit ▸ hsome)
    exact ⟨hcommit'.trans hcommit, hrevision'.trans hrevision⟩

theorem Advances.later (h : Advances room l b b') (hguard : guard s l) (hheld : WellFormed s b) :
    Later b b' := by
  cases h with
  | stays hprepare hcommit hrevision hphase =>
    exact ⟨hprepare, hphase ▸ PhaseLe.refl _, fun _ => ⟨hcommit, hrevision⟩⟩
  | commits snapshot hlabel hbarrier hcommits =>
    subst hlabel hbarrier
    have hpreparing := hguard.1.phase
    refine ⟨hcommits.prepare, ?_, fun hsome => ?_⟩
    · rw [hpreparing]
      trivial
    · rw [hheld.pending (.inl hpreparing)] at hsome
      cases hsome
  | completes clientId started position hlabel hcompleted hphase =>
    subst hlabel hcompleted
    refine ⟨withStarted_prepare .., ?_, fun _ =>
      ⟨withStarted_commit .., withStarted_stateRevision ..⟩⟩
    rw [hphase, hguard.2.1]
    simp [PhaseLe]
  | settles hlabel hsettles =>
    refine ⟨hsettles.prepare, ?_, fun _ => ⟨hsettles.commit, hsettles.stateRevision⟩⟩
    rcases hsettles.phase with hdegraded | ⟨hpreparing, -⟩
    · rw [hdegraded]
      exact phaseLe_degraded _
    · rw [hpreparing]
      trivial

/-- **Where the start of a room comes from**: it was there at the beginning of the run, or its
    generation was allocated since. -/
theorem origin_of_steps (h : Relation.ReflTransGen (Steps fun _ => True) s s')
    (hheld : StartsWellFormed s) :
    StartsWellFormed s' ∧ s.generation ≤ s'.generation ∧
      ∀ room b', s'.barrier room = some b' → s.generation < b'.prepare.mediaGeneration ∨
        ∃ b, s.barrier room = some b ∧ Later b b' := by
  induction h with
  | refl => exact ⟨hheld, le_refl _, fun room b hb => .inr ⟨b, hb, Later.refl b⟩⟩
  | @tail t u _ hlast ih =>
    obtain ⟨ht, hle, horigin⟩ := ih
    obtain ⟨l, -, hguard, rfl⟩ := hlast
    refine ⟨ht.step hguard, hle.trans (effect_generation_le hguard), fun room b'' hb'' => ?_⟩
    rcases advances_of_effect hguard hb'' with rfl | ⟨b', hb', hadvances⟩
    · left
      rw [hguard.generation]
      omega
    · have hlater := hadvances.later hguard (ht room b' hb')
      rcases horigin room b' hb' with hnew | ⟨b, hb, hheld'⟩
      · exact .inl (hlater.prepare ▸ hnew)
      · exact .inr ⟨b, hb, hheld'.trans hlater⟩

/-- **One generation, one start.** -/
theorem later_of_steps (h : Relation.ReflTransGen (Steps fun _ => True) s s')
    (hheld : StartsWellFormed s) (hb : s.barrier room = some b) (hb' : s'.barrier room = some b')
    (hsame : b'.prepare.mediaGeneration = b.prepare.mediaGeneration) : Later b b' := by
  obtain ⟨-, -, horigin⟩ := origin_of_steps h hheld
  rcases horigin room b' hb' with hnew | ⟨b₀, hb₀, hlater⟩
  · have hbound := (hheld room b hb).allocated.2
    omega
  · rw [hb] at hb₀
    obtain rfl := Option.some.inj hb₀
    exact hlater

end Sorotte.Ideal
