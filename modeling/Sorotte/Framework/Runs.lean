import Mathlib

/-! # Runs of a deterministic step function

  A component whose operations are total functions of its state is run by
  folding the operations over it.  A few rules cover what is proved about such
  runs: an invariant of one step is an invariant of every run, also when the
  step needs something of the operation at hand; a ledger that balances over one
  step balances over every run; a run spends within its budget when every step
  does; and what a run brought about, one of its operations did.
-/

namespace Sorotte.Framework

variable {σ α β : Type}

/-- The state after a sequence of operations. -/
def runFrom (step : σ → α → σ) (s : σ) (ops : List α) : σ :=
  ops.foldl step s

@[simp] theorem runFrom_nil (step : σ → α → σ) (s : σ) : runFrom step s [] = s := rfl

@[simp] theorem runFrom_cons (step : σ → α → σ) (s : σ) (op : α) (ops : List α) :
    runFrom step s (op :: ops) = runFrom step (step s op) ops := rfl

theorem runFrom_append (step : σ → α → σ) (s : σ) (first second : List α) :
    runFrom step s (first ++ second) = runFrom step (runFrom step s first) second :=
  List.foldl_append

/-- **Invariant rule**: what every step preserves, every run preserves. -/
theorem invariant_of_step {step : σ → α → σ} {inv : σ → Prop}
    (hstep : ∀ s op, inv s → inv (step s op)) {s : σ} (hs : inv s) (ops : List α) :
    inv (runFrom step s ops) := by
  induction ops generalizing s with
  | nil => exact hs
  | cons op ops ih => exact ih (hstep s op hs)

/-- The condition holds of every operation of a run and the state that meets it. -/
def Along (step : σ → α → σ) (condition : σ → α → Prop) : σ → List α → Prop
  | _, [] => True
  | s, op :: ops => condition s op ∧ Along step condition (step s op) ops

theorem along_append {step : σ → α → σ} {condition : σ → α → Prop} {s : σ}
    {first second : List α} :
    Along step condition s (first ++ second) ↔
      Along step condition s first ∧ Along step condition (runFrom step s first) second := by
  induction first generalizing s with
  | nil => simp [Along]
  | cons op first ih =>
    rw [List.cons_append, Along, Along, ih, and_assoc, runFrom_cons]

theorem Along.of_forall {step : σ → α → σ} {condition : σ → α → Prop} {s : σ} {ops : List α}
    (h : ∀ s, ∀ op ∈ ops, condition s op) : Along step condition s ops := by
  induction ops generalizing s with
  | nil => trivial
  | cons op ops ih =>
    exact ⟨h s op List.mem_cons_self, ih fun s op hop => h s op (List.mem_cons_of_mem _ hop)⟩

/-- What two conditions give together, they give along a run. -/
theorem Along.combine {step : σ → α → σ} {first second both : σ → α → Prop}
    (h : ∀ s op, first s op → second s op → both s op) {s : σ} {ops : List α}
    (hfirst : Along step first s ops) (hsecond : Along step second s ops) :
    Along step both s ops := by
  induction ops generalizing s with
  | nil => trivial
  | cons op ops ih => exact ⟨h s op hfirst.1 hsecond.1, ih hfirst.2 hsecond.2⟩

/-- **Conditional invariant rule**: what every step that meets the condition
    preserves, every run that meets it all along preserves. -/
theorem invariant_along {step : σ → α → σ} {inv : σ → Prop} {condition : σ → α → Prop}
    (hstep : ∀ s op, inv s → condition s op → inv (step s op)) {s : σ} (hs : inv s)
    {ops : List α} (hops : Along step condition s ops) : inv (runFrom step s ops) := by
  induction ops generalizing s with
  | nil => exact hs
  | cons op ops ih => exact ih (hstep s op hs hops.1) hops.2

/-- Values that the operations of a run emit, in order. -/
def emitted (step : σ → α → σ) (emit : σ → α → List β) : σ → List α → List β
  | _, [] => []
  | s, op :: ops => emit s op ++ emitted step emit (step s op) ops

theorem emitted_append (step : σ → α → σ) (emit : σ → α → List β) (s : σ)
    (first second : List α) :
    emitted step emit s (first ++ second) =
      emitted step emit s first ++ emitted step emit (runFrom step s first) second := by
  induction first generalizing s with
  | nil => rfl
  | cons op first ih =>
    rw [List.cons_append, emitted, emitted, ih, List.append_assoc]
    rfl

/-- **Ledger rule** for a first-in first-out content: if over one step what
    leaves, followed by what remains, is what was there followed by what
    enters, the same holds over every run. -/
theorem ledger_of_step {step : σ → α → σ} {inv : σ → Prop} {content : σ → List β}
    {leaves enters : σ → α → List β}
    (hinv : ∀ s op, inv s → inv (step s op))
    (hstep : ∀ s op, inv s → leaves s op ++ content (step s op) = content s ++ enters s op)
    {s : σ} (hs : inv s) (ops : List α) :
    emitted step leaves s ops ++ content (runFrom step s ops) =
      content s ++ emitted step enters s ops := by
  induction ops generalizing s with
  | nil => simp [emitted]
  | cons op ops ih =>
    have hrest := ih (hinv s op hs)
    calc leaves s op ++ emitted step leaves (step s op) ops ++ content (runFrom step s (op :: ops))
        = leaves s op ++ (content (step s op) ++ emitted step enters (step s op) ops) := by
          rw [List.append_assoc, runFrom_cons, hrest]
      _ = content s ++ (enters s op ++ emitted step enters (step s op) ops) := by
          rw [← List.append_assoc, hstep s op hs, List.append_assoc]

/-- **Budget rule**: if no step spends more than what the state holds for it and
    the one unit that the operation may bring, no run does. -/
theorem budget_of_step {step : σ → α → σ} {inv : σ → Prop} {holds : σ → Nat}
    {emit : σ → α → List β} {spends : β → Bool} {brings : α → Bool}
    (hinv : ∀ s op, inv s → inv (step s op))
    (hstep : ∀ s op, inv s →
      (emit s op).countP spends + holds (step s op) ≤ holds s + if brings op then 1 else 0)
    {s : σ} (hs : inv s) (ops : List α) :
    (emitted step emit s ops).countP spends + holds (runFrom step s ops) ≤
      holds s + ops.countP brings := by
  induction ops generalizing s with
  | nil => simp [emitted]
  | cons op ops ih =>
    have hfirst := hstep s op hs
    have hrest := ih (hinv s op hs)
    rw [emitted, List.countP_append, List.countP_cons, runFrom_cons]
    omega

/-- **Budget rule** where the state decides what an operation brings. -/
theorem budget_of_grants {γ : Type} {step : σ → α → σ} {inv : σ → Prop} {holds : σ → Nat}
    {emit : σ → α → List β} {grant : σ → α → List γ} {spends : β → Bool} {brings : γ → Bool}
    (hinv : ∀ s op, inv s → inv (step s op))
    (hstep : ∀ s op, inv s →
      (emit s op).countP spends + holds (step s op) ≤ holds s + (grant s op).countP brings)
    {s : σ} (hs : inv s) (ops : List α) :
    (emitted step emit s ops).countP spends + holds (runFrom step s ops) ≤
      holds s + (emitted step grant s ops).countP brings := by
  induction ops generalizing s with
  | nil => simp [emitted]
  | cons op ops ih =>
    have hfirst := hstep s op hs
    have hrest := ih (hinv s op hs)
    rw [emitted, emitted, List.countP_append, List.countP_append, runFrom_cons]
    omega

/-- What holds after a run and not before it, one operation of the run made hold. -/
theorem exists_turn {step : σ → α → σ} {holds : σ → Prop} {s : σ} {ops : List α}
    (hbefore : ¬holds s) (hafter : holds (runFrom step s ops)) :
    ∃ front turn back, ops = front ++ turn :: back
      ∧ ¬holds (runFrom step s front) ∧ holds (step (runFrom step s front) turn) := by
  induction ops generalizing s with
  | nil => exact absurd hafter hbefore
  | cons op ops ih =>
    by_cases hnow : holds (step s op)
    · exact ⟨[], op, ops, rfl, hbefore, hnow⟩
    · obtain ⟨front, turn, back, hops, hlast, hturn⟩ := ih hnow hafter
      exact ⟨op :: front, turn, back, congrArg (op :: ·) hops, hlast, hturn⟩

end Sorotte.Framework
