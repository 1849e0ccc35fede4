import Mathlib

/-! # Programs over mutable state that may fail

  `Prog σ ε α` is a computation over a state `σ` that returns an `α` or fails
  with an `ε`.  A failed computation keeps every update it made before the
  failure, as code behind `&mut self` with early `?` returns does.

  The second half is a small logic of refinement: `Follows π r s m` says that
  `m`, started in `s` and seen through the mapping `π`, makes finitely many
  steps of the abstract relation `r`.  The rules follow the syntax of programs.
-/

namespace Sorotte.Framework

/-- A stateful computation whose updates survive a failure. -/
def Prog (σ ε α : Type) : Type := σ → Except ε α × σ

namespace Prog

variable {σ ε α β γ : Type}

protected def pure (a : α) : Prog σ ε α := fun s => (.ok a, s)

protected def bind (m : Prog σ ε α) (k : α → Prog σ ε β) : Prog σ ε β := fun s =>
  match m s with
  | (.ok a, s') => k a s'
  | (.error e, s') => (.error e, s')

instance : Monad (Prog σ ε) where
  pure := Prog.pure
  bind := Prog.bind

/-- The current state. -/
def get : Prog σ ε σ := fun s => (.ok s, s)

/-- A reading of the current state. -/
def gets (f : σ → α) : Prog σ ε α := fun s => (.ok (f s), s)

/-- One update of the state. -/
def modify (f : σ → σ) : Prog σ ε Unit := fun s => (.ok (), f s)

/-- Failure in the current state. -/
def throw (e : ε) : Prog σ ε α := fun s => (.error e, s)

/-- Runs `f` on every element in order and concatenates what they return. -/
def collect (f : β → Prog σ ε (List γ)) : List β → Prog σ ε (List γ)
  | [] => pure []
  | x :: xs => do
      let out ← f x
      let rest ← collect f xs
      pure (out ++ rest)

/-- Runs `m` under a condition and returns nothing otherwise. -/
def when (c : Bool) (m : Prog σ ε (List γ)) : Prog σ ε (List γ) := if c then m else pure []

/-- Runs `f` on a value if there is one and returns nothing otherwise. -/
def onSome (f : β → Prog σ ε (List γ)) : Option β → Prog σ ε (List γ)
  | none => pure []
  | some x => f x

/-- The state `m` leaves behind when started in `s`. -/
def after (m : Prog σ ε α) (s : σ) : σ := (m s).2

@[simp] theorem pure_run (a : α) (s : σ) : (pure a : Prog σ ε α) s = (.ok a, s) := rfl

theorem bind_run (m : Prog σ ε α) (k : α → Prog σ ε β) (s : σ) :
    (m >>= k) s = match m s with
      | (.ok a, s') => k a s'
      | (.error e, s') => (.error e, s') := rfl

@[simp] theorem get_run (s : σ) : (get : Prog σ ε σ) s = (.ok s, s) := rfl

@[simp] theorem gets_run (f : σ → α) (s : σ) : (gets f : Prog σ ε α) s = (.ok (f s), s) := rfl

@[simp] theorem modify_run (f : σ → σ) (s : σ) :
    (modify f : Prog σ ε Unit) s = (.ok (), f s) := rfl

@[simp] theorem throw_run (e : ε) (s : σ) : (throw e : Prog σ ε α) s = (.error e, s) := rfl

/-- A bind whose first half succeeds continues from the state it left. -/
theorem bind_of_ok {m : Prog σ ε α} {k : α → Prog σ ε β} {s s' : σ} {a : α}
    (h : m s = (.ok a, s')) : (m >>= k) s = k a s' := by
  rw [bind_run, h]

@[simp] theorem pure_bind_run (a : α) (k : α → Prog σ ε β) (s : σ) :
    ((pure a : Prog σ ε α) >>= k) s = k a s := rfl

@[simp] theorem get_bind_run (k : σ → Prog σ ε β) (s : σ) :
    ((get : Prog σ ε σ) >>= k) s = k s s := rfl

@[simp] theorem gets_bind_run (f : σ → α) (k : α → Prog σ ε β) (s : σ) :
    ((gets f : Prog σ ε α) >>= k) s = k (f s) s := rfl

@[simp] theorem modify_bind_run (f : σ → σ) (k : Unit → Prog σ ε β) (s : σ) :
    ((modify f : Prog σ ε Unit) >>= k) s = k () (f s) := rfl

@[simp] theorem throw_bind_run (e : ε) (k : α → Prog σ ε β) (s : σ) :
    ((throw e : Prog σ ε α) >>= k) s = (.error e, s) := rfl

@[simp] theorem when_true (m : Prog σ ε (List γ)) : when true m = m := rfl

@[simp] theorem when_false (m : Prog σ ε (List γ)) : when false m = pure [] := rfl

/-! ### Runs of a program seen through a refinement mapping -/

section follows

variable {τ : Type} (π : σ → τ) (r : τ → τ → Prop)

/-- Seen through `π`, the program started in `s` makes finitely many `r`-steps,
    whether it succeeds or fails. -/
def Follows (s : σ) (m : Prog σ ε α) : Prop := Relation.ReflTransGen r (π s) (π (after m s))

variable {π r}

theorem follows_pure (s : σ) (a : α) : Follows π r s (pure a : Prog σ ε α) := .refl

theorem follows_gets (s : σ) (f : σ → α) : Follows π r s (gets f : Prog σ ε α) := .refl

theorem follows_throw (s : σ) (e : ε) : Follows π r s (throw e : Prog σ ε α) := .refl

theorem follows_modify {s : σ} {f : σ → σ} (h : Relation.ReflTransGen r (π s) (π (f s))) :
    Follows π r s (modify f : Prog σ ε Unit) := h

/-- An update that the mapping does not see. -/
theorem follows_quiet {s : σ} {f : σ → σ} (h : π (f s) = π s) :
    Follows π r s (modify f : Prog σ ε Unit) := by
  refine follows_modify ?_
  rw [h]

theorem follows_get_bind {s : σ} {k : σ → Prog σ ε β} (h : Follows π r s (k s)) :
    Follows π r s (get >>= k) := h

theorem follows_gets_bind {s : σ} {f : σ → α} {k : α → Prog σ ε β}
    (h : Follows π r s (k (f s))) : Follows π r s (gets f >>= k) := h

theorem follows_pure_bind {s : σ} {a : α} {k : α → Prog σ ε β} (h : Follows π r s (k a)) :
    Follows π r s ((pure a : Prog σ ε α) >>= k) := h

theorem follows_modify_bind {s : σ} {f : σ → σ} {k : Unit → Prog σ ε β}
    (h : Relation.ReflTransGen r (π s) (π (f s))) (hk : Follows π r (f s) (k ())) :
    Follows π r s (modify f >>= k) := h.trans hk

theorem follows_quiet_bind {s : σ} {f : σ → σ} {k : Unit → Prog σ ε β}
    (h : π (f s) = π s) (hk : Follows π r (f s) (k ())) :
    Follows π r s (modify f >>= k) := by
  unfold Follows at hk
  rw [h] at hk
  exact hk

/-- A bind follows `r` when its first half does and, whenever that half
    succeeds, the rest does from the state reached. -/
theorem follows_bind {s : σ} {m : Prog σ ε α} {k : α → Prog σ ε β}
    (hm : Follows π r s m) (hk : ∀ a s', m s = (.ok a, s') → Follows π r s' (k a)) :
    Follows π r s (m >>= k) := by
  unfold Follows after at *
  rw [bind_run]
  rcases hrun : m s with ⟨result, s'⟩
  rw [hrun] at hm
  cases result with
  | error e => exact hm
  | ok a => exact hm.trans (hk a s' hrun)

theorem follows_when {s : σ} {c : Bool} {m : Prog σ ε (List γ)}
    (h : c = true → Follows π r s m) : Follows π r s (when c m) := by
  unfold when
  split
  · next hc => exact h hc
  · exact follows_pure _ _

theorem follows_onSome {s : σ} {f : β → Prog σ ε (List γ)} {x : Option β}
    (h : ∀ y, x = some y → Follows π r s (f y)) : Follows π r s (onSome f x) := by
  cases x with
  | none => exact follows_pure _ _
  | some y => exact h y rfl

theorem follows_collect {f : β → Prog σ ε (List γ)} :
    ∀ (xs : List β) (s : σ), (∀ x ∈ xs, ∀ s', Follows π r s' (f x)) →
      Follows π r s (collect f xs) := by
  intro xs
  induction xs with
  | nil => intro s _; exact .refl
  | cons x xs ih =>
    intro s h
    refine follows_bind (h x (by simp) s) fun out s' _ => ?_
    refine follows_bind (ih s' fun y hy => h y (List.mem_cons_of_mem _ hy)) fun rest s'' _ => ?_
    exact follows_pure _ _

/-- More steps allow more runs. -/
theorem Follows.mono {r' : τ → τ → Prop} {s : σ} {m : Prog σ ε α}
    (h : Follows π r s m) (hr : ∀ a b, r a b → r' a b) : Follows π r' s m :=
  Relation.ReflTransGen.mono hr _ _ h

/-- What every step preserves, a run preserves. -/
theorem Follows.preserves {I : τ → Prop} {s : σ} {m : Prog σ ε α}
    (h : Follows π r s m) (hstep : ∀ a b, r a b → I a → I b) (hs : I (π s)) :
    I (π (after m s)) := by
  unfold Follows at h
  generalize π (after m s) = t at h
  induction h with
  | refl => exact hs
  | tail _ hab ih => exact hstep _ _ hab ih

/-! ### Runs that end in a condition -/

variable (π r) in
/-- The program follows `r` and ends where `q` holds, whether it succeeds or
    fails. -/
def FollowsTo (q : τ → Prop) (s : σ) (m : Prog σ ε α) : Prop :=
  Follows π r s m ∧ q (π (after m s))

variable {q : τ → Prop}

theorem followsTo_pure {s : σ} (a : α) (h : q (π s)) :
    FollowsTo π r q s (pure a : Prog σ ε α) := ⟨.refl, h⟩

theorem followsTo_get_bind {s : σ} {k : σ → Prog σ ε β} (h : FollowsTo π r q s (k s)) :
    FollowsTo π r q s (get >>= k) := h

theorem followsTo_modify_bind {s : σ} {f : σ → σ} {k : Unit → Prog σ ε β}
    (h : Relation.ReflTransGen r (π s) (π (f s))) (hk : FollowsTo π r q (f s) (k ())) :
    FollowsTo π r q s (modify f >>= k) := ⟨h.trans hk.1, hk.2⟩

theorem followsTo_quiet_bind {s : σ} {f : σ → σ} {k : Unit → Prog σ ε β}
    (h : π (f s) = π s) (hk : FollowsTo π r q (f s) (k ())) :
    FollowsTo π r q s (modify f >>= k) := ⟨follows_quiet_bind h hk.1, hk.2⟩

end follows

end Prog

end Sorotte.Framework
