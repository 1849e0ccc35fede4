import Sorotte.Framework.Program

/-! # Programs that succeed along a change

  `Succeeds r s m` says that `m`, started in `s`, does not fail and that the
  state it leaves is related to `s` by `r`.  The relation is a `Change`: doing
  nothing is one, and so are two of them in a row.  The rules follow the syntax
  of programs; a rule for a bind hands the change made so far to its second
  half, whose success may depend on it.
-/

namespace Sorotte.Framework

/-- A relation that a sequence of steps accumulates. -/
class Change {σ : Type} (r : σ → σ → Prop) : Prop where
  refl : ∀ s, r s s
  trans : ∀ {s t u}, r s t → r t u → r s u

instance {σ : Type} (step : σ → σ → Prop) : Change (Relation.ReflTransGen step) where
  refl _ := .refl
  trans h h' := h.trans h'

namespace Prog

variable {σ ε α β γ : Type} {r : σ → σ → Prop}

/-- The program succeeds and makes an `r`-change. -/
def Succeeds (r : σ → σ → Prop) (s : σ) (m : Prog σ ε α) : Prop :=
  ∃ a s', m s = (.ok a, s') ∧ r s s'

theorem Succeeds.mono {r' : σ → σ → Prop} {s : σ} {m : Prog σ ε α} (h : Succeeds r s m)
    (hr : ∀ s', r s s' → r' s s') : Succeeds r' s m := by
  obtain ⟨a, s', hrun, hs'⟩ := h
  exact ⟨a, s', hrun, hr s' hs'⟩

theorem succeeds_modify {s : σ} {f : σ → σ} (h : r s (f s)) :
    Succeeds r s (modify f : Prog σ ε Unit) := ⟨(), f s, rfl, h⟩

theorem succeeds_get_bind {s : σ} {k : σ → Prog σ ε β} (h : Succeeds r s (k s)) :
    Succeeds r s (get >>= k) := h

theorem succeeds_gets_bind {s : σ} {f : σ → α} {k : α → Prog σ ε β}
    (h : Succeeds r s (k (f s))) : Succeeds r s (gets f >>= k) := h

theorem succeeds_pure_bind {s : σ} {a : α} {k : α → Prog σ ε β} (h : Succeeds r s (k a)) :
    Succeeds r s ((pure a : Prog σ ε α) >>= k) := h

/-- The change that follows an update. -/
theorem succeeds_modify_from {s : σ} {f : σ → σ} {k : Unit → Prog σ ε β}
    (h : Succeeds r (f s) (k ())) :
    Succeeds (fun _ t => r (f s) t) s (modify f >>= k) := h

section change

variable [Change r]

theorem succeeds_pure (s : σ) (a : α) : Succeeds r s (pure a : Prog σ ε α) :=
  ⟨a, s, rfl, Change.refl s⟩

theorem succeeds_gets (s : σ) (f : σ → α) : Succeeds r s (gets f : Prog σ ε α) :=
  ⟨f s, s, rfl, Change.refl s⟩

theorem succeeds_bind {s : σ} {m : Prog σ ε α} {k : α → Prog σ ε β} (hm : Succeeds r s m)
    (hk : ∀ a s', r s s' → Succeeds r s' (k a)) : Succeeds r s (m >>= k) := by
  obtain ⟨a, s', hrun, hfirst⟩ := hm
  obtain ⟨b, s'', hrest, hsecond⟩ := hk a s' hfirst
  refine ⟨b, s'', ?_, Change.trans hfirst hsecond⟩
  rw [bind_run, hrun]
  exact hrest

theorem succeeds_modify_bind {s : σ} {f : σ → σ} {k : Unit → Prog σ ε β} (h : r s (f s))
    (hk : Succeeds r (f s) (k ())) : Succeeds r s (modify f >>= k) := by
  obtain ⟨b, s', hrun, hrest⟩ := hk
  exact ⟨b, s', hrun, Change.trans h hrest⟩

theorem succeeds_when {s : σ} {c : Bool} {m : Prog σ ε (List γ)}
    (h : c = true → Succeeds r s m) : Succeeds r s (when c m) := by
  unfold when
  split
  · next hc => exact h hc
  · exact succeeds_pure _ _

theorem succeeds_onSome {s : σ} {f : β → Prog σ ε (List γ)} {x : Option β}
    (h : ∀ y, x = some y → Succeeds r s (f y)) : Succeeds r s (onSome f x) := by
  cases x with
  | none => exact succeeds_pure _ _
  | some y => exact h y rfl

theorem succeeds_collect {f : β → Prog σ ε (List γ)} {xs : List β} {s : σ}
    (h : ∀ x ∈ xs, ∀ s', r s s' → Succeeds r s' (f x)) : Succeeds r s (collect f xs) := by
  induction xs generalizing s with
  | nil => exact succeeds_pure _ _
  | cons x xs ih =>
    refine succeeds_bind (h x (by simp) s (Change.refl s)) fun out s' hs' => ?_
    refine succeeds_bind (ih fun y hy s'' hs'' => ?_) fun rest s'' _ => succeeds_pure _ _
    exact h y (List.mem_cons_of_mem _ hy) s'' (Change.trans hs' hs'')

end change

/-! ### All or nothing -/

/-- The program succeeds along `r`, or fails before it has changed anything. -/
def Atomic (r : σ → σ → Prop) (s : σ) (m : Prog σ ε α) : Prop :=
  Succeeds r s m ∨ ∃ e, m s = (.error e, s)

theorem atomic_get_bind {s : σ} {k : σ → Prog σ ε β} (h : Atomic r s (k s)) :
    Atomic r s (get >>= k) := h

theorem atomic_throw (s : σ) (e : ε) : Atomic r s (throw e : Prog σ ε α) := .inr ⟨e, rfl⟩

end Prog

end Sorotte.Framework
