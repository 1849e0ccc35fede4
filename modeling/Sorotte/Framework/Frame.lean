import Sorotte.Framework.Program

/-! # Programs that leave a part of the state alone

  `Keeps π m` says that `π` reads the same before and after `m`, from every
  state and whether `m` succeeds or fails.  The rules follow the syntax of
  programs and are instances, so a program without case distinctions of its own
  is framed by its parts.
-/

namespace Sorotte.Framework.Prog

variable {σ ε α β γ τ : Type}

/-- `π` does not see the update `f`. -/
class Unseen (π : σ → τ) (f : σ → σ) : Prop where
  eq : ∀ s, π (f s) = π s

/-- `π` reads the same after the program as before. -/
class Keeps (π : σ → τ) (m : Prog σ ε α) : Prop where
  eq : ∀ s, π (after m s) = π s

variable {π : σ → τ}

instance keeps_pure (a : α) : Keeps π (pure a : Prog σ ε α) := ⟨fun _ => rfl⟩

instance keeps_get : Keeps π (get : Prog σ ε σ) := ⟨fun _ => rfl⟩

instance keeps_gets (f : σ → α) : Keeps π (gets f : Prog σ ε α) := ⟨fun _ => rfl⟩

instance keeps_throw (e : ε) : Keeps π (throw e : Prog σ ε α) := ⟨fun _ => rfl⟩

instance keeps_modify (f : σ → σ) [Unseen π f] : Keeps π (modify f : Prog σ ε Unit) :=
  ⟨fun s => Unseen.eq (f := f) s⟩

instance keeps_bind (m : Prog σ ε α) (k : α → Prog σ ε β) [Keeps π m] [∀ a, Keeps π (k a)] :
    Keeps π (m >>= k) := by
  constructor
  intro s
  have hfirst : π (after m s) = π s := Keeps.eq s
  unfold after at hfirst ⊢
  rw [bind_run]
  rcases hrun : m s with ⟨result, s'⟩
  rw [hrun] at hfirst
  cases result with
  | error e => exact hfirst
  | ok a =>
    have hrest : π (after (k a) s') = π s' := Keeps.eq s'
    exact hrest.trans hfirst

theorem keeps_get_bind {k : σ → Prog σ ε β} (h : ∀ s, Keeps π (k s)) : Keeps π (get >>= k) :=
  keeps_bind _ _

theorem keeps_then {m : Prog σ ε α} {k : α → Prog σ ε β} [Keeps π m] (h : ∀ a, Keeps π (k a)) :
    Keeps π (m >>= k) :=
  keeps_bind _ _

theorem keeps_modify_then {f : σ → σ} {k : Unit → Prog σ ε β} (hf : ∀ s, π (f s) = π s)
    (hk : Keeps π (k ())) : Keeps π (modify f >>= k) := by
  have hunseen : Unseen π f := ⟨hf⟩
  exact keeps_then fun _ => hk

/-- Both branches of a conditional, for when one of them needs more than an instance. -/
theorem keeps_branch {c : Prop} [Decidable c] {m m' : Prog σ ε α} (h : Keeps π m)
    (h' : Keeps π m') : Keeps π (if c then m else m') := by
  split
  · exact h
  · exact h'

instance keeps_ite (c : Prop) [Decidable c] (m m' : Prog σ ε α) [Keeps π m] [Keeps π m'] :
    Keeps π (if c then m else m') :=
  keeps_branch inferInstance inferInstance

instance keeps_when (c : Bool) (m : Prog σ ε (List γ)) [Keeps π m] : Keeps π (when c m) :=
  keeps_ite _ _ _

instance keeps_onSome (f : β → Prog σ ε (List γ)) (x : Option β) [∀ y, Keeps π (f y)] :
    Keeps π (onSome f x) := by
  cases x <;> unfold onSome <;> infer_instance

instance keeps_collect (f : β → Prog σ ε (List γ)) (xs : List β) [∀ x, Keeps π (f x)] :
    Keeps π (collect f xs) := by
  induction xs with
  | nil => exact keeps_pure _
  | cons x xs ih => exact keeps_bind _ _

instance unseen_ite (c : σ → Prop) [∀ s, Decidable (c s)] (f g : σ → σ) [Unseen π f]
    [Unseen π g] : Unseen π fun s => if c s then f s else g s := by
  constructor
  intro s
  split
  · exact Unseen.eq (f := f) s
  · exact Unseen.eq (f := g) s

instance unseen_id : Unseen π fun s => s := ⟨fun _ => rfl⟩

instance unseen_when (c : Prop) [Decidable c] (f : σ → σ) [Unseen π f] :
    Unseen π fun s => if c then f s else s := by
  split
  · infer_instance
  · exact unseen_id

/-- A program that leaves what the mapping shows alone follows every relation. -/
theorem Keeps.follows {r : τ → τ → Prop} (m : Prog σ ε α) [Keeps π m] (s : σ) :
    Follows π r s m := by
  have hsame : π (after m s) = π s := Keeps.eq s
  unfold Follows
  rw [hsame]

/-! ### What is left after a program -/

theorem after_get_bind {k : σ → Prog σ ε β} {s : σ} : after (get >>= k) s = after (k s) s := rfl

theorem after_gets_bind {f : σ → α} {k : α → Prog σ ε β} {s : σ} :
    after (gets f >>= k) s = after (k (f s)) s := rfl

theorem after_modify_bind {f : σ → σ} {k : Unit → Prog σ ε β} {s : σ} :
    after (modify f >>= k) s = after (k ()) (f s) := rfl

theorem after_bind_of_ok {m : Prog σ ε α} {k : α → Prog σ ε β} {s t : σ} {a : α}
    (h : m s = (.ok a, t)) : after (m >>= k) s = after (k a) t := by
  unfold after
  rw [bind_of_ok h]

/-- What a program returns is not part of what it leaves. -/
theorem after_bind_pure {m : Prog σ ε α} {f : α → β} {s : σ} :
    after (m >>= fun a => pure (f a)) s = after m s := by
  unfold after
  rw [bind_run]
  rcases m s with ⟨result, t⟩
  cases result <;> rfl

end Sorotte.Framework.Prog
