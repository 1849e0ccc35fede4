import Mathlib

/-! # Ledgers of owned resources

  Resources are created for an owner, under a limit for all of them, a limit for
  each owner and a pause between two creations of one owner; they are given up
  at any time.  The ledger remembers when each owner created last, and a
  creation may drop what it remembers of other owners.

  The limits hold on every run.  The pauses hold when dropping and the clock
  agree: of two creations, one of which drops what is remembered of the other's
  owner, the later one does not read an earlier time.
-/

namespace Sorotte.Framework

/-! ### Ledgers -/

/-- What limits creations. -/
structure Quota (T : Type) where
  maxHeld : Nat
  maxOwned : Nat
  cooldown : T

@[ext] structure QuotaLedger (R I T : Type) where
  /-- The resources that count. -/
  held : Set R
  owner : R → Option I
  /-- When an owner created last, if that is remembered. -/
  last : I → Option T
  held_finite : held.Finite
  owned_finite : {r | owner r ≠ none}.Finite

/-- One creation.  `dropped` are the owners whose last creation it forgets. -/
structure QuotaCreation (R I T : Type) where
  resource : R
  owner : I
  reading : T
  dropped : Set I

namespace QuotaLedger

variable {R I T : Type} {quota : Quota T} {start ledger ledger' : QuotaLedger R I T}
variable {creation : QuotaCreation R I T} {log : List (QuotaCreation R I T)}

/-- The resources of an owner. -/
def owned (ledger : QuotaLedger R I T) (i : I) : Set R := {r | ledger.owner r = some i}

theorem owned_subset (ledger : QuotaLedger R I T) (i : I) :
    ledger.owned i ⊆ {r | ledger.owner r ≠ none} := by
  intro r hr
  have howner : ledger.owner r = some i := hr
  simp [howner]

theorem owned_ncard_finite (ledger : QuotaLedger R I T) (i : I) : (ledger.owned i).Finite :=
  ledger.owned_finite.subset (ledger.owned_subset i)

/-- A resource is given up. -/
structure Released (ledger : QuotaLedger R I T) (r : R) (ledger' : QuotaLedger R I T) :
    Prop where
  held : ledger'.held = ledger.held \ {r}
  owner_self : ledger'.owner r = none
  owner_other : ∀ other, other ≠ r → ledger'.owner other = ledger.owner other
  last : ledger'.last = ledger.last

theorem Released.owned {r : R} (h : Released ledger r ledger') (i : I) :
    ledger'.owned i ⊆ ledger.owned i := by
  intro other hother
  have howner : ledger'.owner other = some i := hother
  have hself : other ≠ r := by
    rintro rfl
    rw [h.owner_self] at howner
    cases howner
  rw [h.owner_other other hself] at howner
  exact howner

variable [LinearOrder T] [AddCommGroup T]

/-- What a creation is checked for. -/
structure Admits (quota : Quota T) (ledger : QuotaLedger R I T) (i : I) (reading : T) :
    Prop where
  room : ledger.held.ncard < quota.maxHeld
  share : (ledger.owned i).ncard < quota.maxOwned
  rested : ∀ time, ledger.last i = some time → time ≤ reading ∧ quota.cooldown ≤ reading - time

/-- What a creation does.  What is remembered of another owner is kept or dropped, and it is
    kept while the pause lasts. -/
structure Created (quota : Quota T) (ledger : QuotaLedger R I T)
    (creation : QuotaCreation R I T) (ledger' : QuotaLedger R I T) : Prop where
  held : ledger'.held = insert creation.resource ledger.held
  owner_self : ledger'.owner creation.resource = some creation.owner
  owner_other : ∀ r, r ≠ creation.resource → ledger'.owner r = ledger.owner r
  last_self : ledger'.last creation.owner = some creation.reading
  last_kept : ∀ i, i ≠ creation.owner → i ∉ creation.dropped → ledger'.last i = ledger.last i
  last_dropped : ∀ i ∈ creation.dropped, i ≠ creation.owner ∧ ledger'.last i = none
    ∧ ∃ time, ledger.last i = some time
      ∧ ¬ (time ≤ creation.reading ∧ creation.reading - time ≤ quota.cooldown)

variable (quota start) in
/-- A run, with its creations in order. -/
inductive Run : List (QuotaCreation R I T) → QuotaLedger R I T → Prop where
  | start : Run [] start
  | create {log : List (QuotaCreation R I T)} {ledger ledger' : QuotaLedger R I T}
      {creation : QuotaCreation R I T} (run : Run log ledger)
      (hadmits : Admits quota ledger creation.owner creation.reading)
      (hcreated : Created quota ledger creation ledger') : Run (log ++ [creation]) ledger'
  | release {log : List (QuotaCreation R I T)} {ledger ledger' : QuotaLedger R I T} {r : R}
      (run : Run log ledger) (hreleased : Released ledger r ledger') : Run log ledger'

/-! ### The limits -/

theorem Created.owned (h : Created quota ledger creation ledger') (i : I) :
    ledger'.owned i ⊆ insert creation.resource (ledger.owned i) := by
  intro r hr
  by_cases hself : r = creation.resource
  · exact .inl hself
  · right
    have howner : ledger'.owner r = some i := hr
    rw [h.owner_other r hself] at howner
    exact howner

theorem Created.owned_other (h : Created quota ledger creation ledger') {i : I}
    (hother : i ≠ creation.owner) : ledger'.owned i ⊆ ledger.owned i := by
  intro r hr
  have howner : ledger'.owner r = some i := hr
  have hself : r ≠ creation.resource := by
    rintro rfl
    rw [h.owner_self] at howner
    exact hother (Option.some.inj howner).symm
  rw [h.owner_other r hself] at howner
  exact howner

/-- No more resources are held than the limit, or than there were. -/
theorem Run.held_le (h : Run quota start log ledger) :
    ledger.held.ncard ≤ max quota.maxHeld start.held.ncard := by
  induction h with
  | start => exact le_max_right _ _
  | @create log ledger ledger' creation run hadmits hcreated ih =>
    rw [hcreated.held]
    have hinsert := Set.ncard_insert_le creation.resource ledger.held
    have hroom := hadmits.room
    exact le_max_of_le_left (by omega)
  | @release log ledger ledger' r run hreleased ih =>
    rw [hreleased.held]
    exact (Set.ncard_le_ncard Set.sdiff_subset ledger.held_finite).trans ih

/-- No owner has more resources than its limit, or than it had. -/
theorem Run.owned_le (h : Run quota start log ledger) (i : I) :
    (ledger.owned i).ncard ≤ max quota.maxOwned (start.owned i).ncard := by
  induction h with
  | start => exact le_max_right _ _
  | @create log ledger ledger' creation run hadmits hcreated ih =>
    by_cases hself : i = creation.owner
    · subst hself
      have hsubset := Set.ncard_le_ncard (hcreated.owned creation.owner)
        ((ledger.owned_ncard_finite creation.owner).insert _)
      have hinsert := Set.ncard_insert_le creation.resource (ledger.owned creation.owner)
      have hshare := hadmits.share
      exact le_max_of_le_left (by omega)
    · exact (Set.ncard_le_ncard (hcreated.owned_other hself)
        (ledger.owned_ncard_finite i)).trans ih
  | @release log ledger ledger' r run hreleased ih =>
    exact (Set.ncard_le_ncard (hreleased.owned i) (ledger.owned_ncard_finite i)).trans ih

/-- What is held has an owner, if it had at the start. -/
theorem Run.held_owned (h : Run quota start log ledger)
    (hstart : ∀ r ∈ start.held, ∃ i, start.owner r = some i) :
    ∀ r ∈ ledger.held, ∃ i, ledger.owner r = some i := by
  induction h with
  | start => exact hstart
  | @create log ledger ledger' creation run hadmits hcreated ih =>
    intro r hr
    by_cases hself : r = creation.resource
    · exact ⟨creation.owner, hself ▸ hcreated.owner_self⟩
    · rw [hcreated.held] at hr
      rw [hcreated.owner_other r hself]
      exact ih r (hr.resolve_left hself)
  | @release log ledger ledger' r run hreleased ih =>
    intro other hother
    rw [hreleased.held] at hother
    rw [hreleased.owner_other other hother.2]
    exact ih other hother.1

/-- What has an owner is held, or has had it from the start. -/
theorem Run.owner_held (h : Run quota start log ledger) {r : R} {i : I}
    (howner : ledger.owner r = some i) :
    r ∈ ledger.held ∨ start.owner r = some i ∧ ∀ creation ∈ log, creation.resource ≠ r := by
  induction h with
  | start => exact .inr ⟨howner, by simp⟩
  | @create log ledger ledger' creation run hadmits hcreated ih =>
    by_cases hself : r = creation.resource
    · left
      rw [hcreated.held, hself]
      exact Set.mem_insert _ _
    · rw [hcreated.owner_other r hself] at howner
      rcases ih howner with hheld | ⟨hstart, hlog⟩
      · left
        rw [hcreated.held]
        exact .inr hheld
      · right
        refine ⟨hstart, ?_⟩
        intro other hother
        rcases List.mem_append.mp hother with hother | hother
        · exact hlog other hother
        · rw [List.mem_singleton.mp hother]
          exact Ne.symm hself
  | @release log ledger ledger' released run hreleased ih =>
    have hself : r ≠ released := by
      rintro rfl
      rw [hreleased.owner_self] at howner
      cases howner
    rw [hreleased.owner_other r hself] at howner
    rcases ih howner with hheld | hstart
    · left
      rw [hreleased.held]
      exact ⟨hheld, hself⟩
    · exact .inr hstart

/-- What is held keeps its owner over a run that does not create it. -/
theorem Run.owner_kept (h : Run quota start log ledger) {r : R} (hheld : r ∈ ledger.held)
    (hold : ∀ creation ∈ log, creation.resource ≠ r) : ledger.owner r = start.owner r := by
  induction h with
  | start => rfl
  | @create log ledger ledger' creation run hadmits hcreated ih =>
    have hself : r ≠ creation.resource :=
      Ne.symm (hold creation (List.mem_append_right _ List.mem_cons_self))
    rw [hcreated.held] at hheld
    rw [hcreated.owner_other r hself]
    exact ih (hheld.resolve_left hself) fun other hother =>
      hold other (List.mem_append_left _ hother)
  | @release log ledger ledger' released run hreleased ih =>
    rw [hreleased.held] at hheld
    rw [hreleased.owner_other r hheld.2]
    exact ih hheld.1 hold

/-! ### The pauses -/

variable [IsOrderedAddMonoid T]

/-- Of two creations, one of which drops what is remembered of the other's owner, the later
    one does not read an earlier time. -/
def DropsInOrder (log : List (QuotaCreation R I T)) : Prop :=
  log.Pairwise fun earlier later =>
    earlier.owner ∈ later.dropped ∨ later.owner ∈ earlier.dropped →
      earlier.reading ≤ later.reading

/-- Two creations of one owner are a pause apart. -/
def Spaced (quota : Quota T) (log : List (QuotaCreation R I T)) : Prop :=
  log.Pairwise fun earlier later =>
    earlier.owner = later.owner →
      earlier.reading ≤ later.reading ∧ earlier.reading + quota.cooldown ≤ later.reading

/-- What the ledger knows of an earlier creation: the last one of its owner is remembered and
    no earlier, or it was dropped when its pause was over. -/
def Remembers (quota : Quota T) (log : List (QuotaCreation R I T)) (ledger : QuotaLedger R I T)
    (creation : QuotaCreation R I T) : Prop :=
  (∃ latest ∈ log, latest.owner = creation.owner
      ∧ ledger.last creation.owner = some latest.reading ∧ creation.reading ≤ latest.reading)
    ∨ ∃ pruner ∈ log, creation.owner ∈ pruner.dropped ∧ creation.reading ≤ pruner.reading
      ∧ creation.reading + quota.cooldown ≤ pruner.reading

/-- A creation that is admitted comes after the pause of every earlier one. -/
theorem Remembers.spaced {later : QuotaCreation R I T} (h : Remembers quota log ledger creation)
    (hadmits : Admits quota ledger later.owner later.reading)
    (horder : ∀ pruner ∈ log, later.owner ∈ pruner.dropped → pruner.reading ≤ later.reading)
    (hsame : creation.owner = later.owner) :
    creation.reading ≤ later.reading ∧ creation.reading + quota.cooldown ≤ later.reading := by
  rcases h with ⟨latest, -, -, hlast, hle⟩ | ⟨pruner, hpruner, hdropped, hle, hpause⟩
  · rw [hsame] at hlast
    obtain ⟨hbefore, hrested⟩ := hadmits.rested latest.reading hlast
    have hpause : latest.reading + quota.cooldown ≤ later.reading := by
      rw [add_comm]
      exact le_sub_iff_add_le.mp hrested
    exact ⟨hle.trans hbefore, (add_le_add_left hle _).trans hpause⟩
  · rw [hsame] at hdropped
    have hbefore := horder pruner hpruner hdropped
    exact ⟨hle.trans hbefore, hpause.trans hbefore⟩

/-- A creation keeps what is remembered of the earlier ones, or drops it in order. -/
theorem Remembers.created {later : QuotaCreation R I T} (h : Remembers quota log ledger creation)
    (hadmits : Admits quota ledger later.owner later.reading)
    (hcreated : Created quota ledger later ledger')
    (horder : ∀ earlier ∈ log, earlier.owner ∈ later.dropped ∨ later.owner ∈ earlier.dropped →
      earlier.reading ≤ later.reading) :
    Remembers quota (log ++ [later]) ledger' creation := by
  by_cases hsame : creation.owner = later.owner
  · have hspaced := h.spaced hadmits (fun pruner hpruner hdropped =>
      horder pruner hpruner (.inr hdropped)) hsame
    left
    refine ⟨later, by simp, hsame.symm, ?_, hspaced.1⟩
    rw [hsame]
    exact hcreated.last_self
  · rcases h with ⟨latest, hlatest, howner, hlast, hle⟩ | ⟨pruner, hpruner, hrest⟩
    · by_cases hdropped : creation.owner ∈ later.dropped
      · right
        obtain ⟨-, -, time, htime, hpast⟩ := hcreated.last_dropped _ hdropped
        rw [hlast, Option.some.injEq] at htime
        have hbefore : latest.reading ≤ later.reading :=
          horder latest hlatest (.inl (howner ▸ hdropped))
        have hover : quota.cooldown < later.reading - latest.reading := by
          rw [← htime] at hpast
          exact not_le.mp fun hpause => hpast ⟨hbefore, hpause⟩
        refine ⟨later, by simp, hdropped, hle.trans hbefore, ?_⟩
        have hpause : latest.reading + quota.cooldown ≤ later.reading := by
          rw [add_comm]
          exact le_sub_iff_add_le.mp hover.le
        exact (add_le_add_left hle _).trans hpause
      · left
        refine ⟨latest, by simp [hlatest], howner, ?_, hle⟩
        rw [hcreated.last_kept _ hsame hdropped]
        exact hlast
    · right
      exact ⟨pruner, by simp [hpruner], hrest⟩

/-- **Creations of one owner are a pause apart**, in a run that drops in order. -/
theorem Run.spaced (h : Run quota start log ledger) (horder : DropsInOrder log) :
    Spaced quota log ∧ ∀ creation ∈ log, Remembers quota log ledger creation := by
  induction h with
  | start => exact ⟨List.Pairwise.nil, by simp⟩
  | @create log ledger ledger' creation run hadmits hcreated ih =>
    obtain ⟨hbefore, -, hlater⟩ := List.pairwise_append.mp horder
    have hlater' : ∀ earlier ∈ log,
        earlier.owner ∈ creation.dropped ∨ creation.owner ∈ earlier.dropped →
          earlier.reading ≤ creation.reading :=
      fun earlier hearlier => hlater earlier hearlier creation List.mem_cons_self
    obtain ⟨hspaced, hremembers⟩ := ih hbefore
    constructor
    · refine List.pairwise_append.mpr ⟨hspaced, List.pairwise_singleton _ _, ?_⟩
      intro earlier hearlier later hlater hsame
      rw [List.mem_singleton] at hlater
      subst hlater
      exact (hremembers earlier hearlier).spaced hadmits
        (fun pruner hpruner hdropped => hlater' pruner hpruner (.inr hdropped)) hsame
    · intro earlier hearlier
      rcases List.mem_append.mp hearlier with hearlier | hself
      · exact (hremembers earlier hearlier).created hadmits hcreated hlater'
      · rw [List.mem_singleton] at hself
        subst hself
        left
        exact ⟨earlier, by simp, rfl, hcreated.last_self, le_refl _⟩
  | @release log ledger ledger' r run hreleased ih =>
    obtain ⟨hspaced, hremembers⟩ := ih horder
    refine ⟨hspaced, ?_⟩
    intro creation hcreation
    have hkept := hremembers creation hcreation
    unfold Remembers at hkept ⊢
    rw [hreleased.last]
    exact hkept

end QuotaLedger

end Sorotte.Framework
