import Mathlib

/-! # Dealing from queues in turns

  Queues are dealt from in turns, one item of each queue a turn, until a number
  of items is reached or every queue is exhausted.  What is dealt is the front of
  every queue, and no queue gets two items ahead of one that has any left.
-/

namespace Sorotte.Framework.RoundRobin

variable {κ α : Type}

/-- A queue of items under a key, of which those before `position` were dealt. -/
structure Queue (κ α : Type) where
  key : κ
  items : List α
  position : Nat := 0

namespace Queue

/-- The items that were dealt. -/
def drawn (q : Queue κ α) : List α := q.items.take q.position

/-- The queue after one more item was dealt. -/
def next (q : Queue κ α) : Queue κ α := { q with position := q.position + 1 }

/-- What dealing does not change. -/
def source (q : Queue κ α) : κ × List α := (q.key, q.items)

@[simp] theorem next_source (q : Queue κ α) : q.next.source = q.source := rfl

/-- The queue was dealt from in each of the first `turns` turns that it had an item for. -/
def At (turns : Nat) (q : Queue κ α) : Prop := q.position = min turns q.items.length

theorem drawn_next {q : Queue κ α} {item : α} (h : q.items[q.position]? = some item) :
    q.next.drawn = q.drawn ++ [item] := by
  simp [drawn, next, List.take_add_one, h]

end Queue

/-- All that was dealt from the queues. -/
def drawn (queues : List (Queue κ α)) : List α := queues.flatMap Queue.drawn

@[simp] theorem drawn_nil : drawn ([] : List (Queue κ α)) = [] := rfl

@[simp] theorem drawn_cons (q : Queue κ α) (queues : List (Queue κ α)) :
    drawn (q :: queues) = q.drawn ++ drawn queues := rfl

theorem drawn_sublist (queues : List (Queue κ α)) :
    (drawn queues).Sublist (queues.flatMap Queue.items) := by
  induction queues with
  | nil => exact List.Sublist.refl _
  | cons q queues ih => exact (List.take_sublist _ _).append ih

/-! ### One turn -/

/-- One turn over the queues, cut short when `limit` items are dealt; tells
    whether any was dealt. -/
def turn (limit : Nat) : List (Queue κ α) → List α → List (Queue κ α) × List α × Bool
  | [], dealt => ([], dealt, false)
  | q :: queues, dealt =>
    if limit ≤ dealt.length then (q :: queues, dealt, false)
    else
      match q.items[q.position]? with
      | some item =>
        let rest := turn limit queues (dealt ++ [item])
        (q.next :: rest.1, rest.2.1, true)
      | none =>
        let rest := turn limit queues dealt
        (q :: rest.1, rest.2.1, rest.2.2)

/-- What a turn does to the queues and to what is dealt. -/
structure Turned (limit : Nat) (queues : List (Queue κ α)) (dealt : List α)
    (result : List (Queue κ α) × List α × Bool) : Prop where
  source : result.1.map Queue.source = queues.map Queue.source
  moved : ∀ before, dealt.Perm (before ++ drawn queues) →
    result.2.1.Perm (before ++ drawn result.1)
  bounded : dealt.length ≤ limit → result.2.1.length ≤ limit
  grows : result.2.2 = true → dealt.length < result.2.1.length
  stuck : result.2.2 = false → result.2.1 = dealt ∧ result.1 = queues
    ∧ (dealt.length < limit → ∀ q ∈ queues, q.items.length ≤ q.position)
  between : ∀ turns, (∀ q ∈ queues, q.At turns) →
    ∀ q ∈ result.1, q.At turns ∨ q.At (turns + 1)
  complete : ∀ turns, (∀ q ∈ queues, q.At turns) → result.2.1.length < limit →
    ∀ q ∈ result.1, q.At (turns + 1)
  kept : dealt.length ≤ result.2.1.length

theorem turned_turn (limit : Nat) (queues : List (Queue κ α)) (dealt : List α) :
    Turned limit queues dealt (turn limit queues dealt) := by
  induction queues generalizing dealt with
  | nil =>
    exact ⟨rfl, fun before h => h, fun h => h, by simp [turn], by simp [turn], by simp [turn],
      by simp [turn], le_refl _⟩
  | cons q queues ih =>
    by_cases hfull : limit ≤ dealt.length
    · have hturn : turn limit (q :: queues) dealt = (q :: queues, dealt, false) := by
        simp [turn, hfull]
      rw [hturn]
      exact ⟨rfl, fun before h => h, fun h => h, by simp, by simp; omega,
        fun turns h q hq => .inl (h q hq), by simp; omega, le_refl _⟩
    · cases hitem : q.items[q.position]? with
      | some item =>
        obtain ⟨hsource, hmoved, hbounded, hgrows, hstuck, hbetween, hcomplete, hkept⟩ :=
          ih (dealt ++ [item])
        have hposition : q.position < q.items.length := (List.getElem?_eq_some_iff.mp hitem).1
        have hnext : ∀ turns, q.At turns → q.next.At (turns + 1) := by
          intro turns hat
          simp only [Queue.At, Queue.next] at hat ⊢
          omega
        simp only [turn, hfull, if_false, hitem]
        rw [List.length_append, List.length_singleton] at hbounded hkept
        refine ⟨by simp [hsource], ?_, fun _ => hbounded (by omega), fun _ => by dsimp only; omega,
          by simp, ?_, ?_, by dsimp only; omega⟩
        · -- the item moves from the queue to what was dealt before the rest
          intro before h
          have hhere : (dealt ++ [item]).Perm ((before ++ q.next.drawn) ++ drawn queues) := by
            rw [Queue.drawn_next hitem]
            calc (dealt ++ [item]).Perm ((before ++ drawn (q :: queues)) ++ [item]) :=
                  h.append_right _
              _ = (before ++ q.drawn) ++ (drawn queues ++ [item]) := by simp
              _ |>.Perm ((before ++ q.drawn) ++ ([item] ++ drawn queues)) :=
                  List.perm_append_comm.append_left _
              _ = (before ++ (q.drawn ++ [item])) ++ drawn queues := by simp
          have hrest := hmoved (before ++ q.next.drawn) hhere
          simpa using hrest
        · intro turns h p hp
          rcases List.mem_cons.mp hp with rfl | hp
          · exact .inr (hnext turns (h q (by simp)))
          · exact hbetween turns (fun r hr => h r (by simp [hr])) p hp
        · intro turns h hless p hp
          rcases List.mem_cons.mp hp with rfl | hp
          · exact hnext turns (h q (by simp))
          · exact hcomplete turns (fun r hr => h r (by simp [hr])) hless p hp
      | none =>
        obtain ⟨hsource, hmoved, hbounded, hgrows, hstuck, hbetween, hcomplete, hkept⟩ := ih dealt
        have hspent : q.items.length ≤ q.position := List.getElem?_eq_none_iff.mp hitem
        simp only [turn, hfull, if_false, hitem]
        refine ⟨by simp [hsource], ?_, hbounded, hgrows, ?_, ?_, ?_, hkept⟩
        · intro before h
          have hrest := hmoved (before ++ q.drawn) (by simpa using h)
          simpa using hrest
        · intro hidle
          obtain ⟨hsame, hqueues, hexhausted⟩ := hstuck hidle
          refine ⟨hsame, by rw [hqueues], ?_⟩
          intro hless p hp
          rcases List.mem_cons.mp hp with rfl | hp
          · exact hspent
          · exact hexhausted hless p hp
        · intro turns h p hp
          rcases List.mem_cons.mp hp with rfl | hp
          · exact .inl (h p (by simp))
          · exact hbetween turns (fun r hr => h r (by simp [hr])) p hp
        · intro turns h hless p hp
          rcases List.mem_cons.mp hp with rfl | hp
          · have hat := h p (by simp)
            simp only [Queue.At] at hat ⊢
            omega
          · exact hcomplete turns (fun r hr => h r (by simp [hr])) hless p hp

/-! ### Turns until enough is dealt -/

/-- Turns are made while items are missing and the last turn dealt any. -/
def deal (limit : Nat) (queues : List (Queue κ α)) (dealt : List α) :
    List (Queue κ α) × List α :=
  if dealt.length < limit then
    match h : turn limit queues dealt with
    | (queues', dealt', true) =>
      have : dealt.length < dealt'.length := by
        have hgrows := (turned_turn limit queues dealt).grows
        rw [h] at hgrows
        exact hgrows rfl
      deal limit queues' dealt'
    | (queues', dealt', false) => (queues', dealt')
  else (queues, dealt)
termination_by limit - dealt.length

/-- What dealing comes to. -/
structure Dealt (limit : Nat) (queues : List (Queue κ α)) (before : List α)
    (result : List (Queue κ α) × List α) : Prop where
  source : result.1.map Queue.source = queues.map Queue.source
  dealt : result.2.Perm (before ++ drawn result.1)
  bounded : result.2.length ≤ limit
  between : ∃ turns, ∀ q ∈ result.1, q.At turns ∨ q.At (turns + 1)
  complete : result.2.length < limit → ∀ q ∈ result.1, q.items.length ≤ q.position

theorem dealt_deal {limit turns : Nat} {queues : List (Queue κ α)} {before dealt : List α}
    (hdealt : dealt.Perm (before ++ drawn queues)) (hbounded : dealt.length ≤ limit)
    (hat : ∀ q ∈ queues, q.At turns) : Dealt limit queues before (deal limit queues dealt) := by
  -- one more turn is made from the state that the last one left
  induction hmissing : limit - dealt.length using Nat.strong_induction_on
    generalizing queues dealt turns with
  | _ missing ih =>
    rw [deal]
    by_cases hless : dealt.length < limit
    · rw [if_pos hless]
      have hturned := turned_turn limit queues dealt
      split
      · next queues' dealt' h =>
        rw [h] at hturned
        have hgrows : dealt.length < dealt'.length := hturned.grows rfl
        have hdealt' := hturned.moved before hdealt
        have hbounded' := hturned.bounded hbounded
        by_cases hmore : dealt'.length < limit
        · have hrest := ih (limit - dealt'.length) (by omega) hdealt' hbounded'
            (hturned.complete turns hat hmore) rfl
          exact ⟨hrest.source.trans hturned.source, hrest.dealt, hrest.bounded, hrest.between,
            hrest.complete⟩
        · rw [deal, if_neg hmore]
          exact ⟨hturned.source, hdealt', hbounded', ⟨turns, hturned.between turns hat⟩,
            fun hfew => absurd hfew hmore⟩
      · next queues' dealt' h =>
        rw [h] at hturned
        obtain ⟨rfl, rfl, hexhausted⟩ := hturned.stuck rfl
        exact ⟨rfl, hdealt, hbounded, ⟨turns, fun q hq => .inl (hat q hq)⟩,
          fun _ => hexhausted hless⟩
    · rw [if_neg hless]
      exact ⟨rfl, hdealt, hbounded, ⟨turns, fun q hq => .inl (hat q hq)⟩,
        fun hfew => absurd hfew hless⟩

/-! ### Fairness -/

/-- Keys tell the queues apart and are known of every item. -/
structure Keyed (keyOf : α → κ) (queues : List (Queue κ α)) : Prop where
  nodup : (queues.map Queue.key).Nodup
  keyed : ∀ q ∈ queues, ∀ item ∈ q.items, keyOf item = q.key

theorem Keyed.nodup_items {keyOf : α → κ} {queues : List (Queue κ α)} (h : Keyed keyOf queues)
    (hitems : ∀ q ∈ queues, q.items.Nodup) : (queues.flatMap Queue.items).Nodup := by
  rw [List.nodup_flatMap]
  refine ⟨hitems, ?_⟩
  have hkeys : queues.Pairwise fun p q => p.key ≠ q.key := List.pairwise_map.mp h.nodup
  apply hkeys.imp_of_mem
  intro p q hp hq hne item hitem hitem'
  exact hne ((h.keyed p hp item hitem).symm.trans (h.keyed q hq item hitem'))

variable [DecidableEq κ]

/-- What was dealt under a key is what was dealt from its queue. -/
theorem filter_drawn {keyOf : α → κ} {queues : List (Queue κ α)} (h : Keyed keyOf queues)
    {q : Queue κ α} (hq : q ∈ queues) :
    (drawn queues).filter (fun item => keyOf item = q.key) = q.drawn := by
  induction queues with
  | nil => cases hq
  | cons p queues ih =>
    obtain ⟨hnodup, hkeyed⟩ := h
    rw [List.map_cons, List.nodup_cons] at hnodup
    have hrest : Keyed keyOf queues := ⟨hnodup.2, fun r hr => hkeyed r (by simp [hr])⟩
    have hfirst : ∀ item ∈ p.drawn, keyOf item = p.key := fun item hitem =>
      hkeyed p (by simp) item (List.mem_of_mem_take hitem)
    rw [drawn_cons, List.filter_append]
    rcases List.mem_cons.mp hq with rfl | hq
    · have hall : q.drawn.filter (fun item => keyOf item = q.key) = q.drawn := by
        rw [List.filter_eq_self]
        intro item hitem
        simpa using hfirst item hitem
      have hnone : (drawn queues).filter (fun item => keyOf item = q.key) = [] := by
        rw [List.filter_eq_nil_iff]
        intro item hitem
        obtain ⟨r, hr, hmem⟩ := List.mem_flatMap.mp hitem
        have hkey := hrest.keyed r hr item (List.mem_of_mem_take hmem)
        simp only [decide_eq_true_eq]
        intro hsame
        exact hnodup.1 (List.mem_map.mpr ⟨r, hr, hkey.symm.trans hsame⟩)
      rw [hall, hnone, List.append_nil]
    · have hnone : p.drawn.filter (fun item => keyOf item = q.key) = [] := by
        rw [List.filter_eq_nil_iff]
        intro item hitem
        simp only [decide_eq_true_eq]
        intro hkey
        apply hnodup.1
        rw [← hfirst item hitem, hkey]
        exact List.mem_map_of_mem hq
      rw [hnone, List.nil_append, ih hrest hq]

/-- **Dealing is fair**: as many items as asked for, or all; of every queue its
    front; and no queue gets two items ahead of one that has any left. -/
theorem deal_fair {keyOf : α → κ} {queues : List (Queue κ α)} (h : Keyed keyOf queues)
    (hfresh : ∀ q ∈ queues, q.position = 0) (limit : Nat) :
    let dealt := (deal limit queues []).2
    dealt.length = min limit (queues.flatMap Queue.items).length
      ∧ (∀ q ∈ queues, (dealt.filter fun item => keyOf item = q.key).Perm
          (q.items.take (dealt.countP fun item => keyOf item = q.key)))
      ∧ (∀ q ∈ queues, ∀ p ∈ queues,
          dealt.countP (fun item => keyOf item = q.key) + 2 ≤
              dealt.countP (fun item => keyOf item = p.key) →
            q.items.length ≤ dealt.countP fun item => keyOf item = q.key)
      ∧ dealt.Subperm (queues.flatMap Queue.items) := by
  intro dealt
  have hdrawn : drawn queues = [] := by
    rw [drawn, List.flatMap_eq_nil_iff]
    intro q hq
    rw [Queue.drawn, hfresh q hq, List.take_zero]
  obtain ⟨hsource, hdealt, hbounded, ⟨turns, hbetween⟩, hcomplete⟩ :=
    @dealt_deal _ _ limit 0 queues [] [] (by simp [hdrawn]) (Nat.zero_le _)
      (fun q hq => by simp [Queue.At, hfresh q hq])
  set final := (deal limit queues []).1 with hfinal
  rw [List.nil_append] at hdealt
  have hbounded : dealt.length ≤ limit := hbounded
  -- the final queues have the keys and the items of the first ones
  have hkeys : final.map Queue.key = queues.map Queue.key := by
    have hfst := congrArg (List.map Prod.fst) hsource
    simpa [Queue.source, Function.comp_def] using hfst
  have hitems : final.map Queue.items = queues.map Queue.items := by
    have hsnd := congrArg (List.map Prod.snd) hsource
    simpa [Queue.source, Function.comp_def] using hsnd
  have hfound : ∀ q ∈ queues, ∃ p ∈ final, p.key = q.key ∧ p.items = q.items := by
    intro q hq
    have hmem : q.source ∈ final.map Queue.source := by
      rw [hsource]
      exact List.mem_map_of_mem hq
    obtain ⟨p, hp, hsame⟩ := List.mem_map.mp hmem
    exact ⟨p, hp, congrArg Prod.fst hsame, congrArg Prod.snd hsame⟩
  have hkeyed : Keyed keyOf final := by
    refine ⟨by rw [hkeys]; exact h.nodup, ?_⟩
    intro p hp item hitem
    have hmem : p.source ∈ queues.map Queue.source := by
      rw [← hsource]
      exact List.mem_map_of_mem hp
    obtain ⟨q, hq, hsame⟩ := List.mem_map.mp hmem
    have hkey : q.key = p.key := congrArg Prod.fst hsame
    have hsame_items : q.items = p.items := congrArg Prod.snd hsame
    rw [← hkey]
    exact h.keyed q hq item (hsame_items ▸ hitem)
  have hposition : ∀ p ∈ final, p.position ≤ p.items.length := by
    intro p hp
    rcases hbetween p hp with hat | hat <;> simp only [Queue.At] at hat <;> omega
  have hfilter : ∀ p ∈ final, (dealt.filter fun item => keyOf item = p.key).Perm p.drawn := by
    intro p hp
    rw [← filter_drawn hkeyed hp]
    exact hdealt.filter _
  have hcount : ∀ p ∈ final, dealt.countP (fun item => keyOf item = p.key) = p.position := by
    intro p hp
    rw [List.countP_eq_length_filter, (hfilter p hp).length_eq, Queue.drawn, List.length_take]
    exact min_eq_left (hposition p hp)
  have hflat : queues.flatMap Queue.items = final.flatMap Queue.items := by
    rw [List.flatMap_def, List.flatMap_def, hitems]
  have hsub := drawn_sublist final
  refine ⟨?_, ?_, ?_, ?_⟩
  · by_cases hless : dealt.length < limit
    · -- every queue is exhausted, so everything was dealt
      have hall : drawn final = final.flatMap Queue.items := by
        apply List.flatMap_congr
        intro p hp
        exact List.take_of_length_le (hcomplete hless p hp)
      rw [hflat, ← hall, ← hdealt.length_eq]
      exact (min_eq_right (le_of_lt hless)).symm
    · have hle : dealt.length ≤ _ := hdealt.length_eq ▸ hsub.length_le
      rw [hflat, min_eq_left (by omega)]
      omega
  · intro q hq
    obtain ⟨p, hp, hkey, hsame⟩ := hfound q hq
    rw [← hkey, ← hsame, hcount p hp]
    exact hfilter p hp
  · intro q hq q' hq'
    obtain ⟨p, hp, hkey, hsame⟩ := hfound q hq
    obtain ⟨p', hp', hkey', -⟩ := hfound q' hq'
    rw [← hkey, ← hkey', ← hsame, hcount p hp, hcount p' hp']
    intro hahead
    rcases hbetween p hp with hat | hat <;> rcases hbetween p' hp' with hat' | hat' <;>
      simp only [Queue.At] at hat hat' <;> omega
  · rw [hflat]
    exact hdealt.subperm.trans hsub.subperm

end Sorotte.Framework.RoundRobin
