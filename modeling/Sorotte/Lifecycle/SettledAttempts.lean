import Sorotte.Lifecycle.Settled

/-! # Every input leaves the attempts settled

  `AttemptsSettled` is the part of the reducer's invariant that needs no
  assumption on the inputs: every record is settled, the playlist mapping is the
  live attempts' own entries, and the active attempt is a live, bound one.
-/

namespace Sorotte.Lifecycle

open Framework

/-- A live attempt that names the entry. -/
def BoundTo (o : LoadOwnership) (playlistEntryId : PlaylistEntryId) (attemptId : LoadAttemptId) :
    Prop :=
  ∃ a, o.loadAttempts[attemptId]? = some a ∧ a.state.isTerminal = false
    ∧ a.playlistEntryId = some playlistEntryId

structure AttemptsSettled (o : LoadOwnership) : Prop where
  keyed : o.Keyed
  positive : 1 ≤ o.nextLoadAttemptId
  issued : ∀ (i : LoadAttemptId) (a : LoadAttempt), o.loadAttempts[i]? = some a →
    1 ≤ i ∧ i < o.nextLoadAttemptId
  epoch : ∀ (i : LoadAttemptId) (a : LoadAttempt), o.loadAttempts[i]? = some a →
    a.attachmentEpoch = o.attachmentEpoch
  settled : ∀ (i : LoadAttemptId) (a : LoadAttempt), o.loadAttempts[i]? = some a →
    AttemptSettled a
  mapped : ∀ (e : PlaylistEntryId) (i : LoadAttemptId),
    o.playlistEntryAttempts[e]? = some i ↔ BoundTo o e i
  active : ∀ i : LoadAttemptId, o.activeLoadAttempt = some i →
    ∃ a, o.loadAttempts[i]? = some a ∧ a.state.isTerminal = false
      ∧ a.state.isQuiescent = false ∧ a.playlistEntryId.isSome = true

/-- What an edit of the records must keep for the mapping to stay right. -/
structure KeepsPlace (a a' : LoadAttempt) : Prop where
  id : a'.id = a.id
  attachmentEpoch : a'.attachmentEpoch = a.attachmentEpoch
  terminal : a'.state.isTerminal = a.state.isTerminal
  playlistEntryId : a'.playlistEntryId = a.playlistEntryId

theorem KeepsPlace.refl (a : LoadAttempt) : KeepsPlace a a := ⟨rfl, rfl, rfl, rfl⟩

namespace AttemptsSettled

variable {o o' : LoadOwnership}

/-- Only the attempts, their mapping, the active one and the counters matter. -/
theorem congr (h : AttemptsSettled o) (hepoch : o'.attachmentEpoch = o.attachmentEpoch)
    (hattempts : o'.loadAttempts = o.loadAttempts)
    (hentries : o'.playlistEntryAttempts = o.playlistEntryAttempts)
    (hactive : o'.activeLoadAttempt = o.activeLoadAttempt)
    (hnext : o'.nextLoadAttemptId = o.nextLoadAttemptId) : AttemptsSettled o' where
  keyed := by
    intro i a ha
    rw [hattempts] at ha
    exact h.keyed i a ha
  positive := by rw [hnext]; exact h.positive
  issued := by
    intro i a ha
    rw [hattempts] at ha
    rw [hnext]
    exact h.issued i a ha
  epoch := by
    intro i a ha
    rw [hattempts] at ha
    rw [hepoch]
    exact h.epoch i a ha
  settled := by
    intro i a ha
    rw [hattempts] at ha
    exact h.settled i a ha
  mapped := by
    intro e i
    unfold BoundTo
    rw [hattempts, hentries]
    exact h.mapped e i
  active := by
    intro i hi
    rw [hactive] at hi
    rw [hattempts]
    exact h.active i hi

/-- Editing the records in place. -/
theorem edit (h : AttemptsSettled o) (f : LoadAttemptId → LoadAttempt → LoadAttempt)
    (hepoch : o'.attachmentEpoch = o.attachmentEpoch)
    (hentries : o'.playlistEntryAttempts = o.playlistEntryAttempts)
    (hnext : o'.nextLoadAttemptId = o.nextLoadAttemptId)
    (hlookup : ∀ k : LoadAttemptId, o'.loadAttempts[k]? = o.loadAttempts[k]?.map (f k))
    (hkeep : ∀ (k : LoadAttemptId) (a : LoadAttempt), o.loadAttempts[k]? = some a →
      KeepsPlace a (f k a) ∧ AttemptSettled (f k a))
    (hactive : ∀ k : LoadAttemptId, o'.activeLoadAttempt = some k →
      ∃ a, o.loadAttempts[k]? = some a ∧ a.state.isTerminal = false
        ∧ (f k a).state.isQuiescent = false ∧ a.playlistEntryId.isSome = true) :
    AttemptsSettled o' := by
  have hfound : ∀ {k : LoadAttemptId} {a' : LoadAttempt}, o'.loadAttempts[k]? = some a' →
      ∃ a, o.loadAttempts[k]? = some a ∧ a' = f k a := by
    intro k a' ha'
    rw [hlookup] at ha'
    obtain ⟨a, ha, rfl⟩ := Option.map_eq_some_iff.mp ha'
    exact ⟨a, ha, rfl⟩
  constructor
  · intro i a' ha'
    obtain ⟨a, ha, rfl⟩ := hfound ha'
    rw [(hkeep i a ha).1.id]
    exact h.keyed i a ha
  · rw [hnext]
    exact h.positive
  · intro i a' ha'
    obtain ⟨a, ha, rfl⟩ := hfound ha'
    rw [hnext]
    exact h.issued i a ha
  · intro i a' ha'
    obtain ⟨a, ha, rfl⟩ := hfound ha'
    rw [(hkeep i a ha).1.attachmentEpoch, hepoch]
    exact h.epoch i a ha
  · intro i a' ha'
    obtain ⟨a, ha, rfl⟩ := hfound ha'
    exact (hkeep i a ha).2
  · intro e i
    rw [hentries, h.mapped e i]
    constructor
    · rintro ⟨a, ha, hlive, hentry⟩
      refine ⟨f i a, ?_, ?_, ?_⟩
      · rw [hlookup, ha]
        rfl
      · rw [(hkeep i a ha).1.terminal]
        exact hlive
      · rw [(hkeep i a ha).1.playlistEntryId]
        exact hentry
    · rintro ⟨a', ha', hlive, hentry⟩
      obtain ⟨a, ha, rfl⟩ := hfound ha'
      rw [(hkeep i a ha).1.terminal] at hlive
      rw [(hkeep i a ha).1.playlistEntryId] at hentry
      exact ⟨a, ha, hlive, hentry⟩
  · intro i hi
    obtain ⟨a, ha, hlive, hquiescent, hentry⟩ := hactive i hi
    refine ⟨f i a, ?_, ?_, hquiescent, ?_⟩
    · rw [hlookup, ha]
      rfl
    · rw [(hkeep i a ha).1.terminal]
      exact hlive
    · rw [(hkeep i a ha).1.playlistEntryId]
      exact hentry

/-- Editing one record, whoever is active. -/
theorem update (h : AttemptsSettled o) {i : LoadAttemptId} {f : LoadAttempt → LoadAttempt}
    (hepoch : o'.attachmentEpoch = o.attachmentEpoch)
    (hentries : o'.playlistEntryAttempts = o.playlistEntryAttempts)
    (hnext : o'.nextLoadAttemptId = o.nextLoadAttemptId)
    (hlookup : ∀ k : LoadAttemptId,
      o'.loadAttempts[k]? = if k = i then o.loadAttempts[k]?.map f else o.loadAttempts[k]?)
    (hkeep : ∀ a, o.loadAttempts[i]? = some a → KeepsPlace a (f a) ∧ AttemptSettled (f a))
    (hactive : ∀ k : LoadAttemptId, o'.activeLoadAttempt = some k →
      (k ≠ i → o.activeLoadAttempt = some k)
        ∧ (k = i → ∃ a, o.loadAttempts[i]? = some a ∧ a.state.isTerminal = false
          ∧ (f a).state.isQuiescent = false ∧ a.playlistEntryId.isSome = true)) :
    AttemptsSettled o' := by
  refine h.edit (fun k => if k = i then f else fun a => a) hepoch hentries hnext ?_ ?_ ?_
  · intro k
    rw [hlookup]
    by_cases hk : k = i
    · rw [if_pos hk, if_pos hk]
    · rw [if_neg hk, if_neg hk]
      exact Option.map_id'.symm
  · intro k a ha
    by_cases hk : k = i
    · subst hk
      rw [if_pos rfl]
      exact hkeep a ha
    · rw [if_neg hk]
      exact ⟨KeepsPlace.refl a, h.settled k a ha⟩
  · intro k hk
    by_cases hki : k = i
    · subst hki
      rw [if_pos rfl]
      exact (hactive k hk).2 rfl
    · rw [if_neg hki]
      exact h.active k ((hactive k hk).1 hki)

/-- Binding a live attempt to an entry that is free or already its own. -/
theorem bind (h : AttemptsSettled o) {i : LoadAttemptId} {e : PlaylistEntryId}
    {f : LoadAttempt → LoadAttempt} {a : LoadAttempt} (ha : o.loadAttempts[i]? = some a)
    (hown : ∀ e', a.playlistEntryId = some e' → e' = e)
    (hfree : ∀ j, o.playlistEntryAttempts[e]? = some j → j = i)
    (hepoch : o'.attachmentEpoch = o.attachmentEpoch)
    (hnext : o'.nextLoadAttemptId = o.nextLoadAttemptId)
    (hactive : o'.activeLoadAttempt = o.activeLoadAttempt)
    (hlookup : ∀ k : LoadAttemptId,
      o'.loadAttempts[k]? = if k = i then o.loadAttempts[k]?.map f else o.loadAttempts[k]?)
    (hentries : ∀ e' : PlaylistEntryId, o'.playlistEntryAttempts[e']? =
      if e' = e then some i else o.playlistEntryAttempts[e']?)
    (hid : (f a).id = a.id) (hfepoch : (f a).attachmentEpoch = a.attachmentEpoch)
    (hfentry : (f a).playlistEntryId = some e) (hflive : (f a).state.isTerminal = false)
    (hfquiescent : (f a).state.isQuiescent = true → a.state.isQuiescent = true)
    (hsettled : AttemptSettled (f a)) : AttemptsSettled o' := by
  have hself : o'.loadAttempts[i]? = some (f a) := by
    rw [hlookup, if_pos rfl, ha]
    rfl
  have hother : ∀ k : LoadAttemptId, k ≠ i → o'.loadAttempts[k]? = o.loadAttempts[k]? := by
    intro k hk
    rw [hlookup, if_neg hk]
  constructor
  · intro k b hb
    by_cases hk : k = i
    · subst hk
      rw [hself] at hb
      cases hb
      rw [hid]
      exact h.keyed k a ha
    · rw [hother k hk] at hb
      exact h.keyed k b hb
  · rw [hnext]
    exact h.positive
  · intro k b hb
    rw [hnext]
    by_cases hk : k = i
    · subst hk
      exact h.issued k a ha
    · rw [hother k hk] at hb
      exact h.issued k b hb
  · intro k b hb
    rw [hepoch]
    by_cases hk : k = i
    · subst hk
      rw [hself] at hb
      cases hb
      rw [hfepoch]
      exact h.epoch k a ha
    · rw [hother k hk] at hb
      exact h.epoch k b hb
  · intro k b hb
    by_cases hk : k = i
    · subst hk
      rw [hself] at hb
      cases hb
      exact hsettled
    · rw [hother k hk] at hb
      exact h.settled k b hb
  · intro e' k
    rw [hentries]
    by_cases he : e' = e
    · subst he
      rw [if_pos rfl]
      constructor
      · intro hk
        cases hk
        exact ⟨f a, hself, hflive, hfentry⟩
      · rintro ⟨b, hb, hblive, hbentry⟩
        by_cases hk : k = i
        · rw [hk]
        · rw [hother k hk] at hb
          exact absurd (hfree k ((h.mapped e' k).mpr ⟨b, hb, hblive, hbentry⟩)) hk
    · rw [if_neg he, h.mapped e' k]
      constructor
      · rintro ⟨b, hb, hblive, hbentry⟩
        have hk : k ≠ i := by
          rintro rfl
          rw [ha] at hb
          cases hb
          exact he (hown e' hbentry)
        exact ⟨b, by rw [hother k hk]; exact hb, hblive, hbentry⟩
      · rintro ⟨b, hb, hblive, hbentry⟩
        have hk : k ≠ i := by
          rintro rfl
          rw [hself] at hb
          cases hb
          rw [hfentry] at hbentry
          exact he (Option.some.inj hbentry).symm
        rw [hother k hk] at hb
        exact ⟨b, hb, hblive, hbentry⟩
  · intro k hk
    rw [hactive] at hk
    obtain ⟨b, hb, hblive, hbquiescent, hbentry⟩ := h.active k hk
    by_cases hki : k = i
    · subst hki
      rw [ha] at hb
      cases hb
      refine ⟨f a, hself, hflive, ?_, by rw [hfentry]; rfl⟩
      cases hq : (f a).state.isQuiescent with
      | false => rfl
      | true =>
        rw [hfquiescent hq] at hbquiescent
        exact absurd hbquiescent (by decide)
    · exact ⟨b, by rw [hother k hki]; exact hb, hblive, hbquiescent, hbentry⟩

/-- An attempt that is mapped is live and names the entry. -/
theorem of_mapped (h : AttemptsSettled o) {e : PlaylistEntryId} {i : LoadAttemptId}
    (hmapped : o.playlistEntryAttempts[e]? = some i) :
    ∃ a, o.loadAttempts[i]? = some a ∧ a.state.isTerminal = false ∧ a.playlistEntryId = some e
      ∧ a.state ≠ .submitting ∧ a.state ≠ .acceptedUnbound := by
  obtain ⟨a, ha, hlive, hentry⟩ := (h.mapped e i).mp hmapped
  have hpast := (h.settled i a ha).past_unbound (by rw [hentry]; rfl)
  exact ⟨a, ha, hlive, hentry, hpast.1, hpast.2⟩

end AttemptsSettled

/-! ### Functions that start, bind and demote -/

namespace Reduction

variable {r : Reduction}

/-- An edit of one record that keeps its place. -/
theorem settled_updateAttempt (h : AttemptsSettled r.toLoadOwnership) (attemptId : LoadAttemptId)
    {edit : LoadAttempt → LoadAttempt}
    (hkeep : ∀ a, r.loadAttempts[attemptId]? = some a →
      KeepsPlace a (edit a) ∧ AttemptSettled (edit a)
        ∧ ((edit a).state.isQuiescent = true → a.state.isQuiescent = true)) :
    AttemptsSettled (r.updateAttempt attemptId edit).toLoadOwnership := by
  refine h.update rfl rfl rfl (getElem?_updateAttempt r attemptId · edit)
    (fun a ha => ⟨(hkeep a ha).1, (hkeep a ha).2.1⟩) fun k hk => ⟨fun _ => hk, ?_⟩
  rintro rfl
  obtain ⟨a, ha, hlive, hquiescent, hentry⟩ := h.active k hk
  refine ⟨a, ha, hlive, ?_, hentry⟩
  cases hq : (edit a).state.isQuiescent with
  | false => rfl
  | true =>
    rw [(hkeep a ha).2.2 hq] at hquiescent
    exact absurd hquiescent (by decide)

/-- The states that a demotion takes the transport from. -/
theorem demotable {held : LoadAttemptState → Bool}
    (hheld : ∀ state, held state = true → state = .starting ∨ state = .active)
    {a : LoadAttempt} (h : held a.state = true) :
    a.state.isTerminal = false ∧ a.state.isQuiescent = false ∧ a.state ≠ .submitting
      ∧ a.state ≠ .acceptedUnbound := by
  rcases hheld _ h with hs | hs <;> rw [hs] <;> exact ⟨rfl, rfl, nofun, nofun⟩

theorem demotedState_spec (a : LoadAttempt) :
    (demotedState a).isTerminal = false ∧ (demotedState a).isQuiescent = false
      ∧ demotedState a ≠ .submitting ∧ demotedState a ≠ .acceptedUnbound
      ∧ demotedState a ≠ .starting ∧ demotedState a ≠ .active
      ∧ ∀ successor, demotedState a = .supersededMayStillEmit successor →
        a.supersededBy = some successor := by
  unfold demotedState
  split
  · exact ⟨rfl, rfl, nofun, nofun, nofun, nofun, nofun⟩
  · next successor hs =>
    refine ⟨rfl, rfl, nofun, nofun, nofun, nofun, fun s h => ?_⟩
    cases h
    exact hs

/-- A demoted record. -/
theorem settled_demoted {a : LoadAttempt} (h : AttemptSettled a)
    {held : LoadAttemptState → Bool}
    (hheld : ∀ state, held state = true → state = .starting ∨ state = .active) :
    KeepsPlace a (if held a.state then { a with state := demotedState a } else a)
      ∧ AttemptSettled (if held a.state then { a with state := demotedState a } else a)
      ∧ ((if held a.state then { a with state := demotedState a } else a).state.isQuiescent = true
        → a.state.isQuiescent = true) := by
  obtain ⟨hterminal, hquiescent, hsubmitting, hunbound, _, hactive, hlink⟩ := demotedState_spec a
  split
  · next hs =>
    obtain ⟨hterminal', hquiescent', hsubmitting', hunbound'⟩ := demotable hheld hs
    refine ⟨⟨rfl, rfl, by rw [hterminal', ← hterminal], rfl⟩,
      h.withState ⟨hsubmitting', hunbound'⟩ ⟨hsubmitting, hunbound⟩
        (by rw [hterminal, hterminal']) (fun hq => ?_) (fun hs => absurd hs hactive) hlink,
      fun hq => ?_⟩
    · rw [hquiescent] at hq
      exact absurd hq (by decide)
    · exact absurd (hquiescent ▸ hq) (by decide)
  · exact ⟨KeepsPlace.refl a, h, fun hq => hq⟩

theorem settled_demoteActive (h : AttemptsSettled r.toLoadOwnership) (attemptId : LoadAttemptId)
    {held : LoadAttemptState → Bool}
    (hheld : ∀ state, held state = true → state = .starting ∨ state = .active) :
    AttemptsSettled (r.demoteActive attemptId held).toLoadOwnership := by
  unfold demoteActive
  split
  · exact h
  · split
    · exact h
    · exact settled_updateAttempt h _ fun a ha => settled_demoted (h.settled _ a ha) hheld

theorem settled_takeTransport (h : AttemptsSettled r.toLoadOwnership) {attemptId : LoadAttemptId}
    {a : LoadAttempt} (ha : r.loadAttempts[attemptId]? = some a)
    (hlive : a.state.isTerminal = false) (hquiescent : a.state.isQuiescent = false)
    (hentry : a.playlistEntryId.isSome = true) :
    AttemptsSettled (r.takeTransport attemptId).toLoadOwnership where
  keyed := h.keyed
  positive := h.positive
  issued := h.issued
  epoch := h.epoch
  settled := h.settled
  mapped := h.mapped
  active := by
    intro i hi
    cases hi
    exact ⟨a, ha, hlive, hquiescent, hentry⟩

/-- Binding keeps the attempts settled, and a successful bind leaves the
    attempt mapped. -/
theorem settled_bindAttempt (h : AttemptsSettled r.toLoadOwnership) {attemptId : LoadAttemptId}
    {playlistEntryId : PlaylistEntryId}
    (hstate : ∀ a, r.loadAttempts[attemptId]? = some a → a.state ≠ .submitting) :
    AttemptsSettled (r.bindAttempt attemptId playlistEntryId).2.toLoadOwnership
      ∧ ((r.bindAttempt attemptId playlistEntryId).1 = true →
        (r.bindAttempt attemptId playlistEntryId).2.playlistEntryAttempts[playlistEntryId]?
          = some attemptId) := by
  unfold bindAttempt
  split
  · exact ⟨h, nofun⟩
  · next hfree =>
    split
    · exact ⟨h, nofun⟩
    · next attempt hattempt =>
      split
      · exact ⟨h, nofun⟩
      · next hguard =>
        extract_lets bound mapped
        simp only [bne_iff_ne, ne_eq, Bool.or_eq_true, not_or, Decidable.not_not,
          Bool.not_eq_true] at hguard
        obtain ⟨⟨hepoch, hlive⟩, hentry⟩ := hguard
        have hlookup : ∀ k : LoadAttemptId, mapped.loadAttempts[k]? = _ :=
          fun k => getElem?_updateAttempt r attemptId k _
        have hmap : ∀ e : PlaylistEntryId, mapped.playlistEntryAttempts[e]? =
            if e = playlistEntryId then some attemptId else r.playlistEntryAttempts[e]? :=
          fun e => getElem?_insert_if _ _ _ _
        have hsettled : AttemptsSettled mapped.toLoadOwnership := by
          have hstate' := hstate attempt hattempt
          refine h.bind hattempt ?_ ?_ rfl rfl rfl hlookup hmap rfl rfl rfl ?_ ?_
            ((h.settled attemptId attempt hattempt).bound hstate' playlistEntryId)
          · intro e' he'
            rw [he'] at hentry
            simpa using hentry
          · intro j hj
            rw [hj] at hfree
            simpa using hfree
          · dsimp only
            split
            · rfl
            · exact hlive
          · dsimp only
            split
            · exact nofun
            · exact fun hq => hq
        have hmapped : mapped.playlistEntryAttempts[playlistEntryId]? = some attemptId := by
          rw [hmap, if_pos rfl]
        split
        · rw [queueEvent_own]
          exact ⟨hsettled, fun _ => hmapped⟩
        · exact ⟨hsettled, fun _ => hmapped⟩

/-- Starting a mapped attempt. -/
theorem settled_startBoundAttempt (h : AttemptsSettled r.toLoadOwnership)
    {attemptId : LoadAttemptId} {playlistEntryId : PlaylistEntryId}
    (hmapped : r.playlistEntryAttempts[playlistEntryId]? = some attemptId)
    (startFileObserved : Bool) :
    AttemptsSettled
      (r.startBoundAttempt attemptId playlistEntryId startFileObserved).toLoadOwnership := by
  obtain ⟨a, ha, hlive, hentry, hsubmitting, hunbound⟩ := h.of_mapped hmapped
  unfold startBoundAttempt
  split
  · exact h
  next found hfound =>
  obtain rfl : a = found := Option.some.inj (ha.symm.trans hfound)
  rw [if_neg (by rw [hlive]; decide)]
  extract_lets quiescent firstStart marked demoted started
  -- The raw boundary only marks the record.
  have hmark : AttemptsSettled marked.toLoadOwnership
      ∧ ∃ b, marked.loadAttempts[attemptId]? = some b ∧ b.state = a.state
        ∧ b.playlistEntryId = a.playlistEntryId := by
    dsimp only [marked]
    split
    · refine ⟨settled_updateAttempt h attemptId fun b hb =>
        ⟨⟨rfl, rfl, rfl, rfl⟩, { h.settled _ b hb with }, fun hq => hq⟩, ?_⟩
      refine ⟨{ a with startFileObserved := true }, ?_, rfl, rfl⟩
      rw [getElem?_updateAttempt, if_pos rfl, ha]
      rfl
    · exact ⟨h, a, ha, rfl, rfl⟩
  obtain ⟨hsettled, b, hb, hbstate, hbentry⟩ := hmark
  have hbound : b.playlistEntryId.isSome = true := by
    rw [hbentry, hentry]
    rfl
  split
  · exact hsettled
  · split
    · next hstate =>
      have hq : b.state.isQuiescent = false := by
        rcases Bool.or_eq_true_iff.mp hstate with hs | hs <;> rw [hbstate, eq_of_beq hs] <;> rfl
      exact settled_takeTransport hsettled hb (by rw [hbstate]; exact hlive) hq hbound
    · have hdemote : AttemptsSettled demoted.toLoadOwnership :=
        settled_demoteActive hsettled attemptId fun state hs => by
          rcases Bool.or_eq_true_iff.mp hs with hs | hs
          · exact .inl (eq_of_beq hs)
          · exact .inr (eq_of_beq hs)
      have hself : demoted.loadAttempts[attemptId]? = some b := by
        rw [← hb]
        exact getElem?_demoteActive_self _ _ _
      have hstart : AttemptsSettled started.toLoadOwnership := by
        dsimp only [started]
        split
        · exact hdemote
        · have hupdate : AttemptsSettled (demoted.updateAttempt attemptId fun attempt =>
              { attempt with state := .starting }).toLoadOwnership := by
            refine settled_updateAttempt hdemote attemptId fun c hc => ?_
            rw [hself] at hc
            cases hc
            refine ⟨⟨rfl, rfl, ?_, rfl⟩, ?_, nofun⟩
            · rw [hbstate, hlive]
              rfl
            · refine (hdemote.settled _ b hself).withState ?_ ⟨nofun, nofun⟩ ?_ nofun nofun nofun
              · rw [hbstate]
                exact ⟨hsubmitting, hunbound⟩
              · rw [hbstate, hlive]
                rfl
          have hfound : (demoted.updateAttempt attemptId fun attempt =>
              { attempt with state := .starting }).loadAttempts[attemptId]?
                = some { b with state := .starting } := by
            rw [getElem?_updateAttempt, if_pos rfl, hself]
            rfl
          exact settled_takeTransport hupdate hfound rfl rfl hbound
      split
      · rw [queueEvent_own]
        exact hstart
      · exact hstart

theorem settled_startAttempt (h : AttemptsSettled r.toLoadOwnership)
    {attemptId : LoadAttemptId} {playlistEntryId : PlaylistEntryId}
    (hmapped : r.playlistEntryAttempts[playlistEntryId]? = some attemptId)
    (startFileObserved : Bool) :
    AttemptsSettled
      (r.startAttempt attemptId playlistEntryId startFileObserved).toLoadOwnership := by
  obtain ⟨a, ha, _, _, hsubmitting, _⟩ := h.of_mapped hmapped
  have hbind := @settled_bindAttempt r h attemptId playlistEntryId (by
    intro b hb
    rw [ha] at hb
    cases hb
    exact hsubmitting)
  unfold startAttempt
  split
  next bound r' hr' =>
  rw [hr'] at hbind
  split
  · exact hbind.1
  · next hbound =>
    exact settled_startBoundAttempt hbind.1 (hbind.2 (by simpa using hbound)) _

theorem settled_tryDeferredStarts (h : AttemptsSettled r.toLoadOwnership) :
    AttemptsSettled r.tryDeferredStarts.toLoadOwnership :=
  tryDeferredStarts_preserves (P := fun r => AttemptsSettled r.toLoadOwnership) (fun _ _ h => h)
    (fun _ _ _ hmapped h => settled_startAttempt h hmapped true) (fun _ h => h) h

end Reduction

end Sorotte.Lifecycle
