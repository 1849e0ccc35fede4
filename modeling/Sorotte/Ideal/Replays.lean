import Sorotte.Framework.Chronicle
import Sorotte.Ideal.History
import Sorotte.Ideal.Starts

/-! # Request identities

  An accepted request identity stays with the start that took it, and with a
  tombstone once it is displaced, until its retention ends.  A start takes no
  identity that is still held, so a repeated request starts nothing.
-/

namespace Sorotte.Ideal

open Server Sorotte.Framework

variable {s : State} {l : Label} {room requestId : String} {newer older : List Event}

/-! ### Statuses -/

/-- The event may change the status of the room's request identities. -/
def concernsRequests (room : String) : Event → Prop
  | .prepareAccepted r _ _ _ | .requestDisplaced r _ _ | .roomDiscarded r => r = room
  | _ => False

theorem requestStatus_append (h : ∀ event ∈ newer, ¬ concernsRequests room event) :
    requestStatus room requestId (newer ++ older) = requestStatus room requestId older := by
  induction newer with
  | nil => rfl
  | cons event newer ih =>
    have hevent := h event List.mem_cons_self
    have hrest := ih fun e he => h e (List.mem_cons_of_mem event he)
    cases event with
    | prepareAccepted r id generation at_ =>
      rw [List.cons_append, requestStatus, if_neg fun hr => hevent hr.1, hrest]
    | requestDisplaced r id at_ =>
      rw [List.cons_append, requestStatus, if_neg fun hr => hevent hr.1, hrest]
    | roomDiscarded r =>
      rw [List.cons_append, requestStatus, if_neg fun hr : r = room => hevent hr, hrest]
    | _ => exact hrest

theorem requestStatus_retain (requestIds : List String) (now : Seconds) :
    requestStatus room requestId (requestIds.map (Event.requestDisplaced room · now) ++ older) =
      if requestId ∈ requestIds then .displaced now else requestStatus room requestId older := by
  induction requestIds with
  | nil => rfl
  | cons id requestIds ih =>
    rw [List.map_cons, List.cons_append, requestStatus, ih]
    by_cases hid : id = requestId
    · simp [hid]
    · simp [hid, Ne.symm hid]

/-- Since an identity was accepted, it is displaced only by an event of its own. -/
theorem displaced_since {earlier : Nat} {before since : Seconds} {middle oldest : List Event}
    (h : requestStatus room requestId
      (middle ++ .prepareAccepted room (some requestId) earlier before :: oldest) =
        .displaced since) : .requestDisplaced room requestId since ∈ middle := by
  induction middle with
  | nil => simp [requestStatus] at h
  | cons event middle ih =>
    rw [List.cons_append] at h
    cases event with
    | prepareAccepted r id generation at_ =>
      rw [requestStatus] at h
      split at h
      · cases h
      · exact List.mem_cons_of_mem _ (ih h)
    | requestDisplaced r id at_ =>
      rw [requestStatus] at h
      split at h
      · next hsame =>
        obtain ⟨rfl, rfl⟩ := hsame
        rw [RequestStatus.displaced.inj h]
        exact List.mem_cons_self
      · exact List.mem_cons_of_mem _ (ih h)
    | roomDiscarded r =>
      rw [requestStatus] at h
      split at h
      · cases h
      · exact List.mem_cons_of_mem _ (ih h)
    | _ => exact List.mem_cons_of_mem _ (ih h)

/-- Since an identity was accepted, it is forgotten only with its room. -/
theorem unknown_since {earlier : Nat} {before : Seconds} {middle oldest : List Event}
    (h : requestStatus room requestId
      (middle ++ .prepareAccepted room (some requestId) earlier before :: oldest) = .unknown) :
    .roomDiscarded room ∈ middle := by
  induction middle with
  | nil => simp [requestStatus] at h
  | cons event middle ih =>
    rw [List.cons_append] at h
    cases event with
    | prepareAccepted r id generation at_ =>
      rw [requestStatus] at h
      split at h
      · cases h
      · exact List.mem_cons_of_mem _ (ih h)
    | requestDisplaced r id at_ =>
      rw [requestStatus] at h
      split at h
      · cases h
      · exact List.mem_cons_of_mem _ (ih h)
    | roomDiscarded r =>
      rw [requestStatus] at h
      split at h
      · next hroom =>
        subst hroom
        exact List.mem_cons_self
      · exact List.mem_cons_of_mem _ (ih h)
    | _ => exact List.mem_cons_of_mem _ (ih h)

/-! ### What holds an identity -/

/-- The room's start carries the identity, or its tombstone outlasts the retention. -/
def Held (s : State) (room requestId : String) : RequestStatus → Prop
  | .unknown => True
  | .accepted => ∃ b, s.barrier room = some b ∧ b.prepare.requestId = some requestId
  | .displaced since => since + s.ttl ≤ s.now ∨
      ∃ until_, s.tombstone room requestId = some until_ ∧ since + s.ttl ≤ until_

/-- **Invariant**: every identity is held as its status says. -/
def IdentitiesHeld (s : State) : Prop :=
  ∀ room requestId, Held s room requestId (requestStatus room requestId s.history)

@[simp] theorem effect_ttl (s : State) (l : Label) : (effect s l).ttl = s.ttl := by
  cases l with
  | prepare room b => simp only [effect, State.beginGeneration]; split <;> rfl
  | commit room snapshot b' => simp only [effect]; split <;> rfl
  | _ => rfl

theorem effect_now (h : ∀ now, l ≠ .clock now) : (effect s l).now = s.now := by
  cases l with
  | clock now => exact absurd rfl (h now)
  | prepare room b => simp only [effect, State.beginGeneration]; split <;> rfl
  | commit room snapshot b' => simp only [effect]; split <;> rfl
  | _ => rfl

/-- Time only passes. -/
theorem effect_now_le (hguard : guard s l) : s.now ≤ (effect s l).now := by
  by_cases h : ∃ now, l = .clock now
  · obtain ⟨now, rfl⟩ := h
    exact hguard
  · have hnow : (effect s l).now = s.now := effect_now fun now hl => h ⟨now, hl⟩
    exact hnow.ge

def Label.writesTombstones : Label → Prop
  | .discard _ | .retain _ _ | .prune => True
  | _ => False

theorem effect_tombstone (h : ¬ l.writesTombstones) : (effect s l).tombstone = s.tombstone := by
  cases l with
  | discard | retain | prune => exact (h trivial).elim
  | prepare room b => simp only [effect, State.beginGeneration]; split <;> rfl
  | commit room snapshot b' => simp only [effect]; split <;> rfl
  | _ => rfl

/-- A tombstone that has to last is not pruned. -/
theorem Held.displaced_step {since : Seconds} (h : Held s room requestId (.displaced since))
    (hguard : guard s l) (hquiet : ∀ event ∈ events s l, ¬ concernsRequests room event) :
    Held (effect s l) room requestId (.displaced since) := by
  rcases h with hover | ⟨until_, htombstone, hlasts⟩
  · -- what is over stays over: the request clock never goes back
    left
    rw [effect_ttl]
    exact hover.trans (effect_now_le hguard)
  · by_cases hwrites : l.writesTombstones
    · cases l with
      | discard r =>
        have hr : room ≠ r := by
          rintro rfl
          exact hquiet _ List.mem_cons_self rfl
        right
        have hkept : (effect s (.discard r)).tombstone room = s.tombstone room :=
          Function.update_of_ne hr _ _
        exact ⟨until_, by rw [hkept, htombstone], hlasts⟩
      | retain r requestIds =>
        right
        -- the identity itself is not displaced again, or the label would say so
        by_cases hid : room = r ∧ requestId ∈ requestIds
        · obtain ⟨rfl, hmem⟩ := hid
          exact absurd rfl (hquiet _ (List.mem_map_of_mem hmem))
        · have hkept : (effect s (.retain r requestIds)).tombstone room requestId =
              s.tombstone room requestId := by
            show Function.update s.tombstone r _ room requestId = _
            by_cases hr : room = r
            · subst hr
              rw [Function.update_self]
              exact if_neg fun hmem => hid ⟨rfl, hmem⟩
            · rw [Function.update_of_ne hr]
          exact ⟨until_, by rw [hkept, htombstone], hlasts⟩
      | prune =>
        -- pruning takes a tombstone only once it is over
        by_cases hnow : s.now < until_
        · right
          refine ⟨until_, ?_, hlasts⟩
          show (s.tombstone room requestId).filter _ = some until_
          rw [htombstone]
          simp [hnow]
        · left
          exact hlasts.trans (not_lt.mp hnow)
      | _ => exact hwrites.elim
    · right
      rw [effect_tombstone hwrites, effect_ttl]
      exact ⟨until_, htombstone, hlasts⟩

theorem Held.accepted_step (h : Held s room requestId .accepted) (hguard : guard s l)
    (hstatus : requestStatus room requestId s.history = .accepted)
    (hquiet : ∀ event ∈ events s l, ¬ concernsRequests room event) :
    Held (effect s l) room requestId .accepted := by
  obtain ⟨b, hb, hid⟩ := h
  have hprepare : ∀ b', l ≠ .prepare room b' := by
    rintro b' rfl
    exact hquiet _ List.mem_cons_self rfl
  have hdiscard : l ≠ .discard room := by
    rintro rfl
    exact hquiet _ List.mem_cons_self rfl
  -- a start is dropped only after its identity was displaced
  have hdrop : l ≠ .drop room := by
    rintro rfl
    exact (hguard b hb).2 requestId hid hstatus
  obtain ⟨b', hb', hadvances⟩ := start_kept hguard hb hprepare hdiscard hdrop
  exact ⟨b', hb', hadvances.prepare.symm ▸ hid⟩

/-- A label that says nothing about the room's requests keeps their identities held. -/
theorem Held.step_quiet (h : Held s room requestId (requestStatus room requestId s.history))
    (hguard : guard s l) (hquiet : ∀ event ∈ events s l, ¬ concernsRequests room event) :
    Held (effect s l) room requestId (requestStatus room requestId (effect s l).history) := by
  rw [effect_history, requestStatus_append hquiet]
  cases hstatus : requestStatus room requestId s.history with
  | unknown => trivial
  | accepted =>
    rw [hstatus] at h
    exact h.accepted_step hguard hstatus hquiet
  | displaced since =>
    rw [hstatus] at h
    exact h.displaced_step hguard hquiet

/-- A start that takes a free identity leaves the others where they were. -/
theorem IdentitiesHeld.prepare {b : RoomPlaybackBarrier} (h : IdentitiesHeld s)
    (hguard : Prepares s room b) : IdentitiesHeld (effect s (.prepare room b)) := by
  intro r requestId
  have htombstone : (effect s (.prepare room b)).tombstone = s.tombstone := effect_tombstone id
  have hbarrier := effect_barrier_prepare s room b
  have hnow := effect_now_le (l := .prepare room b) hguard
  rw [effect_history]
  show Held _ r requestId (requestStatus r requestId (.prepareAccepted room b.prepare.requestId
    b.prepare.mediaGeneration s.now :: s.history))
  rw [requestStatus]
  split
  · next htaken =>
    obtain ⟨rfl, hid⟩ := htaken
    exact ⟨b, by rw [hbarrier, Function.update_self], hid⟩
  · have hheld := h r requestId
    cases hstatus : requestStatus r requestId s.history with
    | unknown => trivial
    | accepted =>
      rw [hstatus] at hheld
      obtain ⟨b₀, hb₀, hid⟩ := hheld
      by_cases hr : r = room
      · subst hr
        exact absurd hstatus (hguard.identity.1 b₀ requestId hb₀ hid).1
      · exact ⟨b₀, by rw [hbarrier, Function.update_of_ne hr, hb₀], hid⟩
    | displaced since =>
      rw [hstatus] at hheld
      rcases hheld with hover | hlasting
      · left
        rw [effect_ttl]
        exact hover.trans hnow
      · right
        rw [htombstone, effect_ttl]
        exact hlasting

theorem IdentitiesHeld.retain (h : IdentitiesHeld s) (room : String) (requestIds : List String)
    (hguard : guard s (.retain room requestIds)) :
    IdentitiesHeld (effect s (.retain room requestIds)) := by
  intro r requestId
  by_cases hr : r = room
  · subst hr
    rw [effect_history]
    show Held _ r requestId (requestStatus r requestId
      (requestIds.map (Event.requestDisplaced r · s.now) ++ s.history))
    rw [requestStatus_retain]
    split
    · next hmem =>
      right
      refine ⟨s.now + s.ttl, ?_, le_refl _⟩
      show Function.update s.tombstone r _ r requestId = _
      rw [Function.update_self]
      exact if_pos hmem
    · next hmem =>
      have hheld := h r requestId
      cases hstatus : requestStatus r requestId s.history with
      | unknown => trivial
      | accepted =>
        rw [hstatus] at hheld
        exact hheld
      | displaced since =>
        rw [hstatus] at hheld
        rcases hheld with hover | ⟨until_, htombstone, hlasts⟩
        · exact .inl hover
        · right
          refine ⟨until_, ?_, hlasts⟩
          show Function.update s.tombstone r _ r requestId = _
          rw [Function.update_self]
          exact (if_neg hmem).trans htombstone
  · apply (h r requestId).step_quiet hguard
    intro event hmem
    obtain ⟨id, -, rfl⟩ := List.mem_map.mp hmem
    exact Ne.symm hr

theorem IdentitiesHeld.step (h : IdentitiesHeld s) (hguard : guard s l) :
    IdentitiesHeld (effect s l) := by
  cases l with
  | prepare room b => exact h.prepare hguard
  | retain room requestIds => exact h.retain room requestIds hguard
  | discard r =>
    intro room requestId
    by_cases hr : r = room
    · rw [effect_history]
      show Held _ room requestId (requestStatus room requestId (.roomDiscarded r :: s.history))
      rw [requestStatus, if_pos hr]
      trivial
    · apply (h room requestId).step_quiet hguard
      intro event hmem
      rw [List.mem_singleton.mp hmem]
      exact hr
  | started clientId r b started position =>
    intro room requestId
    apply (h room requestId).step_quiet hguard
    intro event hmem
    simp only [events] at hmem
    split at hmem <;> simp at hmem
    · rcases hmem with rfl | rfl <;> exact id
    · exact hmem ▸ id
  | _ =>
    intro room requestId
    apply (h room requestId).step_quiet hguard
    intro event hmem
    simp only [events, List.mem_singleton, List.not_mem_nil] at hmem
    try exact hmem ▸ id

/-! ### Replays -/

/-- An accepted start took an identity that nothing held any longer. -/
def TakesFree (ttl : Seconds) : Event → List Event → Prop
  | .prepareAccepted room (some requestId) _ at_, past =>
      requestStatus room requestId past = .unknown ∨
        ∃ since, requestStatus room requestId past = .displaced since ∧ since + ttl ≤ at_
  | _, _ => True

/-- Accepted identities stay held, and every start took a free one. -/
def RequestsOnce (s : State) : Prop :=
  IdentitiesHeld s ∧ Throughout (TakesFree s.ttl) s.history

/-- A start only takes a free identity. -/
theorem takesFree_of_prepares {b : RoomPlaybackBarrier} (h : IdentitiesHeld s)
    (hguard : Prepares s room b) :
    TakesFree s.ttl
      (.prepareAccepted room b.prepare.requestId b.prepare.mediaGeneration s.now) s.history := by
  cases hid : b.prepare.requestId with
  | none => trivial
  | some requestId =>
    have hheld := h room requestId
    cases hstatus : requestStatus room requestId s.history with
    | unknown => exact .inl hstatus
    | accepted =>
      rw [hstatus] at hheld
      obtain ⟨b₀, hb₀, hcarried⟩ := hheld
      exact absurd hid (hguard.identity.1 b₀ requestId hb₀ hcarried).2
    | displaced since =>
      rw [hstatus] at hheld
      rcases hheld with hover | ⟨until_, htombstone, -⟩
      · exact .inr ⟨since, hstatus, hover⟩
      · rw [hguard.identity.2 requestId hid] at htombstone
        cases htombstone

theorem RequestsOnce.step (h : RequestsOnce s) (hguard : guard s l) :
    RequestsOnce (effect s l) := by
  obtain ⟨hheld, hpast⟩ := h
  refine ⟨hheld.step hguard, ?_⟩
  rw [effect_history, effect_ttl]
  cases l with
  | prepare room b => exact ⟨takesFree_of_prepares hheld hguard, hpast⟩
  | started clientId r b started position =>
    apply hpast.append
    intro event hmem past
    simp only [events] at hmem
    split at hmem <;> simp at hmem
    · rcases hmem with rfl | rfl <;> trivial
    · subst hmem
      trivial
  | retain room requestIds =>
    apply hpast.append
    intro event hmem past
    obtain ⟨id, -, rfl⟩ := List.mem_map.mp hmem
    trivial
  | _ =>
    apply hpast.append
    intro event hmem past
    simp only [events, List.mem_singleton, List.not_mem_nil] at hmem
    try (subst hmem; trivial)

theorem Initial.requestsOnce (h : Initial s) : RequestsOnce s := by
  refine ⟨fun room requestId => ?_, ?_⟩ <;> rw [h.history]
  · trivial
  · exact throughout_nil

theorem Reachable.requestsOnce (h : Reachable s) : RequestsOnce s :=
  h.invariant (fun _ hinitial => hinitial.requestsOnce) fun _ _ hguard hheld => hheld.step hguard

/-- **An identity starts playback once**: between two starts that took the same identity, the room
    was discarded, or the identity was displaced and its retention ended. -/
theorem Reachable.requests_start_once {later earlier : Nat} {at_ before : Seconds}
    {newest middle oldest : List Event} (h : Reachable s)
    (hhistory : s.history = newest ++ .prepareAccepted room (some requestId) later at_ ::
      (middle ++ .prepareAccepted room (some requestId) earlier before :: oldest)) :
    .roomDiscarded room ∈ middle ∨
      ∃ since, .requestDisplaced room requestId since ∈ middle ∧ since + s.ttl ≤ at_ := by
  obtain ⟨-, hpast⟩ := h.requestsOnce
  rw [hhistory] at hpast
  rcases hpast.past with hunknown | ⟨since, hdisplaced, hover⟩
  · exact .inl (unknown_since hunknown)
  · exact .inr ⟨since, displaced_since hdisplaced, hover⟩

end Sorotte.Ideal
