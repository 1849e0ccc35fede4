import Sorotte.Framework.Chronicle
import Sorotte.Ideal.History
import Sorotte.Ideal.Lifecycle

/-! # One commit for each start

  Generations are allocated in order, each to one accepted start of one room.  A
  commit names the generation of the start it commits, so a start commits at most
  once, in the room that it was accepted in, and after it was.
-/

namespace Sorotte.Ideal

open Server Sorotte.Framework

variable {s : State} {l : Label} {room room' : String} {history : List Event}

/-! ### Events in order -/

/-- An accepted start is newer than all before it; a commit follows its start, and no other. -/
def InOrder : Event → List Event → Prop
  | .prepareAccepted _ _ generation _, past => ∀ room id earlier at_,
      .prepareAccepted room id earlier at_ ∈ past → earlier < generation
  | .committed room snapshot, past =>
      (∃ id at_, .prepareAccepted room id snapshot.payload.mediaGeneration at_ ∈ past) ∧
      ∀ room' snapshot', .committed room' snapshot' ∈ past →
        snapshot'.payload.mediaGeneration ≠ snapshot.payload.mediaGeneration
  | _, _ => True

/-- A generation was accepted in one room. -/
theorem room_of_generation (h : Throughout InOrder history) {generation : Nat}
    {id id' : Option String} {at_ at' : Seconds}
    (hfirst : .prepareAccepted room id generation at_ ∈ history)
    (hsecond : .prepareAccepted room' id' generation at' ∈ history) : room = room' := by
  induction history with
  | nil => exact absurd hfirst List.not_mem_nil
  | cons event older ih =>
    rcases List.mem_cons.mp hfirst with heq | hold
    · rcases List.mem_cons.mp hsecond with heq' | hold'
      · rw [← heq'] at heq
        exact (Event.prepareAccepted.inj heq).1
      · -- an older start has an older generation
        have horder := h.1
        rw [← heq] at horder
        have hless := horder room' id' generation at' hold'
        omega
    · rcases List.mem_cons.mp hsecond with heq' | hold'
      · have horder := h.1
        rw [← heq'] at horder
        have hless := horder room id generation at_ hold
        omega
      · exact ih h.2 hold hold'

theorem accepted_of_committed (h : Throughout InOrder history) {snapshot : CommitSnapshot}
    (hmem : .committed room snapshot ∈ history) :
    ∃ id at_, .prepareAccepted room id snapshot.payload.mediaGeneration at_ ∈ history := by
  obtain ⟨newer, older, rfl⟩ := List.append_of_mem hmem
  obtain ⟨⟨id, at_, haccepted⟩, -⟩ := h.past
  exact ⟨id, at_, List.mem_append_right _ (List.mem_cons_of_mem _ haccepted)⟩

/-- The event commits the start of this generation. -/
def commitsGeneration (generation : Nat) : Event → Bool
  | .committed _ snapshot => snapshot.payload.mediaGeneration == generation
  | _ => false

/-- **A generation commits at most once.** -/
theorem count_commits_le_one (h : Throughout InOrder history) (generation : Nat) :
    history.countP (commitsGeneration generation) ≤ 1 := by
  induction history with
  | nil => simp
  | cons event older ih =>
    rw [List.countP_cons]
    by_cases hcommits : commitsGeneration generation event = true
    · have hnone : older.countP (commitsGeneration generation) = 0 := by
        apply List.countP_eq_zero.mpr
        intro event' hmem hcommits'
        cases event with
        | committed room snapshot =>
          cases event' with
          | committed room' snapshot' =>
            simp only [commitsGeneration, beq_iff_eq] at hcommits hcommits'
            exact h.1.2 room' snapshot' hmem (hcommits'.trans hcommits.symm)
          | _ => cases hcommits'
        | _ => cases hcommits
      simp [hnone, hcommits]
    · simpa [hcommits] using ih h.2

/-- The generation of the start that the event accepts. -/
def acceptedGeneration : Event → Option Nat
  | .prepareAccepted _ _ generation _ => some generation
  | _ => none

/-- The generations of the accepted starts, newest first. -/
def acceptedGenerations (history : List Event) : List Nat := history.filterMap acceptedGeneration

theorem mem_acceptedGenerations {generation : Nat} :
    generation ∈ acceptedGenerations history ↔
      ∃ room id at_, .prepareAccepted room id generation at_ ∈ history := by
  rw [acceptedGenerations, List.mem_filterMap]
  constructor
  · rintro ⟨event, hmem, hread⟩
    cases event with
    | prepareAccepted room id generation' at_ =>
      obtain rfl := Option.some.inj hread
      exact ⟨room, id, at_, hmem⟩
    | _ => cases hread
  · rintro ⟨room, id, at_, hmem⟩
    exact ⟨_, hmem, rfl⟩

theorem acceptedGenerations_decreasing (h : Throughout InOrder history) :
    (acceptedGenerations history).Pairwise (· > ·) := by
  induction history with
  | nil => exact List.Pairwise.nil
  | cons event older ih =>
    cases event with
    | prepareAccepted room id generation at_ =>
      apply List.pairwise_cons.mpr
      refine ⟨fun earlier hearlier => ?_, ih h.2⟩
      obtain ⟨room', id', at', hmem⟩ := mem_acceptedGenerations.mp hearlier
      exact h.1 room' id' earlier at' hmem
    | _ => exact ih h.2

/-! ### The invariant -/

/-- **Invariant**: starts are accepted in order and commit once. -/
structure StartsOnce (s : State) : Prop where
  inOrder : Throughout InOrder s.history
  allocated : ∀ room id generation at_, .prepareAccepted room id generation at_ ∈ s.history →
    generation ≤ s.generation
  accepted : ∀ room b, s.barrier room = some b →
    ∃ id at_, .prepareAccepted room id b.prepare.mediaGeneration at_ ∈ s.history
  uncommitted : ∀ room b, s.barrier room = some b → b.phase = .preparing →
    ∀ room' snapshot, .committed room' snapshot ∈ s.history →
      snapshot.payload.mediaGeneration ≠ b.prepare.mediaGeneration

theorem StartsOnce.inOrder_step (h : StartsOnce s) (hguard : guard s l) :
    Throughout InOrder (effect s l).history := by
  rw [effect_history]
  cases l with
  | prepare room b =>
    refine ⟨fun room' id earlier at_ hmem => ?_, h.inOrder⟩
    have hle := h.allocated room' id earlier at_ hmem
    rw [hguard.generation]
    omega
  | commit room snapshot b' =>
    have hlawful := hguard.1
    apply And.intro
    · simp only [InOrder]
      rw [hlawful.mediaGeneration]
      exact ⟨h.accepted room _ hlawful.barrier, h.uncommitted room _ hlawful.barrier hlawful.phase⟩
    · exact h.inOrder
  | started clientId r b started position =>
    apply h.inOrder.append
    intro event hmem past
    simp only [events] at hmem
    split at hmem <;> simp at hmem
    · rcases hmem with rfl | rfl <;> trivial
    · subst hmem
      trivial
  | retain r requestIds =>
    apply h.inOrder.append
    intro event hmem past
    obtain ⟨id, -, rfl⟩ := List.mem_map.mp hmem
    trivial
  | _ =>
    apply h.inOrder.append
    intro event hmem past
    simp only [events, List.mem_singleton, List.not_mem_nil] at hmem
    try (subst hmem; trivial)

/-- What the event says of the label that records it. -/
def Label.Explains (l : Label) : Event → Prop
  | .prepareAccepted room _ generation _ =>
      ∃ b, l = .prepare room b ∧ b.prepare.mediaGeneration = generation
  | .committed room snapshot => ∃ b', l = .commit room snapshot b'
  | _ => True

theorem explains_of_events {event : Event} (h : event ∈ events s l) : l.Explains event := by
  cases l with
  | prepare room b =>
    obtain rfl := List.mem_singleton.mp h
    exact ⟨b, rfl, rfl⟩
  | commit room snapshot b' =>
    obtain rfl := List.mem_singleton.mp h
    exact ⟨b', rfl⟩
  | started clientId room b started position =>
    simp only [events] at h
    split at h <;> simp at h
    · rcases h with rfl | rfl <;> trivial
    · subst h
      trivial
  | retain room requestIds =>
    obtain ⟨id, -, rfl⟩ := List.mem_map.mp h
    trivial
  | _ =>
    simp only [events, List.mem_singleton, List.not_mem_nil] at h
    try (subst h; trivial)

theorem StartsOnce.step (h : StartsOnce s) (hguard : guard s l) : StartsOnce (effect s l) where
  inOrder := h.inOrder_step hguard
  allocated := by
    intro room id generation at_ hmem
    rcases mem_effect_history.mp hmem with hnew | hold
    · obtain ⟨b, rfl, rfl⟩ := explains_of_events hnew
      rw [effect_prepare_generation]
    · exact (h.allocated room id generation at_ hold).trans (effect_generation_le hguard)
  accepted := by
    intro room b' hb'
    rcases advances_of_effect hguard hb' with rfl | ⟨b, hb, hadvances⟩
    · exact ⟨_, _, mem_effect_history.mpr (.inl List.mem_cons_self)⟩
    · obtain ⟨id, at_, hmem⟩ := h.accepted room b hb
      rw [hadvances.prepare]
      exact ⟨id, at_, mem_effect_history.mpr (.inr hmem)⟩
  uncommitted := by
    intro room b' hb' hphase room' snapshot hmem
    rcases mem_effect_history.mp hmem with hnew | hold
    · -- another room commits, and its start has another generation
      obtain ⟨committed, rfl⟩ := explains_of_events hnew
      have hlawful := hguard.1
      rcases preparing_of_effect hguard hb' hphase with hprepare | ⟨b, hb, -, hsame⟩
      · cases hprepare
      · rw [hlawful.mediaGeneration, hsame]
        intro hgeneration
        obtain ⟨id, at_, hfirst⟩ := h.accepted room' _ hlawful.barrier
        obtain ⟨id', at', hsecond⟩ := h.accepted room b hb
        rw [hgeneration] at hfirst
        obtain rfl := room_of_generation h.inOrder hfirst hsecond
        have hwritten := effect_commit_barrier s room' snapshot committed
        rw [hb'] at hwritten
        obtain rfl := Option.some.inj hwritten
        rw [hguard.2.phase] at hphase
        cases hphase
    · rcases preparing_of_effect hguard hb' hphase with rfl | ⟨b, hb, hpreparing, hsame⟩
      · obtain ⟨id, at_, haccepted⟩ := accepted_of_committed h.inOrder hold
        have hle := h.allocated room' id _ at_ haccepted
        have hgeneration := hguard.generation
        omega
      · rw [hsame]
        exact h.uncommitted room b hb hpreparing room' snapshot hold

theorem Initial.startsOnce (h : Initial s) : StartsOnce s where
  inOrder := by
    rw [h.history]
    exact throughout_nil
  allocated room id generation at_ hmem := by
    rw [h.history] at hmem
    exact absurd hmem List.not_mem_nil
  accepted room b hb := by
    rw [h.barrier room] at hb
    cases hb
  uncommitted room b hb := by
    rw [h.barrier room] at hb
    cases hb

theorem Reachable.startsOnce (h : Reachable s) : StartsOnce s :=
  h.invariant (fun _ hinitial => hinitial.startsOnce) fun _ _ hguard hheld => hheld.step hguard

end Sorotte.Ideal
