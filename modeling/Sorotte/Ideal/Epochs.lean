import Sorotte.Framework.Chronicle
import Sorotte.Ideal.History

/-! # Playlist epochs

  Every accepted mutation of a playlist moves its epoch by one, and nothing else
  does.  A guard names the epoch it was made for, so among all the mutations of a
  room's lifetime at most one is accepted under it.
-/

namespace Sorotte.Ideal

open Server Sorotte.Framework

variable {s s' : State} {l : Label} {room : String} {newer older : List Event}

/-- An accepted mutation: the epoch it found, and its guard. -/
abbrev Mutation : Type := Nat × Option (Int × Nat)

/-- The mutation of the room's playlist that an event records. -/
def mutation (room : String) : Event → Option Mutation
  | .playlistAccepted r epoch expected => if r = room then some (epoch, expected) else none
  | _ => none

/-- The accepted mutations of the room's playlist, newest first. -/
def mutations (room : String) (history : List Event) : List Mutation :=
  history.filterMap (mutation room)

theorem mutations_append :
    mutations room (newer ++ older) = mutations room newer ++ mutations room older :=
  List.filterMap_append

/-! ### Guards -/

/-- From `epoch` on, a mutation finds what the mutations before it left, and its guard, if it has
    one, names that epoch. -/
def Orderly (epoch : Nat) (m : Mutation) (past : List Mutation) : Prop :=
  m.1 = epoch + past.length ∧ ∀ index expected, m.2 = some (index, expected) → expected = m.1

theorem epoch_lt {epoch : Nat} {ms : List Mutation} (h : Throughout (Orderly epoch) ms) :
    ∀ m ∈ ms, m.1 < epoch + ms.length := by
  induction ms with
  | nil => simp
  | cons m ms ih =>
    intro m' hm'
    rw [List.length_cons]
    rcases List.mem_cons.mp hm' with rfl | hold
    · have hfound := h.1.1
      omega
    · have hless := ih h.2 m' hold
      omega

theorem named_of_mem {epoch : Nat} {ms : List Mutation} (h : Throughout (Orderly epoch) ms) :
    ∀ m ∈ ms, ∀ index expected, m.2 = some (index, expected) → expected = m.1 := by
  induction ms with
  | nil => simp
  | cons m ms ih =>
    intro m' hm'
    rcases List.mem_cons.mp hm' with rfl | hold
    · exact h.1.2
    · exact ih h.2 m' hold

/-- **A guard is accepted at most once.** -/
theorem count_guard_le_one {epoch : Nat} {ms : List Mutation} (h : Throughout (Orderly epoch) ms)
    (index : Int) (expected : Nat) :
    ms.countP (fun m => m.2 = some (index, expected)) ≤ 1 := by
  induction ms with
  | nil => simp
  | cons m ms ih =>
    rw [List.countP_cons]
    by_cases hguard : m.2 = some (index, expected)
    · -- an older mutation under this guard would have found an older epoch
      have hnone : ms.countP (fun m => m.2 = some (index, expected)) = 0 := by
        apply List.countP_eq_zero.mpr
        intro m' hm'
        have hless := epoch_lt h.2 m' hm'
        obtain ⟨hfound, hnamed⟩ := h.1
        have hexpected := hnamed index expected hguard
        intro hsame
        have hother := named_of_mem h.2 m' hm' index expected (of_decide_eq_true hsame)
        omega
      simp [hnone, hguard]
    · simpa [hguard] using ih h.2

/-! ### Runs -/

/-- What the mutations among the new events of a run left of the room's playlist. -/
structure Counted (s s' : State) (room : String) (newer : List Event) : Prop where
  epoch : (s'.playlist room).epoch = (s.playlist room).epoch + (mutations room newer).length
  unchanged : mutations room newer = [] → s'.playlist room = s.playlist room
  orderly : Throughout (Orderly (s.playlist room).epoch) (mutations room newer)

theorem mutations_events (h : ∀ playlist expected, l ≠ .playlist room playlist expected) :
    mutations room (events s l) = [] := by
  apply List.filterMap_eq_nil_iff.mpr
  intro event hmem
  cases l with
  | playlist r playlist expected =>
    rw [List.mem_singleton.mp hmem]
    exact if_neg fun hr => h playlist expected (by rw [hr])
  | started clientId r b started position =>
    simp only [events] at hmem
    split at hmem <;> simp at hmem
    · rcases hmem with rfl | rfl <;> rfl
    · rw [hmem]
      rfl
  | retain r requestIds =>
    obtain ⟨id, -, rfl⟩ := List.mem_map.mp hmem
    rfl
  | _ =>
    simp only [events, List.mem_singleton, List.not_mem_nil] at hmem
    try (rw [hmem]; rfl)

theorem effect_playlist (h : ∀ playlist expected, l ≠ .playlist room playlist expected)
    (hdiscard : l ≠ .discard room) : (effect s l).playlist room = s.playlist room := by
  cases l with
  | playlist r playlist expected =>
    exact Function.update_of_ne (fun hr => h playlist expected (by rw [hr])) _ _
  | discard r => exact Function.update_of_ne (fun hr => hdiscard (by rw [hr])) _ _
  | prepare r b => simp only [effect, State.beginGeneration]; split <;> rfl
  | commit r snapshot b' => simp only [effect]; split <;> rfl
  | _ => rfl

theorem Counted.step (h : Counted s s' room newer) (hguard : guard s' l)
    (hdiscard : l ≠ .discard room) : Counted s (effect s' l) room (events s' l ++ newer) := by
  by_cases hplaylist : ∃ playlist expected, l = .playlist room playlist expected
  · obtain ⟨playlist, expected, rfl⟩ := hplaylist
    obtain ⟨hepoch, hnamed⟩ := hguard
    have hmutations : mutations room (events s' (.playlist room playlist expected) ++ newer) =
        (playlist.epoch, expected) :: mutations room newer := by
      simp [mutations, events, mutation]
    have hfound := hepoch.trans h.epoch
    constructor
    · rw [hmutations, List.length_cons]
      show (Function.update s'.playlist room playlist.advanceEpoch room).epoch = _
      rw [Function.update_self, RoomPlaylistState.advanceEpoch]
      dsimp only
      omega
    · intro hnone
      rw [hmutations] at hnone
      cases hnone
    · rw [hmutations, throughout_cons]
      refine ⟨⟨hfound, ?_⟩, h.orderly⟩
      intro index epoch hexpected
      exact (hnamed index epoch hexpected).2.symm.trans hepoch.symm
  · have hother : ∀ playlist expected, l ≠ .playlist room playlist expected :=
      fun playlist expected hl => hplaylist ⟨playlist, expected, hl⟩
    have hmutations : mutations room (events s' l ++ newer) = mutations room newer := by
      rw [mutations_append, mutations_events hother, List.nil_append]
    have hkept := effect_playlist (s := s') hother hdiscard
    constructor
    · rw [hkept, hmutations]
      exact h.epoch
    · rw [hkept, hmutations]
      exact h.unchanged
    · rw [hmutations]
      exact h.orderly

/-- **Playlists over a run** in which the room was not discarded. -/
theorem counted_of_steps {allowed : Label → Prop}
    (h : Relation.ReflTransGen (Steps allowed) s s') (room : String) :
    ∃ newer, s'.history = newer ++ s.history ∧
      (.roomDiscarded room ∉ newer → Counted s s' room newer) := by
  induction h with
  | refl => exact ⟨[], rfl, fun _ => ⟨rfl, fun _ => rfl, throughout_nil⟩⟩
  | @tail t u _ hlast ih =>
    obtain ⟨newer, hhistory, hcounted⟩ := ih
    obtain ⟨l, -, hguard, rfl⟩ := hlast
    refine ⟨events t l ++ newer, ?_, fun hkept => ?_⟩
    · rw [effect_history, hhistory, List.append_assoc]
    · have hdiscard : l ≠ .discard room := by
        rintro rfl
        exact hkept (List.mem_append_left _ List.mem_cons_self)
      exact (hcounted fun hmem => hkept (List.mem_append_right _ hmem)).step hguard hdiscard

/-- Steps that touch no playlist and discard no room leave the playlist and its mutations. -/
theorem playlist_kept_of_steps {allowed : Label → Prop}
    (hallowed : ∀ l, allowed l → (∀ playlist expected, l ≠ .playlist room playlist expected)
      ∧ l ≠ .discard room)
    (h : Relation.ReflTransGen (Steps allowed) s s') :
    s'.playlist room = s.playlist room
      ∧ mutations room s'.history = mutations room s.history := by
  induction h with
  | refl => exact ⟨rfl, rfl⟩
  | @tail t u _ hlast ih =>
    obtain ⟨l, hl, -, rfl⟩ := hlast
    obtain ⟨hother, hdiscard⟩ := hallowed l hl
    rw [effect_playlist hother hdiscard, effect_history, mutations_append, mutations_events hother,
      List.nil_append]
    exact ih

end Sorotte.Ideal
