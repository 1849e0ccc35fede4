import Sorotte.Ideal.Runs

/-! # Starts

  What a step can make of the start of a room.  Every lifecycle property is
  read off this one inversion: a start is installed by a prepare, commits once,
  completes with its last Started, or settles; anything else leaves its
  prepare, its commit and its phase alone.
-/

namespace Sorotte.Ideal

open Server

variable {s : State} {l : Label} {room : String} {b b' : RoomPlaybackBarrier}

/-- What a step makes of a start that it finds in a room. -/
inductive Advances (room : String) (l : Label) (b b' : RoomPlaybackBarrier) : Prop
  /-- At most its participants and its owner change. -/
  | stays (hprepare : b'.prepare = b.prepare) (hcommit : b'.commit = b.commit)
      (hrevision : b'.stateRevision = b.stateRevision) (hphase : b'.phase = b.phase)
  | commits (snapshot : CommitSnapshot) (hlabel : l = .commit room snapshot b')
      (hbarrier : snapshot.barrier = b) (h : Commits b b' snapshot.payload)
  | completes (clientId : String) (started : StartedAckPayload) (position : Seconds)
      (hlabel : l = .started clientId room b started position)
      (hcompleted : b' = b.withStarted clientId position) (hphase : b'.phase = .complete)
  | settles (hlabel : l = .settle room b b') (h : Settles b b')

theorem Advances.refl (b : RoomPlaybackBarrier) : Advances room l b b := .stays rfl rfl rfl rfl

theorem withStarted_prepare (b : RoomPlaybackBarrier) (clientId : String) (position : Seconds) :
    (b.withStarted clientId position).prepare = b.prepare := by
  unfold RoomPlaybackBarrier.withStarted
  dsimp only
  split <;> rfl

theorem withStarted_commit (b : RoomPlaybackBarrier) (clientId : String) (position : Seconds) :
    (b.withStarted clientId position).commit = b.commit := by
  unfold RoomPlaybackBarrier.withStarted
  dsimp only
  split <;> rfl

theorem withStarted_stateRevision (b : RoomPlaybackBarrier) (clientId : String)
    (position : Seconds) : (b.withStarted clientId position).stateRevision = b.stateRevision := by
  unfold RoomPlaybackBarrier.withStarted
  dsimp only
  split <;> rfl

/-- A Started acknowledgement completes the start or leaves its phase alone. -/
theorem withStarted_phase (b : RoomPlaybackBarrier) (clientId : String) (position : Seconds) :
    (b.withStarted clientId position).phase = .complete ∨
      (b.withStarted clientId position).phase = b.phase := by
  unfold RoomPlaybackBarrier.withStarted
  dsimp only
  split
  · exact .inl rfl
  · exact .inr rfl

/-- A room that another room's label wrote to keeps its start. -/
theorem advances_of_update {r : String} {written : Option RoomPlaybackBarrier}
    (h : Function.update s.barrier r written room = some b')
    (hself : r = room → written = some b' → l = .prepare room b' ∨
      ∃ b, s.barrier room = some b ∧ Advances room l b b') :
    l = .prepare room b' ∨ ∃ b, s.barrier room = some b ∧ Advances room l b b' := by
  by_cases hr : r = room
  · subst hr
    rw [Function.update_self] at h
    exact hself rfl h
  · rw [Function.update_of_ne (Ne.symm hr)] at h
    exact .inr ⟨b', h, .refl b'⟩

/-- **What a step makes of a room's start.** -/
theorem advances_of_effect (hguard : guard s l) (h : (effect s l).barrier room = some b') :
    l = .prepare room b' ∨ ∃ b, s.barrier room = some b ∧ Advances room l b b' := by
  by_cases hwrites : l.writesBarrier
  · cases l with
    | discard r => exact advances_of_update h fun _ hb => by cases hb
    | drop r => exact advances_of_update h fun _ hb => by cases hb
    | prepare r installed =>
      rw [effect_barrier_prepare] at h
      apply advances_of_update h
      rintro rfl hb
      exact .inl (by rw [Option.some.inj hb])
    | commit r snapshot committed =>
      rw [effect_barrier_commit] at h
      apply advances_of_update h
      rintro rfl hb
      obtain rfl := Option.some.inj hb
      exact .inr ⟨snapshot.barrier, hguard.1.barrier, .commits snapshot rfl rfl hguard.2⟩
    | ready clientId r held ready =>
      apply advances_of_update h
      rintro rfl hb
      obtain rfl := Option.some.inj hb
      exact .inr ⟨held, hguard.1, .stays rfl rfl rfl rfl⟩
    | disconnect clientId r held =>
      apply advances_of_update h
      rintro rfl hb
      obtain rfl := Option.some.inj hb
      exact .inr ⟨held, hguard.1, .stays rfl rfl rfl rfl⟩
    | started clientId r held started position =>
      apply advances_of_update h
      rintro rfl hb
      obtain rfl := Option.some.inj hb
      refine .inr ⟨held, hguard.1, ?_⟩
      rcases withStarted_phase held clientId position with hphase | hphase
      · exact .completes clientId started position rfl rfl hphase
      · exact .stays (withStarted_prepare ..) (withStarted_commit ..)
          (withStarted_stateRevision ..) hphase
    | settle r held settled =>
      apply advances_of_update h
      rintro rfl hb
      obtain rfl := Option.some.inj hb
      exact .inr ⟨held, hguard.1, .settles rfl hguard.2⟩
    | rebind clientId session sequence held =>
      apply advances_of_update h
      intro hroom hb
      subst hroom
      obtain rfl := Option.some.inj hb
      exact .inr ⟨held, hguard.2, .stays rfl rfl rfl rfl⟩
    | reconcile r g g' reconciled =>
      apply advances_of_update h
      rintro rfl hb
      have hrel := hguard.2.2
      rw [hb] at hrel
      cases hheld : s.barrier r with
      | none =>
        rw [hheld] at hrel
        cases hrel
      | some held =>
        rw [hheld] at hrel
        cases hrel with
        | some hsame =>
          exact .inr ⟨held, hheld, .stays hsame.prepare hsame.commit hsame.stateRevision hsame.phase⟩
    | _ => exact hwrites.elim
  · rw [effect_barrier hwrites] at h
    exact .inr ⟨b', h, .refl b'⟩

theorem Advances.prepare (h : Advances room l b b') : b'.prepare = b.prepare := by
  cases h with
  | stays hprepare => exact hprepare
  | commits _ _ _ hcommits => exact hcommits.prepare
  | completes clientId _ position _ hcompleted =>
    rw [hcompleted]
    exact withStarted_prepare b clientId position
  | settles _ hsettles => exact hsettles.prepare

/-- **A start stays in its room** until the room is discarded, or it is dropped or replaced. -/
theorem start_kept (hguard : guard s l) (hb : s.barrier room = some b)
    (hprepare : ∀ b', l ≠ .prepare room b') (hdiscard : l ≠ .discard room)
    (hdrop : l ≠ .drop room) :
    ∃ b', (effect s l).barrier room = some b' ∧ Advances room l b b' := by
  have hwritten : ∀ (r : String) (written : Option RoomPlaybackBarrier),
      (room = r → written.isSome = true) →
      (Function.update s.barrier r written room).isSome = true := by
    intro r written hsome
    by_cases hr : room = r
    · subst hr
      rw [Function.update_self]
      exact hsome rfl
    · rw [Function.update_of_ne hr, hb]
      rfl
  have hsome : ((effect s l).barrier room).isSome = true := by
    by_cases hwrites : l.writesBarrier
    · cases l with
      | discard r => exact hwritten r none fun hr => absurd (by rw [hr]) hdiscard
      | drop r => exact hwritten r none fun hr => absurd (by rw [hr]) hdrop
      | prepare r installed =>
        rw [effect_barrier_prepare]
        exact hwritten r _ fun _ => rfl
      | commit r snapshot committed =>
        rw [effect_barrier_commit]
        exact hwritten r _ fun _ => rfl
      | reconcile r g g' reconciled =>
        apply hwritten r reconciled
        rintro rfl
        have hrel := hguard.2.2
        rw [hb] at hrel
        cases hrel
        rfl
      | ready clientId r held ready => exact hwritten r _ fun _ => rfl
      | disconnect clientId r held => exact hwritten r _ fun _ => rfl
      | started clientId r held started position => exact hwritten r _ fun _ => rfl
      | settle r held settled => exact hwritten r _ fun _ => rfl
      | rebind clientId session sequence held => exact hwritten session.room _ fun _ => rfl
      | _ => exact hwrites.elim
    · rw [effect_barrier hwrites, hb]
      rfl
  obtain ⟨b', hb'⟩ := Option.isSome_iff_exists.mp hsome
  rcases advances_of_effect hguard hb' with hinstalled | ⟨held, hheld, hadvances⟩
  · exact absurd hinstalled (hprepare b')
  · rw [hb] at hheld
    obtain rfl := Option.some.inj hheld
    exact ⟨b', hb', hadvances⟩

/-- A start that prepares was installed just now or prepared before. -/
theorem preparing_of_effect (hguard : guard s l) (h : (effect s l).barrier room = some b')
    (hphase : b'.phase = .preparing) :
    l = .prepare room b' ∨
      ∃ b, s.barrier room = some b ∧ b.phase = .preparing ∧ b'.prepare = b.prepare := by
  rcases advances_of_effect hguard h with hprepare | ⟨b, hb, hadvances⟩
  · exact .inl hprepare
  · right
    cases hadvances with
    | stays hprepare _ _ hsame => exact ⟨b, hb, hsame ▸ hphase, hprepare⟩
    | commits snapshot _ _ hcommits =>
      rw [hcommits.phase] at hphase
      cases hphase
    | completes _ _ _ _ _ hcomplete =>
      rw [hcomplete] at hphase
      cases hphase
    | settles _ hsettles =>
      rcases hsettles.phase with hdegraded | ⟨-, hawaiting⟩
      · rw [hdegraded] at hphase
        cases hphase
      · rw [hawaiting] at hphase
        cases hphase

end Sorotte.Ideal
