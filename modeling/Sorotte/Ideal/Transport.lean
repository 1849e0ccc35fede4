import Sorotte.Ideal.Starts

/-! # Transport while a start prepares

  A preparing start freezes its room: the room is paused at the target, every
  member that reported a position reported the target, and no buffering policy
  owns the pause.  Each label that could move the room either asks first that
  nothing prepares, or finds one of these facts in its way.
-/

namespace Sorotte.Ideal

open Server

variable {s s' : State} {l : Label} {room r : String} {target : Seconds}

/-- The room is paused at `target`, and nothing in it could move it. -/
structure Frozen (s : State) (room : String) (target : Seconds) : Prop where
  paused : s.paused room = true
  position : s.position room = target
  sample : ∀ clientId x, s.inRoom clientId room → s.sample clientId = some x → x = target
  policy : ∀ k, s.policy room = some k → k.pausedByPolicy = false

/-- **Invariant**: a preparing start freezes its room at its target. -/
def Freezes (s : State) : Prop :=
  ∀ room b, s.barrier room = some b → b.phase = .preparing → Frozen s room b.prepare.targetPosition

theorem Frozen.congr (h : Frozen s room target) (hpaused : s'.paused room = s.paused room)
    (hposition : s'.position room = s.position room) (hsessions : s'.sessions = s.sessions)
    (hsample : s'.sample = s.sample) (hpolicy : s'.policy room = s.policy room) :
    Frozen s' room target where
  paused := by rw [hpaused, h.paused]
  position := by rw [hposition, h.position]
  sample clientId x hin hx := by
    rw [hsample] at hx
    obtain ⟨session, hsession, hroom⟩ := hin
    rw [hsessions] at hsession
    exact h.sample clientId x ⟨session, hsession, hroom⟩ hx
  policy k hk := h.policy k (hpolicy ▸ hk)

/-! ### Transport -/

/-- A client is in one room at a time. -/
theorem inRoom_unique {clientId : String} (h : s.inRoom clientId room) (h' : s.inRoom clientId r) :
    room = r := by
  obtain ⟨session, hsession, rfl⟩ := h
  obtain ⟨session', hsession', rfl⟩ := h'
  rw [hsession] at hsession'
  rw [Option.some.inj hsession']

theorem Frozen.transport_elsewhere (h : Frozen s room target) (hr : room ≠ r) (paused : Bool)
    (position : Seconds) : Frozen (s.setTransport r paused position) room target where
  paused := (Function.update_of_ne hr _ _).trans h.paused
  position := (Function.update_of_ne hr _ _).trans h.position
  sample clientId x hin hx := by
    have hkept : (s.setTransport r paused position).sample clientId = s.sample clientId :=
      if_neg fun hother => hr (inRoom_unique hin hother)
    rw [hkept] at hx
    exact h.sample clientId x hin hx
  policy := h.policy

theorem frozen_setTransport (s : State) (room : String) (target : Seconds)
    (hpolicy : ∀ k, s.policy room = some k → k.pausedByPolicy = false) :
    Frozen (s.setTransport room true target) room target where
  paused := Function.update_self ..
  position := Function.update_self ..
  sample clientId x hin hx := by
    have hplaced : (s.setTransport room true target).sample clientId = some target := if_pos hin
    rw [hplaced] at hx
    exact (Option.some.inj hx).symm
  policy := hpolicy

theorem Frozen.setPolicy (h : Frozen s room target) (k : Option Policy)
    (hk : r = room → ∀ k', k = some k' → k'.pausedByPolicy = false) :
    Frozen (s.setPolicy r k) room target where
  paused := h.paused
  position := h.position
  sample := h.sample
  policy k' hk' := by
    by_cases hr : r = room
    · subst hr
      rw [State.setPolicy_self] at hk'
      exact hk rfl k' hk'
    · have hkept : (s.setPolicy r k).policy room = s.policy room :=
        Function.update_of_ne (Ne.symm hr) _ _
      exact h.policy k' (hkept ▸ hk')

/-! ### Steps -/

/-- Samples are only written for one client at a time, here of another or of a newly seen room. -/
theorem Frozen.setSample (h : Frozen s room target) (clientId : String) (position : Option Seconds)
    (hplaced : s.inRoom clientId room → ∀ x, position = some x → x = target) :
    Frozen (s.setSample clientId position) room target where
  paused := h.paused
  position := h.position
  sample c x hin hx := by
    by_cases hc : c = clientId
    · subst hc
      have hwritten : (s.setSample c position).sample c = position := Function.update_self ..
      exact hplaced hin x (hwritten ▸ hx)
    · have hkept : (s.setSample clientId position).sample c = s.sample c :=
        Function.update_of_ne hc _ _
      exact h.sample c x hin (hkept ▸ hx)
  policy := h.policy

/-- A session that goes, or stays in its room, brings nobody into the room. -/
theorem Frozen.setSession (h : Frozen s room target) (clientId : String)
    (session : Option ServerSession)
    (hstays : ∀ held, session = some held → held.room = room → s.inRoom clientId room) :
    Frozen (s.setSession clientId session) room target where
  paused := h.paused
  position := h.position
  sample c x hin hx := by
    obtain ⟨held, hheld, hroom⟩ := hin
    by_cases hc : c = clientId
    · subst hc
      have hwritten : (s.setSession c session).sessions c = session := Function.update_self ..
      exact h.sample c x (hstays held (hwritten ▸ hheld) hroom) hx
    · have hkept : (s.setSession clientId session).sessions c = s.sessions c :=
        Function.update_of_ne hc _ _
      exact h.sample c x ⟨held, hkept ▸ hheld, hroom⟩ hx
  policy := h.policy

/-- A client that arrives where the room is paused, or nowhere. -/
theorem Frozen.arrival (h : Frozen s room target) (clientId : String) (session : ServerSession)
    (position : Option Seconds) (hjoins : JoinsAt s session.room position) :
    Frozen ((s.setSession clientId (some session)).setSample clientId position) room target where
  paused := h.paused
  position := h.position
  sample c x hin hx := by
    obtain ⟨held, hheld, hroom⟩ := hin
    by_cases hc : c = clientId
    · subst hc
      have hsession : ((s.setSession c (some session)).setSample c position).sessions c =
          some session := Function.update_self ..
      have hsample : ((s.setSession c (some session)).setSample c position).sample c = position :=
        Function.update_self ..
      rw [hsession] at hheld
      obtain rfl := Option.some.inj hheld
      subst hroom
      rw [hjoins x (hsample ▸ hx) h.paused, h.position]
    · have hsession : ((s.setSession clientId (some session)).setSample clientId position).sessions
          c = s.sessions c := Function.update_of_ne hc _ _
      have hsample : ((s.setSession clientId (some session)).setSample clientId position).sample
          c = s.sample c := Function.update_of_ne hc _ _
      exact h.sample c x ⟨held, hsession ▸ hheld, hroom⟩ (hsample ▸ hx)
  policy := h.policy

/-- **A frozen room stays frozen while its start prepares.** -/
theorem Frozen.step (h : Frozen s room target) (hguard : guard s l) (hbefore : s.preparing room)
    (hafter : (effect s l).preparing room) (hlabel : ∀ b, l ≠ .prepare room b) :
    Frozen (effect s l) room target := by
  have helsewhere : ∀ {r : String}, ¬ s.preparing r → room ≠ r := by
    rintro r hr rfl
    exact hr hbefore
  cases l with
  | join clientId session position =>
    exact (h.arrival clientId session position hguard.2.2).congr rfl rfl rfl rfl rfl
  | leave clientId session =>
    have hgone := h.setSession clientId none fun held hheld => by cases hheld
    have hforgotten := hgone.setSample clientId none fun _ x hx => by cases hx
    exact hforgotten.congr rfl rfl rfl rfl rfl
  | move clientId session newRoom position =>
    exact (h.arrival clientId { session with room := newRoom } position hguard.2.2.2).congr
      rfl rfl rfl rfl rfl
  | describe clientId session session' =>
    apply h.setSession
    intro held hheld hroom
    obtain rfl := Option.some.inj hheld
    exact ⟨session, hguard.1, hguard.2.2 ▸ hroom⟩
  | discard r =>
    by_cases hr : room = r
    · subst hr
      obtain ⟨b, hb, -⟩ := hafter
      have hnone : (effect s (.discard room)).barrier room = none := Function.update_self ..
      rw [hnone] at hb
      cases hb
    · exact h.congr (Function.update_of_ne hr _ _) (Function.update_of_ne hr _ _) rfl rfl
        (Function.update_of_ne hr _ _)
  | refresh r position =>
    by_cases hr : room = r
    · subst hr
      -- the room follows a member, and every member is at the target
      obtain ⟨clientId, x, hin, hx, hplaced⟩ := hguard
      have hposition : (effect s (.refresh room position)).position room = target := by
        show Function.update s.position room position room = target
        rw [Function.update_self, hplaced h.paused]
        exact h.sample clientId x hin hx
      exact ⟨h.paused, hposition, h.sample, h.policy⟩
    · exact h.congr rfl (Function.update_of_ne hr _ _) rfl rfl rfl
  | place r paused position =>
    rcases hguard.1 with hfree | hplaying
    · exact h.transport_elsewhere (helsewhere hfree) paused position
    · apply h.transport_elsewhere _ paused position
      rintro rfl
      rw [h.paused] at hplaying
      cases hplaying
  | play r position =>
    exact (h.transport_elsewhere (helsewhere hguard) false position).congr rfl rfl rfl rfl rfl
  | recover r position =>
    exact (h.transport_elsewhere (helsewhere hguard.1) false position).congr rfl rfl rfl rfl rfl
  | sample clientId session position =>
    apply h.setSample
    intro hin
    obtain ⟨held, hheld, rfl⟩ := hin
    rw [hguard.1] at hheld
    obtain rfl := Option.some.inj hheld
    exact absurd hbefore hguard.2
  | hold r position owner =>
    have hr : room ≠ r := by
      rintro rfl
      obtain ⟨hplaying, -⟩ := hguard
      rw [h.paused] at hplaying
      cases hplaying
    have hheld := h.setPolicy ((s.policy r).map (·.withPause true)) fun heq => absurd heq.symm hr
    exact (hheld.transport_elsewhere hr true position).congr rfl rfl rfl rfl rfl
  | pause r actor position =>
    have hr : room ≠ r := by
      rintro rfl
      rw [guard, h.paused] at hguard
      cases hguard
    exact (h.transport_elsewhere hr true position).congr rfl rfl rfl rfl rfl
  | resume r position =>
    have hr : room ≠ r := by
      rintro rfl
      obtain ⟨⟨k, hk, hpaused⟩, -⟩ := hguard
      rw [h.policy k hk] at hpaused
      cases hpaused
    have hrelaxed := h.setPolicy ((s.policy r).map (·.withPause false)) fun heq =>
      absurd heq.symm hr
    exact (hrelaxed.transport_elsewhere hr false position).congr rfl rfl rfl rfl rfl
  | select r =>
    have hr : room ≠ r := by
      apply helsewhere
      rintro ⟨b, hb, hphase⟩
      exact hguard b hb (.inl hphase)
    have hended : Frozen (s.endGeneration r) room target := h.congr rfl rfl rfl rfl rfl
    exact hended.transport_elsewhere hr true 0
  | prepare r b =>
    have hr : room ≠ r := fun heq => hlabel b (by rw [heq])
    have hpolicy := h.setPolicy (s.policyForStart r b.prepare.mediaGeneration) fun heq =>
      absurd heq.symm hr
    have hplaced := hpolicy.transport_elsewhere hr true b.prepare.targetPosition
    simp only [effect, State.beginGeneration]
    split
    · exact hplaced.congr rfl rfl rfl rfl rfl
    · exact hplaced.congr rfl rfl rfl rfl rfl
  | commit r snapshot b' =>
    have hr : room ≠ r := by
      rintro rfl
      obtain ⟨b, hb, hphase⟩ := hafter
      rw [effect_commit_barrier] at hb
      rw [← Option.some.inj hb, hguard.2.phase] at hphase
      cases hphase
    have hplayed := h.transport_elsewhere hr false snapshot.barrier.prepare.targetPosition
    simp only [effect]
    split
    · exact hplayed.congr rfl rfl rfl rfl rfl
    · exact hplayed.congr rfl rfl rfl rfl rfl
  | configure r generation source =>
    apply h.setPolicy
    intro _ k hk
    rw [← Option.some.inj hk]
  | relax r =>
    apply h.setPolicy
    intro _ k hk
    obtain ⟨k', -, rfl⟩ := Option.map_eq_some_iff.mp hk
    rfl
  | restorePolicy r =>
    apply h.setPolicy
    intro hr k hk
    obtain ⟨k', hk', rfl⟩ := Option.map_eq_some_iff.mp hk
    exact h.policy k' (hr ▸ hk')
  | _ => exact h.congr rfl rfl rfl rfl rfl

/-- The policy that a new start leaves in place owns no pause. -/
theorem policyForStart_unpaused (s : State) (room : String) (generation : Nat) (k : Policy)
    (h : s.policyForStart room generation = some k) : k.pausedByPolicy = false := by
  unfold State.policyForStart at h
  split at h
  · cases h
  · split at h
    · rw [← Option.some.inj h]
      rfl
    · cases h

/-- **Every step keeps preparing rooms frozen.** -/
theorem Freezes.step (h : Freezes s) (hguard : guard s l) : Freezes (effect s l) := by
  intro room b' hb' hphase
  rcases preparing_of_effect hguard hb' hphase with rfl | ⟨b, hb, hpreparing, hprepare⟩
  · -- a new start places its room
    have hpolicy : ∀ k, (s.setPolicy room
        (s.policyForStart room b'.prepare.mediaGeneration)).policy room = some k →
        k.pausedByPolicy = false := by
      intro k hk
      rw [State.setPolicy_self] at hk
      exact policyForStart_unpaused s room _ k hk
    have hplaced := frozen_setTransport (s.setPolicy room
      (s.policyForStart room b'.prepare.mediaGeneration)) room b'.prepare.targetPosition hpolicy
    simp only [effect, State.beginGeneration]
    split
    · exact hplaced.congr rfl rfl rfl rfl rfl
    · exact hplaced.congr rfl rfl rfl rfl rfl
  · rw [hprepare]
    by_cases hlabel : ∃ installed, l = .prepare room installed
    · obtain ⟨installed, rfl⟩ := hlabel
      exact absurd (.inl hpreparing) (hguard.previous b hb)
    · exact (h room b hb hpreparing).step hguard ⟨b, hb, hpreparing⟩ ⟨b', hb', hphase⟩
        fun installed hl => hlabel ⟨installed, hl⟩

theorem Initial.freezes (h : Initial s) : Freezes s := by
  intro room b hb
  rw [h.barrier room] at hb
  cases hb

end Sorotte.Ideal
