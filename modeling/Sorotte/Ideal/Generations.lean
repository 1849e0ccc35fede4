import Sorotte.Ideal.Commits

/-! # Generations

  Starts, buffering policies and coordinators each carry a media generation.  As
  long as no client names the generation of a policy itself, every generation in
  the server was allocated by it, and around an active start they all agree.
-/

namespace Sorotte.Ideal

open Server

variable {s : State} {l : Label} {room : String} {generation : Nat}

/-! ### What a step does to generations -/

/-- A start that is active after a step was active before, or is the one being prepared. -/
theorem active_of_effect {b' : RoomPlaybackBarrier} (hguard : guard s l)
    (hb' : (effect s l).barrier room = some b') (hactive : active b') :
    l = .prepare room b' ∨
      ∃ b, s.barrier room = some b ∧ active b ∧ b'.prepare = b.prepare := by
  rcases advances_of_effect hguard hb' with hprepare | ⟨b, hb, hadvances⟩
  · exact .inl hprepare
  · right
    refine ⟨b, hb, ?_, hadvances.prepare⟩
    cases hadvances with
    | stays _ _ _ hphase =>
      unfold active at hactive ⊢
      rwa [hphase] at hactive
    | commits snapshot hlabel hbarrier hcommits =>
      subst hlabel hbarrier
      exact .inl hguard.1.phase
    | completes _ _ _ _ _ hphase => rcases hactive with h | h <;> rw [hphase] at h <;> cases h
    | settles _ hsettles =>
      rcases hsettles.phase with hdegraded | ⟨-, hawaiting⟩
      · rcases hactive with h | h <;> rw [hdegraded] at h <;> cases h
      · rcases hactive with h | h <;> rw [hawaiting] at h <;> cases h

/-- An edit of a coordinator that keeps its generation. -/
theorem generation_of_map {s' : State} {r : String} {f : Gate → Gate} {g' : Gate}
    (h : s'.gate = Function.update s.gate r ((s.gate r).map f))
    (hf : ∀ g, (f g).mediaGeneration = g.mediaGeneration) (hg' : s'.gate room = some g') :
    ∃ g, s.gate room = some g ∧ g'.mediaGeneration = g.mediaGeneration := by
  rw [h] at hg'
  by_cases hr : room = r
  · subst hr
    rw [Function.update_self] at hg'
    obtain ⟨g, hg, rfl⟩ := Option.map_eq_some_iff.mp hg'
    exact ⟨g, hg, hf g⟩
  · rw [Function.update_of_ne hr] at hg'
    exact ⟨g', hg', rfl⟩

/-- A coordinator that is replaced by one of the same generation. -/
theorem generation_of_replace {s' : State} {r : String} {g g' written : Gate}
    (hg : s.gate r = some g) (h : s'.gate = Function.update s.gate r (some written))
    (hsame : written.mediaGeneration = g.mediaGeneration) (hg' : s'.gate room = some g') :
    ∃ g, s.gate room = some g ∧ g'.mediaGeneration = g.mediaGeneration := by
  rw [h] at hg'
  by_cases hr : room = r
  · subst hr
    rw [Function.update_self] at hg'
    obtain rfl := Option.some.inj hg'
    exact ⟨g, hg, hsame⟩
  · rw [Function.update_of_ne hr] at hg'
    exact ⟨g', hg', rfl⟩

theorem generation_of_setOwner (s : State) (r : String) (owner : RoomPauseOwner) {g' : Gate}
    (hg' : (s.setOwner r owner).gate room = some g') :
    ∃ g, s.gate room = some g ∧ g'.mediaGeneration = g.mediaGeneration :=
  generation_of_map (f := (·.withOwner owner)) rfl (fun _ => rfl) hg'

theorem effect_prepare_gate (s : State) (room : String) (b : RoomPlaybackBarrier) :
    (effect s (.prepare room b)).gate =
      if s.readinessEnabled then
        Function.update s.gate room ((s.gate room).map fun g =>
          (g.replaceGeneration (some b.prepare.mediaGeneration)).withOwner
            (if g.pauseOwner.isUser then g.pauseOwner
              else .readinessStartGate b.prepare.mediaGeneration))
      else s.gate := by
  simp only [effect, State.beginGeneration]
  by_cases henabled : s.readinessEnabled = true
  · rw [if_pos henabled, if_pos (by exact henabled)]
    rfl
  · rw [if_neg henabled, if_neg (by exact henabled)]
    rfl

/-- Where the generation of a coordinator comes from. -/
inductive GateOrigin (s : State) (l : Label) (room : String) (g' : Gate) : Prop
  | stays (g : Gate) (hg : s.gate room = some g) (h : g'.mediaGeneration = g.mediaGeneration)
  | prepares (b : RoomPlaybackBarrier) (hlabel : l = .prepare room b)
      (h : g'.mediaGeneration = some b.prepare.mediaGeneration)
  | follows (generation : Nat) (source : PolicySource)
      (hlabel : l = .follow room generation source) (h : g'.mediaGeneration = some generation)
  | joins (username : String) (member : Member) (generation : Option Nat)
      (hlabel : l = .enroll room username member generation) (h : g'.mediaGeneration = generation)
  | selects (hlabel : l = .select room) (h : g'.mediaGeneration = none)

theorem gateOrigin (hguard : guard s l) {g' : Gate} (hg' : (effect s l).gate room = some g') :
    GateOrigin s l room g' := by
  have hstays : (∃ g, s.gate room = some g ∧ g'.mediaGeneration = g.mediaGeneration) →
      GateOrigin s l room g' := fun ⟨g, hg, hsame⟩ => .stays g hg hsame
  have hother : ∀ {r : String} {g : Option Gate} {s' : State},
      s'.gate = Function.update s.gate r g → room ≠ r → s'.gate room = some g' →
      GateOrigin s l room g' := by
    intro r g s' hgate hr hg'
    rw [hgate, Function.update_of_ne hr] at hg'
    exact .stays g' hg' rfl
  cases l with
  | play r position | recover r position | hold r position owner | resume r position
  | pause r actor position | claim r actor | arm r b | rearm r b | release r | disown r
  | automatic r owner | selectOwner r =>
    -- owners come and go without the generation
    exact hstays (generation_of_setOwner _ r _ hg')
  | select r =>
    by_cases hr : room = r
    · subst hr
      have hgate : (effect s (.select room)).gate room = _ := Function.update_self ..
      rw [hgate] at hg'
      obtain ⟨g, -, rfl⟩ := Option.map_eq_some_iff.mp hg'
      exact .selects rfl rfl
    · exact hother rfl hr hg'
  | records r g g₁ => exact hstays (generation_of_replace hguard.1 rfl hguard.2.1 hg')
  | reconcile r g g₁ b' => exact hstays (generation_of_replace hguard.1 rfl hguard.2.1.1 hg')
  | follow r n source =>
    by_cases hr : room = r
    · subst hr
      have hgate : (effect s (.follow room n source)).gate room = _ := Function.update_self ..
      rw [hgate] at hg'
      obtain ⟨g, -, rfl⟩ := Option.map_eq_some_iff.mp hg'
      exact .follows n source rfl rfl
    · exact hother rfl hr hg'
  | enroll r username member n =>
    by_cases hr : room = r
    · subst hr
      have hgate : (effect s (.enroll room username member n)).gate room = _ :=
        Function.update_self ..
      rw [hgate] at hg'
      obtain rfl := Option.some.inj hg'
      exact .joins username member n rfl rfl
    · exact hother rfl hr hg'
  | withdraw r username =>
    exact hstays (generation_of_map (f := fun g =>
      { g with members := Function.update g.members username none }) rfl (fun _ => rfl) hg')
  | dissolve r =>
    by_cases hr : room = r
    · subst hr
      have hgate : (effect s (.dissolve room)).gate room = none := Function.update_self ..
      rw [hgate] at hg'
      cases hg'
    · exact hother rfl hr hg'
  | prepare r b =>
    have hgate := effect_prepare_gate s r b
    split at hgate
    · by_cases hr : room = r
      · subst hr
        rw [hgate, Function.update_self] at hg'
        obtain ⟨g, -, rfl⟩ := Option.map_eq_some_iff.mp hg'
        exact .prepares b rfl rfl
      · exact hother hgate hr hg'
    · rw [hgate] at hg'
      exact .stays g' hg' rfl
  | commit r snapshot b' =>
    simp only [effect] at hg'
    split at hg'
    · exact hstays (generation_of_setOwner _ r _ hg')
    · exact .stays g' hg' rfl
  | _ => exact .stays g' hg' rfl

/-- Where the generations of a policy come from. -/
inductive PolicyOrigin (s : State) (l : Label) (room : String) (k' : Policy) : Prop
  | stays (k : Policy) (hk : s.policy room = some k) (h : k'.mediaGeneration = k.mediaGeneration)
      (hrequested : k'.requestedGeneration = k.requestedGeneration)
  | restores (k : Policy) (hk : s.policy room = some k)
      (h : k'.mediaGeneration = k.requestedGeneration)
      (hrequested : k'.requestedGeneration = k.requestedGeneration)
  | starts (b : RoomPlaybackBarrier) (hlabel : l = .prepare room b) (k : Policy)
      (hk : s.policy room = some k) (h : k.mediaGeneration = b.prepare.mediaGeneration)
  | configures (generation : Nat) (source : PolicySource)
      (hlabel : l = .configure room generation source) (h : k'.mediaGeneration = generation)
      (hrequested : k'.requestedGeneration = generation)

theorem policyOrigin {k' : Policy} (h : (effect s l).policy room = some k') :
    PolicyOrigin s l room k' := by
  have hsame : s.policy room = some k' → PolicyOrigin s l room k' :=
    fun hk => .stays k' hk rfl rfl
  -- a policy that only changes its pause
  have hpause : ∀ (r : String) (paused : Bool),
      Function.update s.policy r ((s.policy r).map (·.withPause paused)) room = some k' →
      PolicyOrigin s l room k' := by
    intro r paused hk'
    by_cases hr : room = r
    · subst hr
      rw [Function.update_self] at hk'
      obtain ⟨k, hk, rfl⟩ := Option.map_eq_some_iff.mp hk'
      exact .stays k hk rfl rfl
    · rw [Function.update_of_ne hr] at hk'
      exact hsame hk'
  cases l with
  | hold r position owner => exact hpause r true h
  | resume r position => exact hpause r false h
  | relax r => exact hpause r false h
  | restorePolicy r =>
    by_cases hr : room = r
    · subst hr
      have hwritten : (effect s (.restorePolicy room)).policy room = _ := Function.update_self ..
      rw [hwritten] at h
      obtain ⟨k, hk, rfl⟩ := Option.map_eq_some_iff.mp h
      exact .restores k hk rfl rfl
    · have hkept : (effect s (.restorePolicy r)).policy room = s.policy room :=
        Function.update_of_ne hr _ _
      exact hsame (hkept ▸ h)
  | discard r =>
    by_cases hr : room = r
    · subst hr
      have hgone : (effect s (.discard room)).policy room = none := Function.update_self ..
      rw [hgone] at h
      cases h
    · have hkept : (effect s (.discard r)).policy room = s.policy room :=
        Function.update_of_ne hr _ _
      exact hsame (hkept ▸ h)
  | configure r generation source =>
    by_cases hr : room = r
    · subst hr
      have hwritten : (effect s (.configure room generation source)).policy room = _ :=
        Function.update_self ..
      rw [hwritten] at h
      obtain rfl := Option.some.inj h
      exact .configures generation source rfl rfl rfl
    · have hkept : (effect s (.configure r generation source)).policy room = s.policy room :=
        Function.update_of_ne hr _ _
      exact hsame (hkept ▸ h)
  | prepare r b =>
    have hpolicy : (effect s (.prepare r b)).policy =
        Function.update s.policy r (s.policyForStart r b.prepare.mediaGeneration) := by
      simp only [effect, State.beginGeneration]
      split <;> rfl
    rw [hpolicy] at h
    by_cases hr : room = r
    · subst hr
      rw [Function.update_self, State.policyForStart] at h
      split at h
      · cases h
      · next k hk =>
        split at h
        · next hgeneration => exact .starts b rfl k hk hgeneration
        · cases h
    · rw [Function.update_of_ne hr] at h
      exact hsame h
  | commit r snapshot b' =>
    have hpolicy : (effect s (.commit r snapshot b')).policy = s.policy := by
      simp only [effect]
      split <;> rfl
    exact hsame (hpolicy ▸ h)
  | _ => exact hsame h

/-! ### Server-numbered generations -/

/-- No client names the generation of a policy; zero asks the server for one. -/
def Label.serverNumbered : Label → Prop
  | .configure _ generation source => source = .explicit → generation = 0
  | _ => True

/-- **Invariant**: every generation was allocated, and around an active start they agree. -/
structure GenerationsAgree (s : State) : Prop where
  starts : StartsWellFormed s
  gates : GatesSound s
  policyAllocated : ∀ room k, s.policy room = some k →
    1 ≤ k.mediaGeneration ∧ k.mediaGeneration ≤ s.generation
  requested : ∀ room k, s.policy room = some k → k.requestedGeneration = k.mediaGeneration
  policyAgrees : ∀ room k b, s.policy room = some k → s.barrier room = some b → active b →
    k.mediaGeneration = b.prepare.mediaGeneration
  gateAllocated : ∀ room g generation, s.gate room = some g →
    g.mediaGeneration = some generation → 1 ≤ generation ∧ generation ≤ s.generation
  gateAgrees : ∀ room g b, s.gate room = some g → s.barrier room = some b → active b →
    g.mediaGeneration = some b.prepare.mediaGeneration

/-- A configured generation is allocated, and fits the start that is there. -/
theorem GenerationsAgree.configured {source : PolicySource} (h : GenerationsAgree s)
    (hallows : source.Allows s room generation) (hnumbered : source = .explicit → generation = 0) :
    (1 ≤ generation ∧ generation ≤ s.generation) ∧
      ∀ b, s.barrier room = some b → active b → generation = b.prepare.mediaGeneration := by
  cases source with
  | explicit =>
    have hone := hallows.1
    have hzero := hnumbered rfl
    omega
  | paired =>
    obtain ⟨b, hb, rfl⟩ := hallows
    refine ⟨(h.starts room b hb).allocated, fun b' hb' _ => ?_⟩
    rw [hb] at hb'
    rw [Option.some.inj hb']
  | inherited =>
    obtain ⟨hnone, k, hk, rfl⟩ := hallows
    refine ⟨h.policyAllocated room k hk, fun b hb => ?_⟩
    rw [hnone] at hb
    cases hb
  | allocated =>
    obtain ⟨hone, rfl, hidle⟩ := hallows
    exact ⟨⟨hone, le_refl _⟩, fun b hb hactive => absurd hactive (hidle b hb)⟩

/-- The generation a member joins with is allocated, and is that of the start that is there. -/
theorem GenerationsAgree.joining {joined : Option Nat} (h : GenerationsAgree s)
    (hjoining : JoiningGeneration s room joined) :
    (∀ n, joined = some n → 1 ≤ n ∧ n ≤ s.generation) ∧
      ∀ b, s.barrier room = some b → active b → joined = some b.prepare.mediaGeneration := by
  unfold JoiningGeneration at hjoining
  cases hgate : (s.gate room).bind Gate.mediaGeneration with
  | some n =>
    simp only [hgate] at hjoining
    subst hjoining
    obtain ⟨g, hg, hmedia⟩ := Option.bind_eq_some_iff.mp hgate
    refine ⟨fun m hm => ?_, fun b hb hactive => ?_⟩
    · exact h.gateAllocated room g m hg (hmedia.trans hm)
    · rw [← hmedia]
      exact h.gateAgrees room g b hg hb hactive
  | none =>
    simp only [hgate] at hjoining
    rcases hjoining with ⟨b, hb, -, rfl⟩ | ⟨hidle, hjoined⟩
    · refine ⟨fun m hm => ?_, fun b' hb' _ => ?_⟩
      · rw [← Option.some.inj hm]
        exact (h.starts room b hb).allocated
      · rw [hb] at hb'
        rw [Option.some.inj hb']
    · refine ⟨fun m hm => ?_, fun b hb hactive => absurd hactive (hidle b hb)⟩
      rcases hjoined with rfl | ⟨k, hk, rfl⟩
      · cases hm
      · rw [← Option.some.inj hm]
        exact h.policyAllocated room k hk

/-- A new start takes a generation that nothing in the server carries yet. -/
theorem GenerationsAgree.fresh {b : RoomPlaybackBarrier} {k : Policy} (h : GenerationsAgree s)
    (hguard : Prepares s room b) (hk : s.policy room = some k) :
    k.mediaGeneration ≠ b.prepare.mediaGeneration := by
  have hbound := (h.policyAllocated room k hk).2
  have hnext := hguard.generation
  omega

theorem GenerationsAgree.step (h : GenerationsAgree s) (hguard : guard s l)
    (hnumbered : l.serverNumbered) : GenerationsAgree (effect s l) where
  starts := h.starts.step hguard
  gates := h.gates.step hguard
  policyAllocated := by
    intro room k' hk'
    have hle := effect_generation_le hguard
    have hlater : ∀ n, 1 ≤ n ∧ n ≤ s.generation → 1 ≤ n ∧ n ≤ (effect s l).generation :=
      fun n hn => ⟨hn.1, hn.2.trans hle⟩
    cases policyOrigin hk' with
    | stays k hk hsame =>
      rw [hsame]
      exact hlater _ (h.policyAllocated room k hk)
    | restores k hk hsame =>
      rw [hsame, h.requested room k hk]
      exact hlater _ (h.policyAllocated room k hk)
    | starts b hlabel k hk hsame =>
      subst hlabel
      exact absurd hsame (h.fresh hguard hk)
    | configures n source hlabel hsame =>
      subst hlabel
      rw [hsame]
      exact hlater _ (h.configured hguard hnumbered).1
  requested := by
    intro room k' hk'
    cases policyOrigin hk' with
    | stays k hk hsame hrequested => rw [hsame, hrequested, h.requested room k hk]
    | restores k hk hsame hrequested => rw [hsame, hrequested]
    | starts b hlabel k hk hsame =>
      subst hlabel
      exact absurd hsame (h.fresh hguard hk)
    | configures n source hlabel hsame hrequested => rw [hsame, hrequested]
  policyAgrees := by
    intro room k' b' hk' hb' hactive
    rcases active_of_effect hguard hb' hactive with rfl | ⟨b, hb, hbefore, hprepare⟩
    · cases policyOrigin hk' with
      | stays k hk hsame =>
        -- a policy of an older generation does not survive the prepare
        have hpolicy : (effect s (.prepare room b')).policy room =
            s.policyForStart room b'.prepare.mediaGeneration := by
          simp only [effect, State.beginGeneration]
          split <;> exact Function.update_self ..
        rw [hpolicy, State.policyForStart, hk] at hk'
        simp [h.fresh hguard hk] at hk'
      | restores k hk _ =>
        have hpolicy : (effect s (.prepare room b')).policy room =
            s.policyForStart room b'.prepare.mediaGeneration := by
          simp only [effect, State.beginGeneration]
          split <;> exact Function.update_self ..
        rw [hpolicy, State.policyForStart, hk] at hk'
        simp [h.fresh hguard hk] at hk'
      | starts b hlabel k hk hsame =>
        obtain rfl := (Label.prepare.inj hlabel).2
        exact absurd hsame (h.fresh hguard hk)
      | configures n source hlabel => cases hlabel
    · rw [hprepare]
      cases policyOrigin hk' with
      | stays k hk hsame => rw [hsame, h.policyAgrees room k b hk hb hbefore]
      | restores k hk hsame =>
        rw [hsame, h.requested room k hk, h.policyAgrees room k b hk hb hbefore]
      | starts b₀ hlabel k hk hsame =>
        subst hlabel
        exact absurd hsame (h.fresh hguard hk)
      | configures n source hlabel hsame =>
        subst hlabel
        rw [hsame]
        exact (h.configured hguard hnumbered).2 b hb hbefore
  gateAllocated := by
    intro room g' n hg' hn
    have hlater : 1 ≤ n ∧ n ≤ s.generation → 1 ≤ n ∧ n ≤ (effect s l).generation :=
      fun hn => ⟨hn.1, hn.2.trans (effect_generation_le hguard)⟩
    cases gateOrigin hguard hg' with
    | stays g hg hsame => exact hlater (h.gateAllocated room g n hg (hsame.symm.trans hn))
    | prepares b hlabel hsame =>
      subst hlabel
      obtain rfl := Option.some.inj (hsame.symm.trans hn)
      rw [effect_prepare_generation]
      refine ⟨?_, le_refl _⟩
      rw [hguard.generation]
      omega
    | follows generation source hlabel hsame =>
      subst hlabel
      obtain rfl := Option.some.inj (hsame.symm.trans hn)
      obtain ⟨⟨k, hk, rfl⟩, -⟩ := hguard
      exact hlater (h.policyAllocated room k hk)
    | joins username member generation hlabel hsame =>
      subst hlabel
      exact hlater ((h.joining hguard.2.2.1).1 n (hsame.symm.trans hn))
    | selects hlabel hnone =>
      rw [hnone] at hn
      cases hn
  gateAgrees := by
    intro room g' b' hg' hb' hactive
    rcases active_of_effect hguard hb' hactive with rfl | ⟨b, hb, hbefore, hprepare⟩
    · cases gateOrigin hguard hg' with
      | stays g hg hsame =>
        -- a coordinator that is there follows the new start
        have henabled := (h.gates room g hg).1
        have hgate := effect_prepare_gate s room b'
        rw [if_pos henabled, hg] at hgate
        rw [hgate, Function.update_self] at hg'
        rw [← Option.some.inj hg']
        rfl
      | prepares b hlabel hsame => rw [hsame, (Label.prepare.inj hlabel).2]
      | follows generation source hlabel => cases hlabel
      | joins username member generation hlabel => cases hlabel
      | selects hlabel => cases hlabel
    · rw [hprepare]
      cases gateOrigin hguard hg' with
      | stays g hg hsame => rw [hsame, h.gateAgrees room g b hg hb hbefore]
      | prepares b₀ hlabel hsame =>
        subst hlabel
        exact absurd hbefore (hguard.previous b hb)
      | follows generation source hlabel hsame =>
        subst hlabel
        obtain ⟨⟨k, hk, rfl⟩, -⟩ := hguard
        rw [hsame, h.policyAgrees room k b hk hb hbefore]
      | joins username member generation hlabel hsame =>
        subst hlabel
        rw [hsame]
        exact (h.joining hguard.2.2.1).2 b hb hbefore
      | selects hlabel =>
        -- nothing is selected beside an active start
        subst hlabel
        exact absurd hbefore (hguard b hb)

theorem Initial.generationsAgree (h : Initial s) : GenerationsAgree s where
  starts := h.startsWellFormed
  gates := h.gatesSound
  policyAllocated room k hk := by
    rw [h.policy room] at hk
    cases hk
  requested room k hk := by
    rw [h.policy room] at hk
    cases hk
  policyAgrees room k b hk := by
    rw [h.policy room] at hk
    cases hk
  gateAllocated room g n hg := by
    rw [h.gate room] at hg
    cases hg
  gateAgrees room g b hg := by
    rw [h.gate room] at hg
    cases hg

/-! ### Commits of a numbered run -/

/-- **Invariant**: every start that committed counted on members who can play its own
    generation. -/
def CommitsAgree (s : State) : Prop :=
  ∀ room snapshot coordinator, .committed room snapshot ∈ s.history →
    snapshot.coordinator = some coordinator →
    coordinator.mediaGeneration = some snapshot.barrier.prepare.mediaGeneration

theorem CommitsAgree.step (h : CommitsAgree s) (hagree : GenerationsAgree s) (hguard : guard s l) :
    CommitsAgree (effect s l) := by
  intro room snapshot coordinator hmem hcoordinator
  rcases mem_effect_history.mp hmem with hnew | hold
  · obtain ⟨b', rfl⟩ := commit_of_event hnew
    -- the coordinator it read is the one beside the start
    have hread := hguard.1.coordinator
    rw [hcoordinator] at hread
    obtain ⟨g, hg, hsame⟩ := Option.map_eq_some_iff.mp hread.symm
    rw [← (Prod.mk.inj hsame).1]
    exact hagree.gateAgrees room g _ hg hguard.1.barrier (.inl hguard.1.phase)
  · exact h room snapshot coordinator hold hcoordinator

end Sorotte.Ideal
