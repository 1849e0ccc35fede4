import Sorotte.Lifecycle.SeekRuns

/-! # How often a system seek is consumed

  The ledger owes a command at most one consumption for the seek in the live
  map, and one for each of its tombstones.  Only a submission adds to what is
  owed, and every consumption takes from it.
-/

namespace Sorotte.Lifecycle

open Framework

/-- The effect consumes this command's seek. -/
def IsConsumption (commandId : PlayerCommandId) : PlayerLifecycleEffect → Bool
  | .consumeSystemSeek consumed _ => consumed == commandId
  | _ => false

/-- The operation submits this command's seek. -/
def SubmitsSeek (commandId : PlayerCommandId) : Operation → Bool
  | .reduce (.seekCommandSubmitted submitted ..) => submitted == commandId
  | _ => false

namespace SeekLedger

variable {l l' : SeekLedger}

/-- A live seek is filed under its own command. -/
def Keyed (l : SeekLedger) : Prop :=
  ∀ (k : PlayerCommandId) (owner : SystemSeekOwnership),
    l.seekOwnership[k]? = some owner → owner.commandId = k

/-- The consumption owed to the live seek. -/
def owedLive (l : SeekLedger) (commandId : PlayerCommandId) : Nat :=
  if l.seekOwnership[commandId]?.any (·.state.isPending) then 1 else 0

/-- The consumptions owed to the tombstones. -/
def owedBuried (l : SeekLedger) (commandId : PlayerCommandId) : Nat :=
  l.retiredSeekTombstones.countP (·.ownership.commandId == commandId)

def owed (l : SeekLedger) (commandId : PlayerCommandId) : Nat :=
  l.owedLive commandId + l.owedBuried commandId

theorem owedLive_le_one (commandId : PlayerCommandId) : l.owedLive commandId ≤ 1 := by
  unfold owedLive
  split <;> omega

/-- A change that owes nobody more than before. -/
structure OwesNoMore (l l' : SeekLedger) : Prop where
  keyed : l.Keyed → l'.Keyed
  owed : ∀ commandId, l'.owed commandId ≤ l.owed commandId

theorem OwesNoMore.refl (l : SeekLedger) : OwesNoMore l l := ⟨fun h => h, fun _ => Nat.le_refl _⟩

theorem OwesNoMore.trans {l'' : SeekLedger} (h : OwesNoMore l l') (h' : OwesNoMore l' l'') :
    OwesNoMore l l'' :=
  ⟨fun hkeyed => h'.keyed (h.keyed hkeyed), fun c => (h'.owed c).trans (h.owed c)⟩

theorem OwesNoMore.foldl {α : Type} {round : SeekLedger → α → SeekLedger}
    (h : ∀ l a, OwesNoMore l (round l a)) (items : List α) (l : SeekLedger) :
    OwesNoMore l (items.foldl round l) := by
  induction items generalizing l with
  | nil => exact OwesNoMore.refl l
  | cons a items ih => exact (h l a).trans (ih (round l a))

/-- What is owed under the other commands does not depend on this one's edit. -/
theorem owedLive_edit (commandId k : PlayerCommandId)
    (edit : SystemSeekOwnershipState → SystemSeekOwnershipState) :
    (l.edit commandId edit).owedLive k =
      if k = commandId then
        if l.seekOwnership[k]?.any (fun owner => (edit owner.state).isPending) then 1 else 0
      else l.owedLive k := by
  unfold owedLive
  rw [l.getElem?_edit]
  by_cases hk : k = commandId
  · rw [if_pos hk, if_pos hk]
    cases l.seekOwnership[k]? <;> rfl
  · rw [if_neg hk, if_neg hk]

theorem keyed_edit (h : l.Keyed) (commandId : PlayerCommandId)
    (edit : SystemSeekOwnershipState → SystemSeekOwnershipState) :
    (l.edit commandId edit).Keyed := by
  intro k owner howner
  rw [l.getElem?_edit] at howner
  split at howner
  · obtain ⟨before, hbefore, rfl⟩ := Option.map_eq_some_iff.mp howner
    exact h k before hbefore
  · exact h k owner howner

/-- An edit that brings no settled seek back. -/
theorem owesNoMore_edit (commandId : PlayerCommandId)
    {edit : SystemSeekOwnershipState → SystemSeekOwnershipState}
    (hedit : ∀ state, (edit state).isPending = true → state.isPending = true) :
    OwesNoMore l (l.edit commandId edit) := by
  refine ⟨fun h => keyed_edit h commandId edit, fun c => ?_⟩
  have hlive : (l.edit commandId edit).owedLive c ≤ l.owedLive c := by
    rw [owedLive_edit]
    split
    · unfold owedLive
      cases l.seekOwnership[c]? with
      | none => simp
      | some owner =>
        have howner := hedit owner.state
        cases hafter : (edit owner.state).isPending with
        | false => simp [hafter]
        | true => simp [hafter, howner hafter]
    · exact Nat.le_refl _
  have hburied : (l.edit commandId edit).owedBuried c = l.owedBuried c := rfl
  unfold owed
  omega

theorem owesNoMore_settle (commandId : PlayerCommandId) (settled : SystemSeekOwnershipState)
    (hsettled : settled.isPending = false) :
    OwesNoMore l (l.edit commandId fun _ => settled) := by
  refine owesNoMore_edit commandId fun state hstate => ?_
  rw [hsettled] at hstate
  cases hstate

theorem owesNoMore_unobserved (commandId : PlayerCommandId) :
    OwesNoMore l (l.edit commandId (·.unobserved)) :=
  owesNoMore_edit commandId fun state hstate => by
    cases state <;> first | rfl | cases hstate

theorem owesNoMore_advance (nowTick : Nat) : OwesNoMore l (l.advance nowTick) := by
  refine ⟨fun h => h, fun c => ?_⟩
  have hlive : (l.advance nowTick).owedLive c = l.owedLive c := rfl
  have hburied : (l.advance nowTick).owedBuried c ≤ l.owedBuried c :=
    List.filter_sublist.countP_le
  unfold owed
  omega

end SeekLedger

/-! ### Compaction -/

namespace PlayerLifecycleState

variable {s : PlayerLifecycleState}

/-- One more tombstone, perhaps in the place of the oldest. -/
theorem pushRetiredSeekTombstone_owed (ownership : SystemSeekOwnership)
    (commandId : PlayerCommandId) :
    (s.pushRetiredSeekTombstone ownership).seeks.owedBuried commandId ≤
      s.seeks.owedBuried commandId + if ownership.commandId = commandId then 1 else 0 := by
  have hpushed : ∀ tombstones : List RetiredSeekTombstone,
      tombstones.countP (·.ownership.commandId == commandId) ≤ s.seeks.owedBuried commandId →
      (tombstones ++ [(⟨ownership, Coordinator.saturatingAdd s.nowTick
          seekTombstoneRetentionTicks⟩ : RetiredSeekTombstone)]).countP
            (·.ownership.commandId == commandId) ≤
        s.seeks.owedBuried commandId + if ownership.commandId = commandId then 1 else 0 := by
    intro tombstones htombstones
    rw [List.countP_append, List.countP_singleton]
    simp only [beq_iff_eq]
    omega
  unfold pushRetiredSeekTombstone
  dsimp only
  split
  · split
    · exact hpushed _ (Nat.le_refl _)
    · next evicted rest htombstones =>
      refine hpushed rest ?_
      show _ ≤ s.retiredSeekTombstones.countP _
      rw [htombstones]
      exact (List.sublist_cons_self evicted rest).countP_le
  · exact hpushed _ (Nat.le_refl _)

theorem compactSeek_owesNoMore {entry : PlayerCommandId × SystemSeekOwnership}
    (hlive : s.seekOwnership[entry.1]? = some entry.2) (hkeyed : s.seeks.Keyed) :
    s.seeks.OwesNoMore (s.compactSeek entry).seeks := by
  have hlookup : ∀ k : PlayerCommandId, (s.compactSeek entry).seeks.seekOwnership[k]? =
      if k = entry.1 then none else s.seeks.seekOwnership[k]? := s.compactSeek_ownership entry
  have hid : entry.2.commandId = entry.1 := hkeyed entry.1 entry.2 hlive
  refine ⟨fun _ k owner howner => ?_, fun c => ?_⟩
  · rw [hlookup] at howner
    split at howner
    · cases howner
    · exact hkeyed k owner howner
  -- What the live map stops owing, the tombstone may owe.
  have hburied : (s.compactSeek entry).seeks.owedBuried c ≤ s.seeks.owedBuried c +
      if c = entry.1 ∧ entry.2.state = .mayStillArrive then 1 else 0 := by
    unfold compactSeek
    extract_lets erased retired
    rw [retireCommandRecord_seeks]
    dsimp only [retired]
    split
    · next hstate =>
      have hpushed := @pushRetiredSeekTombstone_owed erased entry.2 c
      have hstate : entry.2.state = .mayStillArrive := eq_of_beq hstate
      have hsame : erased.seeks.owedBuried c = s.seeks.owedBuried c := rfl
      rw [hid] at hpushed
      by_cases hc : c = entry.1
      · rw [if_pos hc.symm] at hpushed
        rw [if_pos ⟨hc, hstate⟩]
        omega
      · rw [if_neg fun heq => hc heq.symm] at hpushed
        omega
    · exact Nat.le_add_right _ _
  unfold SeekLedger.owed
  by_cases hc : c = entry.1
  · have hnone : (s.compactSeek entry).seeks.owedLive c = 0 := by
      unfold SeekLedger.owedLive
      rw [hlookup, if_pos hc]
      rfl
    by_cases hstate : entry.2.state = .mayStillArrive
    · have hone : s.seeks.owedLive c = 1 := by
        have hheld : s.seeks.seekOwnership[c]? = some entry.2 := by
          rw [hc]
          exact hlive
        unfold SeekLedger.owedLive
        rw [hheld, Option.any_some, hstate]
        rfl
      rw [if_pos ⟨hc, hstate⟩] at hburied
      omega
    · rw [if_neg fun h => hstate h.2] at hburied
      omega
  · have hsame : (s.compactSeek entry).seeks.owedLive c = s.seeks.owedLive c := by
      unfold SeekLedger.owedLive
      rw [hlookup, if_neg hc]
    rw [if_neg fun h => hc h.1] at hburied
    omega

theorem compactSeeks_owesNoMore (entries : List (PlayerCommandId × SystemSeekOwnership))
    (hdistinct : entries.Pairwise fun entry entry' => entry.1 ≠ entry'.1)
    (hlive : ∀ entry ∈ entries, s.seekOwnership[entry.1]? = some entry.2)
    (hkeyed : s.seeks.Keyed) :
    s.seeks.OwesNoMore (entries.foldl compactSeek s).seeks := by
  induction entries generalizing s with
  | nil => exact SeekLedger.OwesNoMore.refl _
  | cons entry rest ih =>
    obtain ⟨hfirst, hrest⟩ := List.pairwise_cons.mp hdistinct
    have hround := compactSeek_owesNoMore (hlive entry (by simp)) hkeyed
    refine hround.trans (ih hrest (fun other hother => ?_) (hround.keyed hkeyed))
    rw [compactSeek_ownership, if_neg fun heq => hfirst other hother heq.symm]
    exact hlive other (List.mem_cons_of_mem _ hother)

end PlayerLifecycleState

/-! ### What a walk reports -/

namespace Reduction

variable {r r' : Reduction}

/-- A walk that may not report a seek reports none. -/
theorem reported_walk {submits : List PlayerCommandId} {announces observes : Prop}
    (hobserves : ¬observes) (h : Walk submits announces observes r r') :
    seekReportsOf r'.effects = seekReportsOf r.effects := by
  refine @Walk.preserves submits announces observes r r'
    (fun t => seekReportsOf t.effects = seekReportsOf r.effects) ?_ h rfl
  intro t t' hmove ht
  rw [← ht]
  cases hmove with
  | quiet h => exact h.reported
  | tick nowTick => rfl
  | edit loadAttempts h => rfl
  | accept attemptId attempt h hstate => rfl
  | allocate attempt => rfl
  | submit commandId h mediaGeneration kind => rfl
  | editCommand commandId edit h => rfl
  | endCommand commandId terminal => exact reported_commandTerminal commandId terminal
  | endLoad attemptId result loadedTarget => exact reported_emitLoadOutcome _ _ _
  | queue event => exact reported_queueEvent event
  | gap => exact reported_markGap
  | announce h mediaGeneration attemptId outcome => exact reported_push rfl
  | report h effect hreport => exact absurd h hobserves

/-- Only a position report reports a seek. -/
theorem reported_reduce (hkeyed : r.Keyed) {input : PlayerLifecycleInput}
    (hinput : ¬input.observes) :
    seekReportsOf (r.reduce input).effects = seekReportsOf r.effects := by
  by_cases hrewrites : input.rewritesQueues
  · cases input with
    | authoritativeSnapshotApplied snapshot =>
      have hreduce : r.reduce (.authoritativeSnapshotApplied snapshot) =
          r.authoritativeSnapshotApplied snapshot := rfl
      rw [hreduce]
      unfold authoritativeSnapshotApplied
      split <;> rfl
    | attachmentReplaced =>
      have hclosed : r.closeDelivery.effects = r.effects := by
        unfold closeDelivery
        split <;> rfl
      have hended : Walk [] True False r.closeDelivery r.closeDelivery.disconnectAll :=
        walk_disconnectAll _ trivial
      have hreduce : r.reduce .attachmentReplaced =
          r.closeDelivery.disconnectAll.openNextEpoch := rfl
      rw [hreduce]
      generalize r.closeDelivery.disconnectAll = ended at hended ⊢
      unfold openNextEpoch
      extract_lets previousEpoch emptied opened
      rw [reported_push rfl, reported_push rfl, reported_queueEvent]
      show seekReportsOf ended.effects = _
      rw [reported_walk (fun h => h) hended, hclosed]
    | _ => exact hrewrites.elim
  · exact reported_walk hinput (walk_reduce hkeyed hrewrites)

/-! ### The budget of an input -/

/-- The reports are all that consumes. -/
theorem consumptions_of_reported (commandId : PlayerCommandId)
    (effects : List PlayerLifecycleEffect) :
    effects.countP (IsConsumption commandId) =
      (seekReportsOf effects).countP (IsConsumption commandId) := by
  unfold seekReportsOf
  rw [List.countP_filter]
  congr 1
  funext effect
  cases effect <;> simp [IsConsumption, IsSeekReport]

theorem guarded_owesNoMore {ignored : Prop} [Decidable ignored]
    (h : r.seeks.OwesNoMore r'.seeks) :
    r.seeks.OwesNoMore (if ignored then r else r').seeks := by
  split
  · exact SeekLedger.OwesNoMore.refl _
  · exact h

theorem endSeekCommand_owesNoMore (commandId : PlayerCommandId) (terminal : CommandSemanticState)
    {edit : SystemSeekOwnershipState → SystemSeekOwnershipState}
    (hedit : ∀ state, (edit state).isPending = true → state.isPending = true) :
    r.seeks.OwesNoMore (r.endSeekCommand commandId terminal edit).seeks := by
  rw [endSeekCommand_seeks]
  exact SeekLedger.owesNoMore_edit commandId hedit

theorem unobserved_pending (state : SystemSeekOwnershipState)
    (h : state.unobserved.isPending = true) : state.isPending = true := by
  cases state <;> first | rfl | cases h

/-- The inputs that neither submit a seek nor report a position. -/
theorem reduce_owesNoMore {input : PlayerLifecycleInput} (hobserves : ¬input.observes)
    (hsubmits : ∀ commandId, SubmitsSeek commandId (.reduce input) = false) :
    r.seeks.OwesNoMore (r.reduce input).seeks := by
  cases hchanges : changesSeeks input with
  | false =>
    rw [reduce_seeks r hchanges]
    exact SeekLedger.OwesNoMore.refl _
  | true =>
    cases input with
    | commandRejected =>
      exact guarded_owesNoMore (endSeekCommand_owesNoMore _ _ fun _ => nofun)
    | seekCommandRejected =>
      exact guarded_owesNoMore (endSeekCommand_owesNoMore _ _ fun _ => nofun)
    | commandTransportDisconnected =>
      exact guarded_owesNoMore (endSeekCommand_owesNoMore _ _ fun _ => nofun)
    | commandSuperseded =>
      exact guarded_owesNoMore (endSeekCommand_owesNoMore _ _ unobserved_pending)
    | seekCommandCompletionNotObserved =>
      exact guarded_owesNoMore (endSeekCommand_owesNoMore _ _ unobserved_pending)
    | commandCompleted epoch commandId =>
      refine guarded_owesNoMore ?_
      rw [commandTerminal_seeks, updateSeek_seeks]
      refine SeekLedger.owesNoMore_edit commandId fun state hstate => ?_
      cases state <;> cases hstate
    | commandCompletionNotObserved epoch commandId =>
      have hreduce : r.reduce (.commandCompletionNotObserved epoch commandId) =
          r.commandCompletionNotObserved epoch commandId := rfl
      rw [hreduce, commandCompletionNotObserved_seeks]
      split
      · exact SeekLedger.OwesNoMore.refl _
      · exact SeekLedger.owesNoMore_unobserved commandId
    | positionObserved => exact absurd trivial hobserves
    | seekCommandSubmitted commandId =>
      have hother := hsubmits commandId
      exact absurd hother (by simp [SubmitsSeek])
    | seekCommandAccepted epoch commandId =>
      refine guarded_owesNoMore ?_
      rw [updateSeek_seeks, acceptCommand_seeks]
      refine SeekLedger.owesNoMore_edit commandId fun state hstate => ?_
      cases state <;> first | rfl | cases hstate
    | timerAdvanced nowTick =>
      have hreduce : r.reduce (.timerAdvanced nowTick) = r.timerAdvanced nowTick := rfl
      rw [hreduce, timerAdvanced_seeks]
      exact SeekLedger.owesNoMore_advance _
    | transportDisconnected epoch =>
      have hreduce : r.reduce (.transportDisconnected epoch) = r.transportDisconnected epoch := rfl
      by_cases hepoch : epoch = r.attachmentEpoch
      · rw [hreduce, transportDisconnected_seeks hepoch]
        exact SeekLedger.OwesNoMore.foldl
          (fun l c => SeekLedger.owesNoMore_settle c .invalidated rfl) _ _
      · rw [hreduce]
        unfold transportDisconnected
        rw [if_pos (by simpa using hepoch)]
        exact SeekLedger.OwesNoMore.refl _
    | attachmentReplaced =>
      have hreduce : r.reduce .attachmentReplaced = r.attachmentReplaced := rfl
      rw [hreduce, attachmentReplaced_seeks]
      refine ⟨fun _ k owner howner => ?_, fun c => ?_⟩
      · simp at howner
      · simp [SeekLedger.owed, SeekLedger.owedLive, SeekLedger.owedBuried]
    | _ => exact nomatch hchanges

/-- A ledger's account after an input: what was consumed and what is still owed. -/
structure Spends (r r' : Reduction) (submits : PlayerCommandId → Bool) : Prop where
  keyed : r'.seeks.Keyed
  account : ∀ commandId, r'.effects.countP (IsConsumption commandId) + r'.seeks.owed commandId ≤
    r.effects.countP (IsConsumption commandId) + r.seeks.owed commandId
      + if submits commandId then 1 else 0

theorem spends_of_owesNoMore (hkeyed : r.seeks.Keyed) (h : r.seeks.OwesNoMore r'.seeks)
    (hreported : seekReportsOf r'.effects = seekReportsOf r.effects)
    (submits : PlayerCommandId → Bool) : Spends r r' submits := by
  refine ⟨h.keyed hkeyed, fun c => ?_⟩
  have howed := h.owed c
  have hsame : r'.effects.countP (IsConsumption c) = r.effects.countP (IsConsumption c) := by
    rw [consumptions_of_reported, consumptions_of_reported c r.effects, hreported]
  omega

/-- A submission brings one consumption for its own command. -/
theorem seekCommandSubmitted_account (hkeyed : r.seeks.Keyed) (commandId : PlayerCommandId)
    (mediaGeneration : PlayerMediaGeneration) (rawTarget effectiveTarget : F64) (boundary : Nat) :
    let r' := r.seekCommandSubmitted commandId mediaGeneration rawTarget effectiveTarget boundary
    r'.seeks.Keyed ∧ ∀ c, r'.seeks.owed c ≤
      r.seeks.owed c + if commandId == c then 1 else 0 := by
  intro r'
  cases hretired : r.isRetiredCommand commandId with
  | true =>
    have hsame : r' = r := by
      dsimp only [r']
      unfold seekCommandSubmitted
      rw [if_pos hretired]
    rw [hsame]
    exact ⟨hkeyed, fun c => Nat.le_add_right _ _⟩
  | false =>
    obtain ⟨superseded, heq⟩ :=
      seekCommandSubmitted_seeks hretired mediaGeneration rawTarget effectiveTarget boundary
    dsimp only [r']
    rw [heq]
    have hended : r.seeks.OwesNoMore
        (superseded.foldl (fun l c => l.edit c (·.unobserved)) r.seeks) :=
      SeekLedger.OwesNoMore.foldl (fun l c => SeekLedger.owesNoMore_unobserved c) _ _
    generalize superseded.foldl (fun l c => l.edit c (·.unobserved)) r.seeks = ended at hended ⊢
    have hlookup : ∀ (k : PlayerCommandId) (owner : SystemSeekOwnership),
        (ended.seekOwnership.insert commandId owner)[k]? =
          if k = commandId then some owner else ended.seekOwnership[k]? :=
      fun k owner => getElem?_insert_if _ _ _ _
    refine ⟨fun k owner howner => ?_, fun c => ?_⟩
    · rw [hlookup] at howner
      split at howner
      · next hk =>
        cases howner
        exact hk.symm
      · exact hended.keyed hkeyed k owner howner
    · have howed := hended.owed c
      have hbound := @SeekLedger.owedLive_le_one { ended with
        seekOwnership := ended.seekOwnership.insert commandId
          ⟨r.attachmentEpoch, mediaGeneration, rawTarget, effectiveTarget, commandId, boundary,
            .submitted⟩ } c
      unfold SeekLedger.owed at howed ⊢
      by_cases hc : c = commandId
      · rw [if_pos (by rw [hc]; exact beq_self_eq_true commandId)]
        exact Nat.le_trans (Nat.add_le_add_right hbound _) (by
          show 1 + ended.owedBuried c ≤ _
          omega)
      · have hlive : SeekLedger.owedLive { ended with
            seekOwnership := ended.seekOwnership.insert commandId
              ⟨r.attachmentEpoch, mediaGeneration, rawTarget, effectiveTarget, commandId, boundary,
                .submitted⟩ } c = ended.owedLive c := by
          unfold SeekLedger.owedLive
          dsimp only
          rw [hlookup, if_neg hc]
        rw [hlive]
        exact howed.trans (Nat.le_add_right _ _)

/-- A position report pays for what it consumes. -/
theorem positionObserved_spends (hkeyed : r.seeks.Keyed) (attachmentEpoch : PlayerAttachmentEpoch)
    (mediaGeneration : PlayerMediaGeneration) (observedSequence : Nat)
    (positionSeconds : Seconds) (submits : PlayerCommandId → Bool) :
    Spends r (r.positionObserved attachmentEpoch mediaGeneration observedSequence positionSeconds)
      submits := by
  have hcount : ∀ {effects before : List PlayerLifecycleEffect} {effect : PlayerLifecycleEffect}
      (c : PlayerCommandId), seekReportsOf effects = seekReportsOf before ++ [effect] →
      effects.countP (IsConsumption c) =
        before.countP (IsConsumption c) + if IsConsumption c effect then 1 else 0 := by
    intro effects before effect c hreported
    rw [consumptions_of_reported, hreported, List.countP_append, List.countP_singleton,
      ← consumptions_of_reported]
  rcases positionObserved_cases (r := r) attachmentEpoch mediaGeneration observedSequence
    positionSeconds with ⟨hseeks, hreported⟩ | ⟨consumed, owner, howner, hawaits, hseeks, hreported⟩
      | ⟨tombstone, hfound, hseeks, hreported⟩ | ⟨-, -, -, -, hseeks, hreported⟩
  · exact spends_of_owesNoMore hkeyed (hseeks ▸ SeekLedger.OwesNoMore.refl _) hreported submits
  · refine ⟨hseeks ▸ SeekLedger.keyed_edit hkeyed consumed _, fun c => ?_⟩
    rw [hcount c hreported, hseeks]
    have hburied : (r.seeks.edit consumed fun _ => .observed).owedBuried c =
        r.seeks.owedBuried c := rfl
    have hlive := r.seeks.owedLive_edit consumed c fun _ => .observed
    unfold SeekLedger.owed
    by_cases hc : c = consumed
    · -- The live seek was owed one consumption, which this is.
      have hbefore : r.seeks.owedLive c = 1 := by
        have hheld : r.seeks.seekOwnership[c]? = some owner := by
          rw [hc]
          exact howner
        unfold SeekLedger.owedLive
        rw [hheld, Option.any_some, if_pos]
        cases hstate : owner.state <;> rw [hstate] at hawaits <;> first | rfl | cases hawaits
      have hafter : (r.seeks.edit consumed fun _ => .observed).owedLive c = 0 := by
        rw [hlive, if_pos hc]
        simp [SystemSeekOwnershipState.isPending]
      have hpaid : IsConsumption c (.consumeSystemSeek consumed positionSeconds) = true := by
        simp [IsConsumption, hc]
      rw [if_pos hpaid]
      omega
    · have hother : IsConsumption c (.consumeSystemSeek consumed positionSeconds) = false := by
        simpa [IsConsumption] using fun heq : consumed = c => hc heq.symm
      rw [if_neg hc] at hlive
      rw [hother]
      simp only [Bool.false_eq_true, if_false]
      omega
  · refine ⟨hseeks ▸ hkeyed, fun c => ?_⟩
    rw [hcount c hreported, hseeks]
    have htaken := countP_eraseP (q := fun t : RetiredSeekTombstone =>
      t.ownership.commandId == c) hfound
    have hlive : SeekLedger.owedLive { r.seeks with
        retiredSeekTombstones := r.retiredSeekTombstones.eraseP fun tombstone =>
          tombstone.ownership.reachedBy attachmentEpoch mediaGeneration observedSequence
            positionSeconds } c = r.seeks.owedLive c := rfl
    have hsame : r.seeks.owedBuried c = r.retiredSeekTombstones.countP
      (·.ownership.commandId == c) := rfl
    unfold SeekLedger.owed
    rw [hlive, hsame, ← htaken]
    show r.effects.countP (IsConsumption c)
      + (if (tombstone.ownership.commandId == c) = true then 1 else 0) + _ ≤ _
    unfold SeekLedger.owedBuried
    dsimp only
    omega
  · refine ⟨hseeks ▸ hkeyed, fun c => ?_⟩
    rw [hcount c hreported, hseeks]
    simp [IsConsumption]

/-- Every input spends within its budget. -/
theorem spends_reduce (hattempts : r.Keyed) (hkeyed : r.seeks.Keyed)
    (input : PlayerLifecycleInput) :
    Spends r (r.reduce input) fun commandId => SubmitsSeek commandId (.reduce input) := by
  by_cases hobserves : input.observes
  · cases input with
    | positionObserved => exact positionObserved_spends hkeyed _ _ _ _ _
    | _ => exact hobserves.elim
  have hreported := reported_reduce hattempts hobserves
  by_cases hsubmits : ∀ commandId, SubmitsSeek commandId (.reduce input) = false
  · exact spends_of_owesNoMore hkeyed (reduce_owesNoMore hobserves hsubmits) hreported _
  · cases input with
    | seekCommandSubmitted submitted mediaGeneration rawTarget effectiveTarget boundary =>
      obtain ⟨hkeyed', howed⟩ := seekCommandSubmitted_account hkeyed submitted mediaGeneration
        rawTarget effectiveTarget boundary
      refine ⟨hkeyed', fun c => ?_⟩
      have hbrought := howed c
      rw [consumptions_of_reported, hreported, ← consumptions_of_reported, Nat.add_assoc]
      exact Nat.add_le_add_left hbrought _
    | _ => exact absurd (fun _ => rfl) hsubmits

end Reduction

/-! ### The budget of a run -/

namespace PlayerLifecycleState

variable {s : PlayerLifecycleState}

theorem acknowledgeEventBatch_owesNoMore (hkeyed : s.seeks.Keyed)
    (token : PlayerEventAcknowledgementToken) :
    s.seeks.OwesNoMore (s.acknowledgeEventBatch token).2.seeks := by
  rcases acknowledgeEventBatch_seeks (s := s) token with heq | ⟨s', throughSequence, hsame, heq⟩
  · rw [heq]
    exact SeekLedger.OwesNoMore.refl _
  · obtain ⟨compacted, hcompacted, hseeks⟩ :=
      compactAcknowledgedLifecycle_seeks (s := s') throughSequence
    have hstart : compacted.seeks = s.seeks := hcompacted.trans hsame
    rw [heq, hseeks, ← hstart]
    refine compactSeeks_owesNoMore _ ?_ ?_ (hstart ▸ hkeyed)
    · refine List.Pairwise.filter _ ?_
      refine Std.ExtTreeMap.distinct_keys_toList.imp fun hne heq => hne ?_
      rw [heq]
      exact Std.ReflCmp.compare_self
    · intro entry hentry
      exact Std.ExtTreeMap.mem_toList_iff_getElem?_eq_some.mp (List.mem_filter.mp hentry).1

/-- The invariant that the budget rule carries. -/
structure SeeksAccounted (s : PlayerLifecycleState) : Prop where
  settled : AttemptsSettled s.toLoadOwnership
  keyed : s.seeks.Keyed

/-- One operation pays for the consumptions it reports. -/
theorem spends_step (h : s.SeeksAccounted) (operation : Operation) :
    (s.step operation).SeeksAccounted ∧ ∀ commandId,
      (s.effectsOf operation).countP (IsConsumption commandId)
          + (s.step operation).seeks.owed commandId ≤
        s.seeks.owed commandId + if SubmitsSeek commandId operation then 1 else 0 := by
  have hsettled := settled_step s operation h.settled
  cases operation with
  | reduce input =>
    have hspends := Reduction.spends_reduce (r := { s with effects := [] }) h.settled.keyed
      h.keyed input
    refine ⟨⟨hsettled, hspends.keyed⟩, fun c => ?_⟩
    have haccount := hspends.account c
    rw [List.countP_nil, Nat.zero_add] at haccount
    exact haccount
  | peekEventBatch =>
    have hsame : (s.step .peekEventBatch).seeks = s.seeks := peekEventBatch_seeks
    refine ⟨⟨hsettled, hsame ▸ h.keyed⟩, fun c => ?_⟩
    rw [hsame]
    show List.countP _ [] + _ ≤ _
    rw [List.countP_nil]
    omega
  | acknowledgeEventBatch token =>
    have howes : s.seeks.OwesNoMore (s.step (.acknowledgeEventBatch token)).seeks :=
      acknowledgeEventBatch_owesNoMore h.keyed token
    refine ⟨⟨hsettled, howes.keyed h.keyed⟩, fun c => ?_⟩
    have howed := howes.owed c
    show List.countP _ [] + _ ≤ _
    rw [List.countP_nil]
    omega

/-- A run consumes each command's seek at most as often as it was submitted. -/
theorem consumptions_le_submissions (attachmentEpoch : PlayerAttachmentEpoch)
    (operations : List Operation) (commandId : PlayerCommandId) :
    (emitted step effectsOf (new attachmentEpoch) operations).countP (IsConsumption commandId) ≤
      operations.countP (SubmitsSeek commandId) := by
  have hnew : (new attachmentEpoch).SeeksAccounted := by
    refine ⟨settled_new attachmentEpoch, fun k owner howner => ?_⟩
    have hempty : (∅ : BTreeMap PlayerCommandId SystemSeekOwnership)[k]? = some owner := howner
    simp at hempty
  have hbudget := @budget_of_step _ _ _ step SeeksAccounted (fun s => s.seeks.owed commandId)
    effectsOf (IsConsumption commandId) (SubmitsSeek commandId) (fun s operation h => (spends_step h operation).1)
    (fun s operation h => (spends_step h operation).2 commandId) _ hnew operations
  have hnothing : (new attachmentEpoch).seeks.owed commandId = 0 := by
    show (if (∅ : BTreeMap PlayerCommandId SystemSeekOwnership)[commandId]?.any (·.state.isPending)
      then 1 else 0) + List.countP _ [] = 0
    simp
  omega

end PlayerLifecycleState

end Sorotte.Lifecycle
