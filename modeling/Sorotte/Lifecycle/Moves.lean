import Sorotte.Lifecycle.Frames

/-! # The moves a reduction is made of

  Every reducer input but an attachment replacement edits the state by a few
  kinds of moves.  What a kind of move preserves is proved once and holds along
  every walk of moves; the next module walks every input.
-/

namespace Sorotte.Lifecycle

open Framework

/-! ### What a reduction reports -/

def outcomesOf (effects : List PlayerLifecycleEffect) : List SequencedPlayerSemanticOutcome :=
  effects.filterMap fun
    | .emitSemanticOutcome outcome => some outcome
    | _ => none

def eventsOf (effects : List PlayerLifecycleEffect) : List SequencedPlayerEvent :=
  effects.filterMap fun
    | .emitOrderedEvent event => some event
    | _ => none

/-- The ends of logical playback that the effects announce. -/
def announcedOf (effects : List PlayerLifecycleEffect) :
    List (LoadAttemptId × PlayerPhysicalLoadOutcome) :=
  effects.filterMap fun
    | .logicalPlaybackTerminal _ attemptId outcome => some (attemptId, outcome)
    | _ => none

/-- A report that an observation was, or was not, a system seek's. -/
def IsSeekReport : PlayerLifecycleEffect → Bool
  | .consumeSystemSeek .. | .nativeSeekCandidate .. => true
  | _ => false

def seekReportsOf (effects : List PlayerLifecycleEffect) : List PlayerLifecycleEffect :=
  effects.filter IsSeekReport

@[simp] theorem seekReportsOf_append (first second : List PlayerLifecycleEffect) :
    seekReportsOf (first ++ second) = seekReportsOf first ++ seekReportsOf second :=
  List.filter_append first second

/-! ### Moves -/

/-- What an edit of an attempt leaves alone, and what it can only raise. -/
structure SameLoad (a a' : LoadAttempt) : Prop where
  id : a'.id = a.id
  attachmentEpoch : a'.attachmentEpoch = a.attachmentEpoch
  mediaGeneration : a'.mediaGeneration = a.mediaGeneration
  commandId : a'.commandId = a.commandId
  result : a'.semanticLoadResult = a.semanticLoadResult
  outcomeSequence : a'.semanticOutcomeSequence = a.semanticOutcomeSequence
  revoked : a.logicalOwnershipRevoked = true → a'.logicalOwnershipRevoked = true
  terminal : a.state.isTerminal = true → a'.state.isTerminal = true
  pastSubmitting : a.state ≠ .submitting → a'.state ≠ .submitting
  deadline : a'.fileLoadedDeadlineTick = none
    ∨ a'.fileLoadedDeadlineTick = a.fileLoadedDeadlineTick

theorem SameLoad.refl (a : LoadAttempt) : SameLoad a a where
  id := rfl
  attachmentEpoch := rfl
  mediaGeneration := rfl
  commandId := rfl
  result := rfl
  outcomeSequence := rfl
  revoked := fun h => h
  terminal := fun h => h
  pastSubmitting := fun h => h
  deadline := .inr rfl

/-- A change of what neither a consumer nor a record can see. -/
structure Quiet (r r' : Reduction) : Prop where
  attachmentEpoch : r'.attachmentEpoch = r.attachmentEpoch
  loadAttempts : r'.loadAttempts = r.loadAttempts
  commands : r'.commands = r.commands
  nextLoadAttemptId : r'.nextLoadAttemptId = r.nextLoadAttemptId
  nowTick : r'.nowTick = r.nowTick
  delivery : r'.toEventDelivery = r.toEventDelivery
  outcomes : outcomesOf r'.effects = outcomesOf r.effects
  events : eventsOf r'.effects = eventsOf r.effects
  announced : announcedOf r'.effects = announcedOf r.effects
  reported : seekReportsOf r'.effects = seekReportsOf r.effects

/-- One move.  `submits` are the commands the input submits, `announces` says
    whether it may announce the end of logical playback, and `observes` whether it
    may report a seek. -/
inductive Move (submits : List PlayerCommandId) (announces observes : Prop) : Reduction → Reduction → Prop
  | quiet {r r'} (h : Quiet r r') : Move submits announces observes r r'
  | tick (r : Reduction) (nowTick : Nat) :
      Move submits announces observes r { r with nowTick := max r.nowTick nowTick }
  | edit (r : Reduction) (loadAttempts : BTreeMap LoadAttemptId LoadAttempt)
      (h : ∀ i : LoadAttemptId, Option.Rel SameLoad r.loadAttempts[i]? loadAttempts[i]?) :
      Move submits announces observes r { r with loadAttempts }
  | accept (r : Reduction) (attemptId : LoadAttemptId) (attempt : LoadAttempt)
      (h : r.loadAttempts[attemptId]? = some attempt) (hstate : attempt.state = .submitting) :
      Move submits announces observes r (r.acceptAttempt attemptId)
  | allocate (r : Reduction) (attempt : LoadAttempt)
      (hid : attempt.id = max r.nextLoadAttemptId 1)
      (hepoch : attempt.attachmentEpoch = r.attachmentEpoch)
      (hcommand : ∀ c ∈ attempt.commandId, c ∈ submits)
      (hresult : attempt.semanticLoadResult = none)
      (hsequence : attempt.semanticOutcomeSequence = none)
      (hdeadline : ∀ d ∈ attempt.fileLoadedDeadlineTick,
        d ≤ r.nowTick + acceptedLoadCompletionTicks ∧ attempt.state ≠ .submitting) :
      Move submits announces observes r
        { r with
          nextLoadAttemptId := max r.nextLoadAttemptId 1 + 1
          loadAttempts := r.loadAttempts.insert (max r.nextLoadAttemptId 1) attempt }
  | submit (r : Reduction) (commandId : PlayerCommandId) (h : commandId ∈ submits)
      (mediaGeneration : Option PlayerMediaGeneration) (kind : LifecycleCommandKind) :
      Move submits announces observes r
        { r with
          commands := r.commands.insertIfNew commandId
            (r.submittedCommand commandId mediaGeneration kind) }
  | editCommand (r : Reduction) (commandId : PlayerCommandId)
      (edit : LifecycleCommand → LifecycleCommand)
      (h : ∀ command, r.commands[commandId]? = some command →
        (edit command).id = command.id ∧ (edit command).attachmentEpoch = command.attachmentEpoch
          ∧ (edit command).terminalSequence = command.terminalSequence
          ∧ (edit command).state.isTerminal = command.state.isTerminal) :
      Move submits announces observes r (r.updateCommand commandId edit)
  | endCommand (r : Reduction) (commandId : PlayerCommandId) (terminal : CommandSemanticState) :
      Move submits announces observes r (r.commandTerminal commandId terminal)
  | endLoad (r : Reduction) (attemptId : LoadAttemptId) (result : PlayerLoadAttemptResult)
      (loadedTarget : Option String) :
      Move submits announces observes r (r.emitLoadOutcome attemptId result loadedTarget)
  | queue (r : Reduction) (event : PlayerEvent) : Move submits announces observes r (r.queueEvent event).2
  | gap (r : Reduction) : Move submits announces observes r r.markGap
  | announce (r : Reduction) (h : announces) (mediaGeneration : PlayerMediaGeneration)
      (attemptId : LoadAttemptId) (outcome : PlayerPhysicalLoadOutcome) :
      Move submits announces observes r
        (r.push (.logicalPlaybackTerminal mediaGeneration attemptId outcome))
  | report (r : Reduction) (h : observes) (effect : PlayerLifecycleEffect)
      (hreport : IsSeekReport effect = true) : Move submits announces observes r (r.push effect)

/-- A sequence of moves. -/
abbrev Walk (submits : List PlayerCommandId) (announces observes : Prop) : Reduction → Reduction → Prop :=
  Relation.ReflTransGen (Move submits announces observes)

section rules

variable {submits : List PlayerCommandId} {announces observes : Prop} {r r' r'' : Reduction}

theorem Walk.refl (r : Reduction) : Walk submits announces observes r r := Relation.ReflTransGen.refl

theorem Walk.trans (h : Walk submits announces observes r r') (h' : Walk submits announces observes r' r'') :
    Walk submits announces observes r r'' := Relation.ReflTransGen.trans h h'

theorem Move.walk (h : Move submits announces observes r r') : Walk submits announces observes r r' := .single h

theorem Quiet.walk (h : Quiet r r') : Walk submits announces observes r r' := (Move.quiet h).walk

/-- A loop is a walk when each of its rounds is one from wherever the loop has got to. -/
theorem Walk.foldl {α : Type} {round : Reduction → α → Reduction}
    (h : ∀ r a, Walk submits announces observes r (round r a)) (items : List α) (r : Reduction) :
    Walk submits announces observes r (items.foldl round r) := by
  induction items generalizing r with
  | nil => exact Walk.refl r
  | cons a items ih => exact (h r a).trans (ih (round r a))

/-- What every move of a walk preserves, the walk preserves. -/
theorem Walk.preserves {inv : Reduction → Prop}
    (hmove : ∀ {r r'}, Move submits announces observes r r' → inv r → inv r')
    (h : Walk submits announces observes r r') (hr : inv r) : inv r' := by
  induction h with
  | refl => exact hr
  | tail _ hstep ih => exact hmove hstep ih

end rules

/-! ### Walks of the helper functions -/

namespace Reduction

section helpers

variable {submits : List PlayerCommandId} {announces observes : Prop} (r : Reduction)

/-- An effect that is no emission, no announcement and no report. -/
def IsRequest : PlayerLifecycleEffect → Prop
  | .emitOrderedEvent _ | .emitSemanticOutcome _ | .logicalPlaybackTerminal ..
  | .consumeSystemSeek .. | .nativeSeekCandidate .. => False
  | _ => True

theorem walk_push {effect : PlayerLifecycleEffect} (h : IsRequest effect) :
    Walk submits announces observes r (r.push effect) := by
  have hquiet : Quiet r (r.push effect) := by
    cases effect <;> first
      | exact h.elim
      | exact ⟨rfl, rfl, rfl, rfl, rfl, rfl, by simp [push, outcomesOf], by simp [push, eventsOf],
          by simp [push, announcedOf], by simp [push, seekReportsOf, IsSeekReport]⟩
  exact hquiet.walk

theorem walk_scheduleReconciliation : Walk submits announces observes r r.scheduleReconciliation :=
  Quiet.walk (by constructor <;> rfl)

/-- `schedule_reconciliation` followed by the request for one. -/
theorem walk_requestReconciliation : Walk submits announces observes r
    (r.scheduleReconciliation.push .requestLifecycleReconciliation) :=
  (walk_scheduleReconciliation r).trans (walk_push _ trivial)

theorem walk_queueEvent (event : PlayerEvent) : Walk submits announces observes r (r.queueEvent event).2 :=
  (Move.queue r event).walk

theorem walk_commandTerminal (commandId : PlayerCommandId) (terminal : CommandSemanticState) :
    Walk submits announces observes r (r.commandTerminal commandId terminal) :=
  (Move.endCommand r commandId terminal).walk

theorem walk_emitLoadOutcome (attemptId : LoadAttemptId) (result : PlayerLoadAttemptResult)
    (loadedTarget : Option String) :
    Walk submits announces observes r (r.emitLoadOutcome attemptId result loadedTarget) :=
  (Move.endLoad r attemptId result loadedTarget).walk

theorem walk_announceLogicalTerminal (h : announces) (attemptId : LoadAttemptId)
    (mediaGeneration : PlayerMediaGeneration) (outcome : PlayerPhysicalLoadOutcome) :
    Walk submits announces observes r (r.announceLogicalTerminal attemptId mediaGeneration outcome) :=
  (walk_queueEvent r _).trans (Move.announce _ h mediaGeneration attemptId outcome).walk

/-- An edit of one attempt. -/
theorem walk_updateAttempt (attemptId : LoadAttemptId) {edit : LoadAttempt → LoadAttempt}
    (h : ∀ a, r.loadAttempts[attemptId]? = some a → SameLoad a (edit a)) :
    Walk submits announces observes r (r.updateAttempt attemptId edit) := by
  refine (Move.edit r _ fun i => ?_).walk
  rw [getElem?_modify_if]
  by_cases hi : i = attemptId
  · subst hi
    rw [if_pos rfl]
    cases ha : r.loadAttempts[i]? with
    | none => exact .none
    | some a => exact .some (h a ha)
  · rw [if_neg hi]
    cases r.loadAttempts[i]? with
    | none => exact .none
    | some a => exact .some (SameLoad.refl a)

theorem walk_updateSeek (commandId : PlayerCommandId)
    (edit : SystemSeekOwnershipState → SystemSeekOwnershipState) :
    Walk submits announces observes r (r.updateSeek commandId edit) :=
  Quiet.walk (by constructor <;> rfl)

theorem walk_retainOnly (predecessorId selectedSuccessorId : LoadAttemptId) :
    Walk submits announces observes r
      (r.retainOnlySelectedSuccessorClaim predecessorId selectedSuccessorId) := by
  refine (Move.edit r _ fun i => ?_).walk
  rw [Std.ExtTreeMap.getElem?_map]
  cases r.loadAttempts[i]? with
  | none => exact .none
  | some a =>
    refine .some ?_
    dsimp only
    split
    · exact { SameLoad.refl a with }
    · exact SameLoad.refl a

end helpers

end Reduction

end Sorotte.Lifecycle
