import Sorotte.Framework.Maps
import Sorotte.Transition.Classifier

/-! # What an operation of the classifier can do

  One inversion lemma for the pending edge, one for the gesture and one for the
  registered commands.  Everything said about runs follows from these.
-/

namespace Sorotte.Transition

open Sorotte.Framework

variable {s : PlayerTransitionClassifier}

namespace PlayerTransitionClassifier

/-! ### What commands leave alone -/

/-- The media generation and the adapter epoch that observations must be of. -/
def scope (s : PlayerTransitionClassifier) : Option Nat × Option Nat :=
  (s.activeMediaGeneration, s.activeAdapterEpoch)

/-- Two states that differ in their commands only. -/
structure SameEdge (s s' : PlayerTransitionClassifier) : Prop where
  config : s'.config = s.config
  accepted : s'.acceptedLogicalPaused = s.acceptedLogicalPaused
  pending : s'.pendingEdge = s.pendingEdge
  scope : s'.scope = s.scope

theorem SameEdge.refl (s : PlayerTransitionClassifier) : SameEdge s s := ⟨rfl, rfl, rfl, rfl⟩

theorem SameEdge.trans {s s' s'' : PlayerTransitionClassifier} (h : SameEdge s s')
    (h' : SameEdge s' s'') : SameEdge s s'' :=
  ⟨h'.config.trans h.config, h'.accepted.trans h.accepted, h'.pending.trans h.pending,
    h'.scope.trans h.scope⟩

theorem sameEdge_register (s : PlayerTransitionClassifier)
    (registration : PlayerCommandRegistration) : SameEdge s (s.registerCommand registration) := by
  unfold registerCommand
  split
  · exact ⟨rfl, rfl, rfl, rfl⟩
  · exact SameEdge.refl s

theorem sameEdge_update (s : PlayerTransitionClassifier) (key : PlayerCommandKey)
    (completion : PlayerCommandCompletion) :
    SameEdge s (s.updateCommandCompletion key completion) := by
  unfold updateCommandCompletion
  split
  · split
    · exact ⟨rfl, rfl, rfl, rfl⟩
    · exact SameEdge.refl s
  · exact SameEdge.refl s

theorem sameEdge_supersede (s : PlayerTransitionClassifier) (cause : PlayerCommandCause)
    (atSeconds : Seconds) : SameEdge s (s.supersedeUnmatchedCommands cause atSeconds) := by
  unfold supersedeUnmatchedCommands
  generalize s.unmatchedOf cause atSeconds = keys
  induction keys generalizing s with
  | nil => exact SameEdge.refl s
  | cons key keys ih => exact (sameEdge_update s key _).trans (ih _)

/-! ### Observations -/

/-- The observation comes to the stability rule: no command owns it or waits for one at its time,
    it has no technical reason, and its state is not the accepted one. -/
structure OnEdge (s : PlayerTransitionClassifier) (o : PlayerLogicalPauseObservation) : Prop where
  unmatched : s.matchingCommand o matches .none
  plain : o.technicalReason = none
  idle : s.hasActiveUnmatchedCommand o.observedAtSeconds = false
  opposite : s.acceptedLogicalPaused = some !o.logicalPaused

/-- What an observation that was looked at does to the edge. -/
inductive Looked (s : PlayerTransitionClassifier) (o : PlayerLogicalPauseObservation) :
    PlayerTransitionClassifier × PlayerTransitionClassification → Prop where
  /-- The edge is gone, and it was no gesture. -/
  | settled (s' : PlayerTransitionClassifier) (answer : PlayerTransitionClassification)
      (config : s'.config = s.config) (scope : s'.scope = s.scope)
      (gone : s'.pendingEdge = none)
      (quiet : ∀ action, answer ≠ .nativePlayerGesture action) : Looked s o (s', answer)
  /-- An unowned edge away from the accepted state. -/
  | edge (onEdge : OnEdge s o) : Looked s o ((s.recordObservation o).classifyEdge o)

theorem classifyFresh_cases (s : PlayerTransitionClassifier)
    (o : PlayerLogicalPauseObservation) : Looked s o (s.classifyFresh o) := by
  unfold classifyFresh
  dsimp only
  have hsame : (s.recordObservation o).matchingCommand o = s.matchingCommand o := rfl
  rw [hsame]
  cases hmatch : s.matchingCommand o with
  | one key command => exact .settled _ _ rfl rfl rfl nofun
  | ambiguous => exact .settled _ _ rfl rfl rfl nofun
  | none =>
    dsimp only
    unfold classifyUnowned
    dsimp only
    cases htechnical : o.technicalReason with
    | some reason =>
      dsimp only
      split
      · next hsame => exact .settled _ _ rfl rfl hsame.2 nofun
      · exact .settled _ _ rfl rfl rfl nofun
    | none =>
      dsimp only
      split
      · exact .settled _ _ rfl rfl rfl nofun
      · next hidle =>
        have hnone : s.hasActiveUnmatchedCommand o.observedAtSeconds = false :=
          Bool.eq_false_iff.mpr hidle
        have hkept : (s.recordObservation o).acceptedLogicalPaused = s.acceptedLogicalPaused := rfl
        rw [hkept]
        cases haccepted : s.acceptedLogicalPaused with
        | none => exact .settled _ _ rfl rfl rfl nofun
        | some accepted =>
          dsimp only
          split
          · exact .settled _ _ rfl rfl rfl nofun
          · next hdiffers =>
            have hopposite : s.acceptedLogicalPaused = some !o.logicalPaused := by
              rw [haccepted, Bool.eq_not_of_ne (Ne.symm hdiffers)]
            have hunmatched : s.matchingCommand o matches .none := by rw [hmatch]
            exact .edge ⟨hunmatched, htechnical, hnone, hopposite⟩

/-- The edge an observation belongs to. -/
def edgeOf (s : PlayerTransitionClassifier) (o : PlayerLogicalPauseObservation) :
    PendingStableEdge :=
  (s.pendingEdge.filter fun edge => edge.logicalPaused == o.logicalPaused).getD
    ⟨o.logicalPaused, o.observedAtSeconds⟩

theorem edgeOf_paused (s : PlayerTransitionClassifier) (o : PlayerLogicalPauseObservation) :
    (s.edgeOf o).logicalPaused = o.logicalPaused := by
  unfold edgeOf
  cases hpending : s.pendingEdge with
  | none => rfl
  | some edge =>
    rw [Option.filter_some]
    split
    · next hsame => simpa using hsame
    · rfl

/-- No edge of this state is pending. -/
def noEdgeOf (s : PlayerTransitionClassifier) (logicalPaused : Bool) : Prop :=
  ∀ edge, s.pendingEdge = some edge → edge.logicalPaused ≠ logicalPaused

/-- An edge that was waiting, or one that begins with the observation. -/
theorem edgeOf_cases (s : PlayerTransitionClassifier) (o : PlayerLogicalPauseObservation) :
    s.pendingEdge = some (s.edgeOf o)
      ∨ s.noEdgeOf o.logicalPaused ∧ s.edgeOf o = ⟨o.logicalPaused, o.observedAtSeconds⟩ := by
  unfold edgeOf noEdgeOf
  cases hpending : s.pendingEdge with
  | none => exact .inr ⟨nofun, rfl⟩
  | some edge =>
    rw [Option.filter_some]
    split
    · exact .inl rfl
    · next hother =>
      refine .inr ⟨fun edge' hedge' hsame => hother ?_, rfl⟩
      rw [Option.some.inj hedge', hsame]
      exact beq_self_eq_true _

/-- An edge is confirmed, timed out, or keeps waiting. -/
theorem classifyEdge_cases (s : PlayerTransitionClassifier) (o : PlayerLogicalPauseObservation) :
    ((s.classifyEdge o).1.config = s.config
        ∧ (s.classifyEdge o).1.scope = s.scope)
      ∧ ((∃ action, (s.classifyEdge o).2 = .nativePlayerGesture action)
          → o.context.stableFor o.logicalPaused = true
            ∧ s.config.stableConfirmationSeconds ≤
              o.observedAtSeconds - (s.edgeOf o).firstObservedAtSeconds
            ∧ (s.classifyEdge o).2 = .nativePlayerGesture (.fromPaused o.logicalPaused)
            ∧ (s.classifyEdge o).1.acceptedLogicalPaused = some o.logicalPaused)
      ∧ ((s.classifyEdge o).1.pendingEdge = none
        ∨ (s.classifyEdge o).1.pendingEdge = some (s.edgeOf o)
          ∧ (s.classifyEdge o).1.acceptedLogicalPaused = s.acceptedLogicalPaused) := by
  unfold classifyEdge
  dsimp only
  split
  · next hstable => exact ⟨⟨rfl, rfl⟩, fun _ => ⟨hstable.1, hstable.2, rfl, rfl⟩, .inl rfl⟩
  · split
    · refine ⟨⟨rfl, rfl⟩, ?_, .inl rfl⟩
      rintro ⟨_, h⟩
      cases h
    · refine ⟨⟨rfl, rfl⟩, ?_, .inr ⟨rfl, rfl⟩⟩
      rintro ⟨_, h⟩
      cases h

end PlayerTransitionClassifier

/-! ### The pending edge -/

def Op.opens : Op → Bool
  | .beginScope mediaGeneration adapterEpoch =>
      PlayerTransitionClassifier.opensScope mediaGeneration adapterEpoch
  | _ => false

/-- An operation an edge waits through: it opens no scope, and an observation that
    is looked at is of the edge's state and comes to the stability rule. -/
def Calm (paused : Bool) (s : PlayerTransitionClassifier) (op : Op) : Prop :=
  op.opens = false ∧ ∀ o, op = .classify o → s.refused o = none →
    o.logicalPaused = paused ∧ s.OnEdge o

/-- The first observation of an edge. -/
structure Begins (s : PlayerTransitionClassifier) (o : PlayerLogicalPauseObservation)
    (edge : PendingStableEdge) : Prop extends s.OnEdge o where
  looked : s.refused o = none
  edge : edge = ⟨o.logicalPaused, o.observedAtSeconds⟩
  fresh : s.noEdgeOf o.logicalPaused

/-- No operation changes the configuration, and only the opening of a scope changes the scope. -/
theorem step_frame (s : PlayerTransitionClassifier) (op : Op) :
    (step s op).config = s.config ∧ (op.opens = false → (step s op).scope = s.scope) := by
  cases op with
  | beginScope mediaGeneration adapterEpoch =>
    show (s.beginScope mediaGeneration adapterEpoch).config = _ ∧
      (PlayerTransitionClassifier.opensScope mediaGeneration adapterEpoch = false →
        (s.beginScope mediaGeneration adapterEpoch).scope = _)
    unfold PlayerTransitionClassifier.beginScope
    split
    · next hopens => exact ⟨rfl, fun hclosed => by rw [hclosed] at hopens; cases hopens⟩
    · exact ⟨rfl, fun _ => rfl⟩
  | registerCommand registration =>
    have hsame := s.sameEdge_register registration
    exact ⟨hsame.config, fun _ => hsame.scope⟩
  | updateCommandCompletion key completion =>
    have hsame := s.sameEdge_update key completion
    exact ⟨hsame.config, fun _ => hsame.scope⟩
  | supersedeUnmatchedCommands cause atSeconds =>
    have hsame := s.sameEdge_supersede cause atSeconds
    exact ⟨hsame.config, fun _ => hsame.scope⟩
  | classify o =>
    show (s.classify o).1.config = _ ∧ (_ → (s.classify o).1.scope = _)
    unfold PlayerTransitionClassifier.classify
    cases s.refused o with
    | some answer => exact ⟨rfl, fun _ => rfl⟩
    | none =>
      dsimp only
      have hcases := s.classifyFresh_cases o
      generalize s.classifyFresh o = result at hcases ⊢
      cases hcases with
      | settled s' answer config scope => exact ⟨config, fun _ => scope⟩
      | edge =>
        have hkept := ((s.recordObservation o).classifyEdge_cases o).1
        exact ⟨hkept.1, fun _ => hkept.2⟩
  | confirmPendingNativePlay =>
    show (s.confirmPendingNativePlay).1.config = _ ∧ (_ → (s.confirmPendingNativePlay).1.scope = _)
    unfold PlayerTransitionClassifier.confirmPendingNativePlay
    split
    · exact ⟨rfl, fun _ => rfl⟩
    · split <;> exact ⟨rfl, fun _ => rfl⟩
  | invalidatePendingNative logicalPaused =>
    show (s.invalidatePendingNative logicalPaused).config = _ ∧
      (_ → (s.invalidatePendingNative logicalPaused).scope = _)
    unfold PlayerTransitionClassifier.invalidatePendingNative
    split
    · exact ⟨rfl, fun _ => rfl⟩
    · split <;> exact ⟨rfl, fun _ => rfl⟩
  | tick nowSeconds =>
    show (s.tick nowSeconds).1.config = _ ∧ (_ → (s.tick nowSeconds).1.scope = _)
    unfold PlayerTransitionClassifier.tick
    split
    · exact ⟨rfl, fun _ => rfl⟩
    · split <;> exact ⟨rfl, fun _ => rfl⟩
  | pruneCommands nowSeconds => exact ⟨rfl, fun _ => rfl⟩

theorem step_config (s : PlayerTransitionClassifier) (op : Op) :
    (step s op).config = s.config := (step_frame s op).1

theorem step_scope {op : Op} (h : op.opens = false) : (step s op).scope = s.scope :=
  (step_frame s op).2 h

theorem classify_edge {o : PlayerLogicalPauseObservation} {edge : PendingStableEdge}
    (h : (s.classify o).1.pendingEdge = some edge) :
    (s.classify o).1.acceptedLogicalPaused = s.acceptedLogicalPaused
      ∧ (s.pendingEdge = some edge ∧ Calm edge.logicalPaused s (.classify o)
        ∨ Begins s o edge) := by
  unfold PlayerTransitionClassifier.classify at h ⊢
  cases hrefused : s.refused o with
  | some answer =>
    rw [hrefused] at h
    refine ⟨rfl, .inl ⟨h, rfl, fun o' ho' hlooked => ?_⟩⟩
    cases ho'
    rw [hrefused] at hlooked
    cases hlooked
  | none =>
    rw [hrefused] at h
    dsimp only at h ⊢
    have hcases := s.classifyFresh_cases o
    generalize s.classifyFresh o = result at h hcases
    cases hcases with
    | settled s' answer config scope gone quiet =>
      rw [gone] at h
      cases h
    | edge onEdge =>
      have hpaused := (s.recordObservation o).edgeOf_paused o
      have hfirst : s.pendingEdge = some ((s.recordObservation o).edgeOf o)
          ∨ s.noEdgeOf o.logicalPaused
            ∧ (s.recordObservation o).edgeOf o = ⟨o.logicalPaused, o.observedAtSeconds⟩ :=
        (s.recordObservation o).edgeOf_cases o
      have hcases := ((s.recordObservation o).classifyEdge_cases o).2.2
      generalize (s.recordObservation o).edgeOf o = first at hpaused hfirst hcases
      rcases hcases with hgone | ⟨hkept, haccepted⟩
      · rw [hgone] at h
        cases h
      · rw [hkept] at h
        cases h
        refine ⟨haccepted, ?_⟩
        rcases hfirst with hwaiting | ⟨hfresh, hfirst⟩
        · refine .inl ⟨hwaiting, rfl, fun o' ho' _ => ?_⟩
          cases ho'
          exact ⟨hpaused.symm, onEdge⟩
        · exact .inr ⟨onEdge, hrefused, hfirst, hfresh⟩

/-- What ends the pending edge or does nothing leaves no other one. -/
theorem edge_kept {t : PlayerTransitionClassifier} {edge : PendingStableEdge}
    (hends : t = s ∨ t.pendingEdge = none) (h : t.pendingEdge = some edge) :
    t.acceptedLogicalPaused = s.acceptedLogicalPaused ∧ s.pendingEdge = some edge := by
  rcases hends with rfl | hnone
  · exact ⟨rfl, h⟩
  · rw [hnone] at h
    cases h

/-- An edge that is pending after an operation was pending before it and the
    operation was calm, or the operation observed it first. -/
theorem step_edge {op : Op} {edge : PendingStableEdge}
    (h : (step s op).pendingEdge = some edge) :
    (step s op).acceptedLogicalPaused = s.acceptedLogicalPaused
      ∧ (s.pendingEdge = some edge ∧ Calm edge.logicalPaused s op
        ∨ ∃ o, op = .classify o ∧ Begins s o edge) := by
  cases op with
  | beginScope mediaGeneration adapterEpoch =>
    change (s.beginScope mediaGeneration adapterEpoch).pendingEdge = _ at h
    show (s.beginScope mediaGeneration adapterEpoch).acceptedLogicalPaused = _ ∧ _
    unfold PlayerTransitionClassifier.beginScope at h ⊢
    split at h
    · cases h
    · next hclosed =>
      rw [if_neg hclosed]
      exact ⟨rfl, .inl ⟨h, Bool.eq_false_iff.mpr hclosed, fun _ h => nomatch h⟩⟩
  | registerCommand registration =>
    have hsame : s.SameEdge (step s (.registerCommand registration)) := s.sameEdge_register registration
    refine ⟨hsame.accepted, .inl ⟨?_, rfl, fun _ h => nomatch h⟩⟩
    rw [← hsame.pending]
    exact h
  | updateCommandCompletion key completion =>
    have hsame : s.SameEdge (step s (.updateCommandCompletion key completion)) := s.sameEdge_update key completion
    refine ⟨hsame.accepted, .inl ⟨?_, rfl, fun _ h => nomatch h⟩⟩
    rw [← hsame.pending]
    exact h
  | supersedeUnmatchedCommands cause atSeconds =>
    have hsame : s.SameEdge (step s (.supersedeUnmatchedCommands cause atSeconds)) := s.sameEdge_supersede cause atSeconds
    refine ⟨hsame.accepted, .inl ⟨?_, rfl, fun _ h => nomatch h⟩⟩
    rw [← hsame.pending]
    exact h
  | classify o =>
    obtain ⟨haccepted, hedge⟩ := classify_edge h
    exact ⟨haccepted, hedge.imp id fun hbegins => ⟨o, rfl, hbegins⟩⟩
  | confirmPendingNativePlay =>
    have hends : (s.confirmPendingNativePlay).1 = s ∨ (s.confirmPendingNativePlay).1.pendingEdge = none := by
      unfold PlayerTransitionClassifier.confirmPendingNativePlay
      split
      · exact .inl rfl
      · split
        · exact .inl rfl
        · exact .inr rfl
    obtain ⟨haccepted, hkept⟩ := edge_kept hends h
    exact ⟨haccepted, .inl ⟨hkept, rfl, fun _ h => nomatch h⟩⟩
  | invalidatePendingNative logicalPaused =>
    have hends : (s.invalidatePendingNative logicalPaused) = s ∨ (s.invalidatePendingNative logicalPaused).pendingEdge = none := by
      unfold PlayerTransitionClassifier.invalidatePendingNative
      split
      · exact .inl rfl
      · split
        · exact .inl rfl
        · exact .inr rfl
    obtain ⟨haccepted, hkept⟩ := edge_kept hends h
    exact ⟨haccepted, .inl ⟨hkept, rfl, fun _ h => nomatch h⟩⟩
  | tick nowSeconds =>
    have hends : (s.tick nowSeconds).1 = s ∨ (s.tick nowSeconds).1.pendingEdge = none := by
      unfold PlayerTransitionClassifier.tick
      split
      · exact .inl rfl
      · split
        · exact .inl rfl
        · exact .inr rfl
    obtain ⟨haccepted, hkept⟩ := edge_kept hends h
    exact ⟨haccepted, .inl ⟨hkept, rfl, fun _ h => nomatch h⟩⟩
  | pruneCommands nowSeconds => exact ⟨rfl, .inl ⟨h, rfl, fun _ h => nomatch h⟩⟩

/-! ### Gestures -/

/-- What the classifier has before it when it reports a gesture. -/
structure Gesture (s : PlayerTransitionClassifier) (o : PlayerLogicalPauseObservation) :
    Prop extends s.OnEdge o where
  looked : s.refused o = none
  stable : o.context.stableFor o.logicalPaused = true
  elapsed : s.config.stableConfirmationSeconds ≤
    o.observedAtSeconds - ((s.recordObservation o).edgeOf o).firstObservedAtSeconds

theorem classify_gesture {o : PlayerLogicalPauseObservation} {action : NativePlayerAction}
    (h : (s.classify o).2 = .nativePlayerGesture action) :
    Gesture s o ∧ action = .fromPaused o.logicalPaused
      ∧ (s.classify o).1.acceptedLogicalPaused = some o.logicalPaused := by
  unfold PlayerTransitionClassifier.classify at h ⊢
  cases hrefused : s.refused o with
  | some answer =>
    rw [hrefused] at h
    dsimp only at h
    subst h
    unfold PlayerTransitionClassifier.refused at hrefused
    repeat' split at hrefused
    all_goals cases hrefused
  | none =>
    rw [hrefused] at h
    dsimp only at h ⊢
    have hcases := s.classifyFresh_cases o
    generalize s.classifyFresh o = result at h hcases ⊢
    cases hcases with
    | settled s' answer config scope gone quiet => exact absurd h (quiet action)
    | edge onEdge =>
      obtain ⟨hstable, helapsed, hanswer, haccepted⟩ :=
        ((s.recordObservation o).classifyEdge_cases o).2.1 ⟨action, h⟩
      rw [hanswer] at h
      exact ⟨⟨onEdge, hrefused, hstable, helapsed⟩,
        (PlayerTransitionClassification.nativePlayerGesture.inj h).symm, haccepted⟩

/-- A gesture is classified from an observation, or confirmed from a pending play. -/
theorem output_gesture {op : Op} {action : NativePlayerAction}
    (h : output s op = some (.nativePlayerGesture action)) :
    (∃ o, op = .classify o ∧ Gesture s o ∧ action = .fromPaused o.logicalPaused
        ∧ (step s op).acceptedLogicalPaused = some o.logicalPaused)
      ∨ op = .confirmPendingNativePlay ∧ action = .play
        ∧ (∃ edge, s.pendingEdge = some edge ∧ edge.logicalPaused = false)
        ∧ (step s op).acceptedLogicalPaused = some false := by
  cases op with
  | classify o =>
    obtain ⟨hgesture, haction, haccepted⟩ := classify_gesture (Option.some.inj h)
    exact .inl ⟨o, rfl, hgesture, haction, haccepted⟩
  | confirmPendingNativePlay =>
    refine .inr ⟨rfl, ?_⟩
    change (s.confirmPendingNativePlay).2 = _ at h
    show _ ∧ _ ∧ (s.confirmPendingNativePlay).1.acceptedLogicalPaused = _
    unfold PlayerTransitionClassifier.confirmPendingNativePlay at h ⊢
    cases hpending : s.pendingEdge with
    | none =>
      rw [hpending] at h
      cases h
    | some pending =>
      rw [hpending] at h
      dsimp only at h ⊢
      split at h
      · cases h
      · next hplay =>
        cases h
        rw [not_or, not_not] at hplay
        rw [if_neg (by simp [hplay.1, not_not.mp hplay.2])]
        exact ⟨rfl, ⟨pending, rfl, hplay.1⟩, rfl⟩
  | tick nowSeconds =>
    change (s.tick nowSeconds).2 = _ at h
    unfold PlayerTransitionClassifier.tick at h
    split at h
    · cases h
    · split at h <;> cases h
  | beginScope mediaGeneration adapterEpoch => cases h
  | registerCommand registration => cases h
  | updateCommandCompletion key completion => cases h
  | supersedeUnmatchedCommands cause atSeconds => cases h
  | invalidatePendingNative logicalPaused => cases h
  | pruneCommands nowSeconds => cases h

/-! ### Commands -/

/-- How a retained command may change: it is never unmatched again, and a first
    terminal time comes before the pending timeout. -/
structure Evolved (timeout : Seconds) (c c' : RegisteredCommand) : Prop where
  issued : c'.registration.issuedAtSeconds = c.registration.issuedAtSeconds
  key : PlayerTransitionClassifier.keyOf c'.registration =
    PlayerTransitionClassifier.keyOf c.registration
  matched : c.observationMatched = true → c'.observationMatched = true
  window : (c'.registration.completion = c.registration.completion
      ∧ c'.ownershipDeadlineSeconds = c.ownershipDeadlineSeconds)
    ∨ ∃ at', c'.registration.completion.terminalAtSeconds = some at'
      ∧ (c.registration.completion.terminalAtSeconds = none →
        at' ≤ c.registration.issuedAtSeconds + timeout)

theorem Evolved.refl (timeout : Seconds) (c : RegisteredCommand) : Evolved timeout c c :=
  ⟨rfl, rfl, id, .inl ⟨rfl, rfl⟩⟩

/-- The updated command: it has evolved, and its terminal time is the one given. -/
theorem update_command {key key' : PlayerCommandKey} {completion : PlayerCommandCompletion}
    {c' : RegisteredCommand}
    (h : (s.updateCommandCompletion key completion).commands[key']? = some c') :
    ∃ c, s.commands[key']? = some c ∧ Evolved s.config.pendingCommandTimeoutSeconds c c'
      ∧ (c' = c ∨ c'.registration.completion = completion) := by
  unfold PlayerTransitionClassifier.updateCommandCompletion at h
  cases hlookup : s.commands[key]? with
  | none =>
    rw [hlookup] at h
    exact ⟨c', h, .refl _ c', .inl rfl⟩
  | some command =>
    cases hterminal : completion.terminalAtSeconds with
    | none =>
      rw [hlookup, hterminal] at h
      exact ⟨c', h, .refl _ c', .inl rfl⟩
    | some at' =>
      rw [hlookup, hterminal] at h
      dsimp only at h
      split at h
      · next haccepts =>
        dsimp only at h
        rw [getElem?_insert_if] at h
        split at h
        · next hkey =>
          cases h
          subst hkey
          refine ⟨command, hlookup, ⟨rfl, rfl, id, .inr ⟨at', hterminal, fun hpending => ?_⟩⟩,
            .inr rfl⟩
          -- The first terminal time was tested against the pending timeout.
          unfold PlayerTransitionClassifier.acceptsTerminal at haccepts
          rw [hpending] at haccepts
          simp at haccepts
          exact haccepts.2
        · exact ⟨c', h, .refl _ c', .inl rfl⟩
      · exact ⟨c', h, .refl _ c', .inl rfl⟩

theorem Evolved.supersede {timeout at' : Seconds} {c c' c'' : RegisteredCommand}
    (h : Evolved timeout c c') (h' : Evolved timeout c' c'')
    (hto : c'.registration.completion = .superseded at')
    (hto' : c''.registration.completion = .superseded at') : Evolved timeout c c'' := by
  refine ⟨h'.issued.trans h.issued, h'.key.trans h.key, fun hm => h'.matched (h.matched hm), ?_⟩
  refine .inr ⟨at', by rw [hto']; rfl, fun hpending => ?_⟩
  rcases h.window with ⟨hsame, -⟩ | ⟨at'', hterminal, hbound⟩
  · rw [← hsame, hto] at hpending
    cases hpending
  · rw [hto] at hterminal
    cases hterminal
    exact hbound hpending

theorem supersede_command {cause : PlayerCommandCause} {atSeconds : Seconds}
    {key : PlayerCommandKey} {c' : RegisteredCommand}
    (h : (s.supersedeUnmatchedCommands cause atSeconds).commands[key]? = some c') :
    ∃ c, s.commands[key]? = some c ∧ Evolved s.config.pendingCommandTimeoutSeconds c c'
      ∧ (c' = c ∨ c'.registration.completion = .superseded atSeconds) := by
  unfold PlayerTransitionClassifier.supersedeUnmatchedCommands at h
  generalize s.unmatchedOf cause atSeconds = keys at h
  induction keys generalizing s with
  | nil => exact ⟨c', h, .refl _ c', .inl rfl⟩
  | cons first keys ih =>
    obtain ⟨c₁, hc₁, hrest, hto'⟩ := ih h
    obtain ⟨c, hc, hfirst, hto⟩ := update_command hc₁
    rw [(s.sameEdge_update first _).config] at hrest
    refine ⟨c, hc, ?_, ?_⟩
    · rcases hto with rfl | hto
      · exact hrest
      · rcases hto' with rfl | hto'
        · exact hfirst
        · exact hfirst.supersede hrest hto hto'
    · rcases hto' with rfl | hto'
      · exact hto
      · exact .inr hto'

/-- The candidate that is selected is one of those offered. -/
theorem selectCandidate_mem {entries : List (PlayerCommandKey × RegisteredCommand)} :
    ∀ {selected : Option (PlayerCommandKey × RegisteredCommand) × Bool}
      {entry : PlayerCommandKey × RegisteredCommand},
      (entries.foldl PlayerTransitionClassifier.selectCandidate selected).1 = some entry →
      selected.1 = some entry ∨ entry ∈ entries := by
  induction entries with
  | nil => exact fun h => .inl h
  | cons first rest ih =>
    intro selected entry h
    rcases ih h with hselected | hmem
    · unfold PlayerTransitionClassifier.selectCandidate at hselected
      split at hselected
      · cases hselected
        exact .inr List.mem_cons_self
      · split at hselected
        · exact .inl hselected
        · split at hselected
          · exact .inl hselected
          · cases hselected
            exact .inr List.mem_cons_self
    · exact .inr (List.mem_cons_of_mem _ hmem)

theorem matchingCommand_one {o : PlayerLogicalPauseObservation} {key : PlayerCommandKey}
    {command : RegisteredCommand} (h : s.matchingCommand o = .one key command) :
    s.commands[key]? = some command ∧ PlayerTransitionClassifier.candidate o command = true := by
  unfold PlayerTransitionClassifier.matchingCommand at h
  generalize hfold : ((s.commands.toList.filter fun entry =>
    PlayerTransitionClassifier.candidate o entry.2).foldl
      PlayerTransitionClassifier.selectCandidate (none, false)) = selected at h
  obtain ⟨chosen, ambiguous⟩ := selected
  cases ambiguous with
  | true => cases h
  | false =>
    cases chosen with
    | none => cases h
    | some entry =>
      cases h
      rcases selectCandidate_mem (congrArg Prod.fst hfold) with hnone | hmem
      · cases hnone
      · obtain ⟨hmem, hcandidate⟩ := List.mem_filter.mp hmem
        exact ⟨Std.ExtTreeMap.mem_toList_iff_getElem?_eq_some.mp hmem, hcandidate⟩

/-- An observation marks the command that owns it, and no other. -/
theorem classify_commands (s : PlayerTransitionClassifier) (o : PlayerLogicalPauseObservation) :
    (s.classify o).1.commands = s.commands
        ∧ (∀ id cause completion, (s.classify o).2 ≠ .ownedCommand id cause completion)
      ∨ ∃ key command, s.commands[key]? = some command
        ∧ PlayerTransitionClassifier.candidate o command = true
        ∧ (s.classify o).1.commands =
          s.commands.insert key { command with observationMatched := true }
        ∧ (s.classify o).2 = .ownedCommand command.registration.commandId
          command.registration.cause command.registration.completion := by
  unfold PlayerTransitionClassifier.classify
  cases hrefused : s.refused o with
  | some answer =>
    refine .inl ⟨rfl, fun id cause completion h => ?_⟩
    dsimp only at h
    subst h
    unfold PlayerTransitionClassifier.refused at hrefused
    repeat' split at hrefused
    all_goals cases hrefused
  | none =>
    dsimp only
    unfold PlayerTransitionClassifier.classifyFresh
    dsimp only
    have hsame : (s.recordObservation o).matchingCommand o = s.matchingCommand o := rfl
    rw [hsame]
    cases hmatch : s.matchingCommand o with
    | one key command =>
      obtain ⟨hlookup, hcandidate⟩ := matchingCommand_one hmatch
      exact .inr ⟨key, command, hlookup, hcandidate, rfl, rfl⟩
    | ambiguous => exact .inl ⟨rfl, fun _ _ _ h => nomatch h⟩
    | none =>
      dsimp only
      unfold PlayerTransitionClassifier.classifyUnowned
      dsimp only
      cases o.technicalReason with
      | some reason =>
        dsimp only
        split
        · exact .inl ⟨rfl, fun _ _ _ h => nomatch h⟩
        · exact .inl ⟨rfl, fun _ _ _ h => nomatch h⟩
      | none =>
        dsimp only
        split
        · exact .inl ⟨rfl, fun _ _ _ h => nomatch h⟩
        · split
          · exact .inl ⟨rfl, fun _ _ _ h => nomatch h⟩
          · split
            · exact .inl ⟨rfl, fun _ _ _ h => nomatch h⟩
            · unfold PlayerTransitionClassifier.classifyEdge
              dsimp only
              split
              · exact .inl ⟨rfl, fun _ _ _ h => nomatch h⟩
              · split
                · exact .inl ⟨rfl, fun _ _ _ h => nomatch h⟩
                · exact .inl ⟨rfl, fun _ _ _ h => nomatch h⟩

theorem confirm_commands (s : PlayerTransitionClassifier) :
    (s.confirmPendingNativePlay).1.commands = s.commands := by
  unfold PlayerTransitionClassifier.confirmPendingNativePlay
  split
  · rfl
  · split <;> rfl

theorem invalidate_commands (s : PlayerTransitionClassifier) (logicalPaused : Bool) :
    (s.invalidatePendingNative logicalPaused).commands = s.commands := by
  unfold PlayerTransitionClassifier.invalidatePendingNative
  split
  · rfl
  · split <;> rfl

theorem tick_commands (s : PlayerTransitionClassifier) (nowSeconds : Seconds) :
    (s.tick nowSeconds).1.commands = s.commands := by
  unfold PlayerTransitionClassifier.tick
  split
  · rfl
  · split <;> rfl

/-- A command that is retained after an operation was retained before it and has
    evolved, or the operation registered it. -/
theorem step_command {op : Op} {key : PlayerCommandKey} {c' : RegisteredCommand}
    (h : (step s op).commands[key]? = some c') :
    (∃ c, s.commands[key]? = some c ∧ Evolved s.config.pendingCommandTimeoutSeconds c c')
      ∨ ∃ registration, op = .registerCommand registration ∧ s.registers registration = true
        ∧ key = PlayerTransitionClassifier.keyOf registration ∧ c' = s.registered registration := by
  cases op with
  | beginScope mediaGeneration adapterEpoch =>
    change (s.beginScope mediaGeneration adapterEpoch).commands[key]? = _ at h
    unfold PlayerTransitionClassifier.beginScope at h
    split at h
    · simp at h
    · exact .inl ⟨c', h, .refl _ c'⟩
  | registerCommand registration =>
    change (s.registerCommand registration).commands[key]? = _ at h
    unfold PlayerTransitionClassifier.registerCommand at h
    split at h
    · next hregisters =>
      dsimp only at h
      rw [getElem?_insert_if] at h
      split at h
      · next hkey =>
        cases h
        exact .inr ⟨registration, rfl, hregisters, hkey, rfl⟩
      · exact .inl ⟨c', h, .refl _ c'⟩
    · exact .inl ⟨c', h, .refl _ c'⟩
  | updateCommandCompletion key' completion =>
    obtain ⟨c, hc, hevolved, -⟩ := update_command h
    exact .inl ⟨c, hc, hevolved⟩
  | supersedeUnmatchedCommands cause atSeconds =>
    obtain ⟨c, hc, hevolved, -⟩ := supersede_command h
    exact .inl ⟨c, hc, hevolved⟩
  | classify o =>
    change (s.classify o).1.commands[key]? = _ at h
    rcases classify_commands s o with ⟨hkept, -⟩ | ⟨owner, command, hlookup, -, hmarked, -⟩
    · rw [hkept] at h
      exact .inl ⟨c', h, .refl _ c'⟩
    · rw [hmarked, getElem?_insert_if] at h
      split at h
      · next hkey =>
        cases h
        subst hkey
        exact .inl ⟨command, hlookup, rfl, rfl, fun _ => rfl, .inl ⟨rfl, rfl⟩⟩
      · exact .inl ⟨c', h, .refl _ c'⟩
  | confirmPendingNativePlay =>
    change (s.confirmPendingNativePlay).1.commands[key]? = _ at h
    rw [confirm_commands] at h
    exact .inl ⟨c', h, .refl _ c'⟩
  | invalidatePendingNative logicalPaused =>
    change (s.invalidatePendingNative logicalPaused).commands[key]? = _ at h
    rw [invalidate_commands] at h
    exact .inl ⟨c', h, .refl _ c'⟩
  | tick nowSeconds =>
    change (s.tick nowSeconds).1.commands[key]? = _ at h
    rw [tick_commands] at h
    exact .inl ⟨c', h, .refl _ c'⟩
  | pruneCommands nowSeconds =>
    change (s.pruneCommands nowSeconds).commands[key]? = _ at h
    unfold PlayerTransitionClassifier.pruneCommands at h
    dsimp only at h
    rw [Std.ExtTreeMap.getElem?_filter'] at h
    obtain ⟨hlookup, -⟩ := Option.filter_eq_some_iff.mp h
    exact .inl ⟨c', hlookup, .refl _ c'⟩

end Sorotte.Transition
