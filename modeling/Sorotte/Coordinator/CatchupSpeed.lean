import Sorotte.Coordinator.RateOverride

/-! # Runs give a catch-up speed back

  Every operation is quiet, or replaces the configuration, or retires media, or
  ends in a reconciliation of the override with an observation: the one that it
  brings, or the one that is already known.  `RateLaw` is kept by each of the
  four, so it holds after every run that retires no media with an override.
-/

namespace Sorotte.Coordinator

open Sorotte.Framework

namespace PlaybackCoordinator

theorem calm_refuseObservation (c : PlaybackCoordinator)
    (observation : PlayerTransportObservation) : Calm c (c.refuseObservation observation) := by
  unfold refuseObservation
  extract_lets source cleared
  split
  · exact Calm.of_fields rfl rfl rfl rfl rfl rfl rfl
  · split <;> exact Calm.of_fields rfl rfl rfl rfl rfl rfl rfl

theorem calm_excuseMaskedPauses (c : PlaybackCoordinator) (nowSeconds : Seconds) :
    Calm c (Coordination.excuseMaskedPauses nowSeconds c) := by
  rw [Coordination.excuseMaskedPauses]
  split
  · refine ⟨Or.inl rfl, inFlight_of_kinds ?_, rfl, rfl, rfl, Or.inr rfl, fun h => h⟩
    rw [List.map_map]
    apply List.map_congr_left
    intro command _
    simp only [Function.comp_apply]
    split <;> rfl
  · exact Calm.refl c

theorem calm_degradeFailedBufferedAlternatives (commandIds : List CoordinatorCommandId)
    (c : PlaybackCoordinator) :
    Calm c (commandIds.foldl degradeFailedBufferedAlternative c)
      ∧ (commandIds.foldl degradeFailedBufferedAlternative c).observed = c.observed := by
  induction commandIds generalizing c with
  | nil => exact ⟨Calm.refl c, rfl⟩
  | cons commandId commandIds ih =>
    obtain ⟨hcalm, hobserved⟩ := ih (c.degradeFailedBufferedAlternative commandId)
    exact ⟨(c.calm_degradeFailedBufferedAlternative commandId).trans hcalm,
      hobserved.trans (c.degradeFailedBufferedAlternative_observed commandId)⟩

end PlaybackCoordinator

namespace Coordination

open PlaybackCoordinator

theorem rateCommands_pendingActions (c : PlaybackCoordinator) :
    rateCommands c.pendingActions = [] := by
  rw [pendingActions]
  cases c.pendingDegradedReason <;> rfl

theorem rateCommands_timedOut (commandIds : List CoordinatorCommandId) :
    rateCommands (commandIds.map .commandTimedOut) = [] := by
  induction commandIds with
  | nil => rfl
  | cons commandId commandIds ih => exact ih

/-! ### The clock -/

theorem quiet_expirePreparation (k : Coordination) (nowSeconds : Seconds) :
    Quiet k (k.expirePreparation nowSeconds)
      ∧ (k.expirePreparation nowSeconds).coordinator.observed = k.coordinator.observed := by
  unfold expirePreparation
  extract_lets unavailable failed
  split
  · have hfailed : Quiet k failed :=
      quiet_update ((k.coordinator.calm_failSeekPreparation _).trans
        (Calm.of_fields rfl rfl rfl rfl rfl rfl rfl))
    exact ⟨hfailed.trans (failed.quiet_pushDegraded _),
      k.coordinator.finishSeekPreparation_observed _⟩
  · exact ⟨Quiet.refl k, rfl⟩

theorem quiet_expireCommands (k : Coordination) (nowSeconds : Seconds) :
    Quiet k (k.expireCommands nowSeconds)
      ∧ (k.expireCommands nowSeconds).coordinator.observed = k.coordinator.observed := by
  unfold expireCommands
  extract_lets timedOut c
  split
  · exact ⟨Quiet.refl k, rfl⟩
  · obtain ⟨hcalm, hobserved⟩ := calm_degradeFailedBufferedAlternatives timedOut k.coordinator
    have hkept : Calm k.coordinator c := hcalm
    refine ⟨⟨?_, ?_⟩, hobserved⟩
    · exact hkept.trans ⟨Or.inl rfl, inFlight_of_filter rfl, rfl, rfl, rfl, Or.inr rfl, fun h => h⟩
    · show rateCommands (k.actions ++ c.pendingActions ++ timedOut.map .commandTimedOut) = _
      rw [rateCommands_append, rateCommands_append, rateCommands_pendingActions,
        rateCommands_timedOut, List.append_nil, List.append_nil]

theorem quiet_degradeSpentBudget (k : Coordination) :
    Quiet k k.degradeSpentBudget
      ∧ k.degradeSpentBudget.coordinator.observed = k.coordinator.observed := by
  unfold degradeSpentBudget
  extract_lets c
  split
  · have hspent : Calm c
        { c with
          metrics :=
            { c.metrics with
              degradedRecoveryCount := saturatingAdd c.metrics.degradedRecoveryCount 1 }
          diagnostic := .degraded
          commandBudgetDegraded := true
          recovery := c.recovery.map fun episode => { episode with degraded := true } } := by
      refine ⟨Or.inl rfl, fun h => h, rfl, rfl, rfl, Or.inr rfl, ?_⟩
      exact @seeksDecided_map c _ (fun episode => { episode with degraded := true }) rfl
        fun _ h => h
    exact ⟨quiet_of_actions (hspent.trans (calm_requestRateReset _)) rfl,
      (requestRateReset_frame _).2.1⟩
  · exact ⟨Quiet.refl k, rfl⟩

/-- A tick is quiet, or it ends in a reconciliation with the last observation. -/
theorem tick_cases (c : PlaybackCoordinator) (nowSeconds : F64) :
    (Quiet (silent c) (tick c nowSeconds)
        ∧ ∀ now, nowSeconds.finite? = some now → c.observed = none)
      ∨ ∃ k observed now, nowSeconds.finite? = some now ∧ c.observed = some observed
        ∧ Reconciles c k observed now (tick c nowSeconds) := by
  unfold tick
  split
  · rename_i hnow
    left
    refine ⟨Quiet.refl _, fun now h => ?_⟩
    rw [hnow] at h
    cases h
  rename_i now hnow
  extract_lets started excused settled
  have hstarted : Quiet (silent c) started :=
    ⟨Calm.of_fields rfl rfl rfl rfl rfl rfl rfl, rateCommands_pendingActions c⟩
  obtain ⟨hexpired, hexpiredObserved⟩ := started.quiet_expirePreparation now
  have hexcused : Quiet (started.expirePreparation now) excused :=
    quiet_update (calm_excuseMaskedPauses _ now)
  have hexcusedObserved :
      excused.coordinator.observed = (started.expirePreparation now).coordinator.observed := by
    show (excuseMaskedPauses now (started.expirePreparation now).coordinator).observed = _
    rw [excuseMaskedPauses]
    split <;> rfl
  obtain ⟨hcommands, hcommandsObserved⟩ := excused.quiet_expireCommands now
  obtain ⟨hbudget, hbudgetObserved⟩ := (excused.expireCommands now).quiet_degradeSpentBudget
  have hsettled : Quiet (silent c) settled :=
    (((hstarted.trans hexpired).trans hexcused).trans hcommands).trans hbudget
  have hobserved : settled.coordinator.observed = c.observed := by
    calc settled.coordinator.observed
        = (excused.expireCommands now).coordinator.observed := hbudgetObserved
      _ = excused.coordinator.observed := hcommandsObserved
      _ = (started.expirePreparation now).coordinator.observed := hexcusedObserved
      _ = c.observed := hexpiredObserved
  split
  · rename_i hnone
    exact Or.inl ⟨hsettled, fun _ _ => hobserved.symm.trans hnone⟩
  · rename_i observed hsome
    right
    have hknown : c.observed = some observed := hobserved.symm.trans hsome
    refine ⟨settled, observed, now, hnow, hknown, Or.inl hsettled, Or.inl rfl, fun rate hrate => ?_⟩
    rw [knownRate, hknown]
    exact hrate

/-! ### The reconciliation with the last observation -/

theorem reconcileWithObserved_cases {c : PlaybackCoordinator} {k : Coordination}
    (hquiet : Quiet (silent c) k) :
    Quiet (silent c) k.reconcileWithObserved
      ∨ ∃ observed nowSeconds, Reconciles c k observed nowSeconds k.reconcileWithObserved := by
  unfold reconcileWithObserved
  split
  · exact Or.inl hquiet
  rename_i observed hsome
  right
  refine ⟨observed, observed.observedAtSeconds, Or.inl hquiet, Or.inl rfl, fun rate hrate => ?_⟩
  have hknown : k.coordinator.knownRate = some rate := by
    rw [knownRate, hsome]
    exact hrate
  rcases hquiet.calm.known with hnone | hsame
  · rw [hnone] at hknown
    cases hknown
  · exact hsame.symm.trans hknown

theorem interruptRecovery_cases (c : PlaybackCoordinator) :
    Quiet (silent c) (interruptRecovery c)
      ∨ ∃ k observed nowSeconds, Reconciles c k observed nowSeconds (interruptRecovery c) := by
  have hquiet : Quiet (silent c) { coordinator := c.interrupted, actions := [] } :=
    ⟨c.calm_interrupted, rfl⟩
  rcases reconcileWithObserved_cases hquiet with hsilent | ⟨observed, nowSeconds, hreconciles⟩
  · exact Or.inl hsilent
  · exact Or.inr ⟨_, observed, nowSeconds, hreconciles⟩

theorem updateDesired_cases (c : PlaybackCoordinator) (desired : DesiredRoomPlayback F64)
    (updateKind : DesiredRoomPlaybackUpdateKind) :
    Quiet (silent c) (updateDesiredRoomStateWithKind c desired updateKind)
      ∨ ∃ k observed nowSeconds, Reconciles c k observed nowSeconds
          (updateDesiredRoomStateWithKind c desired updateKind) := by
  unfold updateDesiredRoomStateWithKind
  split
  · exact Or.inl (Quiet.refl _)
  rename_i accepted _
  have hquiet : Quiet (silent c)
      { coordinator := c.adoptDesired accepted updateKind, actions := [] } :=
    ⟨c.calm_adoptDesired accepted updateKind, rfl⟩
  rcases reconcileWithObserved_cases hquiet with hsilent | ⟨observed, nowSeconds, hreconciles⟩
  · exact Or.inl hsilent
  · exact Or.inr ⟨_, observed, nowSeconds, hreconciles⟩

/-! ### Observations -/

/-- What an operation that delivers an observation does. -/
structure Delivers (c : PlaybackCoordinator) (observation : PlayerTransportObservation)
    (observedAtSeconds : Seconds) (final : Coordination) : Prop where
  accepted : c.acceptedObservation observation = some observedAtSeconds
  reconciles : ∃ evidenceIsFresh replacePreviousState k observed,
    Reconciles
      (c.mergeObservation observation observedAtSeconds evidenceIsFresh replacePreviousState)
      k observed observedAtSeconds final

/-- The pass over a merged observation ends in a reconciliation with it. -/
theorem coordinateObservation_reconciles (c : PlaybackCoordinator)
    (previous : Option ObservedState) {observed : ObservedState}
    (observation : PlayerTransportObservation) (evidenceIsFresh : Bool)
    (hobserved : c.observed = some observed) (htimes : SaneTimes c.config)
    (hdecided : c.SeeksDecided) :
    ∃ k, Reconciles c k observed observed.observedAtSeconds
      (coordinateObservation c previous observed observation evidenceIsFresh) := by
  unfold coordinateObservation
  extract_lets targetScoped positionSampled advancing diagnosed completed prepared recovering moved
  have hdiagnosed : Calm c diagnosed :=
    (c.calm_updateCacheMetrics observation evidenceIsFresh).trans
      (calm_updateDiagnosticForObservation _ observed)
  have hpending : Calm diagnosed diagnosed.withoutPendingActions :=
    Calm.of_fields rfl rfl rfl rfl rfl rfl rfl
  have hcompleted : Quiet (silent c) completed :=
    ⟨(hdiagnosed.trans hpending).trans (calm_completeObservedCommands _ observed advancing),
      rateCommands_pendingActions diagnosed⟩
  have hprepared : Quiet completed prepared := quiet_updateSeekPreparation _ _ _ _ _
  have hrecovering : Quiet prepared recovering := quiet_updateRecovery _ _ _ _
  have hbefore : Quiet (silent c) recovering := (hcompleted.trans hprepared).trans hrecovering
  refine ⟨moved, ?_, Or.inl rfl, fun rate hrate => by rw [knownRate, hobserved]; exact hrate⟩
  rcases recovering.coordinateDesiredState_cases observed observation evidenceIsFresh advancing
    (hbefore.calm.config ▸ htimes) (hbefore.calm.decided hdecided) with hquiet | hcaught
  · exact Or.inl (hbefore.trans hquiet)
  · exact Or.inr (hcaught.after hbefore)

/-- An observation is refused quietly, or delivered. -/
theorem observeWith_cases (c : PlaybackCoordinator) (observation : PlayerTransportObservation)
    (evidenceIsFresh replacePreviousState : Bool) (htimes : SaneTimes c.config)
    (hdecided : c.SeeksDecided) :
    let final := observeWithSeekPreparationEvidence c observation evidenceIsFresh
      replacePreviousState
    (c.acceptedObservation observation = none ∧ Quiet (silent c) final)
      ∨ ∃ observedAtSeconds, Delivers c observation observedAtSeconds final := by
  intro final
  rcases haccepted : c.acceptedObservation observation with - | observedAtSeconds
  · left
    refine ⟨rfl, ?_⟩
    show Quiet _ (observeWithSeekPreparationEvidence c observation _ _)
    rw [observeWithSeekPreparationEvidence, haccepted]
    exact ⟨c.calm_refuseObservation observation, rfl⟩
  right
  refine ⟨observedAtSeconds, haccepted, ?_⟩
  obtain ⟨observed, hobserved, hat⟩ : ∃ observed : ObservedState,
      (c.mergeObservation observation observedAtSeconds evidenceIsFresh
        replacePreviousState).observed = some observed
      ∧ observed.observedAtSeconds = observedAtSeconds := ⟨_, rfl, rfl⟩
  obtain ⟨k, hreconciles⟩ := coordinateObservation_reconciles
    (c.mergeObservation observation observedAtSeconds evidenceIsFresh replacePreviousState)
    (if replacePreviousState then none else c.observed) observation evidenceIsFresh hobserved
    htimes hdecided
  rw [hat] at hreconciles
  refine ⟨evidenceIsFresh, replacePreviousState, k, observed, hreconciles.before, ?_,
    hreconciles.reported⟩
  have hfinal : final =
      if evidenceIsFresh then
        coordinateObservation (c.mergeObservation observation observedAtSeconds evidenceIsFresh
          replacePreviousState) (if replacePreviousState then none else c.observed) observed
          observation evidenceIsFresh
      else
        (coordinateObservation (c.mergeObservation observation observedAtSeconds evidenceIsFresh
          replacePreviousState) (if replacePreviousState then none else c.observed) observed
          observation evidenceIsFresh).update fun c =>
            { c with appliedObservationRevision := none } := by
    show observeWithSeekPreparationEvidence c observation _ _ = _
    rw [observeWithSeekPreparationEvidence, haccepted]
    dsimp only
    rw [hobserved]
  rw [hfinal]
  rcases hreconciles.result with hsame | hsame
  all_goals
    rw [hsame]
    split
    · first
        | exact Or.inl rfl
        | exact Or.inr rfl
    · exact Or.inr rfl

end Coordination

/-! ### One operation -/

section step

open PlaybackCoordinator Coordination

variable {c : PlaybackCoordinator} {op : CoordinatorOp} {ledger : RateLedger}

/-- When an operation looks at an observation that is known. -/
def looksAt (c : PlaybackCoordinator) : CoordinatorOp → Option Seconds
  | .observe observation | .rebaseObservation observation | .replayObservation observation =>
    c.acceptedObservation observation
  | .tick nowSeconds => c.observed.bind fun _ => nowSeconds.finite?
  | _ => none

/-- What one operation does to the speed. -/
inductive SpeedStep (c : PlaybackCoordinator) (op : CoordinatorOp) : Prop where
  /-- it leaves the speed alone -/
  | passes (rate : deliveredRate c op = none) (look : looksAt c op = none)
      (quiet : Quiet (silent c) (coordinatorStep c op))
  | configures (config : PlaybackCoordinatorConfig F64) (configured : op = .setConfig config)
  | retires (retired : op = .retireMedia)
  /-- it ends in a reconciliation with what was known before -/
  | settles (rate : deliveredRate c op = none) (k : Coordination) (observed : ObservedState)
      (nowSeconds : Seconds) (look : ∀ now, looksAt c op = some now → now = nowSeconds)
      (reconciles : Reconciles c k observed nowSeconds (coordinatorStep c op))
  /-- it ends in a reconciliation with what it brings -/
  | delivers (observation : PlayerTransportObservation) (observedAtSeconds : Seconds)
      (rate : deliveredRate c op = observedPlaybackRate observation)
      (look : looksAt c op = some observedAtSeconds)
      (delivered : Delivers c observation observedAtSeconds (coordinatorStep c op))

theorem speedStep_of_calm {c' : PlaybackCoordinator} (hrate : deliveredRate c op = none)
    (hlook : looksAt c op = none) (hstep : coordinatorStep c op = silent c') (h : Calm c c') :
    SpeedStep c op := by
  apply SpeedStep.passes hrate hlook
  rw [hstep]
  exact ⟨h, rfl⟩

theorem speedStep_of_settled (hrate : deliveredRate c op = none) (hlook : looksAt c op = none)
    (h : Quiet (silent c) (coordinatorStep c op)
      ∨ ∃ k observed nowSeconds, Reconciles c k observed nowSeconds (coordinatorStep c op)) :
    SpeedStep c op := by
  rcases h with hquiet | ⟨k, observed, nowSeconds, hreconciles⟩
  · exact SpeedStep.passes hrate hlook hquiet
  · apply SpeedStep.settles hrate k observed nowSeconds _ hreconciles
    intro now hnow
    rw [hlook] at hnow
    cases hnow

theorem speedStep_of_observation {observation : PlayerTransportObservation}
    {evidenceIsFresh replacePreviousState : Bool}
    (hrate : deliveredRate c op =
      (c.acceptedObservation observation).bind fun _ => observedPlaybackRate observation)
    (hlook : looksAt c op = c.acceptedObservation observation)
    (hstep : coordinatorStep c op =
      observeWithSeekPreparationEvidence c observation evidenceIsFresh replacePreviousState)
    (htimes : SaneTimes c.config) (hdecided : c.SeeksDecided) : SpeedStep c op := by
  rcases observeWith_cases c observation evidenceIsFresh replacePreviousState htimes hdecided
    with ⟨hrefused, hquiet⟩ | ⟨observedAtSeconds, hdelivered⟩
  · rw [hrefused] at hrate hlook
    rw [← hstep] at hquiet
    exact SpeedStep.passes hrate hlook hquiet
  · rw [hdelivered.accepted] at hrate hlook
    rw [← hstep] at hdelivered
    exact SpeedStep.delivers observation observedAtSeconds hrate hlook hdelivered

/-- Every operation does one of these. -/
theorem speedStep (c : PlaybackCoordinator) (op : CoordinatorOp) (htimes : SaneTimes c.config)
    (hdecided : c.SeeksDecided) : SpeedStep c op := by
  cases op with
  | setConfig config => exact SpeedStep.configures config rfl
  | retireMedia => exact SpeedStep.retires rfl
  | resetTransportAdapterEpoch nowSeconds =>
    exact speedStep_of_calm rfl rfl rfl (c.calm_resetTransportAdapterEpoch nowSeconds)
  | prepareMedia logicalId kind nowSeconds =>
    exact speedStep_of_calm rfl rfl rfl (c.calm_prepareMediaWithIntentInternal _ _ _ _ _)
  | prepareMediaWithIntent logicalId kind requestedIntent nowSeconds =>
    exact speedStep_of_calm rfl rfl rfl (c.calm_prepareMediaWithIntentInternal _ _ _ _ _)
  | prepareMediaForRoomParticipation logicalId kind nowSeconds =>
    exact speedStep_of_calm rfl rfl rfl (c.calm_prepareMediaWithIntentInternal _ _ _ _ _)
  | interruptRecovery => exact speedStep_of_settled rfl rfl (interruptRecovery_cases c)
  | updateDesiredRoomStateWithKind desired updateKind =>
    exact speedStep_of_settled rfl rfl (updateDesired_cases c desired updateKind)
  | observe observation =>
    exact speedStep_of_observation rfl rfl rfl htimes hdecided
  | rebaseObservation observation =>
    exact speedStep_of_observation rfl rfl rfl htimes hdecided
  | replayObservation observation =>
    exact speedStep_of_observation rfl rfl rfl htimes hdecided
  | takeAppliedObservationRevision =>
    exact speedStep_of_calm rfl rfl rfl (Calm.of_fields rfl rfl rfl rfl rfl rfl rfl)
  | commandAccepted commandId =>
    exact speedStep_of_calm rfl rfl rfl (c.calm_commandAccepted commandId)
  | supersedeUnacceptedCommand commandId =>
    exact speedStep_of_calm rfl rfl rfl (c.calm_supersedeUnacceptedCommand commandId)
  | commandFailed commandId nowSeconds =>
    exact speedStep_of_calm rfl rfl rfl (c.calm_commandFailed commandId nowSeconds)
  | takePendingActions =>
    exact SpeedStep.passes rfl rfl
      ⟨Calm.of_fields rfl rfl rfl rfl rfl rfl rfl, rateCommands_pendingActions c⟩
  | tick nowSeconds =>
    rcases tick_cases c nowSeconds with ⟨hquiet, hblind⟩ |
      ⟨k, observed, now, hnow, hobserved, hreconciles⟩
    · refine SpeedStep.passes rfl ?_ hquiet
      rw [looksAt]
      cases hnow : nowSeconds.finite? with
      | none => cases c.observed <;> rfl
      | some now =>
        rw [hblind now hnow]
        rfl
    · refine SpeedStep.settles rfl k observed now (fun at_ hat => ?_) hreconciles
      rw [looksAt, hobserved, Option.bind_some, hnow] at hat
      injection hat with hat
      exact hat.symm
  | expireTransportObservation =>
    exact speedStep_of_calm rfl rfl rfl
      (calm_of_noObservation (Calm.refl c) rfl (fun _ hmem => hmem) rfl rfl rfl rfl rfl)
  | shiftLocalPlayerTimeline deltaSeconds =>
    exact speedStep_of_calm rfl rfl rfl (c.calm_shiftLocalPlayerTimeline deltaSeconds)
  | keepWaitingForSeekPreparation nowSeconds =>
    exact speedStep_of_calm rfl rfl rfl (c.calm_keepWaitingForSeekPreparation nowSeconds)
  | cancelSeekPreparation => exact speedStep_of_calm rfl rfl rfl c.calm_cancelSeekPreparation
  | cancelSeekPreparationForLifecycle =>
    exact speedStep_of_calm rfl rfl rfl c.calm_cancelSeekPreparationForLifecycle
  | clearSeekPreparationTerminal =>
    exact speedStep_of_calm rfl rfl rfl (Calm.of_fields rfl rfl rfl rfl rfl rfl rfl)
  | confirmAlignedLocalPlay nowSeconds confirmed maximumAge =>
    exact speedStep_of_calm rfl rfl rfl
      (c.calm_confirmAlignedLocalPlay nowSeconds confirmed maximumAge)
  | joinNearestBufferedSeekPreparation nowSeconds =>
    exact SpeedStep.passes rfl rfl (quiet_joinNearestBuffered c nowSeconds)

/-! ### The law over one operation -/

/-- The merged observation is what the ledger samples. -/
theorem RateLaw.merged (h : RateLaw c ledger) (observation : PlayerTransportObservation)
    (observedAtSeconds : Seconds) (evidenceIsFresh replacePreviousState : Bool) :
    let merged := c.mergeObservation observation observedAtSeconds evidenceIsFresh
      replacePreviousState
    RateLaw merged
      (ledger.sampled merged.observationSequence (observedPlaybackRate observation)) := by
  intro merged
  have hcommand : (ledger.sampled merged.observationSequence
      (observedPlaybackRate observation)).lastCommand = ledger.lastCommand := by
    cases observedPlaybackRate observation <;> rfl
  refine ⟨h.times, h.decided, fun rate sequence hlast => h.stands rate sequence (hcommand ▸ hlast),
    fun rateOverride sequence hoverride hsequence => ?_, fun rate hrate => ?_⟩
  · rw [hcommand]
    exact h.issued rateOverride sequence hoverride hsequence
  have hknown : merged.knownRate = (observedPlaybackRate observation).or
      (c.observationBase observedAtSeconds replacePreviousState).playbackRate := rfl
  have hlast : merged.lastPlaybackRateObservationSequence =
      if (observedPlaybackRate observation).isSome then some merged.observationSequence
      else if replacePreviousState then none
      else c.lastPlaybackRateObservationSequence := rfl
  rw [hknown] at hrate
  rcases hobserved : observedPlaybackRate observation with - | sampledRate
  · -- nothing was reported: the rate is the one that was known
    rw [hobserved] at hrate hlast
    have hbase : (c.observationBase observedAtSeconds replacePreviousState).playbackRate
        = some rate := hrate
    by_cases hreplace : replacePreviousState
    · rw [observationBase, if_pos hreplace] at hbase
      cases hbase
    · rw [observationBase, if_neg hreplace] at hbase
      have hbefore : c.knownRate = some rate := by
        rw [knownRate]
        rcases hsome : c.observed with - | observed
        · rw [hsome] at hbase
          cases hbase
        · rw [hsome] at hbase
          exact hbase
      obtain ⟨sequence, hsequence, hsample⟩ := h.sample rate hbefore
      refine ⟨sequence, ?_, hsample⟩
      rw [hlast, if_neg (by simp), if_neg hreplace]
      exact hsequence
  · rw [hobserved] at hrate hlast
    injection hrate with hrate
    refine ⟨merged.observationSequence, hlast, ?_⟩
    rw [← hrate]
    rfl

/-- A configuration touches neither the speed nor the ledger. -/
theorem RateLaw.configured (h : RateLaw c ledger) (config : PlaybackCoordinatorConfig F64) :
    RateLaw (c.setConfig config) ledger :=
  ⟨saneTimes_normalized config, h.decided, h.stands, h.issued, h.sample⟩

/-- Without an override an interruption issues nothing. -/
theorem interruptRecovery_of_none (hnone : c.rateOverride = none) :
    interruptRecovery c = silent c.interrupted := by
  have hinterrupted : c.interrupted.rateOverride = none := by
    rcases c.calm_interrupted.override with hsame | hasked
    · exact hsame.trans hnone
    · rw [hasked, hnone]
      rfl
  rw [interruptRecovery, reconcileWithObserved]
  split
  · rfl
  · rw [reconcileRateOverride]
    simp only [hinterrupted]
    rfl

/-- Media retired without an override leave no speed behind. -/
theorem RateLaw.retired (h : RateLaw c ledger) (hnone : c.rateOverride = none) :
    RateLaw (coordinatorStep c .retireMedia).coordinator ledger
      ∧ rateCommands (coordinatorStep c .retireMedia).actions = [] := by
  have hstep : coordinatorStep c .retireMedia = silent c.interrupted.retired := by
    show retireMedia c = _
    rw [retireMedia, interruptRecovery_of_none hnone]
    rfl
  rw [hstep]
  obtain ⟨hoverride, hknown, hconfig, hrecovery⟩ := c.interrupted.retired_frame
  have hinterrupted := h.calm c.calm_interrupted
  refine ⟨⟨?_, ?_, fun rate sequence hlast hrate => ?_, fun rateOverride sequence hsome => ?_,
    fun rate hrate => ?_⟩, rfl⟩
  · show SaneTimes c.interrupted.retired.config
    rw [hconfig]
    exact hinterrupted.times
  · intro episode hepisode
    exact hinterrupted.decided episode (hrecovery.symm.trans hepisode)
  · obtain ⟨rateOverride, hsome, -⟩ := h.stands rate sequence hlast hrate
    rw [hnone] at hsome
    cases hsome
  · have hbad := hoverride.symm.trans hsome
    cases hbad
  · have hbad := hknown.symm.trans hrate
    cases hbad

/-- **Step lemma**: an operation that retires no media with an override keeps
    the law. -/
theorem rateLaw_step (h : RateLaw c ledger) (hkeeps : KeepsOverride c op) :
    RateLaw (recordedStep (c, ledger) op).1 (recordedStep (c, ledger) op).2 := by
  rcases speedStep c op h.times h.decided with
    ⟨hrate, -, hquiet⟩ | ⟨config, rfl⟩ | rfl | ⟨hrate, k, observed, now, -, hreconciles⟩ |
      ⟨observation, observedAtSeconds, hrate, -, -, hdelivers⟩
  · have hlaw := @RateLaw.quiet ledger (silent c) _ h hquiet rfl
      (coordinatorStep c op).coordinator.observationSequence
    rw [recordedStep, hrate]
    exact hlaw
  · exact h.configured config
  · obtain ⟨hlaw, hactions⟩ := h.retired hkeeps
    rw [recordedStep, hactions]
    exact hlaw
  · rw [recordedStep, hrate]
    exact hreconciles.law h
  · obtain ⟨evidenceIsFresh, replacePreviousState, k, observed, hreconciles⟩ := hdelivers
    have hmerged := h.merged observation observedAtSeconds evidenceIsFresh replacePreviousState
    have hlaw := hreconciles.law hmerged
    have hsequence := hreconciles.sequence
    rw [recordedStep, hrate, hsequence]
    rw [hsequence] at hlaw
    exact hlaw

/-- **Run lemma**: the law holds after every run that retires no media with an
    override. -/
theorem rateLaw_run (h : RateLaw c ledger) {ops : List CoordinatorOp}
    (hkeeps : KeepsOverrides c ops) :
    RateLaw (runFrom recordedStep (c, ledger) ops).1 (runFrom recordedStep (c, ledger) ops).2 := by
  induction ops generalizing c ledger with
  | nil => exact h
  | cons op ops ih =>
    obtain ⟨hfirst, hrest⟩ := hkeeps
    exact ih (rateLaw_step h hfirst) hrest

/-! ### The speed is given back -/

/-- No catch-up speed is left behind: the override stands as long as the last
    command is one, a look at the player gives the speed back, and only a later
    observation of the normal rate ends the override. -/
structure SpeedGuarded (c : PlaybackCoordinator) (ledger : RateLedger) : Prop where
  stands : ∀ rate sequence, ledger.lastCommand = some (rate, sequence) →
    rate ≠ normalPlaybackRate → c.rateOverride.isSome
  givenBack : ∀ op now, looksAt c op = some now → ¬ c.RateInFlight →
    ∀ rateOverride, (coordinatorStep c op).coordinator.rateOverride = some rateOverride →
    OwnerGone (coordinatorStep c op).coordinator rateOverride →
    (coordinatorStep c op).coordinator.retryNotBeforeSeconds ≤ now →
    ∃ commandId, .execute commandId (.setPlaybackRate normalPlaybackRate)
      ∈ (coordinatorStep c op).actions
  cleared : ∀ op, KeepsOverride c op → c.rateOverride.isSome →
    (coordinatorStep c op).coordinator.rateOverride = none →
    ∃ issuedAt sampledAt rate, ledger.lastCommand = some (normalPlaybackRate, issuedAt)
      ∧ (recordedStep (c, ledger) op).2.lastSample = some (sampledAt, rate)
      ∧ issuedAt < sampledAt ∧ distance rate normalPlaybackRate ≤ 1 / 1000

theorem RateLaw.givenBack (h : RateLaw c ledger) {now : Seconds} (hlook : looksAt c op = some now)
    (hidle : ¬ c.RateInFlight) {rateOverride : RateOverride}
    (hoverride : (coordinatorStep c op).coordinator.rateOverride = some rateOverride)
    (hgone : OwnerGone (coordinatorStep c op).coordinator rateOverride)
    (hretry : (coordinatorStep c op).coordinator.retryNotBeforeSeconds ≤ now) :
    ∃ commandId, .execute commandId (.setPlaybackRate normalPlaybackRate)
      ∈ (coordinatorStep c op).actions := by
  rcases speedStep c op h.times h.decided with
    ⟨-, hblind, -⟩ | ⟨config, rfl⟩ | rfl | ⟨-, k, observed, at_, hat, hreconciles⟩ |
      ⟨observation, observedAtSeconds, -, hat, -, hreconciles⟩
  · rw [hblind] at hlook
    cases hlook
  · cases hlook
  · cases hlook
  · rw [hat now hlook] at hretry
    exact hreconciles.emits hidle hoverride hgone hretry
  · obtain ⟨evidenceIsFresh, replacePreviousState, k, observed, hreconciles⟩ := hreconciles
    rw [hat] at hlook
    injection hlook with hlook
    rw [← hlook] at hretry
    exact hreconciles.emits hidle hoverride hgone hretry

theorem override_of_calm {c' : PlaybackCoordinator} (h : Calm c c')
    (hsome : c.rateOverride.isSome) : c'.rateOverride.isSome := by
  rcases h.override with hsame | hasked
  · rw [hsame]
    exact hsome
  · rw [hasked, Option.isSome_map]
    exact hsome

theorem RateLaw.cleared (h : RateLaw c ledger) (hkeeps : KeepsOverride c op)
    (hsome : c.rateOverride.isSome)
    (hcleared : (coordinatorStep c op).coordinator.rateOverride = none) :
    ∃ issuedAt sampledAt rate, ledger.lastCommand = some (normalPlaybackRate, issuedAt)
      ∧ (recordedStep (c, ledger) op).2.lastSample = some (sampledAt, rate)
      ∧ issuedAt < sampledAt ∧ distance rate normalPlaybackRate ≤ 1 / 1000 := by
  obtain ⟨rateOverride, hoverride⟩ := Option.isSome_iff_exists.mp hsome
  rcases speedStep c op h.times h.decided with
    ⟨-, -, hquiet⟩ | ⟨config, rfl⟩ | rfl | ⟨hrate, k, observed, now, -, hreconciles⟩ |
      ⟨observation, observedAtSeconds, hrate, -, -, hreconciles⟩
  · have hkept := override_of_calm hquiet.calm hsome
    rw [hcleared] at hkept
    cases hkept
  · have hkept : (c.setConfig config).rateOverride = c.rateOverride := rfl
    rw [show (coordinatorStep c (.setConfig config)).coordinator.rateOverride = c.rateOverride
      from hkept, hoverride] at hcleared
    cases hcleared
  · have hnone : c.rateOverride = none := hkeeps
    rw [hnone] at hoverride
    cases hoverride
  · obtain ⟨issuedAt, sampledAt, rate, hcommand, hsample, hlater, hnear⟩ :=
      hreconciles.clears h hoverride hcleared
    refine ⟨issuedAt, sampledAt, rate, hcommand, ?_, hlater, hnear⟩
    rw [recordedStep, hrate]
    dsimp only
    rw [commanded_lastSample]
    exact hsample
  · obtain ⟨evidenceIsFresh, replacePreviousState, k, observed, hreconciles⟩ := hreconciles
    have hmerged := h.merged observation observedAtSeconds evidenceIsFresh replacePreviousState
    obtain ⟨issuedAt, sampledAt, rate, hcommand, hsample, hlater, hnear⟩ :=
      hreconciles.clears hmerged hoverride hcleared
    refine ⟨issuedAt, sampledAt, rate, ?_, ?_, hlater, hnear⟩
    · rw [← hcommand]
      cases observedPlaybackRate observation <;> rfl
    · rw [recordedStep, hrate]
      dsimp only
      rw [commanded_lastSample, hreconciles.sequence]
      exact hsample

theorem RateLaw.guarded (h : RateLaw c ledger) : SpeedGuarded c ledger where
  stands rate sequence hlast hrate := by
    obtain ⟨rateOverride, hoverride, -⟩ := h.stands rate sequence hlast hrate
    rw [hoverride]
    rfl
  givenBack _ _ hlook hidle _ hoverride hgone hretry :=
    h.givenBack hlook hidle hoverride hgone hretry
  cleared _ hkeeps hsome hcleared := h.cleared hkeeps hsome hcleared

end step

/-- **A catch-up speed is never stranded** in a run that retires no media while
    an override stands. -/
theorem catchup_speed_is_given_back (config : PlaybackCoordinatorConfig F64)
    (ops : List CoordinatorOp) (hkeeps : KeepsOverrides (PlaybackCoordinator.new config) ops) :
    SpeedGuarded (recordedRun config ops).1 (recordedRun config ops).2 :=
  (rateLaw_run (rateLaw_new config) hkeeps).guarded

/-! ### A stranded speed -/

/-- The default configuration as a caller passes it. -/
def stockConfig : PlaybackCoordinatorConfig F64 :=
  { recoveryPolicy := .balanced
    negligibleLagSeconds := .finite 1
    hardSeekThresholdSeconds := .finite 8
    maximumCatchupRate := .finite (105 / 100)
    maximumHardSeeksPerEpisode := 1
    stabilityIntervalSeconds := .finite 4
    positionToleranceSeconds := .finite (35 / 100)
    commandTimeoutSeconds := .finite 10
    commandRetryBudget := 1
    commandRetryCooldownSeconds := .finite 2
    seekPreparationTimeoutSeconds := .finite 60
    seekPreparationMinimumHeadroomSeconds := .finite 2
    nearestBufferedTargetLimitSeconds := .finite 15 }

/-- The room plays, the player stalls for four seconds and catches up. -/
def catchingUpRun : List CoordinatorOp :=
  [.prepareMedia { value := "episode", nonempty := by decide } .networkVod 0,
    .updateDesiredRoomStateWithKind
      { mediaGeneration := 1
        stateRevision := 1
        paused := false
        anchorPositionSeconds := .finite 0
        anchorObservedAtSeconds := .finite 0
        forceSeek := false } .ordinary,
    .observe
      { mediaGeneration := 1
        observedAtSeconds := .finite 10
        phase := some .playing
        positionSeconds := some (.finite 10)
        playbackRate := some (.finite 1)
        logicalPause := some false
        pausedForCache := some true },
    .observe
      { mediaGeneration := 1
        observedAtSeconds := .finite 14
        positionSeconds := some (.finite 10)
        pausedForCache := some false },
    .observe
      { mediaGeneration := 1
        observedAtSeconds := .finite 15
        positionSeconds := some (.finite 11) }]

/-- The run catches up at 1.03, and the override stands. -/
theorem catchup_after_a_stall_is_guarded :
    (recordedRun stockConfig catchingUpRun).2.lastCommand = some (103 / 100, 3)
      ∧ (recordedRun stockConfig catchingUpRun).1.rateOverride.isSome
      ∧ SpeedGuarded (recordedRun stockConfig catchingUpRun).1
        (recordedRun stockConfig catchingUpRun).2 := by
  have hcommand : (recordedRun stockConfig catchingUpRun).2.lastCommand = some (103 / 100, 3) := by
    decide +kernel
  have hguarded := catchup_speed_is_given_back stockConfig catchingUpRun
    (by simp [catchingUpRun, KeepsOverrides, KeepsOverride])
  exact ⟨hcommand, hguarded.stands _ _ hcommand (by decide +kernel), hguarded⟩

/-- The transport goes stale while the catch-up lasts, and the media is retired:
    the player keeps 1.03 and nothing remembers it. -/
theorem retirement_strands_speed :
    let state := recordedRun stockConfig
      (catchingUpRun ++ [.expireTransportObservation, .retireMedia])
    state.2.lastCommand = some (103 / 100, 3) ∧ state.1.rateOverride.isNone := by
  decide +kernel

end Sorotte.Coordinator
