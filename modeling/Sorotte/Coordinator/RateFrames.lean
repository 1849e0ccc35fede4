import Sorotte.Coordinator.Operations

/-! # What leaves a catch-up speed alone

  The speed of the player is governed by the rate override, the rate commands
  in flight and the rate that was last observed.  Almost every part of the
  coordinator is `Calm` towards them: it issues no rate command, and all it may
  do to the override is ask for its reset.  The exceptions are the start of a
  catch-up, the reconciliation and the merging of an observation.
-/

namespace Sorotte.Coordinator

/-- The rates of the rate commands among the actions. -/
def rateCommands (actions : List PlaybackCoordinatorAction) : List Seconds :=
  actions.filterMap fun action =>
    match action with
    | .execute _ (.setPlaybackRate rate) => some rate
    | _ => none

theorem rateCommands_append (first second : List PlaybackCoordinatorAction) :
    rateCommands (first ++ second) = rateCommands first ++ rateCommands second :=
  List.filterMap_append

/-- An override whose reset was asked for. -/
def resetAsked (rateOverride : RateOverride) : RateOverride :=
  if rateOverride.resetRequested then rateOverride
  else { rateOverride with resetRequested := true, resetCommandObservationSequence := none }

@[simp] theorem resetAsked_requested (rateOverride : RateOverride) :
    (resetAsked rateOverride).resetRequested = true := by
  rw [resetAsked]
  split
  · assumption
  · rfl

@[simp] theorem resetAsked_idem (rateOverride : RateOverride) :
    resetAsked (resetAsked rateOverride) = resetAsked rateOverride := by
  rw [resetAsked, if_pos (resetAsked_requested rateOverride)]

/-- The override as it is, or with its reset asked for. -/
def SameOrAsked (before after : Option RateOverride) : Prop :=
  after = before ∨ after = before.map resetAsked

theorem SameOrAsked.trans {first second third : Option RateOverride}
    (h : SameOrAsked first second) (h' : SameOrAsked second third) : SameOrAsked first third := by
  rcases h with rfl | rfl
  · exact h'
  · rcases h' with rfl | rfl
    · exact Or.inr rfl
    · right
      rw [Option.map_map]
      congr 1
      funext rateOverride
      exact resetAsked_idem rateOverride

namespace PlaybackCoordinator

/-- A rate command is in flight. -/
def RateInFlight (c : PlaybackCoordinator) : Prop :=
  ∃ command ∈ c.pendingCommands, command.kind.isRate = true

/-- The last known rate of the player. -/
def knownRate (c : PlaybackCoordinator) : Option Seconds :=
  c.observed.bind (·.playbackRate)

/-- An episode that waits for its seek has taken its decision. -/
def SeeksDecided (c : PlaybackCoordinator) : Prop :=
  ∀ episode, c.recovery = some episode → episode.seekActive = true → episode.decisionMade = true

/-- The step issues no rate command and neither sets nor clears the override. -/
structure Calm (c c' : PlaybackCoordinator) : Prop where
  override : SameOrAsked c.rateOverride c'.rateOverride
  inFlight : c'.RateInFlight → c.RateInFlight
  sequence : c'.observationSequence = c.observationSequence
  config : c'.config = c.config
  rateSequence :
    c'.lastPlaybackRateObservationSequence = c.lastPlaybackRateObservationSequence
  known : c'.knownRate = none ∨ c'.knownRate = c.knownRate
  decided : c.SeeksDecided → c'.SeeksDecided

theorem Calm.refl (c : PlaybackCoordinator) : Calm c c where
  override := Or.inl rfl
  inFlight h := h
  sequence := rfl
  config := rfl
  rateSequence := rfl
  known := Or.inr rfl
  decided h := h

theorem Calm.trans {c c' c'' : PlaybackCoordinator} (h : Calm c c') (h' : Calm c' c'') :
    Calm c c'' where
  override := h.override.trans h'.override
  inFlight hrate := h.inFlight (h'.inFlight hrate)
  sequence := h'.sequence.trans h.sequence
  config := h'.config.trans h.config
  rateSequence := h'.rateSequence.trans h.rateSequence
  known := by
    rcases h'.known with hnone | hsame
    · exact Or.inl hnone
    · rw [hsame]
      exact h.known
  decided hdecided := h'.decided (h.decided hdecided)

/-- A step that keeps the fields concerned is calm. -/
theorem Calm.of_fields {c c' : PlaybackCoordinator} (hoverride : c'.rateOverride = c.rateOverride)
    (hpending : c'.pendingCommands = c.pendingCommands)
    (hsequence : c'.observationSequence = c.observationSequence)
    (hconfig : c'.config = c.config)
    (hrate : c'.lastPlaybackRateObservationSequence = c.lastPlaybackRateObservationSequence)
    (hobserved : c'.knownRate = c.knownRate) (hrecovery : c'.recovery = c.recovery) :
    Calm c c' where
  override := Or.inl hoverride
  inFlight h := by
    rw [RateInFlight, hpending] at h
    exact h
  sequence := hsequence
  config := hconfig
  rateSequence := hrate
  known := Or.inr hobserved
  decided h := by
    rw [SeeksDecided, hrecovery]
    exact h

theorem inFlight_of_filter {c : PlaybackCoordinator} {keep : PendingCommand → Bool}
    {pending : List PendingCommand} (hpending : pending = c.pendingCommands.filter keep)
    (h : ∃ command ∈ pending, command.kind.isRate = true) : c.RateInFlight := by
  obtain ⟨command, hmem, hrate⟩ := h
  rw [hpending] at hmem
  exact ⟨command, (List.mem_filter.mp hmem).1, hrate⟩

theorem seeksDecided_map {c c' : PlaybackCoordinator} {change : RecoveryEpisode → RecoveryEpisode}
    (hrecovery : c'.recovery = c.recovery.map change)
    (hchange : ∀ episode, (episode.seekActive = true → episode.decisionMade = true) →
      (change episode).seekActive = true → (change episode).decisionMade = true)
    (h : c.SeeksDecided) : c'.SeeksDecided := by
  intro episode hepisode hactive
  rw [hrecovery] at hepisode
  obtain ⟨before, hbefore, rfl⟩ := Option.map_eq_some_iff.mp hepisode
  exact hchange before (h before hbefore) hactive

/-! ### Resets and episodes -/

theorem requestRateReset_override (c : PlaybackCoordinator) :
    c.requestRateReset.rateOverride = c.rateOverride.map resetAsked := by
  rw [requestRateReset]
  rcases hoverride : c.rateOverride with - | rateOverride
  · simp [hoverride]
  · by_cases hasked : rateOverride.resetRequested
    · simp [hasked, hoverride, resetAsked]
    · simp [hasked, resetAsked]

theorem requestRateReset_pending (c : PlaybackCoordinator) :
    ∃ keep, c.requestRateReset.pendingCommands = c.pendingCommands.filter keep := by
  rw [requestRateReset]
  rcases c.rateOverride with - | rateOverride
  · exact ⟨fun _ => true, (List.filter_eq_self.mpr fun _ _ => rfl).symm⟩
  · by_cases hasked : rateOverride.resetRequested
    · refine ⟨fun _ => true, ?_⟩
      rw [List.filter_eq_self.mpr fun _ _ => rfl]
      simp [hasked]
    · exact ⟨fun command => !command.kind.isCatchupRate, by simp [hasked]⟩

theorem requestRateReset_frame (c : PlaybackCoordinator) :
    c.requestRateReset.recovery = c.recovery
      ∧ c.requestRateReset.observed = c.observed
      ∧ c.requestRateReset.observationSequence = c.observationSequence
      ∧ c.requestRateReset.lastPlaybackRateObservationSequence
        = c.lastPlaybackRateObservationSequence
      ∧ c.requestRateReset.desired = c.desired
      ∧ c.requestRateReset.retryNotBeforeSeconds = c.retryNotBeforeSeconds
      ∧ c.requestRateReset.config = c.config := by
  rw [requestRateReset]
  split
  · exact ⟨rfl, rfl, rfl, rfl, rfl, rfl, rfl⟩
  · split <;> exact ⟨rfl, rfl, rfl, rfl, rfl, rfl, rfl⟩

theorem calm_requestRateReset (c : PlaybackCoordinator) : Calm c c.requestRateReset := by
  obtain ⟨keep, hpending⟩ := c.requestRateReset_pending
  obtain ⟨hrecovery, hobserved, hsequence, hrate, -, -, hconfig⟩ := c.requestRateReset_frame
  exact
    { override := Or.inr c.requestRateReset_override
      inFlight := inFlight_of_filter hpending
      sequence := hsequence
      config := hconfig
      rateSequence := hrate
      known := Or.inr (by rw [knownRate, hobserved]; rfl)
      decided := by
        intro h
        rw [SeeksDecided, hrecovery]
        exact h }


theorem calm_closeRecoveryWithoutMetrics (c : PlaybackCoordinator) :
    Calm c c.closeRecoveryWithoutMetrics := by
  have h := c.calm_requestRateReset
  exact ⟨h.override, h.inFlight, h.sequence, h.config, h.rateSequence, h.known, fun _ episode hepisode => by cases hepisode⟩

theorem calm_closeRecoveryWithMetrics (c : PlaybackCoordinator) (nowSeconds : Seconds) :
    Calm c (c.closeRecoveryWithMetrics nowSeconds) := by
  have h := c.calm_requestRateReset
  rw [closeRecoveryWithMetrics]
  rcases hrecovery : c.requestRateReset.recovery with - | episode
  · exact ⟨h.override, h.inFlight, h.sequence, h.config, h.rateSequence, h.known, h.decided⟩
  · exact ⟨h.override, h.inFlight, h.sequence, h.config, h.rateSequence, h.known, fun _ episode hepisode => by cases hepisode⟩

theorem calm_invalidateCacheMetricsForSeek (c : PlaybackCoordinator) :
    Calm c c.invalidateCacheMetricsForSeek := by
  have hknown : c.invalidateCacheMetricsForSeek.knownRate = c.knownRate := by
    rw [knownRate, knownRate, invalidateCacheMetricsForSeek]
    cases c.observed <;> rfl
  exact Calm.of_fields rfl rfl rfl rfl rfl hknown rfl

theorem calm_finishSeekPreparation (c : PlaybackCoordinator)
    (outcome : SeekPreparationTerminalOutcome) : Calm c (c.finishSeekPreparation outcome) := by
  rw [finishSeekPreparation]
  split
  · exact Calm.refl c
  · exact ⟨Or.inl rfl, inFlight_of_filter rfl, rfl, rfl, rfl, Or.inr rfl, fun h => h⟩

theorem finishSeekPreparation_observed (c : PlaybackCoordinator)
    (outcome : SeekPreparationTerminalOutcome) :
    (c.finishSeekPreparation outcome).observed = c.observed := by
  rw [finishSeekPreparation]
  split <;> rfl

theorem calm_cancelSeekPreparationForLifecycle (c : PlaybackCoordinator) :
    Calm c c.cancelSeekPreparationForLifecycle := by
  rw [cancelSeekPreparationForLifecycle]
  split
  · exact (c.calm_finishSeekPreparation .cancelled).trans (Calm.of_fields rfl rfl rfl rfl rfl rfl rfl)
  · exact Calm.refl c

theorem calm_failSeekPreparation (c : PlaybackCoordinator)
    (reason : SeekPreparationDegradedReason) : Calm c (c.failSeekPreparation reason) :=
  (c.calm_finishSeekPreparation _).trans (Calm.of_fields rfl rfl rfl rfl rfl rfl rfl)

theorem calm_markSeekPreparationPrimaryIssued (c : PlaybackCoordinator)
    (commandId : Option CoordinatorCommandId) :
    Calm c (c.markSeekPreparationPrimaryIssued commandId) := by
  unfold markSeekPreparationPrimaryIssued
  extract_lets marked
  have hmarked : Calm c marked := Calm.of_fields rfl rfl rfl rfl rfl rfl rfl
  exact hmarked.trans marked.calm_invalidateCacheMetricsForSeek

theorem calm_beginSeekPreparationIfNeeded (c : PlaybackCoordinator)
    (desired : DesiredRoomPlayback Seconds) : Calm c (c.beginSeekPreparationIfNeeded desired) := by
  rw [beginSeekPreparationIfNeeded]
  split
  · exact Calm.refl c
  rename_i media _
  split
  · exact Calm.refl c
  extract_lets availability opened closed
  split
  · exact Calm.refl c
  have hopened : Calm c opened := Calm.of_fields rfl rfl rfl rfl rfl rfl rfl
  have hclosed : Calm c closed := hopened.trans opened.calm_closeRecoveryWithoutMetrics
  split
  · exact hclosed.trans (calm_finishSeekPreparation _ _)
  · split
    · exact hclosed.trans (calm_finishSeekPreparation _ _)
    · exact hclosed

theorem calm_beginRecoveryHandoff (c : PlaybackCoordinator) (nowSeconds : Seconds) :
    Calm c (c.beginRecoveryHandoff nowSeconds) := by
  rw [beginRecoveryHandoff]
  split
  · exact Calm.refl c
  · refine ⟨Or.inl rfl, fun h => h, rfl, rfl, rfl, Or.inr rfl, fun _ episode hepisode hactive => ?_⟩
    injection hepisode with hepisode
    rw [← hepisode] at hactive
    cases hactive

theorem calm_degradeFailedBufferedAlternative (c : PlaybackCoordinator)
    (commandId : CoordinatorCommandId) : Calm c (c.degradeFailedBufferedAlternative commandId) := by
  rw [degradeFailedBufferedAlternative]
  split
  · exact Calm.refl c
  · extract_lets marked
    have hmarked : Calm c marked := Calm.of_fields rfl rfl rfl rfl rfl rfl rfl
    have hclosed := hmarked.trans marked.calm_closeRecoveryWithoutMetrics
    exact hclosed.trans (Calm.of_fields rfl rfl rfl rfl rfl rfl rfl)

theorem degradeFailedBufferedAlternative_observed (c : PlaybackCoordinator)
    (commandId : CoordinatorCommandId) :
    (c.degradeFailedBufferedAlternative commandId).observed = c.observed := by
  rw [degradeFailedBufferedAlternative]
  split
  · rfl
  · extract_lets marked
    exact marked.requestRateReset_frame.2.1

/-! ### Completion of commands and episodes -/

theorem recordCompletedSeek_frame (observed : ObservedState) (c : PlaybackCoordinator)
    (command : PendingCommand) :
    (recordCompletedSeek observed c command).rateOverride = c.rateOverride
      ∧ (recordCompletedSeek observed c command).pendingCommands = c.pendingCommands
      ∧ (recordCompletedSeek observed c command).observationSequence = c.observationSequence
      ∧ (recordCompletedSeek observed c command).lastPlaybackRateObservationSequence
        = c.lastPlaybackRateObservationSequence
      ∧ (recordCompletedSeek observed c command).observed = c.observed
      ∧ (recordCompletedSeek observed c command).recovery = c.recovery
      ∧ (recordCompletedSeek observed c command).config = c.config := by
  rw [recordCompletedSeek]
  split <;> exact ⟨rfl, rfl, rfl, rfl, rfl, rfl, rfl⟩

theorem calm_recordCompletedSeeks (observed : ObservedState) (completed : List PendingCommand)
    (c : PlaybackCoordinator) :
    Calm c (completed.foldl (recordCompletedSeek observed) c) := by
  induction completed generalizing c with
  | nil => exact Calm.refl c
  | cons command completed ih =>
    obtain ⟨hoverride, hpending, hsequence, hrate, hobserved, hrecovery, hconfig⟩ :=
      recordCompletedSeek_frame observed c command
    have hone : Calm c (recordCompletedSeek observed c command) :=
      Calm.of_fields hoverride hpending hsequence hconfig hrate (by rw [knownRate, hobserved]; rfl)
        hrecovery
    exact hone.trans (ih _)

theorem calm_completeObservedCommands (c : PlaybackCoordinator) (observed : ObservedState)
    (advancing : Bool) : Calm c (c.completeObservedCommands observed advancing) := by
  unfold completeObservedCommands
  extract_lets completed kept seekCompleted playCompleted recorded
  have hkept : Calm c { c with pendingCommands := kept } :=
    ⟨Or.inl rfl, inFlight_of_filter rfl, rfl, rfl, rfl, Or.inr rfl, fun h => h⟩
  have hrecorded : Calm c recorded := hkept.trans (calm_recordCompletedSeeks observed completed _)
  refine ⟨hrecorded.override, hrecorded.inFlight, hrecorded.sequence, hrecorded.config,
    hrecorded.rateSequence, hrecorded.known, fun h => ?_⟩
  have hdecided := hrecorded.decided h
  by_cases hcompleted : seekCompleted
  · refine @seeksDecided_map recorded _ reopenedRecovery ?_ ?_ hdecided
    · simp [hcompleted]
    · intro episode hepisode
      rw [reopenedRecovery]
      split
      · intro hactive
        cases hactive
      · exact hepisode
  · intro episode hepisode
    rw [if_neg hcompleted] at hepisode
    exact hdecided episode hepisode

theorem calm_updateDiagnosticForObservation (c : PlaybackCoordinator) (observed : ObservedState) :
    Calm c (c.updateDiagnosticForObservation observed) := by
  rw [updateDiagnosticForObservation]
  split <;> exact Calm.of_fields rfl rfl rfl rfl rfl rfl rfl

theorem calm_updateCacheMetrics (c : PlaybackCoordinator)
    (observation : PlayerTransportObservation) (evidenceIsFresh : Bool) :
    Calm c (c.updateCacheMetrics observation evidenceIsFresh) := by
  rw [updateCacheMetrics]
  extract_lets frozen
  split
  · exact Calm.of_fields rfl rfl rfl rfl rfl rfl rfl
  · exact Calm.refl c

theorem steadiedRecovery_seeks (observed : ObservedState) (advancing positionSampled : Bool)
    (episode : RecoveryEpisode) :
    (steadiedRecovery observed advancing positionSampled episode).seekActive = episode.seekActive
      ∧ (steadiedRecovery observed advancing positionSampled episode).decisionMade
        = episode.decisionMade := by
  rw [steadiedRecovery]
  split
  · exact ⟨rfl, rfl⟩
  · split
    · exact ⟨rfl, rfl⟩
    · split <;> exact ⟨rfl, rfl⟩

theorem calm_updateRecoveryEpisode (c : PlaybackCoordinator) (observed : ObservedState)
    (advancing positionSampled : Bool) :
    Calm c (c.updateRecoveryEpisode observed advancing positionSampled).2 := by
  rw [updateRecoveryEpisode]
  rcases hrecovery : c.recovery with - | episode
  · split
    · refine ⟨Or.inl rfl, fun h => h, rfl, rfl, rfl, Or.inr rfl, fun _ opened hopened hactive => ?_⟩
      injection hopened with hopened
      rw [← hopened] at hactive
      cases hactive
    · exact Calm.refl c
  · split
    · refine ⟨Or.inl rfl, fun h => h, rfl, rfl, rfl, Or.inr rfl, fun h opened hopened hactive => ?_⟩
      injection hopened with hopened
      rw [← hopened] at hactive ⊢
      exact h episode hrecovery hactive
    · refine ⟨Or.inl rfl, fun h => h, rfl, rfl, rfl, Or.inr rfl, fun h opened hopened hactive => ?_⟩
      injection hopened with hopened
      obtain ⟨hseek, hdecision⟩ :=
        steadiedRecovery_seeks observed advancing positionSampled episode
      rw [← hopened] at hactive ⊢
      rw [hdecision]
      exact h episode hrecovery (hseek ▸ hactive)

theorem calm_seekPreparationReady (c : PlaybackCoordinator) (observed : ObservedState)
    (episode : SeekPreparationEpisode) : Calm c (c.seekPreparationReady observed episode) := by
  unfold seekPreparationReady
  extract_lets alignmentNeeded aligned finished
  have haligned : Calm c aligned := Calm.of_fields rfl rfl rfl rfl rfl rfl rfl
  have hfinished : Calm c finished := haligned.trans (aligned.calm_finishSeekPreparation _)
  split
  · exact hfinished.trans (finished.calm_beginRecoveryHandoff _)
  · exact hfinished

end PlaybackCoordinator

/-! ### Steps that push actions -/

namespace Coordination

open PlaybackCoordinator

/-- The step is calm and pushes no rate command. -/
structure Quiet (k k' : Coordination) : Prop where
  calm : Calm k.coordinator k'.coordinator
  emits : rateCommands k'.actions = rateCommands k.actions

theorem Quiet.refl (k : Coordination) : Quiet k k := ⟨Calm.refl _, rfl⟩

theorem Quiet.trans {k k' k'' : Coordination} (h : Quiet k k') (h' : Quiet k' k'') : Quiet k k'' :=
  ⟨h.calm.trans h'.calm, h'.emits.trans h.emits⟩

theorem quiet_update {k : Coordination} {change : PlaybackCoordinator → PlaybackCoordinator}
    (h : Calm k.coordinator (change k.coordinator)) : Quiet k (k.update change) :=
  ⟨h, rfl⟩

theorem quiet_of_actions {k : Coordination} {c : PlaybackCoordinator}
    {actions : List PlaybackCoordinatorAction} (h : Calm k.coordinator c)
    (hactions : rateCommands actions = []) :
    Quiet k { coordinator := c, actions := k.actions ++ actions } := by
  refine ⟨h, ?_⟩
  rw [rateCommands_append, hactions, List.append_nil]

theorem quiet_pushDegraded (k : Coordination) (reason : DegradedPlaybackReason) :
    Quiet k (k.pushDegraded reason) :=
  quiet_of_actions (Calm.refl _) rfl

theorem isRate_of_baseline {kind : PendingCommandKind} (h : kind.isBaselineRate = true) :
    kind.isRate = true := by
  cases kind <;> first | rfl | cases h

/-- Issuing a command of another kind is quiet. -/
theorem quiet_issueCommand (k : Coordination) (revision : Nat) (nowSeconds : Seconds)
    (kind : PendingCommandKind) (command : CoordinatorPlayerCommand) (hkind : kind.isRate = false)
    (hcommand : ∀ commandId, rateCommands [.execute commandId command] = []) :
    Quiet k (k.issueCommand revision nowSeconds kind command).2 := by
  rw [issueCommand]
  split
  · exact Quiet.refl k
  have hreset : isBaselineRateReset k.coordinator kind = false := by
    rw [isBaselineRateReset]
    rcases hbase : kind.isBaselineRate with - | -
    · rfl
    · rw [isRate_of_baseline hbase] at hkind
      cases hkind
  refine quiet_of_actions ?_ (hcommand _)
  have hinvalidated : Calm k.coordinator
      (if kind.isSeek then k.coordinator.invalidateCacheMetricsForSeek else k.coordinator) := by
    split
    · exact k.coordinator.calm_invalidateCacheMetricsForSeek
    · exact Calm.refl _
  obtain ⟨hoverride, hinFlight, hsequence, hconfig, hlast, hknown, hdecided⟩ := hinvalidated
  refine ⟨?_, ?_, hsequence, hconfig, hlast, hknown, hdecided⟩
  · simp only [issued, hreset]
    exact hoverride
  · rintro ⟨pending, hmem, hrate⟩
    rcases List.mem_append.mp hmem with hold | hnew
    · exact hinFlight ⟨pending, hold, hrate⟩
    · rw [List.mem_singleton.mp hnew] at hrate
      rw [hkind] at hrate
      cases hrate

theorem quiet_issuePauseUnlessPaused (k : Coordination) (desired : DesiredRoomPlayback Seconds)
    (observed : ObservedState) : Quiet k (k.issuePauseUnlessPaused desired observed) := by
  rw [issuePauseUnlessPaused]
  split
  · exact k.quiet_issueCommand _ _ _ _ rfl fun _ => rfl
  · exact Quiet.refl k

theorem quiet_enterDegradedRecovery (k : Coordination) (reason : DegradedPlaybackReason) :
    Quiet k (k.enterDegradedRecovery reason) := by
  unfold enterDegradedRecovery
  extract_lets source metrics degraded requested reset
  split
  · exact Quiet.refl k
  apply quiet_of_actions _ rfl
  have hdegraded : Calm k.coordinator degraded := by
    refine ⟨Or.inl rfl, fun h => h, rfl, rfl, rfl, Or.inr rfl, ?_⟩
    exact @seeksDecided_map _ degraded degradedEpisode rfl fun _ _ _ => rfl
  have hdiagnostic : Calm degraded.requestRateReset reset :=
    Calm.of_fields rfl rfl rfl rfl rfl rfl rfl
  exact (hdegraded.trans degraded.calm_requestRateReset).trans hdiagnostic

theorem quiet_markApplied (k : Coordination) (desired : DesiredRoomPlayback Seconds) :
    Quiet k (k.markApplied desired) := by
  unfold markApplied
  extract_lets applied
  split
  · exact ⟨Calm.of_fields rfl rfl rfl rfl rfl rfl rfl, rfl⟩
  · exact quiet_of_actions (Calm.of_fields rfl rfl rfl rfl rfl rfl rfl) rfl

theorem quiet_markRevisionApplied (k : Coordination) (desired : DesiredRoomPlayback Seconds)
    (observed : ObservedState) (started : Bool) :
    Quiet k (k.markRevisionApplied desired observed started) := by
  unfold markRevisionApplied
  extract_lets applied c guarded
  split
  · exact (k.quiet_markApplied desired).trans
      (quiet_of_actions (Calm.of_fields rfl rfl rfl rfl rfl rfl rfl) rfl)
  · exact k.quiet_markApplied desired

theorem quiet_updateSeekPreparation (k : Coordination) (observed : ObservedState)
    (observation : PlayerTransportObservation)
    (evidenceIsFresh targetScopedCacheEvidence : Bool) :
    Quiet k (k.updateSeekPreparation observed observation evidenceIsFresh
      targetScopedCacheEvidence) := by
  unfold updateSeekPreparation
  split
  · rename_i media current _ _
    extract_lets availability classified evidence
    have hfail : ∀ reason, Quiet k (k.update (·.failSeekPreparation reason)) := by
      intro reason
      exact quiet_update (k.coordinator.calm_failSeekPreparation reason)
    split
    · exact (hfail _).trans (quiet_pushDegraded _ _)
    split
    · exact (hfail _).trans (quiet_pushDegraded _ _)
    split
    · exact hfail _
    split
    · exact quiet_update (k.coordinator.calm_seekPreparationReady observed evidence.1)
    · exact quiet_update (Calm.of_fields rfl rfl rfl rfl rfl rfl rfl)
  · exact Quiet.refl k

theorem quiet_updateRecovery (k : Coordination) (observed : ObservedState)
    (advancing positionSampled : Bool) :
    Quiet k (k.updateRecovery observed advancing positionSampled) := by
  unfold updateRecovery
  extract_lets updated next
  split
  · exact Quiet.refl k
  have hnext : Quiet k next :=
    ⟨k.coordinator.calm_updateRecoveryEpisode observed advancing positionSampled, rfl⟩
  split
  · exact hnext
  · exact hnext.trans (next.quiet_enterDegradedRecovery _)

theorem quiet_issueUnseekable (k : Coordination) (desired : DesiredRoomPlayback Seconds)
    (observed : ObservedState) : Quiet k (k.issueUnseekable desired observed) := by
  unfold issueUnseekable
  extract_lets begun paused
  split
  · have hbegun : Quiet k begun :=
      quiet_update ((k.coordinator.calm_beginSeekPreparationIfNeeded desired).trans
        (Calm.of_fields rfl rfl rfl rfl rfl rfl rfl))
    have hpaused : Quiet k paused := hbegun.trans (begun.quiet_issuePauseUnlessPaused _ _)
    split
    · exact hpaused.trans (quiet_of_actions (Calm.refl _) rfl)
    · exact hpaused
  · exact quiet_update (Calm.of_fields rfl rfl rfl rfl rfl rfl rfl)

theorem quiet_issueDesiredSeekIfNeeded (k : Coordination) (desired : DesiredRoomPlayback Seconds)
    (observed : ObservedState) : Quiet k (k.issueDesiredSeekIfNeeded desired observed) := by
  unfold issueDesiredSeekIfNeeded
  extract_lets c target dispatchRequired begun
  split
  · exact Quiet.refl k
  split
  · exact quiet_update (Calm.of_fields rfl rfl rfl rfl rfl rfl rfl)
  split
  · exact k.quiet_issueUnseekable desired observed
  split
  · have hbegun : Quiet k begun := by
      show Quiet k (if _ then _ else _)
      split
      · exact quiet_update (k.coordinator.calm_beginSeekPreparationIfNeeded desired)
      · exact Quiet.refl k
    exact hbegun.trans (begun.quiet_issuePauseUnlessPaused _ _)
  · exact k.quiet_issueCommand _ _ _ _ rfl fun _ => rfl

theorem quiet_issueSeekPreparationPrimarySeek (k : Coordination)
    (desired : DesiredRoomPlayback Seconds) (observed : ObservedState) :
    Quiet k (k.issueSeekPreparationPrimarySeek desired observed).2 := by
  unfold issueSeekPreparationPrimarySeek
  extract_lets
  split
  · exact Quiet.refl k
  extract_lets target
  split
  · exact Quiet.refl k
  split
  · show Quiet k (k.update (·.markSeekPreparationPrimaryIssued none))
    exact quiet_update (k.coordinator.calm_markSeekPreparationPrimaryIssued none)
  split
  · exact Quiet.refl k
  have hissued := k.quiet_issueCommand desired.stateRevision observed.observedAtSeconds
    (PendingCommandKind.seek target observed.playbackRestartSequence false)
    (CoordinatorPlayerCommand.setPosition target) rfl fun _ => rfl
  split
  · rename_i commandId next hnext
    rw [hnext] at hissued
    have hmarked : Quiet next (next.update (·.markSeekPreparationPrimaryIssued (some commandId))) :=
      quiet_update (next.coordinator.calm_markSeekPreparationPrimaryIssued _)
    exact hissued.trans hmarked
  · rename_i next hnext
    rw [hnext] at hissued
    exact hissued

theorem quiet_rearmDisplacedAlignment (k : Coordination) (desired : DesiredRoomPlayback Seconds)
    (observed : ObservedState) : Quiet k (k.rearmDisplacedAlignment desired observed) := by
  unfold rearmDisplacedAlignment
  extract_lets c target rearmed
  split
  · have hrearmed : Quiet k rearmed := by
      apply quiet_update
      exact ⟨Or.inl rfl, inFlight_of_filter rfl, rfl, rfl, rfl, Or.inr rfl, fun h => h⟩
    exact hrearmed.trans (rearmed.quiet_issuePauseUnlessPaused _ _)
  · exact Quiet.refl k

theorem quiet_coordinateSeekPreparation (k : Coordination) (desired : DesiredRoomPlayback Seconds)
    (observed : ObservedState) (observation : PlayerTransportObservation) (evidenceIsFresh : Bool) :
    Quiet k (k.coordinateSeekPreparation desired observed observation evidenceIsFresh).2 := by
  unfold coordinateSeekPreparation
  extract_lets paused issued updated
  split
  · have hpaused : Quiet k paused := k.quiet_issuePauseUnlessPaused desired observed
    have hissued : Quiet k issued.2 :=
      hpaused.trans (paused.quiet_issueSeekPreparationPrimarySeek desired observed)
    show Quiet k (if _ then _ else _)
    split
    · exact hissued.trans (quiet_updateSeekPreparation _ _ _ _ _)
    · exact hissued
  · exact Quiet.refl k

theorem quiet_coordinatePaused (k : Coordination) (desired : DesiredRoomPlayback Seconds)
    (observed : ObservedState) : Quiet k (k.coordinatePaused desired observed) := by
  unfold coordinatePaused
  extract_lets paused aligned
  have hpaused : Quiet k paused := k.quiet_issuePauseUnlessPaused desired observed
  have haligned : Quiet k aligned :=
    hpaused.trans (paused.quiet_issueDesiredSeekIfNeeded desired observed)
  split
  · exact hpaused
  split
  · exact haligned
  split
  · exact haligned.trans (aligned.quiet_markRevisionApplied _ _ _)
  · exact haligned

/-! ### The catch-up -/

/-- Timeouts and intervals are positive, as `normalized` leaves them. -/
def SaneTimes (config : PlaybackCoordinatorConfig Seconds) : Prop :=
  0 < config.commandTimeoutSeconds ∧ 0 < config.stabilityIntervalSeconds

/-- The override belongs to the episode in progress and no reset was asked for. -/
def OwnerActive (c : PlaybackCoordinator) : Prop :=
  ∃ episode, c.recovery = some episode
    ∧ c.rateOverride = some
      { episodeId := episode.id
        resetRequested := false
        resetCommandObservationSequence := none }

/-- A catch-up was started. -/
structure CaughtUp (k k' : Coordination) : Prop where
  owned : OwnerActive k'.coordinator
  sequence : k'.coordinator.observationSequence = k.coordinator.observationSequence
  config : k'.coordinator.config = k.coordinator.config
  rateSequence : k'.coordinator.lastPlaybackRateObservationSequence
    = k.coordinator.lastPlaybackRateObservationSequence
  known : k'.coordinator.knownRate = none ∨ k'.coordinator.knownRate = k.coordinator.knownRate
  decided : k'.coordinator.SeeksDecided

theorem CaughtUp.after {k k' k'' : Coordination} (h' : CaughtUp k' k'') (h : Quiet k k') :
    CaughtUp k k'' where
  owned := h'.owned
  sequence := h'.sequence.trans h.calm.sequence
  config := h'.config.trans h.calm.config
  rateSequence := h'.rateSequence.trans h.calm.rateSequence
  known := by
    rcases h'.known with hnone | hsame
    · exact Or.inl hnone
    · rw [hsame]
      exact h.calm.known
  decided := h'.decided

theorem catchupDeadlineAfter_pos {config : PlaybackCoordinatorConfig Seconds}
    (h : SaneTimes config) (targetRate lag : Seconds) :
    0 < catchupDeadlineAfter config targetRate lag := by
  have hsum : 0 < config.commandTimeoutSeconds + config.stabilityIntervalSeconds :=
    add_pos h.1 h.2
  rw [catchupDeadlineAfter]
  apply lt_min
  · exact lt_of_lt_of_le hsum (le_max_right _ _)
  · norm_num [maximumCatchupEpisodeSeconds]

/-- The fields of `issue_command` that every kind leaves alone. -/
theorem issueCommand_frame (k : Coordination) (revision : Nat) (nowSeconds : Seconds)
    (kind : PendingCommandKind) (command : CoordinatorPlayerCommand) :
    (k.issueCommand revision nowSeconds kind command).2.coordinator.recovery
        = k.coordinator.recovery
      ∧ (k.issueCommand revision nowSeconds kind command).2.coordinator.observationSequence
        = k.coordinator.observationSequence
      ∧ (k.issueCommand revision nowSeconds kind command).2.coordinator.config
        = k.coordinator.config
      ∧ (k.issueCommand revision nowSeconds kind command).2.coordinator.knownRate
        = k.coordinator.knownRate
      ∧ (k.issueCommand revision nowSeconds kind command).2.coordinator.lastPlaybackRateObservationSequence
        = k.coordinator.lastPlaybackRateObservationSequence := by
  rw [issueCommand]
  split
  · exact ⟨rfl, rfl, rfl, rfl, rfl⟩
  · by_cases hseek : kind.isSeek
    · have hknown : k.coordinator.invalidateCacheMetricsForSeek.knownRate
          = k.coordinator.knownRate := by
        rw [knownRate, knownRate, invalidateCacheMetricsForSeek]
        cases k.coordinator.observed <;> rfl
      simp only [issued, hseek, if_true]
      exact ⟨rfl, rfl, rfl, hknown, rfl⟩
    · simp only [issued, hseek]
      exact ⟨rfl, rfl, rfl, rfl, rfl⟩

theorem issueCommand_override (k : Coordination) (revision : Nat) (nowSeconds : Seconds)
    (kind : PendingCommandKind) (command : CoordinatorPlayerCommand)
    (h : isBaselineRateReset k.coordinator kind = false) :
    (k.issueCommand revision nowSeconds kind command).2.coordinator.rateOverride
      = k.coordinator.rateOverride := by
  rw [issueCommand]
  split
  · rfl
  · simp only [issued, h]
    by_cases hseek : kind.isSeek
    · simp [hseek, invalidateCacheMetricsForSeek]
    · simp [hseek]

/-- Where the episode in progress is the one that decides, a catch-up leaves it
    active with a deadline ahead, and the override in its hands. -/
theorem startCatchup_spec (k : Coordination) (desired : DesiredRoomPlayback Seconds)
    (observed : ObservedState) {episode : RecoveryEpisode} (lag : Seconds)
    (hrecovery : k.coordinator.recovery = some episode) :
    let k' := k.startCatchup desired observed episode lag
    (∃ targetRate, k'.coordinator.recovery = some (catchingUp
        (observed.observedAtSeconds + catchupDeadlineAfter k.coordinator.config targetRate lag)
        episode))
      ∧ OwnerActive k'.coordinator
      ∧ k'.coordinator.observationSequence = k.coordinator.observationSequence
      ∧ k'.coordinator.config = k.coordinator.config
      ∧ k'.coordinator.knownRate = k.coordinator.knownRate
      ∧ k'.coordinator.lastPlaybackRateObservationSequence
        = k.coordinator.lastPlaybackRateObservationSequence := by
  intro k'
  obtain ⟨started, hstarted, hrec, hover, hsame⟩ : ∃ started : Coordination,
      k' = (started.issueCommand desired.stateRevision observed.observedAtSeconds
        (.rate (catchupTargetRate k.coordinator episode))
        (.setPlaybackRate (catchupTargetRate k.coordinator episode))).2
      ∧ started.coordinator.recovery = some (catchingUp
        (observed.observedAtSeconds + catchupDeadlineAfter k.coordinator.config
          (catchupTargetRate k.coordinator episode) lag) episode)
      ∧ started.coordinator.rateOverride = some
        { episodeId := episode.id
          resetRequested := false
          resetCommandObservationSequence := none }
      ∧ started.coordinator.observationSequence = k.coordinator.observationSequence
      ∧ started.coordinator.config = k.coordinator.config
      ∧ started.coordinator.knownRate = k.coordinator.knownRate
      ∧ started.coordinator.lastPlaybackRateObservationSequence
        = k.coordinator.lastPlaybackRateObservationSequence := by
    refine ⟨_, rfl, ?_, rfl, rfl, rfl, rfl, rfl⟩
    show k.coordinator.recovery.map _ = _
    rw [hrecovery]
    rfl
  obtain ⟨hsequence, hconfig, hknown, hlast⟩ := hsame
  have hframe := started.issueCommand_frame desired.stateRevision observed.observedAtSeconds
    (.rate (catchupTargetRate k.coordinator episode))
    (.setPlaybackRate (catchupTargetRate k.coordinator episode))
  have hoverride := started.issueCommand_override desired.stateRevision observed.observedAtSeconds
    (.rate (catchupTargetRate k.coordinator episode))
    (.setPlaybackRate (catchupTargetRate k.coordinator episode)) (by
      rw [isBaselineRateReset, hover]
      simp)
  rw [← hstarted] at hframe hoverride
  obtain ⟨hrec', hsequence', hconfig', hknown', hlast'⟩ := hframe
  refine ⟨⟨_, hrec'.trans hrec⟩, ⟨_, hrec'.trans hrec, hoverride.trans hover⟩,
    hsequence'.trans hsequence, hconfig'.trans hconfig, hknown'.trans hknown,
    hlast'.trans hlast⟩

/-- A hard seek followed by the closing of the decision. -/
theorem quiet_startHardSeek (k : Coordination) (desired : DesiredRoomPlayback Seconds)
    (observed : ObservedState) (roomPosition : Seconds) :
    Quiet k ((k.startHardSeek desired observed roomPosition).update fun c =>
      { c with recovery := c.recovery.map decided }) := by
  unfold startHardSeek
  extract_lets target seeking
  have hissued := seeking.quiet_issueCommand desired.stateRevision observed.observedAtSeconds
    (.seek target observed.playbackRestartSequence false) (.setPosition target) rfl fun _ => rfl
  obtain ⟨⟨hoverride, hinFlight, hsequence, hconfig, hlast, hknown, -⟩, hemits⟩ := hissued
  refine ⟨⟨hoverride, hinFlight, hsequence, hconfig, hlast, hknown, fun _ episode hepisode _ => ?_⟩,
    hemits⟩
  obtain ⟨before, -, rfl⟩ := Option.map_eq_some_iff.mp hepisode
  rfl

theorem quiet_closeDecision (k : Coordination) :
    Quiet k (k.update fun c => { c with recovery := c.recovery.map decided }) := by
  apply quiet_update
  refine ⟨Or.inl rfl, fun h => h, rfl, rfl, rfl, Or.inr rfl, ?_⟩
  exact @seeksDecided_map k.coordinator _ decided rfl fun _ _ _ => rfl

/-- The decision is quiet, or it starts a catch-up for a lag that is not
    negligible. -/
theorem decideRecovery_cases (k : Coordination) (desired : DesiredRoomPlayback Seconds)
    (observed : ObservedState) (episode : RecoveryEpisode) (roomPosition lag : Seconds) :
    let close := fun c : PlaybackCoordinator => { c with recovery := c.recovery.map decided }
    Quiet k ((k.decideRecovery desired observed episode roomPosition lag).update close)
      ∨ (takesCatchup k.coordinator.config episode lag = true
        ∧ k.decideRecovery desired observed episode roomPosition lag
          = k.startCatchup desired observed episode lag) := by
  intro close
  have hdegrade : ∀ reason, Quiet k ((k.enterDegradedRecovery reason).update close) := by
    intro reason
    exact (k.quiet_enterDegradedRecovery reason).trans (quiet_closeDecision _)
  rw [decideRecovery]
  rcases hpolicy : k.coordinator.config.recoveryPolicy with - | - | - | -
  case preserveContent => exact Or.inl (quiet_closeDecision k)
  case pauseRoom =>
    left
    have hpush : Quiet k (k.push (.requestRoomPause episode.id)) :=
      quiet_of_actions (Calm.refl _) rfl
    exact hpush.trans (quiet_closeDecision _)
  all_goals
    dsimp only
    split
    · exact Or.inl (quiet_closeDecision k)
    split
    · rename_i hcatchup
      split
      · exact Or.inr ⟨hcatchup, rfl⟩
      · exact Or.inl (hdegrade _)
    split
    · exact Or.inl (hdegrade _)
    split
    · exact Or.inl (k.quiet_startHardSeek desired observed roomPosition)
    · exact Or.inl (hdegrade _)

theorem quiet_settleRecovery (k : Coordination) (observed : ObservedState) (lag : Seconds) :
    Quiet k (k.settleRecovery observed lag) := by
  unfold settleRecovery
  extract_lets c stable converged timedOut
  split
  · exact k.quiet_enterDegradedRecovery _
  split
  · split
    · exact k.quiet_enterDegradedRecovery _
    · exact k.quiet_enterDegradedRecovery _
    all_goals
      split
      · exact k.quiet_enterDegradedRecovery _
      · exact Quiet.refl k
  split
  · exact quiet_update (k.coordinator.calm_closeRecoveryWithMetrics _)
  · exact Quiet.refl k

/-- A catch-up that was just started is not settled at once: its deadline lies
    ahead, the lag is not negligible, and no seek is under way. -/
theorem settleRecovery_catchingUp (k : Coordination) (observed : ObservedState)
    {lag deadline : Seconds} {episode : RecoveryEpisode}
    (hrecovery : k.coordinator.recovery = some episode)
    (hdeadline : episode.catchupDeadlineSeconds = some deadline)
    (hahead : observed.observedAtSeconds < deadline)
    (hseek : episode.seekActive = false)
    (hcatchup : takesCatchup k.coordinator.config episode lag = true) :
    k.settleRecovery observed lag = k := by
  have hlag : ¬ lag ≤ k.coordinator.config.negligibleLagSeconds := by
    rw [takesCatchup] at hcatchup
    have := (Bool.and_eq_true_iff.mp hcatchup).1
    exact not_le.mpr (of_decide_eq_true this)
  have hpolicy : k.coordinator.config.recoveryPolicy = .balanced
      ∨ k.coordinator.config.recoveryPolicy = .stayClosest := by
    rw [takesCatchup] at hcatchup
    rcases hcase : k.coordinator.config.recoveryPolicy with - | - | - | -
    all_goals simp_all
  have htimedOut : ¬ deadline ≤ observed.observedAtSeconds := not_le.mpr hahead
  rw [settleRecovery]
  rcases hpolicy with hpolicy | hpolicy
  all_goals
    simp [hrecovery, hdeadline, hseek, hlag, htimedOut, hpolicy]

/-- `coordinate_recovery` is quiet, or it starts a catch-up. -/
theorem coordinateRecovery_cases (k : Coordination) (desired : DesiredRoomPlayback Seconds)
    (observed : ObservedState) (skewEvidenceIsFresh advancing : Bool)
    (htimes : SaneTimes k.coordinator.config) (hdecided : k.coordinator.SeeksDecided) :
    Quiet k (k.coordinateRecovery desired observed skewEvidenceIsFresh advancing)
      ∨ CaughtUp k (k.coordinateRecovery desired observed skewEvidenceIsFresh advancing) := by
  unfold coordinateRecovery
  split
  · exact Or.inl (Quiet.refl k)
  rename_i episode hrecovery
  split
  · exact Or.inl (Quiet.refl k)
  extract_lets roomPosition localPosition lag measured decidedRecovery
  have hmeasured : Quiet k measured ∧ measured.coordinator.recovery = some episode := by
    show Quiet k (if _ then _ else _) ∧ (if _ then _ else _ : Coordination).coordinator.recovery = _
    split
    · exact ⟨quiet_update (Calm.of_fields rfl rfl rfl rfl rfl rfl rfl), hrecovery⟩
    · exact ⟨Quiet.refl k, hrecovery⟩
  obtain ⟨hquiet, hepisode⟩ := hmeasured
  by_cases hmade : episode.decisionMade
  · left
    have hsame : decidedRecovery = measured := if_pos hmade
    rw [hsame]
    exact hquiet.trans (measured.quiet_settleRecovery observed lag)
  have hopen : decidedRecovery =
      (measured.decideRecovery desired observed episode roomPosition lag).update fun c =>
        { c with recovery := c.recovery.map decided } := if_neg hmade
  rw [hopen]
  rcases measured.decideRecovery_cases desired observed episode roomPosition lag with
    hsilent | ⟨hcatchup, hstarted⟩
  · exact Or.inl ((hquiet.trans hsilent).trans (quiet_settleRecovery _ observed lag))
  right
  rw [hstarted]
  obtain ⟨⟨targetRate, hcatching⟩, howned, hsequence, hconfig, hknown, hlast⟩ :=
    measured.startCatchup_spec desired observed lag hepisode
  have hseek : episode.seekActive = false := by
    rcases hactive : episode.seekActive with - | -
    · rfl
    · exact absurd (hdecided episode hrecovery hactive) hmade
  have htimes' : SaneTimes measured.coordinator.config := by
    rw [hquiet.calm.config]
    exact htimes
  have hahead : observed.observedAtSeconds <
      observed.observedAtSeconds
        + catchupDeadlineAfter measured.coordinator.config targetRate lag :=
    lt_add_of_pos_right _ (catchupDeadlineAfter_pos htimes' targetRate lag)
  generalize hstart : measured.startCatchup desired observed episode lag = started at *
  have hclosed : (started.update fun c => { c with recovery := c.recovery.map decided }
      ).coordinator.recovery = some (decided (catchingUp (observed.observedAtSeconds
        + catchupDeadlineAfter measured.coordinator.config targetRate lag) episode)) := by
    show started.coordinator.recovery.map decided = _
    rw [hcatching]
    rfl
  rw [settleRecovery_catchingUp _ observed hclosed rfl hahead hseek
    (by show takesCatchup started.coordinator.config _ lag = true; rw [hconfig]; exact hcatchup)]
  obtain ⟨owner, howner, hoverride⟩ := howned
  rw [hcatching] at howner
  injection howner with howner
  refine CaughtUp.after ⟨⟨_, hclosed, ?_⟩, hsequence, hconfig, hlast, Or.inr hknown, ?_⟩ hquiet
  · show started.coordinator.rateOverride = _
    rw [hoverride, ← howner]
    rfl
  · intro final hfinal _
    rw [hclosed] at hfinal
    injection hfinal with hfinal
    rw [← hfinal]
    rfl

theorem markRevisionApplied_owner (k : Coordination) (desired : DesiredRoomPlayback Seconds)
    (observed : ObservedState) (started : Bool) :
    (k.markRevisionApplied desired observed started).coordinator.recovery = k.coordinator.recovery
      ∧ (k.markRevisionApplied desired observed started).coordinator.rateOverride
        = k.coordinator.rateOverride := by
  have happlied : (k.markApplied desired).coordinator.recovery = k.coordinator.recovery
      ∧ (k.markApplied desired).coordinator.rateOverride = k.coordinator.rateOverride := by
    unfold markApplied
    extract_lets applied
    split <;> exact ⟨rfl, rfl⟩
  unfold markRevisionApplied
  extract_lets applied c guarded
  split <;> exact happlied

/-- Marking a revision does not disturb a catch-up. -/
theorem CaughtUp.marked {k k' : Coordination} (h : CaughtUp k k')
    (desired : DesiredRoomPlayback Seconds) (observed : ObservedState) (started : Bool) :
    CaughtUp k (k'.markRevisionApplied desired observed started) := by
  obtain ⟨hrecovery, hoverride⟩ := k'.markRevisionApplied_owner desired observed started
  have hquiet := (k'.quiet_markRevisionApplied desired observed started).calm
  refine ⟨?_, hquiet.sequence.trans h.sequence, hquiet.config.trans h.config,
    hquiet.rateSequence.trans h.rateSequence, ?_, hquiet.decided h.decided⟩
  · obtain ⟨episode, hepisode, howned⟩ := h.owned
    exact ⟨episode, hrecovery.trans hepisode, hoverride.trans howned⟩
  · rcases hquiet.known with hnone | hsame
    · exact Or.inl hnone
    · rw [hsame]
      exact h.known

theorem coordinatePlaying_cases (k : Coordination) (desired : DesiredRoomPlayback Seconds)
    (observed : ObservedState) (evidenceIsFresh advancing : Bool)
    (htimes : SaneTimes k.coordinator.config) (hdecided : k.coordinator.SeeksDecided) :
    Quiet k (k.coordinatePlaying desired observed evidenceIsFresh advancing)
      ∨ CaughtUp k (k.coordinatePlaying desired observed evidenceIsFresh advancing) := by
  unfold coordinatePlaying
  extract_lets aligned intent recovered playCommandPending
  have haligned : Quiet k aligned := k.quiet_issueDesiredSeekIfNeeded desired observed
  split
  · exact Or.inl (Quiet.refl k)
  split
  · exact Or.inl haligned
  split
  · exact Or.inl (haligned.trans (aligned.quiet_issueCommand _ _ _ _ rfl fun _ => rfl))
  have hcases := aligned.coordinateRecovery_cases desired observed evidenceIsFresh advancing
    (haligned.calm.config ▸ htimes) (haligned.calm.decided hdecided)
  rcases hcases with hquiet | hcaught
  · left
    split
    · exact (haligned.trans hquiet).trans (recovered.quiet_markRevisionApplied _ _ _)
    · exact haligned.trans hquiet
  · right
    split
    · exact (hcaught.after haligned).marked desired observed true
    · exact hcaught.after haligned

/-- The part of an observation pass that precedes the reconciliation. -/
theorem coordinateDesiredState_cases (k : Coordination) (observed : ObservedState)
    (observation : PlayerTransportObservation) (evidenceIsFresh advancing : Bool)
    (htimes : SaneTimes k.coordinator.config) (hdecided : k.coordinator.SeeksDecided) :
    Quiet k (k.coordinateDesiredState observed observation evidenceIsFresh advancing)
      ∨ CaughtUp k (k.coordinateDesiredState observed observation evidenceIsFresh advancing) := by
  unfold coordinateDesiredState
  split
  · exact Or.inl (Quiet.refl k)
  rename_i desired _
  extract_lets rearmed prepared next
  split
  · exact Or.inl (Quiet.refl k)
  have hrearmed : Quiet k rearmed := k.quiet_rearmDisplacedAlignment desired observed
  have hnext : Quiet k next :=
    hrearmed.trans (rearmed.quiet_coordinateSeekPreparation desired observed observation _)
  split
  · exact Or.inl hnext
  split
  · left
    split
    · exact hnext.trans (next.quiet_issuePauseUnlessPaused _ _)
    · exact hnext
  split
  · exact Or.inl (hnext.trans (next.quiet_coordinatePaused desired observed))
  rcases next.coordinatePlaying_cases desired observed evidenceIsFresh advancing
    (hnext.calm.config ▸ htimes) (hnext.calm.decided hdecided) with hquiet | hcaught
  · exact Or.inl (hnext.trans hquiet)
  · exact Or.inr (hcaught.after hnext)

end Coordination

end Sorotte.Coordinator
