import Sorotte.Coordinator.RateFrames
import Sorotte.Framework.Runs

/-! # A catch-up speed is given back

  Over every run of the coordinator, a ledger records the last rate command
  that went out and the last rate that the player reported, each with its
  observation sequence.  `RateLaw` ties the override to the ledger: while the
  last command is a catch-up speed the override stands, and an issued reset is
  the last command.

  `retire_media` forgets the override of the retired generation, whether or not
  its reset went out.  The player stays attached, so a catch-up speed can be
  left behind; the results hold in runs that retire no media with an override.
-/

namespace Sorotte.Coordinator

open Sorotte.Framework

namespace PlaybackCoordinator

/-! ### Calm operations -/

theorem calm_of_noObservation {c c' : PlaybackCoordinator} (h : Calm c c')
    {c'' : PlaybackCoordinator} (hoverride : c''.rateOverride = c'.rateOverride)
    (hpending : ∀ command ∈ c''.pendingCommands, command ∈ c'.pendingCommands)
    (hsequence : c''.observationSequence = c'.observationSequence)
    (hconfig : c''.config = c'.config)
    (hrate : c''.lastPlaybackRateObservationSequence = c'.lastPlaybackRateObservationSequence)
    (hobserved : c''.observed = none)
    (hrecovery : c''.recovery = c'.recovery) : Calm c c'' where
  override := by
    rw [hoverride]
    exact h.override
  inFlight := by
    rintro ⟨command, hmem, hrate⟩
    exact h.inFlight ⟨command, hpending command hmem, hrate⟩
  sequence := hsequence.trans h.sequence
  config := hconfig.trans h.config
  rateSequence := hrate.trans h.rateSequence
  known := by
    left
    rw [knownRate, hobserved]
    rfl
  decided hdecided := by
    rw [SeeksDecided, hrecovery]
    exact h.decided hdecided

theorem calm_restartedRecovery (c : PlaybackCoordinator) :
    Calm c { c with recovery := c.recovery.map restartedRecovery } := by
  refine ⟨Or.inl rfl, fun h => h, rfl, rfl, rfl, Or.inr rfl, ?_⟩
  apply @seeksDecided_map c _ restartedRecovery rfl
  intro episode _ hactive
  cases hactive

theorem calm_resetTransportAdapterEpoch (c : PlaybackCoordinator) (nowSeconds : F64) :
    Calm c (c.resetTransportAdapterEpoch nowSeconds) := by
  unfold resetTransportAdapterEpoch
  extract_lets source cleared reset
  have hcleared : Calm c cleared :=
    calm_of_noObservation c.calm_restartedRecovery rfl (by intro _ hmem; cases hmem) rfl rfl rfl rfl rfl
  have hreset : Calm c reset := hcleared.trans cleared.calm_requestRateReset
  have hobserved : reset.observed = none := cleared.requestRateReset_frame.2.1
  exact calm_of_noObservation hreset rfl (fun _ hmem => hmem) rfl rfl rfl hobserved rfl

theorem calm_refreshTransport (c : PlaybackCoordinator) (media : MediaState)
    (kind : MediaTransportKind) (nowSeconds : Seconds) :
    Calm c (c.refreshTransport media kind nowSeconds) := by
  unfold refreshTransport
  extract_lets rearm refreshed forgotten restarted deadline source
  have hforgotten : Calm c forgotten := by
    show Calm c (if _ then _ else _)
    split
    · exact Calm.of_fields rfl rfl rfl rfl rfl rfl rfl
    · exact Calm.refl c
  have hrestarted : Calm c restarted := by
    show Calm c (if _ then _ else _)
    split
    · exact (hforgotten.trans forgotten.calm_restartedRecovery).trans (calm_requestRateReset _)
    · exact hforgotten.trans forgotten.calm_closeRecoveryWithoutMetrics
  exact calm_of_noObservation hrestarted rfl (by intro _ hmem; cases hmem) rfl rfl rfl rfl rfl

theorem calm_replaceMedia (c : PlaybackCoordinator) (logicalId : LogicalMediaId)
    (kind : MediaTransportKind) (nowSeconds : Seconds) :
    Calm c (c.replaceMedia logicalId kind nowSeconds) := by
  unfold replaceMedia
  extract_lets baseline cancelled closed generation source
  have hfinished := c.calm_finishSeekPreparation .cancelled
  have hcancelled : Calm c cancelled :=
    hfinished.trans (Calm.of_fields rfl rfl rfl rfl rfl rfl rfl)
  have hclosed : Calm c closed := hcancelled.trans cancelled.calm_closeRecoveryWithoutMetrics
  exact calm_of_noObservation hclosed rfl (by intro _ hmem; cases hmem) rfl rfl rfl rfl rfl

theorem calm_prepareMediaWithIntentInternal (c : PlaybackCoordinator) (logicalId : LogicalMediaId)
    (kind : MediaTransportKind) (requestedIntent : MediaLoadIntent) (nowSeconds : Seconds)
    (preserve : Bool) :
    Calm c (c.prepareMediaWithIntentInternal logicalId kind requestedIntent nowSeconds preserve).2 := by
  unfold prepareMediaWithIntentInternal
  extract_lets same intent refreshed
  rcases refreshed with - | media
  · exact c.calm_replaceMedia logicalId kind nowSeconds
  · exact c.calm_refreshTransport media kind nowSeconds

theorem calm_interrupted (c : PlaybackCoordinator) : Calm c c.interrupted := by
  unfold interrupted
  extract_lets cancelled source cleared
  have hcancelled : Calm c cancelled := c.calm_cancelSeekPreparationForLifecycle
  have hcleared : Calm c cleared := by
    show Calm c (if _ then _ else _)
    split
    · exact hcancelled.trans (Calm.of_fields rfl rfl rfl rfl rfl rfl rfl)
    · exact hcancelled
  exact hcleared.trans cleared.calm_closeRecoveryWithoutMetrics

/-- Retiring media forgets the override and whatever could move it. -/
theorem retired_frame (c : PlaybackCoordinator) :
    c.retired.rateOverride = none ∧ c.retired.knownRate = none
      ∧ c.retired.config = c.config ∧ c.retired.recovery = c.recovery := by
  have hfinished : (c.finishSeekPreparation .cancelled).config = c.config
      ∧ (c.finishSeekPreparation .cancelled).recovery = c.recovery := by
    rw [finishSeekPreparation]
    split <;> exact ⟨rfl, rfl⟩
  exact ⟨rfl, rfl, hfinished.1, hfinished.2⟩

theorem calm_restartSeekPreparation (c : PlaybackCoordinator)
    (desired : DesiredRoomPlayback Seconds) (updateKind : DesiredRoomPlaybackUpdateKind) :
    Calm c (c.restartSeekPreparation desired updateKind) := by
  unfold restartSeekPreparation
  extract_lets cleared begun
  have hcleared : Calm c cleared := by
    show Calm c (if _ then _ else _)
    split
    · exact Calm.of_fields rfl rfl rfl rfl rfl rfl rfl
    · exact Calm.refl c
  have hbegun : Calm c begun :=
    (hcleared.trans (cleared.calm_finishSeekPreparation .superseded)).trans
      (calm_beginSeekPreparationIfNeeded _ desired)
  split
  · exact hbegun.trans (begun.calm_markSeekPreparationPrimaryIssued none)
  · exact hbegun

theorem calm_rebindTerminal (c : PlaybackCoordinator) (desired : DesiredRoomPlayback Seconds)
    (updateKind : DesiredRoomPlaybackUpdateKind) : Calm c (c.rebindTerminal desired updateKind) := by
  unfold rebindTerminal
  split
  · exact Calm.refl c
  split
  · exact Calm.of_fields rfl rfl rfl rfl rfl rfl rfl
  split
  · exact Calm.of_fields rfl rfl rfl rfl rfl rfl rfl
  · exact Calm.refl c

theorem calm_adoptRevision (c : PlaybackCoordinator) (desired : DesiredRoomPlayback Seconds) :
    Calm c (c.adoptRevision desired) := by
  unfold adoptRevision
  extract_lets command held kept closed
  have hkept : Calm c kept :=
    ⟨Or.inl rfl, inFlight_of_filter rfl, rfl, rfl, rfl, Or.inr rfl, fun h => h⟩
  have hclosed : Calm c closed := by
    show Calm c (if _ then _ else _)
    split
    · have hbaseline : Calm kept { kept with completedSeekRestartBaseline := none } :=
        Calm.of_fields rfl rfl rfl rfl rfl rfl rfl
      exact (hkept.trans hbaseline).trans (calm_closeRecoveryWithoutMetrics _)
    · exact hkept
  exact hclosed.trans (Calm.of_fields rfl rfl rfl rfl rfl rfl rfl)

theorem calm_adoptDesired (c : PlaybackCoordinator) (desired : DesiredRoomPlayback Seconds)
    (updateKind : DesiredRoomPlaybackUpdateKind) : Calm c (c.adoptDesired desired updateKind) := by
  unfold adoptDesired
  extract_lets changed explicitSeek guarded adopted fenced prepared revised closed
  have hfenced : Calm c fenced := by
    show Calm c (if _ then _ else _)
    split
    · exact Calm.of_fields rfl rfl rfl rfl rfl rfl rfl
    · exact Calm.refl c
  have hprepared : Calm c prepared := by
    show Calm c (if _ then _ else _)
    split
    · exact hfenced.trans (fenced.calm_restartSeekPreparation adopted updateKind)
    · exact hfenced.trans (Calm.of_fields rfl rfl rfl rfl rfl rfl rfl)
  have hrevised : Calm c revised := by
    show Calm c (if _ then _ else _)
    split
    · exact (hprepared.trans (prepared.calm_rebindTerminal adopted updateKind)).trans
        (calm_adoptRevision _ adopted)
    · exact hprepared
  have hclosed : Calm c closed := by
    show Calm c (if _ then _ else _)
    split
    · exact hrevised.trans revised.calm_closeRecoveryWithoutMetrics
    · exact hrevised
  exact hclosed.trans (Calm.of_fields rfl rfl rfl rfl rfl rfl rfl)

theorem acceptFirst_kinds (commandId : CoordinatorCommandId) (commands : List PendingCommand) :
    (acceptFirst commandId commands).map (·.kind) = commands.map (·.kind) := by
  induction commands with
  | nil => rfl
  | cons command commands ih =>
    rw [acceptFirst]
    split
    · rfl
    · rw [List.map_cons, List.map_cons, ih]

theorem inFlight_of_kinds {c : PlaybackCoordinator} {pending : List PendingCommand}
    (hkinds : pending.map (·.kind) = c.pendingCommands.map (·.kind))
    (h : ∃ command ∈ pending, command.kind.isRate = true) : c.RateInFlight := by
  obtain ⟨command, hmem, hrate⟩ := h
  have hkind : command.kind ∈ c.pendingCommands.map (·.kind) :=
    hkinds ▸ List.mem_map.mpr ⟨command, hmem, rfl⟩
  obtain ⟨before, hbefore, heq⟩ := List.mem_map.mp hkind
  exact ⟨before, hbefore, by rw [heq]; exact hrate⟩

theorem calm_commandAccepted (c : PlaybackCoordinator) (commandId : CoordinatorCommandId) :
    Calm c (c.commandAccepted commandId).2 := by
  rw [commandAccepted]
  split
  · exact ⟨Or.inl rfl, inFlight_of_kinds (acceptFirst_kinds commandId c.pendingCommands), rfl, rfl,
      rfl, Or.inr rfl, fun h => h⟩
  · exact Calm.refl c

theorem calm_withoutCommand (c : PlaybackCoordinator) (commandId : CoordinatorCommandId) :
    Calm c (c.withoutCommand commandId) :=
  ⟨Or.inl rfl, inFlight_of_filter rfl, rfl, rfl, rfl, Or.inr rfl, fun h => h⟩

theorem calm_supersedeUnacceptedCommand (c : PlaybackCoordinator)
    (commandId : CoordinatorCommandId) : Calm c (c.supersedeUnacceptedCommand commandId).2 := by
  rw [supersedeUnacceptedCommand]
  split
  · exact Calm.refl c
  · split
    · exact Calm.refl c
    · exact c.calm_withoutCommand commandId

theorem calm_commandFailed (c : PlaybackCoordinator) (commandId : CoordinatorCommandId)
    (nowSeconds : Seconds) : Calm c (c.commandFailed commandId nowSeconds).2 := by
  unfold commandFailed
  extract_lets degraded preparationFailed source failed
  split
  · have hdegraded : Calm c degraded := c.calm_degradeFailedBufferedAlternative commandId
    have hfailed : Calm c failed := by
      show Calm c (if _ then _ else _)
      split
      · exact (hdegraded.trans (degraded.calm_failSeekPreparation .transportFailed)).trans
          (Calm.of_fields rfl rfl rfl rfl rfl rfl rfl)
      · exact hdegraded.trans (degraded.calm_withoutCommand commandId)
    exact hfailed.trans (Calm.of_fields rfl rfl rfl rfl rfl rfl rfl)
  · exact Calm.refl c

theorem calm_shiftLocalPlayerTimeline (c : PlaybackCoordinator) (deltaSeconds : Seconds) :
    Calm c (c.shiftLocalPlayerTimeline deltaSeconds) := by
  unfold shiftLocalPlayerTimeline
  extract_lets shifted
  have hknown : shifted.knownRate = c.knownRate := by
    show (c.observed.map (shiftedObserved deltaSeconds)).bind _ = c.observed.bind _
    cases c.observed <;> rfl
  have hshifted : Calm c shifted := Calm.of_fields rfl rfl rfl rfl rfl hknown rfl
  exact (hshifted.trans shifted.calm_cancelSeekPreparationForLifecycle).trans
    (Calm.of_fields rfl rfl rfl rfl rfl rfl rfl)

theorem calm_keepWaitingForSeekPreparation (c : PlaybackCoordinator) (nowSeconds : F64) :
    Calm c (c.keepWaitingForSeekPreparation nowSeconds) := by
  rw [keepWaitingForSeekPreparation]
  split
  · exact Calm.refl c
  · exact Calm.of_fields rfl rfl rfl rfl rfl rfl rfl

theorem calm_cancelSeekPreparation (c : PlaybackCoordinator) : Calm c c.cancelSeekPreparation := by
  rw [cancelSeekPreparation]
  split
  · exact (c.calm_finishSeekPreparation .cancelled).trans
      (Calm.of_fields rfl rfl rfl rfl rfl rfl rfl)
  · exact Calm.refl c

theorem calm_confirmAlignedLocalPlay (c : PlaybackCoordinator)
    (nowSeconds confirmed : F64) (maximumAge : Seconds) :
    Calm c (c.confirmAlignedLocalPlay nowSeconds confirmed maximumAge).2 := by
  unfold confirmAlignedLocalPlay
  split
  · extract_lets satisfied
    have hsatisfied : Calm c satisfied := Calm.of_fields rfl rfl rfl rfl rfl rfl rfl
    split
    · dsimp only
      split
      · exact hsatisfied.trans (satisfied.calm_finishSeekPreparation .superseded)
      · exact hsatisfied.trans (Calm.of_fields rfl rfl rfl rfl rfl rfl rfl)
    · exact Calm.refl c
  · exact Calm.refl c

end PlaybackCoordinator

namespace Coordination

open PlaybackCoordinator

theorem quiet_joinNearestBuffered (c : PlaybackCoordinator) (nowSeconds : F64) :
    Quiet (silent c) (joinNearestBufferedSeekPreparation c nowSeconds) := by
  unfold joinNearestBufferedSeekPreparation
  split
  · rename_i now target revision observed _ _ _
    split
    · exact Quiet.refl _
    unfold joinBuffered
    extract_lets finished start
    have hfinished : Calm c finished := c.calm_finishSeekPreparation .superseded
    have hstart : Quiet (silent c) start :=
      ⟨hfinished.trans (Calm.of_fields rfl rfl rfl rfl rfl rfl rfl), rfl⟩
    have hissued := start.quiet_issueCommand revision now
      (.seek target observed.playbackRestartSequence true) (.setPosition target) rfl fun _ => rfl
    split
    · rename_i commandId next hnext
      rw [hnext] at hissued
      have hhandoff := next.coordinator.calm_beginRecoveryHandoff now
      have hgentle : Calm (next.coordinator.beginRecoveryHandoff now)
          { next.coordinator.beginRecoveryHandoff now with
            recovery := (next.coordinator.beginRecoveryHandoff now).recovery.map gentle } := by
        refine ⟨Or.inl rfl, fun h => h, rfl, rfl, rfl, Or.inr rfl, ?_⟩
        exact @seeksDecided_map _ _ gentle rfl fun _ h => h
      exact (hstart.trans hissued).trans (quiet_update (hhandoff.trans hgentle))
    · rename_i next hnext
      rw [hnext] at hissued
      extract_lets failed
      have hfailed : Quiet next failed := quiet_update (Calm.of_fields rfl rfl rfl rfl rfl rfl rfl)
      exact ((hstart.trans hissued).trans hfailed).trans (quiet_pushDegraded _ _)
  · exact Quiet.refl _

/-! ### Reconciliation -/

/-- The owning episode is gone, or it gave the speed up. -/
def OwnerGone (c : PlaybackCoordinator) (rateOverride : RateOverride) : Prop :=
  rateOverride.resetRequested = true
    ∨ ∀ episode, c.recovery = some episode → episode.id ≠ rateOverride.episodeId

/-- The reset command went out, and the override remembers when. -/
structure ResetIssued (k k' : Coordination) (rateOverride : RateOverride) : Prop where
  override : k'.coordinator.rateOverride = some
    { resetAsked rateOverride with
      resetCommandObservationSequence := some k.coordinator.observationSequence }
  executed : ∃ commandId,
    .execute commandId (.setPlaybackRate normalPlaybackRate) ∈ k'.actions
  emits : rateCommands k'.actions = rateCommands k.actions ++ [normalPlaybackRate]
  recovery : k'.coordinator.recovery = k.coordinator.recovery
  sequence : k'.coordinator.observationSequence = k.coordinator.observationSequence
  config : k'.coordinator.config = k.coordinator.config
  rateSequence : k'.coordinator.lastPlaybackRateObservationSequence
    = k.coordinator.lastPlaybackRateObservationSequence
  known : k'.coordinator.knownRate = none ∨ k'.coordinator.knownRate = k.coordinator.knownRate

/-- The observed rate confirms a reset that was issued before it. -/
def BaselineConfirmed (c : PlaybackCoordinator) (observed : ObservedState)
    (rateOverride : RateOverride) : Prop :=
  ∃ issuedAfter sampled rate, rateOverride.resetCommandObservationSequence = some issuedAfter
    ∧ c.lastPlaybackRateObservationSequence = some sampled ∧ issuedAfter < sampled
    ∧ observed.playbackRate = some rate ∧ distance rate normalPlaybackRate ≤ 1 / 1000

theorem isBaselineRateReset_of_requested {c : PlaybackCoordinator} {rateOverride : RateOverride}
    (hoverride : c.rateOverride = some rateOverride) (hrequested : rateOverride.resetRequested = true) :
    isBaselineRateReset c (.rate normalPlaybackRate) = true := by
  rw [isBaselineRateReset, hoverride]
  simp [hrequested, PendingCommandKind.isBaselineRate, distance]

/-- The reset command is refused by a cooldown or a rate command in flight only. -/
theorem issueReset_cases {k : Coordination} {rateOverride : RateOverride}
    (hoverride : k.coordinator.rateOverride = some rateOverride)
    (hrequested : rateOverride.resetRequested = true) (revision : Nat) (nowSeconds : Seconds) :
    let k' := (k.issueCommand revision nowSeconds (.rate normalPlaybackRate)
      (.setPlaybackRate normalPlaybackRate)).2
    (k' = k ∧ (nowSeconds < k.coordinator.retryNotBeforeSeconds ∨ k.coordinator.RateInFlight))
      ∨ ResetIssued k k' rateOverride := by
  intro k'
  have hreset := isBaselineRateReset_of_requested hoverride hrequested
  by_cases hrefused : commandRefused k.coordinator nowSeconds (.rate normalPlaybackRate)
  · left
    have hsame : k' = k := by
      show (k.issueCommand _ _ _ _).2 = k
      rw [issueCommand, if_pos hrefused]
    refine ⟨hsame, ?_⟩
    rw [commandRefused, hreset] at hrefused
    simp only [Bool.not_true, Bool.false_and, Bool.false_or, Bool.or_eq_true,
      decide_eq_true_eq, List.any_eq_true] at hrefused
    rcases hrefused with hcooldown | ⟨pending, hmem, hkind⟩
    · exact Or.inl hcooldown
    · refine Or.inr ⟨pending, hmem, ?_⟩
      cases hcase : pending.kind
      all_goals
        rw [hcase] at hkind
        first
          | rfl
          | cases hkind
  · right
    let c := issued k.coordinator revision nowSeconds (.rate normalPlaybackRate)
    have hissued : k' =
        { coordinator := c
          actions := k.actions ++
            [.execute c.nextCommandId (.setPlaybackRate normalPlaybackRate)] } := by
      show (k.issueCommand _ _ _ _).2 = _
      rw [issueCommand, if_neg hrefused]
    rw [hissued]
    have hasked : resetAsked rateOverride = rateOverride := by
      rw [resetAsked, if_pos hrequested]
    exact
      { override := by
          simp [c, issued, hreset, hoverride, hasked, PendingCommandKind.isSeek]
        executed := ⟨_, List.mem_append_right _ (List.mem_singleton_self _)⟩
        emits := by
          rw [rateCommands_append]
          rfl
        recovery := rfl
        sequence := rfl
        config := rfl
        rateSequence := rfl
        known := Or.inr rfl }

/-- The outcomes of the reconciliation. -/
theorem reconcile_cases (k : Coordination) (observed : ObservedState) (nowSeconds : Seconds) :
    let k' := k.reconcileRateOverride observed nowSeconds
    (k.coordinator.rateOverride = none ∧ k' = k)
      ∨ ∃ rateOverride, k.coordinator.rateOverride = some rateOverride
        ∧ ((¬ OwnerGone k.coordinator rateOverride ∧ k' = k)
          ∨ (BaselineConfirmed k.coordinator observed rateOverride
            ∧ k' = k.update fun c => { c with rateOverride := none })
          ∨ (Quiet k k' ∧ (nowSeconds < k'.coordinator.retryNotBeforeSeconds
            ∨ k.coordinator.RateInFlight))
          ∨ ResetIssued k k' rateOverride) := by
  intro k'
  rcases hoverride : k.coordinator.rateOverride with - | rateOverride
  · left
    refine ⟨rfl, ?_⟩
    show k.reconcileRateOverride observed nowSeconds = k
    rw [reconcileRateOverride, hoverride]
  refine Or.inr ⟨rateOverride, rfl, ?_⟩
  by_cases howned : (!rateOverride.resetRequested
      && k.coordinator.recovery.any (·.id == rateOverride.episodeId)) = true
  · left
    have hsame : k' = k := by
      show k.reconcileRateOverride observed nowSeconds = k
      simp only [reconcileRateOverride, hoverride, howned, if_true]
    refine ⟨?_, hsame⟩
    rintro (hrequested | hgone)
    · rw [hrequested] at howned
      cases howned
    · obtain ⟨-, hany⟩ := Bool.and_eq_true_iff.mp howned
      rcases hrecovery : k.coordinator.recovery with - | episode
      · rw [hrecovery] at hany
        cases hany
      · rw [hrecovery] at hany
        exact hgone episode hrecovery (by simpa using hany)
  right
  -- the reset is asked for, if it was not yet
  obtain ⟨asked, hasked, hquiet, hepisode, haskedOverride, hretry⟩ : ∃ asked : Coordination,
      asked = (if !rateOverride.resetRequested then k.update (·.requestRateReset) else k)
      ∧ Quiet k asked ∧ asked.coordinator.recovery = k.coordinator.recovery
      ∧ asked.coordinator.rateOverride = some (resetAsked rateOverride)
      ∧ (rateOverride.resetRequested = true → asked = k) := by
    refine ⟨_, rfl, ?_⟩
    by_cases hrequested : rateOverride.resetRequested
    · have hsame : resetAsked rateOverride = rateOverride := by
        rw [resetAsked, if_pos hrequested]
      simp only [hrequested, Bool.not_true]
      exact ⟨Quiet.refl k, rfl, by rw [hsame]; exact hoverride, fun _ => rfl⟩
    · rw [if_pos (by simp [hrequested])]
      refine ⟨quiet_update k.coordinator.calm_requestRateReset,
        k.coordinator.requestRateReset_frame.1, ?_, fun h => absurd h hrequested⟩
      show k.coordinator.requestRateReset.rateOverride = _
      rw [k.coordinator.requestRateReset_override, hoverride]
      rfl
  have hunfold : k' =
      if (resetAsked rateOverride).resetCommandObservationSequence.any (fun issuedAfterSequence =>
          asked.coordinator.lastPlaybackRateObservationSequence.any (issuedAfterSequence < ·)
            && observed.playbackRate.any (distance · normalPlaybackRate ≤ 1 / 1000)) then
        asked.update fun c => { c with rateOverride := none }
      else
        (asked.issueCommand ((asked.coordinator.desired.map (·.stateRevision)).getD 0) nowSeconds
          (.rate normalPlaybackRate) (.setPlaybackRate normalPlaybackRate)).2 := by
    show k.reconcileRateOverride observed nowSeconds = _
    rw [reconcileRateOverride, hoverride]
    dsimp only
    rw [if_neg howned, ← hasked, haskedOverride]
  by_cases hconfirmed : (resetAsked rateOverride).resetCommandObservationSequence.any
      (fun issuedAfterSequence =>
        asked.coordinator.lastPlaybackRateObservationSequence.any (issuedAfterSequence < ·)
          && observed.playbackRate.any (distance · normalPlaybackRate ≤ 1 / 1000)) = true
  · left
    have hrequested : rateOverride.resetRequested = true := by
      rcases hcase : rateOverride.resetRequested with - | -
      · rw [resetAsked, hcase] at hconfirmed
        cases hconfirmed
      · rfl
    rw [hunfold, if_pos hconfirmed]
    rw [hretry hrequested, resetAsked, if_pos hrequested] at hconfirmed
    refine ⟨?_, by rw [hretry hrequested]⟩
    rcases hissued : rateOverride.resetCommandObservationSequence with - | issuedAfter
    · rw [hissued] at hconfirmed
      cases hconfirmed
    rw [hissued] at hconfirmed
    obtain ⟨hlater, hnear⟩ := Bool.and_eq_true_iff.mp hconfirmed
    rcases hsampled : k.coordinator.lastPlaybackRateObservationSequence with - | sampled
    · rw [hsampled] at hlater
      cases hlater
    rcases hrate : observed.playbackRate with - | rate
    · rw [hrate] at hnear
      cases hnear
    rw [hsampled] at hlater
    rw [hrate] at hnear
    exact ⟨issuedAfter, sampled, rate, hissued, hsampled, of_decide_eq_true hlater, hrate,
      of_decide_eq_true hnear⟩
  right
  rw [hunfold, if_neg hconfirmed]
  rcases issueReset_cases haskedOverride (resetAsked_requested rateOverride)
    ((asked.coordinator.desired.map (·.stateRevision)).getD 0) nowSeconds with
    ⟨hsame, hwhy⟩ | hissued
  · left
    rw [hsame]
    refine ⟨hquiet, ?_⟩
    rcases hwhy with hcooldown | hinFlight
    · exact Or.inl hcooldown
    · exact Or.inr (hquiet.calm.inFlight hinFlight)
  · right
    obtain ⟨hoverride', hexecuted, hemits, hrecovery, hsequence, hconfig, hlast, hknown⟩ := hissued
    refine ⟨?_, hexecuted, by rw [hemits, hquiet.emits], hrecovery.trans hepisode,
      hsequence.trans hquiet.calm.sequence, hconfig.trans hquiet.calm.config,
      hlast.trans hquiet.calm.rateSequence, ?_⟩
    · rw [hoverride', resetAsked_idem, hquiet.calm.sequence]
    · rcases hknown with hnone | hsame
      · exact Or.inl hnone
      · rw [hsame]
        exact hquiet.calm.known

/-- An override in the hands of the episode in progress is left alone. -/
theorem reconcile_owned {k : Coordination} (howned : OwnerActive k.coordinator)
    (observed : ObservedState) (nowSeconds : Seconds) :
    k.reconcileRateOverride observed nowSeconds = k := by
  obtain ⟨episode, hrecovery, hoverride⟩ := howned
  rw [reconcileRateOverride, hoverride]
  simp [hrecovery]

end Coordination

/-! ### The ledger -/

/-- The last rate command of a run and the last rate that the player reported,
    with the observation sequence at which each happened. -/
structure RateLedger where
  lastCommand : Option (Seconds × Nat) := none
  lastSample : Option (Nat × Seconds) := none

namespace RateLedger

def sampled (ledger : RateLedger) (sequence : Nat) : Option Seconds → RateLedger
  | some rate => { ledger with lastSample := some (sequence, rate) }
  | none => ledger

def commanded (ledger : RateLedger) (sequence : Nat) (rates : List Seconds) : RateLedger :=
  match rates.getLast? with
  | some rate => { ledger with lastCommand := some (rate, sequence) }
  | none => ledger

end RateLedger

/-- The playback rate that an accepted observation reports. -/
def deliveredRate (c : PlaybackCoordinator) : CoordinatorOp → Option Seconds
  | .observe observation | .rebaseObservation observation | .replayObservation observation =>
    (c.acceptedObservation observation).bind fun _ =>
      PlaybackCoordinator.observedPlaybackRate observation
  | _ => none

/-- One operation, recorded. -/
def recordedStep (state : PlaybackCoordinator × RateLedger) (op : CoordinatorOp) :
    PlaybackCoordinator × RateLedger :=
  let k := coordinatorStep state.1 op
  let sequence := k.coordinator.observationSequence
  (k.coordinator,
    (state.2.sampled sequence (deliveredRate state.1 op)).commanded sequence
      (rateCommands k.actions))

/-- Every state of a run with its ledger. -/
def recordedRun (config : PlaybackCoordinatorConfig F64) (ops : List CoordinatorOp) :
    PlaybackCoordinator × RateLedger :=
  runFrom recordedStep (PlaybackCoordinator.new config, {}) ops

/-- No media is retired while an override stands. -/
def KeepsOverride (c : PlaybackCoordinator) : CoordinatorOp → Prop
  | .retireMedia => c.rateOverride = none
  | _ => True

/-- No step of the run retires media while an override stands. -/
def KeepsOverrides (c : PlaybackCoordinator) : List CoordinatorOp → Prop
  | [] => True
  | op :: ops => KeepsOverride c op ∧ KeepsOverrides (coordinatorStep c op).coordinator ops

/-- How the override and the ledger hang together. -/
structure RateLaw (c : PlaybackCoordinator) (ledger : RateLedger) : Prop where
  times : Coordination.SaneTimes c.config
  decided : c.SeeksDecided
  stands : ∀ rate sequence, ledger.lastCommand = some (rate, sequence) →
    rate ≠ normalPlaybackRate →
    ∃ rateOverride, c.rateOverride = some rateOverride
      ∧ rateOverride.resetCommandObservationSequence = none
  issued : ∀ rateOverride sequence, c.rateOverride = some rateOverride →
    rateOverride.resetCommandObservationSequence = some sequence →
    ledger.lastCommand = some (normalPlaybackRate, sequence)
  sample : ∀ rate, c.knownRate = some rate →
    ∃ sequence, c.lastPlaybackRateObservationSequence = some sequence
      ∧ ledger.lastSample = some (sequence, rate)

theorem saneTimes_normalized (config : PlaybackCoordinatorConfig F64) :
    Coordination.SaneTimes config.normalized := by
  have haccepted : ∀ (default : Seconds) (value : F64), 0 < default →
      0 < PlaybackCoordinatorConfig.acceptedOr default (0 < ·) value := by
    intro default value hdefault
    rw [PlaybackCoordinatorConfig.acceptedOr]
    split
    · split
      · rename_i hpositive
        exact of_decide_eq_true hpositive
      · exact hdefault
    · exact hdefault
  exact ⟨haccepted _ _ (by norm_num [PlaybackCoordinatorConfig.defaults]),
    haccepted _ _ (by norm_num [PlaybackCoordinatorConfig.defaults])⟩

theorem rateLaw_new (config : PlaybackCoordinatorConfig F64) :
    RateLaw (PlaybackCoordinator.new config) {} where
  times := saneTimes_normalized config
  decided episode h := by cases h
  stands rate sequence h := by cases h
  issued rateOverride sequence h := by cases h
  sample rate h := by cases h

section law

open PlaybackCoordinator Coordination

variable {c c' : PlaybackCoordinator} {ledger : RateLedger} {k k' : Coordination}

/-- Calm steps keep the law with an unchanged ledger. -/
theorem RateLaw.calm (h : RateLaw c ledger) (hcalm : Calm c c') : RateLaw c' ledger where
  times := by
    rw [hcalm.config]
    exact h.times
  decided := hcalm.decided h.decided
  stands rate sequence hlast hrate := by
    obtain ⟨rateOverride, hoverride, hnone⟩ := h.stands rate sequence hlast hrate
    rcases hcalm.override with hsame | hasked
    · exact ⟨rateOverride, hsame.trans hoverride, hnone⟩
    · refine ⟨resetAsked rateOverride, by rw [hasked, hoverride]; rfl, ?_⟩
      rw [resetAsked]
      split
      · exact hnone
      · rfl
  issued rateOverride sequence hoverride hsequence := by
    rcases hcalm.override with hsame | hasked
    · exact h.issued rateOverride sequence (hsame.symm.trans hoverride) hsequence
    · rw [hasked] at hoverride
      obtain ⟨before, hbefore, rfl⟩ := Option.map_eq_some_iff.mp hoverride
      rw [resetAsked] at hsequence
      split at hsequence
      · exact h.issued before sequence hbefore hsequence
      · cases hsequence
  sample rate hrate := by
    rw [hcalm.rateSequence]
    rcases hcalm.known with hnone | hsame
    · rw [hnone] at hrate
      cases hrate
    · exact h.sample rate (hsame.symm.trans hrate)

theorem commanded_nil (ledger : RateLedger) (sequence : Nat) :
    ledger.commanded sequence [] = ledger := rfl

theorem commanded_append (ledger : RateLedger) (sequence : Nat) (rates : List Seconds)
    (rate : Seconds) :
    ledger.commanded sequence (rates ++ [rate]) =
      { ledger with lastCommand := some (rate, sequence) } := by
  rw [RateLedger.commanded, List.getLast?_append, List.getLast?_singleton]
  rfl

theorem commanded_lastSample (ledger : RateLedger) (sequence : Nat) (rates : List Seconds) :
    (ledger.commanded sequence rates).lastSample = ledger.lastSample := by
  rw [RateLedger.commanded]
  split <;> rfl

/-- Quiet steps without rate commands before them keep the law. -/
theorem RateLaw.quiet (h : RateLaw k.coordinator ledger) (hquiet : Quiet k k')
    (hnone : rateCommands k.actions = []) (sequence : Nat) :
    RateLaw k'.coordinator (ledger.commanded sequence (rateCommands k'.actions)) := by
  rw [hquiet.emits, hnone, commanded_nil]
  exact h.calm hquiet.calm

/-- A catch-up establishes the law, whether its command went out or not. -/
theorem RateLaw.caughtUp (h : RateLaw k.coordinator ledger) (hcaught : CaughtUp k k')
    (sequence : Nat) (rates : List Seconds) :
    RateLaw k'.coordinator (ledger.commanded sequence rates) where
  times := by
    rw [hcaught.config]
    exact h.times
  decided := hcaught.decided
  stands _ _ _ _ := by
    obtain ⟨episode, -, hoverride⟩ := hcaught.owned
    exact ⟨_, hoverride, rfl⟩
  issued rateOverride sequence hoverride hsequence := by
    obtain ⟨episode, -, howned⟩ := hcaught.owned
    rw [howned] at hoverride
    injection hoverride with hoverride
    rw [← hoverride] at hsequence
    cases hsequence
  sample rate hrate := by
    rw [hcaught.rateSequence, commanded_lastSample]
    rcases hcaught.known with hnone | hsame
    · rw [hnone] at hrate
      cases hrate
    · exact h.sample rate (hsame.symm.trans hrate)

/-- The reconciliation keeps the law. -/
theorem RateLaw.reconcile (h : RateLaw k.coordinator ledger)
    (hnone : rateCommands k.actions = []) (observed : ObservedState) (nowSeconds : Seconds) :
    let k' := k.reconcileRateOverride observed nowSeconds
    RateLaw k'.coordinator
      (ledger.commanded k'.coordinator.observationSequence (rateCommands k'.actions)) := by
  intro k'
  have hkept : k' = k → RateLaw k'.coordinator
      (ledger.commanded k'.coordinator.observationSequence (rateCommands k'.actions)) := by
    intro hsame
    rw [hsame, hnone, commanded_nil]
    exact h
  rcases k.reconcile_cases observed nowSeconds with ⟨-, hsame⟩ | ⟨rateOverride, hoverride, hcases⟩
  · exact hkept hsame
  rcases hcases with ⟨-, hsame⟩ | ⟨hconfirmed, hcleared⟩ | ⟨hquiet, -⟩ | hissued
  · exact hkept hsame
  · have hrates : rateCommands k'.actions = [] := by
      show rateCommands (k.reconcileRateOverride observed nowSeconds).actions = []
      rw [hcleared]
      exact hnone
    rw [hrates, commanded_nil]
    show RateLaw (k.reconcileRateOverride observed nowSeconds).coordinator _
    rw [hcleared]
    refine ⟨h.times, h.decided, fun rate sequence hlast hrate => ?_,
      fun _ _ hsome => by (cases hsome), h.sample⟩
    obtain ⟨issuedAfter, -, -, hissuedAfter, -⟩ := hconfirmed
    obtain ⟨standing, hstanding, hunissued⟩ := h.stands rate sequence hlast hrate
    rw [hoverride] at hstanding
    injection hstanding with hstanding
    rw [← hstanding, hissuedAfter] at hunissued
    cases hunissued
  · exact h.quiet hquiet hnone _
  · obtain ⟨hoverride', -, hemits, hrecovery, hsequence, hconfig, hlast, hknown⟩ := hissued
    have hrates : rateCommands k'.actions = [] ++ [normalPlaybackRate] :=
      hemits.trans (by rw [hnone])
    rw [hrates, commanded_append]
    refine ⟨?_, ?_, fun rate sequence hcommand hrate => ?_,
      fun after sequence hafter hissuedAt => ?_, fun rate hrate => ?_⟩
    · show Coordination.SaneTimes k'.coordinator.config
      rw [hconfig]
      exact h.times
    · intro episode hepisode
      exact h.decided episode (hrecovery.symm.trans hepisode)
    · injection hcommand with hcommand
      injection hcommand with hcommand
      exact absurd hcommand.symm hrate
    · have hsome := hoverride'.symm.trans hafter
      injection hsome with hsome
      rw [← hsome] at hissuedAt
      injection hissuedAt with hissuedAt
      rw [← hissuedAt, ← hsequence]
    · rcases hknown with hgone | hsame
      · rw [hgone] at hrate
        cases hrate
      · obtain ⟨sequence, hseq, hsample⟩ := h.sample rate (hsame.symm.trans hrate)
        exact ⟨sequence, hlast.trans hseq, hsample⟩

/-- An operation that ends in a reconciliation: `k` is where it begins. -/
structure Reconciles (c : PlaybackCoordinator) (k : Coordination) (observed : ObservedState)
    (nowSeconds : Seconds) (final : Coordination) : Prop where
  before : Quiet (silent c) k ∨ CaughtUp (silent c) k
  result : final = k.reconcileRateOverride observed nowSeconds
    ∨ final = (k.reconcileRateOverride observed nowSeconds).update fun c =>
      { c with appliedObservationRevision := none }
  reported : ∀ rate, observed.playbackRate = some rate → c.knownRate = some rate

variable {observed : ObservedState} {nowSeconds : Seconds} {final : Coordination}

/-- The result up to a field that has no part in the speed. -/
theorem Reconciles.result_fields (h : Reconciles c k observed nowSeconds final) :
    let k' := k.reconcileRateOverride observed nowSeconds
    final.actions = k'.actions
      ∧ final.coordinator.rateOverride = k'.coordinator.rateOverride
      ∧ final.coordinator.recovery = k'.coordinator.recovery
      ∧ final.coordinator.retryNotBeforeSeconds = k'.coordinator.retryNotBeforeSeconds
      ∧ Calm k'.coordinator final.coordinator := by
  intro k'
  rcases h.result with hfinal | hfinal
  · rw [hfinal]
    exact ⟨rfl, rfl, rfl, rfl, Calm.refl _⟩
  · rw [hfinal]
    exact ⟨rfl, rfl, rfl, rfl, Calm.of_fields rfl rfl rfl rfl rfl rfl rfl⟩

theorem Reconciles.sequence (h : Reconciles c k observed nowSeconds final) :
    final.coordinator.observationSequence = c.observationSequence := by
  obtain ⟨-, -, -, -, hcalm⟩ := h.result_fields
  have hreconciled : (k.reconcileRateOverride observed nowSeconds).coordinator.observationSequence
      = k.coordinator.observationSequence := by
    rcases k.reconcile_cases observed nowSeconds with ⟨-, hsame⟩ | ⟨_, -, hcases⟩
    · rw [hsame]
    rcases hcases with ⟨-, hsame⟩ | ⟨-, hcleared⟩ | ⟨hquiet, -⟩ | hissued
    · rw [hsame]
    · rw [hcleared]
      rfl
    · exact hquiet.calm.sequence
    · exact hissued.sequence
  have hbefore : k.coordinator.observationSequence = c.observationSequence := by
    rcases h.before with hquiet | hcaught
    · exact hquiet.calm.sequence
    · exact hcaught.sequence
  exact (hcalm.sequence.trans hreconciled).trans hbefore

theorem Reconciles.law (hreconciles : Reconciles c k observed nowSeconds final)
    (h : RateLaw c ledger) :
    RateLaw final.coordinator
      (ledger.commanded final.coordinator.observationSequence (rateCommands final.actions)) := by
  obtain ⟨hactions, -, -, -, hcalm⟩ := hreconciles.result_fields
  rw [hactions, hcalm.sequence]
  rcases hreconciles.before with hquiet | hcaught
  · have hnone : rateCommands k.actions = [] := hquiet.emits
    exact ((h.calm hquiet.calm).reconcile hnone observed nowSeconds).calm hcalm
  · have hsame := reconcile_owned hcaught.owned observed nowSeconds
    rw [hsame] at hcalm ⊢
    exact (@RateLaw.caughtUp ledger (silent c) k h hcaught _ _).calm hcalm

/-- With the owner gone, no rate command in flight and no cooldown, the reset
    goes out. -/
theorem Reconciles.emits (hreconciles : Reconciles c k observed nowSeconds final)
    (hidle : ¬ c.RateInFlight) {rateOverride : RateOverride}
    (hoverride : final.coordinator.rateOverride = some rateOverride)
    (hgone : OwnerGone final.coordinator rateOverride)
    (hretry : final.coordinator.retryNotBeforeSeconds ≤ nowSeconds) :
    ∃ commandId, .execute commandId (.setPlaybackRate normalPlaybackRate) ∈ final.actions := by
  obtain ⟨hactions, hsame, hrecovery, hretrySame, -⟩ := hreconciles.result_fields
  rw [hsame] at hoverride
  rw [hretrySame] at hretry
  rw [OwnerGone, hrecovery] at hgone
  rw [hactions]
  rcases hreconciles.before with hquiet | hcaught
  · rcases k.reconcile_cases observed nowSeconds with ⟨hnone, hkept⟩ | ⟨standing, hstanding, hcases⟩
    · rw [hkept, hnone] at hoverride
      cases hoverride
    rcases hcases with ⟨howned, hkept⟩ | ⟨-, hcleared⟩ | ⟨-, hcooldown | hinFlight⟩ | hissued
    · rw [hkept] at hoverride hgone
      rw [hstanding] at hoverride
      injection hoverride with hoverride
      rw [hoverride] at howned
      exact absurd hgone howned
    · rw [hcleared] at hoverride
      cases hoverride
    · exact absurd hcooldown (not_lt.mpr hretry)
    · exact absurd (hquiet.calm.inFlight hinFlight) hidle
    · exact hissued.executed
  · rw [reconcile_owned hcaught.owned] at hoverride hgone
    obtain ⟨episode, hepisode, howned⟩ := hcaught.owned
    rw [howned] at hoverride
    injection hoverride with hoverride
    rw [← hoverride] at hgone
    rcases hgone with hrequested | hother
    · cases hrequested
    · exact absurd rfl (hother episode hepisode)

/-- The override is cleared by a later observation of the normal rate only. -/
theorem Reconciles.clears (hreconciles : Reconciles c k observed nowSeconds final)
    (h : RateLaw c ledger) {rateOverride : RateOverride}
    (hoverride : c.rateOverride = some rateOverride)
    (hcleared : final.coordinator.rateOverride = none) :
    ∃ issuedAt sampledAt rate, ledger.lastCommand = some (normalPlaybackRate, issuedAt)
      ∧ ledger.lastSample = some (sampledAt, rate) ∧ issuedAt < sampledAt
      ∧ distance rate normalPlaybackRate ≤ 1 / 1000 := by
  obtain ⟨-, hsame, -, -, -⟩ := hreconciles.result_fields
  rw [hsame] at hcleared
  rcases hreconciles.before with hquiet | hcaught
  · have hlaw := h.calm hquiet.calm
    rcases k.reconcile_cases observed nowSeconds with ⟨hnone, -⟩ | ⟨standing, hstanding, hcases⟩
    · rcases hquiet.calm.override with hkept | hasked
      · have hbad := hnone.symm.trans (hkept.trans hoverride)
        cases hbad
      · have hbad := hnone.symm.trans (hasked.trans (congrArg _ hoverride))
        cases hbad
    rcases hcases with ⟨-, hkept⟩ | ⟨hconfirmed, -⟩ | ⟨hquiet', -⟩ | hissued
    · rw [hkept, hstanding] at hcleared
      cases hcleared
    · obtain ⟨issuedAt, sampledAt, rate, hissuedAt, hsampledAt, hlater, hrate, hnear⟩ := hconfirmed
      have hcommand := hlaw.issued standing issuedAt hstanding hissuedAt
      obtain ⟨sequence, hsequence, hsample⟩ :=
        h.sample rate (hreconciles.reported rate hrate)
      have hsameSequence := hquiet.calm.rateSequence.symm.trans hsampledAt
      rw [show (silent c).coordinator = c from rfl, hsequence] at hsameSequence
      injection hsameSequence with hsameSequence
      rw [hsameSequence] at hsample
      exact ⟨issuedAt, sampledAt, rate, hcommand, hsample, hlater, hnear⟩
    · rcases hquiet'.calm.override with hkept | hasked
      · rw [hkept, hstanding] at hcleared
        cases hcleared
      · rw [hasked, hstanding] at hcleared
        cases hcleared
    · rw [hissued.override] at hcleared
      cases hcleared
  · rw [reconcile_owned hcaught.owned] at hcleared
    obtain ⟨episode, -, howned⟩ := hcaught.owned
    rw [howned] at hcleared
    cases hcleared

end law

end Sorotte.Coordinator
