import Sorotte.Lifecycle.State

/-! # Ordered delivery of the lifecycle reducer

  Emission puts ordered events and semantic outcomes into the queues of the
  current attachment epoch, `peek_event_batch` freezes a batch, and an
  acknowledgement removes what the frozen batch covered.
-/

namespace Sorotte.Lifecycle

/-! ### One epoch's buffer -/

/-- The two `retain` calls of `acknowledge_delivery_through`: does the item stay? -/
def PlayerSequenceBoundary.leaves (boundary : PlayerSequenceBoundary) (order : PlayerEventOrder) :
    Bool :=
  order.attachmentEpoch != boundary.attachmentEpoch || boundary.throughSequence < order.sequence

namespace EpochDeliveryBuffer

variable (delivery : EpochDeliveryBuffer)

def isEmpty : Bool :=
  delivery.pendingEvents.isEmpty && delivery.retainedSemanticOutcomes.isEmpty
    && delivery.recoverySnapshot.isNone && !delivery.gapDetected

/-- A gap without its snapshot cannot be acknowledged, so it is not delivered. -/
def hasDeliverableContent : Bool :=
  (!delivery.gapDetected || delivery.recoverySnapshot.isSome)
    && (!delivery.pendingEvents.isEmpty || !delivery.retainedSemanticOutcomes.isEmpty
      || delivery.recoverySnapshot.isSome)

def pruneSnapshotCoveredEvents : EpochDeliveryBuffer :=
  match delivery.recoverySnapshot with
  | none => delivery
  | some snapshot =>
    let boundary : PlayerSequenceBoundary :=
      ⟨snapshot.attachmentEpoch, snapshot.sequenceBoundary.throughSequence⟩
    { delivery with
      pendingEvents := delivery.pendingEvents.filter fun event => boundary.leaves event.order }

/-- `acknowledge_delivery_through`. -/
def acknowledgeDeliveryThrough (boundary : PlayerSequenceBoundary) (acknowledgesSnapshot : Bool) :
    EpochDeliveryBuffer :=
  let pendingEvents := delivery.pendingEvents.filter fun event => boundary.leaves event.order
  let retainedSemanticOutcomes :=
    delivery.retainedSemanticOutcomes.filter fun outcome => boundary.leaves outcome.order
  let snapshotCovered := delivery.recoverySnapshot.any fun snapshot =>
    snapshot.attachmentEpoch == boundary.attachmentEpoch
      && snapshot.sequenceBoundary.attachmentEpoch == boundary.attachmentEpoch
      && snapshot.sequenceBoundary.throughSequence ≤ boundary.throughSequence
  if acknowledgesSnapshot && snapshotCovered then
    { delivery with pendingEvents, retainedSemanticOutcomes,
                    recoverySnapshot := none, gapDetected := false }
  else { delivery with pendingEvents, retainedSemanticOutcomes }

def acknowledgeThrough (boundary : PlayerSequenceBoundary) (acknowledgesSnapshot : Bool) :
    EpochDeliveryBuffer :=
  (delivery.acknowledgeDeliveryThrough boundary acknowledgesSnapshot).pruneSnapshotCoveredEvents

/-- The highest sequence the batch covers. -/
def throughSequence : Nat :=
  (delivery.pendingEvents.map (·.order.sequence)
    ++ delivery.retainedSemanticOutcomes.map (·.order.sequence)
    ++ (delivery.recoverySnapshot.map (·.sequenceBoundary.throughSequence)).toList).foldl max 0

/-- The batch `peek_event_batch` builds from a buffer. -/
def batch (tokenValue : Nat) : PlayerEventBatch where
  attachmentEpoch := delivery.attachmentEpoch
  sequenceBoundary := ⟨delivery.attachmentEpoch, delivery.throughSequence⟩
  authoritativeSnapshot := delivery.recoverySnapshot
  events := delivery.pendingEvents
  semanticOutcomes := delivery.retainedSemanticOutcomes
  acknowledgementToken := ⟨delivery.attachmentEpoch, tokenValue⟩

end EpochDeliveryBuffer

/-! ### Peeking -/

namespace PlayerLifecycleState

variable (s : PlayerLifecycleState)

/-- The current epoch's queues as a buffer. -/
def currentDelivery : EpochDeliveryBuffer where
  attachmentEpoch := s.attachmentEpoch
  pendingEvents := s.pendingEvents
  retainedSemanticOutcomes := s.retainedSemanticOutcomes
  recoverySnapshot := s.recoverySnapshot
  gapDetected := s.gapDetected

/-- Write a buffer back into the current epoch's queues. -/
def setCurrentDelivery (delivery : EpochDeliveryBuffer) : PlayerLifecycleState :=
  { s with
    pendingEvents := delivery.pendingEvents
    retainedSemanticOutcomes := delivery.retainedSemanticOutcomes
    recoverySnapshot := delivery.recoverySnapshot
    gapDetected := delivery.gapDetected }

/-- `prune_snapshot_covered_events` of the state: every retired buffer, then the
    current queues. -/
def pruneSnapshotCoveredEvents : PlayerLifecycleState :=
  let s := { s with
    retiredEpochDeliveries :=
      s.retiredEpochDeliveries.map EpochDeliveryBuffer.pruneSnapshotCoveredEvents }
  s.setCurrentDelivery s.currentDelivery.pruneSnapshotCoveredEvents

/-- `peek_event_batch`. -/
def peekEventBatch : Option PlayerEventBatch × PlayerLifecycleState :=
  match s.cachedBatch with
  | some batch => (some batch, s)
  | none =>
    let s := s.pruneSnapshotCoveredEvents
    let s := { s with
      retiredEpochDeliveries := s.retiredEpochDeliveries.dropWhile (·.isEmpty) }
    let delivery := s.retiredEpochDeliveries.head?.getD s.currentDelivery
    if !delivery.hasDeliverableContent then (none, s)
    else
      let tokenValue := max s.nextAcknowledgementToken 1
      let batch := delivery.batch tokenValue
      (some batch,
        { s with nextAcknowledgementToken := tokenValue + 1, cachedBatch := some batch })

/-- `closing_snapshot_for_current_epoch`. -/
def closingSnapshotForCurrentEpoch : PlayerAuthoritativeSnapshot :=
  let active := s.activeAttempt
  { attachmentEpoch := s.attachmentEpoch
    sequenceBoundary := ⟨s.attachmentEpoch, s.lastEventSequence⟩
    transport :=
      { loadAttemptId := .ofOption (active.map (·.id))
        mediaGeneration := .ofOption (active.map (·.mediaGeneration)) }
    activeLoad := .ofOption (active.map fun attempt =>
      { attemptId := attempt.id
        mediaGeneration := attempt.mediaGeneration
        commandId := attempt.commandId
        playlistEntryId := attempt.playlistEntryId
        physicalFileLoaded := attempt.fileLoadedObserved
        semanticLoadResult := attempt.semanticLoadResult
        logicalOwnershipRevoked := attempt.logicalOwnershipRevoked })
    currentPlaylistEntryId := .ofOption (active.bind (·.playlistEntryId))
    currentPath := .unavailable }

/-- `retire_current_epoch_delivery`. -/
def retireCurrentEpochDelivery : PlayerLifecycleState :=
  let delivery := s.currentDelivery
  let s := s.setCurrentDelivery ⟨s.attachmentEpoch, [], [], none, false⟩
  if delivery.isEmpty then s
  else { s with retiredEpochDeliveries := s.retiredEpochDeliveries ++ [delivery] }

end PlayerLifecycleState

/-! ### Emission -/

namespace Reduction

variable (r : Reduction)

/-- `effects.push`. -/
def push (effect : PlayerLifecycleEffect) : Reduction :=
  { r with effects := r.effects ++ [effect] }

/-- `next_order`. -/
def nextOrder : PlayerEventOrder × Reduction :=
  let sequence := max r.nextEventSequence 1
  (⟨r.attachmentEpoch, sequence⟩, { r with nextEventSequence := sequence + 1 })

/-- `schedule_reconciliation`. -/
def scheduleReconciliation : Reduction :=
  { r with
    reconciliationRequired := true
    nextReconciliationTick :=
      some (Coordinator.saturatingAdd r.nowTick r.reconciliationBackoffTicks)
    reconciliationBackoffTicks :=
      if r.reconciliationBackoffTicks ≤ 100 then 250
      else if r.reconciliationBackoffTicks ≤ 250 then 500
      else if r.reconciliationBackoffTicks ≤ 500 then 1000
      else maxReconciliationBackoffTicks }

/-- Give the event the next order, queue it and report it. -/
def appendEvent (event : PlayerEvent) : PlayerEventOrder × Reduction :=
  let (order, r) := r.nextOrder
  let sequenced : SequencedPlayerEvent := ⟨order, event⟩
  (order,
    { r with
      effects := r.effects ++ [.emitOrderedEvent sequenced]
      pendingEvents := r.pendingEvents ++ [sequenced] })

/-- `mark_gap`. -/
def markGap : Reduction :=
  let invalidatesRecoverySnapshot := r.recoverySnapshot.isSome
  let r :=
    if !r.gapDetected || invalidatesRecoverySnapshot then
      ({ r with gapDetected := true }.appendEvent .eventGapDetected).2
    else r
  let r := { r with reconciliationRequired := true, recoverySnapshot := none }
  (r.scheduleReconciliation).push .requestAuthoritativeSnapshot

/-- The overflow branch of `queue_event`: the oldest queued telemetry makes room. -/
def dropOldestTelemetry : Reduction :=
  { r with pendingEvents := r.pendingEvents.eraseP (·.event.isTransportDelta) }

/-- `queue_event`. -/
def queueEvent (event : PlayerEvent) : PlayerEventOrder × Reduction :=
  let telemetryCount := r.pendingEvents.countP (·.event.isTransportDelta)
  let r :=
    if event.isTransportDelta && maxPendingTelemetryEvents ≤ telemetryCount then
      r.dropOldestTelemetry.markGap
    else r
  r.appendEvent event

/-- `retain_outcome`. -/
def retainOutcome (outcome : PlayerSemanticOutcome) : PlayerEventOrder × Reduction :=
  let (order, r) := r.nextOrder
  let sequenced : SequencedPlayerSemanticOutcome := ⟨order, outcome⟩
  (order,
    { r with
      effects := r.effects ++ [.emitSemanticOutcome sequenced]
      retainedSemanticOutcomes := r.retainedSemanticOutcomes ++ [sequenced] })

end Reduction

end Sorotte.Lifecycle
