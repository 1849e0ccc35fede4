import Sorotte.Lifecycle.Attempts

/-! # Acknowledgement and compaction

  An acknowledged batch of the current epoch lets the reducer drop the terminal
  records whose outcomes it carried; a bounded list of tombstones remembers them.
-/

namespace Sorotte.Lifecycle

namespace PlayerLifecycleState

variable (s : PlayerLifecycleState)

/-- `retire_command_record`: a record without a terminal sequence is put back. -/
def retireCommandRecord (commandId : PlayerCommandId) : PlayerLifecycleState :=
  match s.commands[commandId]? with
  | none => s
  | some command =>
    match command.terminalSequence with
    | none => s
    | some terminalSequence =>
      { s with
        commands := s.commands.erase commandId
        retiredCommandTombstones := s.retiredCommandTombstones ++
          [{ attachmentEpoch := command.attachmentEpoch
             commandId := commandId
             terminalSequence := terminalSequence }] }

/-- An evicted tombstone leaves its deadline with its generation. -/
def rememberUncertainGeneration (evicted : RetiredSeekTombstone) : PlayerLifecycleState :=
  { s with
    uncertainSeekGenerations :=
      s.uncertainSeekGenerations.alter evicted.ownership.mediaGeneration fun
        | some deadline => some (max deadline evicted.retireAfterTick)
        | none => some evicted.retireAfterTick }

/-- `push_retired_seek_tombstone`. -/
def pushRetiredSeekTombstone (ownership : SystemSeekOwnership) : PlayerLifecycleState :=
  let retireAfterTick := Coordinator.saturatingAdd s.nowTick seekTombstoneRetentionTicks
  let s :=
    if maxRetiredSeekTombstones ≤ s.retiredSeekTombstones.length then
      match s.retiredSeekTombstones with
      | [] => s
      | evicted :: rest =>
        { s with retiredSeekTombstones := rest }.rememberUncertainGeneration evicted
    else s
  { s with
    retiredSeekTombstones := s.retiredSeekTombstones ++ [⟨ownership, retireAfterTick⟩] }

/-- `sequence.is_some_and(|sequence| sequence <= through_sequence)`. -/
def coveredBy (throughSequence : Nat) (sequence : Option Nat) : Bool :=
  sequence.any (· ≤ throughSequence)

/-- The test that lets a command record go. -/
def commandCovered (throughSequence : Nat) (command : LifecycleCommand) : Bool :=
  command.state.isTerminal && coveredBy throughSequence command.terminalSequence

/-- The test that lets an attempt record go. -/
def attemptCovered (throughSequence : Nat) (attempt : LoadAttempt) : Bool :=
  attempt.state.isTerminal && coveredBy throughSequence attempt.semanticOutcomeSequence
    && coveredBy throughSequence attempt.physicalTerminalSequence

/-- `state.load_attempts.get_mut(&id)` followed by an edit. -/
def editAttempt (attemptId : LoadAttemptId) (edit : LoadAttempt → LoadAttempt) :
    PlayerLifecycleState :=
  { s with loadAttempts := s.loadAttempts.modify attemptId edit }

/-- A compacted attempt's successor no longer replaces anything. -/
def dropSuccessorClaim (attempt : LoadAttempt) (attemptId : LoadAttemptId) :
    PlayerLifecycleState :=
  match attempt.supersededBy with
  | none => s
  | some successorId =>
    s.editAttempt successorId fun successor =>
      if successor.replacedAttempt == some attemptId then
        { successor with replacedAttempt := none }
      else successor

/-- A compacted attempt's predecessor is no longer superseded by anything. -/
def dropPredecessorLink (attempt : LoadAttempt) (attemptId : LoadAttemptId) :
    PlayerLifecycleState :=
  match attempt.replacedAttempt with
  | none => s
  | some predecessorId =>
    s.editAttempt predecessorId fun predecessor =>
      if predecessor.supersededBy == some attemptId then
        { predecessor with
          supersededBy := none
          state :=
            if predecessor.state == .supersededMayStillEmit attemptId then .mayStillEmit
            else predecessor.state }
      else predecessor

/-- One round of the attempt loop of `compact_acknowledged_lifecycle`. -/
def compactAttempt (throughSequence : Nat) (attemptId : LoadAttemptId) : PlayerLifecycleState :=
  match s.loadAttempts[attemptId]? with
  | none => s
  | some attempt =>
    let s := { s with loadAttempts := s.loadAttempts.erase attemptId }
    let s := s.dropSuccessorClaim attempt attemptId
    let s := s.dropPredecessorLink attempt attemptId
    let terminalSequence := max (attempt.physicalTerminalSequence.getD throughSequence)
      (attempt.semanticOutcomeSequence.getD throughSequence)
    let s := { s with
      terminalAttemptTombstones := s.terminalAttemptTombstones ++
        [{ attachmentEpoch := attempt.attachmentEpoch
           attemptId := attemptId
           mediaGeneration := attempt.mediaGeneration
           commandId := attempt.commandId
           playlistEntryId := attempt.playlistEntryId
           terminalSequence := terminalSequence }] }
    match attempt.commandId with
    | none => s
    | some commandId =>
      if s.commands[commandId]?.any (commandCovered throughSequence) then
        s.retireCommandRecord commandId
      else s

/-- A seek owner whose state lets it go with its command. -/
def seekMayRetire : SystemSeekOwnershipState → Bool
  | .observed | .invalidated | .mayStillArrive => true
  | .submitted | .accepted => false

/-- One round of the seek loop of `compact_acknowledged_lifecycle`. -/
def compactSeek (entry : PlayerCommandId × SystemSeekOwnership) : PlayerLifecycleState :=
  let s := { s with seekOwnership := s.seekOwnership.erase entry.1 }
  let s :=
    if entry.2.state == .mayStillArrive then s.pushRetiredSeekTombstone entry.2 else s
  s.retireCommandRecord entry.1

/-- `referenced_commands.contains`: an attempt or a seek still names the command. -/
def isReferencedCommand (commandId : PlayerCommandId) : Bool :=
  s.attempts.any (·.commandId == some commandId) || s.seekOwnership.contains commandId

/-- The two `while` loops that bound a sorted tombstone list. -/
def evictTombstones {α : Type} (limit throughSequence : Nat) (terminalSequence : α → Nat) :
    List α → List α
  | [] => []
  | tombstone :: rest =>
    if limit < (tombstone :: rest).length
        || terminalSequence tombstone + terminalTombstoneSequenceWindow < throughSequence then
      evictTombstones limit throughSequence terminalSequence rest
    else tombstone :: rest

/-- `sort_by_key` on a pair of numbers. -/
def sortByKey {α : Type} (key : α → Nat × Nat) (entries : List α) : List α :=
  entries.insertionSort fun a b =>
    (key a).1 < (key b).1 ∨ (key a).1 = (key b).1 ∧ (key a).2 ≤ (key b).2

/-- The tail of `compact_acknowledged_lifecycle`: sort and bound the tombstones. -/
def boundTombstones (throughSequence : Nat) : PlayerLifecycleState :=
  { s with
    terminalAttemptTombstones :=
      evictTombstones maxTerminalAttemptTombstones throughSequence (·.terminalSequence)
        (sortByKey (fun tombstone => (tombstone.terminalSequence, tombstone.attemptId))
          s.terminalAttemptTombstones)
    retiredCommandTombstones :=
      evictTombstones maxRetiredCommandTombstones throughSequence (·.terminalSequence)
        (sortByKey (fun tombstone => (tombstone.terminalSequence, tombstone.commandId))
          s.retiredCommandTombstones) }

/-- `terminal_attempt_ids`. -/
def coveredAttemptIds (throughSequence : Nat) : List LoadAttemptId :=
  (s.attempts.filter (attemptCovered throughSequence)).map (·.id)

/-- `retired_seek_ids`. -/
def coveredSeeks (throughSequence : Nat) : List (PlayerCommandId × SystemSeekOwnership) :=
  s.seekOwnership.toList.filter fun entry =>
    seekMayRetire entry.2.state
      && s.commands[entry.1]?.any (commandCovered throughSequence)

/-- `retired_command_ids`. -/
def coveredCommandIds (throughSequence : Nat) : List PlayerCommandId :=
  (s.commandList.filter fun command =>
    commandCovered throughSequence command && !s.isReferencedCommand command.id).map (·.id)

/-- `compact_acknowledged_lifecycle`. -/
def compactAcknowledgedLifecycle (throughSequence : Nat) : PlayerLifecycleState :=
  let s := (s.coveredAttemptIds throughSequence).foldl
    (fun s attemptId => s.compactAttempt throughSequence attemptId) s
  let s := (s.coveredSeeks throughSequence).foldl compactSeek s
  let s := (s.coveredCommandIds throughSequence).foldl retireCommandRecord s
  s.boundTombstones throughSequence

/-- The delivery part of `acknowledge_event_batch`: the buffer the batch came
    from loses what the batch covered.  `none` when it came from no buffer that
    is still there. -/
def acknowledgeDelivery (batch : PlayerEventBatch) : Option PlayerLifecycleState :=
  let boundary := batch.sequenceBoundary
  let acknowledgesSnapshot := batch.authoritativeSnapshot.isSome
  let currentEpoch (s : PlayerLifecycleState) : Option PlayerLifecycleState :=
    if batch.attachmentEpoch == s.attachmentEpoch then
      some (s.setCurrentDelivery
        (s.currentDelivery.acknowledgeDeliveryThrough boundary acknowledgesSnapshot))
    else none
  match s.retiredEpochDeliveries with
  | [] => currentEpoch s
  | delivery :: rest =>
    if delivery.attachmentEpoch == batch.attachmentEpoch then
      let delivery := delivery.acknowledgeThrough boundary acknowledgesSnapshot
      some { s with
        retiredEpochDeliveries := if delivery.isEmpty then rest else delivery :: rest }
    else currentEpoch s

/-- `acknowledge_event_batch`. -/
def acknowledgeEventBatch (token : PlayerEventAcknowledgementToken) :
    Bool × PlayerLifecycleState :=
  match s.cachedBatch with
  | none => (false, s)
  | some cached =>
    if cached.acknowledgementToken != token then (false, s)
    else
      match { s with cachedBatch := none }.acknowledgeDelivery cached with
      | none => (false, s)
      | some acknowledged =>
        let acknowledged := acknowledged.pruneSnapshotCoveredEvents
        if cached.sequenceBoundary.attachmentEpoch == s.attachmentEpoch then
          (true, acknowledged.compactAcknowledgedLifecycle cached.sequenceBoundary.throughSequence)
        else (true, acknowledged)

/-- `prune_expired_seek_tombstones`. -/
def pruneExpiredSeekTombstones : PlayerLifecycleState :=
  { s with
    retiredSeekTombstones :=
      s.retiredSeekTombstones.filter fun tombstone => s.nowTick < tombstone.retireAfterTick
    uncertainSeekGenerations :=
      s.uncertainSeekGenerations.filter fun _ deadline => s.nowTick < deadline }

end PlayerLifecycleState

end Sorotte.Lifecycle
