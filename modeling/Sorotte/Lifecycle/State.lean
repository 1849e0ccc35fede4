import Sorotte.Coordinator.State

/-! # The mpv lifecycle reducer's data

  `lifecycle.rs` of the mpv player crate is a pure decision model: the adapter
  turns raw player ingress into inputs, folds them over `PlayerLifecycleState`
  and executes the effects.  This module holds the records.

  Identities, epochs, sequence numbers and tokens are `u64` counters of the
  source that only ever grow by one; they are natural numbers here.  Ticks come
  from outside and are added with saturation, so their additions saturate.

  The payloads of a transport delta and of a local-file update are carried
  through unread by the source and are left out, as is the part of a transport
  snapshot that no function of the module fills.
-/

namespace Sorotte.Lifecycle

open Coordinator (saturatingAdd)

/-! ### Constants -/

def maxPendingTelemetryEvents : Nat := 64

def initialReconciliationBackoffTicks : Nat := 100

def maxReconciliationBackoffTicks : Nat := 2000

def acceptedLoadCompletionTicks : Nat := 60 * 1000

def quiescentLoadAttemptRetentionTicks : Nat := 10 * 60 * 1000

def seekTombstoneRetentionTicks : Nat := 60000

def maxTerminalAttemptTombstones : Nat := 256

def maxRetiredCommandTombstones : Nat := 512

def maxRetiredSeekTombstones : Nat := 256

def terminalTombstoneSequenceWindow : Nat := 4096

def seekMatchToleranceSeconds : Seconds := 1 / 2

/-! ### Identities -/

abbrev PlayerAttachmentEpoch := Nat

abbrev LoadAttemptId := Nat

abbrev PlayerMediaGeneration := Nat

abbrev PlayerCommandId := Nat

abbrev PlaylistEntryId := Int

structure PlayerEventOrder where
  attachmentEpoch : PlayerAttachmentEpoch
  sequence : Nat
  deriving DecidableEq

structure PlayerSequenceBoundary where
  attachmentEpoch : PlayerAttachmentEpoch
  throughSequence : Nat
  deriving DecidableEq

structure PlayerEventAcknowledgementToken where
  attachmentEpoch : PlayerAttachmentEpoch
  value : Nat
  deriving DecidableEq

/-! ### Outcomes -/

inductive PlayerCommandFailureKind where
  | timedOut | mediaEnded | transportDisconnected | unknown
  deriving DecidableEq

inductive PlayerMediaLoadFailureKind where
  | loadAborted | formatUnsupported | network | helperMissing | helperBroken | unknown
  deriving DecidableEq

inductive PlayerPhysicalLoadOutcome where
  | ended | stopped
  | failed (kind : PlayerMediaLoadFailureKind)
  | neverStarted | transportDisconnected
  deriving DecidableEq

inductive PlayerLoadAttemptResult where
  | loaded | superseded
  | failed (kind : PlayerMediaLoadFailureKind)
  | neverStarted | transportDisconnected | indeterminate
  deriving DecidableEq

inductive PlayerCommandSemanticResult where
  | completed | superseded
  | failed (kind : PlayerCommandFailureKind)
  | completionNotObserved | transportDisconnected
  deriving DecidableEq

structure PlayerCommandOutcome where
  attachmentEpoch : PlayerAttachmentEpoch
  commandId : PlayerCommandId
  mediaGeneration : Option PlayerMediaGeneration
  result : PlayerCommandSemanticResult
  deriving DecidableEq

structure LoadAttemptOutcome where
  attachmentEpoch : PlayerAttachmentEpoch
  attemptId : LoadAttemptId
  mediaGeneration : PlayerMediaGeneration
  commandId : Option PlayerCommandId
  requestedTarget : String
  loadedTarget : Option String
  result : PlayerLoadAttemptResult
  deriving DecidableEq

inductive PlayerSemanticOutcome where
  | command (outcome : PlayerCommandOutcome)
  | loadAttempt (outcome : LoadAttemptOutcome)
  deriving DecidableEq

structure SequencedPlayerSemanticOutcome where
  order : PlayerEventOrder
  outcome : PlayerSemanticOutcome
  deriving DecidableEq

/-! ### Ordered events -/

inductive PlayerEvent where
  | attachmentReplaced (previousEpoch : PlayerAttachmentEpoch)
  | localFileChanged (attemptId : LoadAttemptId) (mediaGeneration : PlayerMediaGeneration)
  | transportDelta
  | loadAttemptBound (attemptId : LoadAttemptId) (mediaGeneration : PlayerMediaGeneration)
      (commandId : Option PlayerCommandId) (playlistEntryId : PlaylistEntryId)
  | loadAttemptStarting (attemptId : LoadAttemptId) (mediaGeneration : PlayerMediaGeneration)
      (commandId : Option PlayerCommandId) (playlistEntryId : PlaylistEntryId)
      (ownsTransport : Bool)
  | loadAttemptActive (attemptId : LoadAttemptId) (mediaGeneration : PlayerMediaGeneration)
      (commandId : Option PlayerCommandId) (playlistEntryId : PlaylistEntryId)
  | loadAttemptLogicalOwnershipRevoked (attemptId : LoadAttemptId)
      (mediaGeneration : PlayerMediaGeneration) (successorAttemptId : LoadAttemptId)
  | loadAttemptTerminal (attemptId : LoadAttemptId) (mediaGeneration : PlayerMediaGeneration)
      (outcome : PlayerPhysicalLoadOutcome)
  | logicalPlaybackTerminal (mediaGeneration : PlayerMediaGeneration)
      (attemptId : LoadAttemptId) (outcome : PlayerPhysicalLoadOutcome)
  | eventGapDetected
  deriving DecidableEq

namespace PlayerEvent

def isTransportDelta : PlayerEvent → Bool
  | transportDelta => true
  | _ => false

end PlayerEvent

structure SequencedPlayerEvent where
  order : PlayerEventOrder
  event : PlayerEvent
  deriving DecidableEq

/-! ### Snapshots and batches -/

inductive SnapshotField (α : Type) where
  | known (value : α)
  | knownAbsent
  | unavailable
  deriving DecidableEq

namespace SnapshotField

/-- `map(Known).unwrap_or(KnownAbsent)`. -/
def ofOption {α : Type} : Option α → SnapshotField α
  | some value => known value
  | none => knownAbsent

end SnapshotField

structure PlayerTransportSnapshot where
  loadAttemptId : SnapshotField LoadAttemptId := .unavailable
  mediaGeneration : SnapshotField PlayerMediaGeneration := .unavailable
  deriving DecidableEq

structure PlayerActiveLoadSnapshot where
  attemptId : LoadAttemptId
  mediaGeneration : PlayerMediaGeneration
  commandId : Option PlayerCommandId
  playlistEntryId : Option PlaylistEntryId
  physicalFileLoaded : Bool
  semanticLoadResult : Option PlayerLoadAttemptResult
  logicalOwnershipRevoked : Bool
  deriving DecidableEq

structure PlayerAuthoritativeSnapshot where
  attachmentEpoch : PlayerAttachmentEpoch
  sequenceBoundary : PlayerSequenceBoundary
  transport : PlayerTransportSnapshot := {}
  activeLoad : SnapshotField PlayerActiveLoadSnapshot := .unavailable
  currentPlaylistEntryId : SnapshotField PlaylistEntryId := .unavailable
  currentPath : SnapshotField String := .unavailable
  deriving DecidableEq

structure PlayerEventBatch where
  attachmentEpoch : PlayerAttachmentEpoch
  sequenceBoundary : PlayerSequenceBoundary
  authoritativeSnapshot : Option PlayerAuthoritativeSnapshot
  events : List SequencedPlayerEvent
  semanticOutcomes : List SequencedPlayerSemanticOutcome
  acknowledgementToken : PlayerEventAcknowledgementToken
  deriving DecidableEq

/-! ### Commands -/

inductive CommandSemanticState where
  | submitted | accepted | completed | superseded
  | failed (kind : PlayerCommandFailureKind)
  | completionNotObserved | transportDisconnected
  deriving DecidableEq

namespace CommandSemanticState

def isTerminal : CommandSemanticState → Bool
  | completed | superseded | failed _ | completionNotObserved | transportDisconnected => true
  | submitted | accepted => false

def publicResult : CommandSemanticState → Option PlayerCommandSemanticResult
  | submitted | accepted => none
  | completed => some .completed
  | superseded => some .superseded
  | failed kind => some (.failed kind)
  | completionNotObserved => some .completionNotObserved
  | transportDisconnected => some .transportDisconnected

end CommandSemanticState

inductive LifecycleCommandKind where
  | load (attemptId : LoadAttemptId)
  | seek | pause | play
  deriving DecidableEq

namespace LifecycleCommandKind

/-- Pause and play supersede each other. -/
def competes : LifecycleCommandKind → LifecycleCommandKind → Bool
  | pause, pause | pause, play | play, pause | play, play => true
  | _, _ => false

end LifecycleCommandKind

structure LifecycleCommand where
  id : PlayerCommandId
  attachmentEpoch : PlayerAttachmentEpoch
  mediaGeneration : Option PlayerMediaGeneration
  kind : LifecycleCommandKind
  state : CommandSemanticState
  outcomeEmitted : Bool
  terminalSequence : Option Nat
  deriving DecidableEq

/-! ### Load attempts -/

inductive LoadAttemptState where
  | submitting | acceptedUnbound | bound | starting | active
  | supersededMayStillEmit (successor : LoadAttemptId)
  | mayStillEmit
  | mayStillEmitQuiescent (retireAfterTick : Nat)
  | terminal (outcome : PlayerPhysicalLoadOutcome)
  deriving DecidableEq

namespace LoadAttemptState

def isTerminal : LoadAttemptState → Bool
  | terminal _ => true
  | _ => false

/-- `may_receive_lifecycle`. -/
def mayReceiveLifecycle (state : LoadAttemptState) : Bool := !state.isTerminal

/-- `matches!(state, MayStillEmitQuiescent { .. })`. -/
def isQuiescent : LoadAttemptState → Bool
  | mayStillEmitQuiescent _ => true
  | _ => false

/-- `matches!(state, SupersededMayStillEmit { .. })`. -/
def isSuperseded : LoadAttemptState → Bool
  | supersededMayStillEmit _ => true
  | _ => false

end LoadAttemptState

structure LoadAttempt where
  id : LoadAttemptId
  attachmentEpoch : PlayerAttachmentEpoch
  mediaGeneration : PlayerMediaGeneration
  commandId : Option PlayerCommandId
  requestedTarget : String
  playlistEntryId : Option PlaylistEntryId
  baselinePlaylistEntryIds : BTreeSet PlaylistEntryId
  replacedAttempt : Option LoadAttemptId
  supersededBy : Option LoadAttemptId := none
  logicalOwnershipRevoked : Bool := false
  state : LoadAttemptState
  /-- The exactly-once semantic result; late physical evidence never overwrites it. -/
  semanticLoadResult : Option PlayerLoadAttemptResult := none
  /-- Set only by a raw or deferred `start-file`, never by a playlist snapshot. -/
  startFileObserved : Bool
  fileLoadedObserved : Bool
  reconcileUntilTick : Option Nat := none
  fileLoadedDeadlineTick : Option Nat
  semanticOutcomeSequence : Option Nat := none
  physicalTerminalSequence : Option Nat := none

structure AuthoritativePlaylistEntry where
  id : PlaylistEntryId
  originalFilename : Option String
  current : Bool
  deriving DecidableEq

inductive LoadLifecycleReconciliation where
  | resolved | authoritativeIdle | awaitingAcceptedAttempt | incompleteSnapshot
  | transportFailure
  deriving DecidableEq

/-! ### Seeks -/

inductive SystemSeekOwnershipState where
  | submitted | accepted | mayStillArrive | observed | invalidated
  deriving DecidableEq

namespace SystemSeekOwnershipState

/-- A seek whose command ended without an observation may still arrive. -/
def unobserved : SystemSeekOwnershipState → SystemSeekOwnershipState
  | submitted | accepted => mayStillArrive
  | state => state

/-- A seek that the player may still carry out. -/
def awaitsArrival : SystemSeekOwnershipState → Bool
  | accepted | mayStillArrive => true
  | _ => false

end SystemSeekOwnershipState

structure SystemSeekOwnership where
  attachmentEpoch : PlayerAttachmentEpoch
  mediaGeneration : PlayerMediaGeneration
  rawPlayerTargetSeconds : F64
  effectiveRoomTargetSeconds : F64
  commandId : PlayerCommandId
  dispatchSequenceBoundary : Nat
  state : SystemSeekOwnershipState
  deriving DecidableEq

namespace SystemSeekOwnership

/-- The observation may belong to the seek. -/
def mayBe (owner : SystemSeekOwnership) (attachmentEpoch : PlayerAttachmentEpoch)
    (mediaGeneration : PlayerMediaGeneration) (observedSequence : Nat) : Bool :=
  owner.attachmentEpoch == attachmentEpoch && owner.mediaGeneration == mediaGeneration
    && owner.dispatchSequenceBoundary < observedSequence

/-- The observed position is the seek's target.  A target that is no number
    matches nothing. -/
def reachedBy (owner : SystemSeekOwnership) (attachmentEpoch : PlayerAttachmentEpoch)
    (mediaGeneration : PlayerMediaGeneration) (observedSequence : Nat)
    (positionSeconds : Seconds) : Bool :=
  owner.mayBe attachmentEpoch mediaGeneration observedSequence
    && owner.rawPlayerTargetSeconds.finite?.any fun target =>
      Coordinator.distance target positionSeconds ≤ seekMatchToleranceSeconds

end SystemSeekOwnership

/-! ### What survives a compacted record -/

structure ProvisionalEofCandidate where
  attemptId : LoadAttemptId
  lastPositionSeconds : Option Seconds
  deriving DecidableEq

structure DeferredStartFile where
  attachmentEpoch : PlayerAttachmentEpoch
  playlistEntryId : PlaylistEntryId
  deriving DecidableEq

structure TerminalAttemptTombstone where
  attachmentEpoch : PlayerAttachmentEpoch
  attemptId : LoadAttemptId
  mediaGeneration : PlayerMediaGeneration
  commandId : Option PlayerCommandId
  playlistEntryId : Option PlaylistEntryId
  terminalSequence : Nat
  deriving DecidableEq

structure RetiredCommandTombstone where
  attachmentEpoch : PlayerAttachmentEpoch
  commandId : PlayerCommandId
  terminalSequence : Nat
  deriving DecidableEq

structure RetiredSeekTombstone where
  ownership : SystemSeekOwnership
  retireAfterTick : Nat
  deriving DecidableEq

/-! ### The state -/

/-- The undelivered content of one attachment epoch. -/
structure EpochDeliveryBuffer where
  attachmentEpoch : PlayerAttachmentEpoch
  pendingEvents : List SequencedPlayerEvent
  retainedSemanticOutcomes : List SequencedPlayerSemanticOutcome
  recoverySnapshot : Option PlayerAuthoritativeSnapshot
  gapDetected : Bool
  deriving DecidableEq

/-- Attempts, commands, seeks and the links between them. -/
structure LoadOwnership where
  attachmentEpoch : PlayerAttachmentEpoch
  loadAttempts : BTreeMap LoadAttemptId LoadAttempt := ∅
  playlistEntryAttempts : BTreeMap PlaylistEntryId LoadAttemptId := ∅
  activeLoadAttempt : Option LoadAttemptId := none
  commands : BTreeMap PlayerCommandId LifecycleCommand := ∅
  seekOwnership : BTreeMap PlayerCommandId SystemSeekOwnership := ∅
  nowTick : Nat := 0
  logicalTerminal : Option (PlayerMediaGeneration × PlayerPhysicalLoadOutcome) := none
  nextLoadAttemptId : Nat := 1
  terminalAttemptTombstones : List TerminalAttemptTombstone := []
  retiredCommandTombstones : List RetiredCommandTombstone := []
  retiredSeekTombstones : List RetiredSeekTombstone := []
  uncertainSeekGenerations : BTreeMap PlayerMediaGeneration Nat := ∅

/-- The queues, the retired queues and the frozen batch. -/
structure EventDelivery where
  nextEventSequence : Nat := 1
  nextAcknowledgementToken : Nat := 1
  pendingEvents : List SequencedPlayerEvent := []
  retainedSemanticOutcomes : List SequencedPlayerSemanticOutcome := []
  recoverySnapshot : Option PlayerAuthoritativeSnapshot := none
  gapDetected : Bool := false
  retiredEpochDeliveries : List EpochDeliveryBuffer := []
  /-- Frozen until its exact token is acknowledged. -/
  cachedBatch : Option PlayerEventBatch := none

/-- Reconciliation timers, deferred starts and the end-of-file projections. -/
structure Reconciliation where
  reconciliationRequired : Bool := false
  lastReconciliation : Option LoadLifecycleReconciliation := none
  nextReconciliationTick : Option Nat := none
  reconciliationBackoffTicks : Nat := initialReconciliationBackoffTicks
  deferredStartFiles : List DeferredStartFile := []
  provisionalEof : Option ProvisionalEofCandidate := none
  retainedCompletionAttempt : Option LoadAttemptId := none
  pendingNativeSeekGeneration : Option PlayerMediaGeneration := none

structure PlayerLifecycleState extends LoadOwnership, EventDelivery, Reconciliation

inductive PlayerLifecycleEffect where
  | loadAttemptAllocated (attemptId : LoadAttemptId) (commandId : Option PlayerCommandId)
  | requestLifecycleReconciliation
  | requestAuthoritativeSnapshot
  | emitOrderedEvent (event : SequencedPlayerEvent)
  | emitSemanticOutcome (outcome : SequencedPlayerSemanticOutcome)
  | physicalFileLoaded (attemptId : LoadAttemptId) (ownsLogicalPlayback : Bool)
  | logicalPlaybackTerminal (mediaGeneration : PlayerMediaGeneration)
      (attemptId : LoadAttemptId) (outcome : PlayerPhysicalLoadOutcome)
  | consumeSystemSeek (commandId : PlayerCommandId) (positionSeconds : Seconds)
  | nativeSeekCandidate (mediaGeneration : PlayerMediaGeneration) (positionSeconds : Seconds)
  deriving DecidableEq

/-- A state and the effects pushed so far: the source's `&mut self` together
    with its `effects` argument. -/
structure Reduction extends PlayerLifecycleState where
  effects : List PlayerLifecycleEffect := []

/-! ### Reading the state -/

namespace PlayerLifecycleState

def new (attachmentEpoch : PlayerAttachmentEpoch) : PlayerLifecycleState where
  attachmentEpoch := attachmentEpoch

variable (s : PlayerLifecycleState)

/-- The attempts in ascending order of their identity. -/
def attempts : List LoadAttempt := s.loadAttempts.toList.map (·.2)

/-- The commands in ascending order of their identity. -/
def commandList : List LifecycleCommand := s.commands.toList.map (·.2)

def attemptForCommand (commandId : PlayerCommandId) : Option LoadAttemptId :=
  s.commands[commandId]?.bind fun command =>
    match command.kind with
    | .load attemptId => some attemptId
    | _ => none

def activeAttempt : Option LoadAttempt := s.activeLoadAttempt.bind (s.loadAttempts[·]?)

def attemptForPlaylistEntry (playlistEntryId : PlaylistEntryId) : Option LoadAttemptId :=
  s.playlistEntryAttempts[playlistEntryId]?

def isKnownTerminalPlaylistEntry (playlistEntryId : PlaylistEntryId) : Bool :=
  s.terminalAttemptTombstones.any fun tombstone =>
    tombstone.playlistEntryId == some playlistEntryId

def isRetiredCommand (commandId : PlayerCommandId) : Bool :=
  s.retiredCommandTombstones.any fun tombstone => tombstone.commandId == commandId

def lastEventSequence : Nat := s.nextEventSequence - 1

def provisionalEofAttempt : Option LoadAttemptId := s.provisionalEof.map (·.attemptId)

/-- `strict_start_owner`. -/
def strictStartOwner (playlistEntryId : PlaylistEntryId) : Option LoadAttemptId :=
  s.playlistEntryAttempts[playlistEntryId]?

/-! ### Walking successor links

  The source's `while let` loop along `superseded_by` is given the number of hops it may take; the
  hops never run out in a reachable state.
-/

/-- The loop of `accepted_successor_exists`. -/
def acceptedSuccessorAlong (mediaGeneration : PlayerMediaGeneration) :
    (hops : Nat) → Option LoadAttemptId → Option Bool
  | 0, _ => none
  | _ + 1, none => some false
  | hops + 1, some successorId =>
    match s.loadAttempts[successorId]? with
    | none => some false
    | some candidate =>
      if candidate.mediaGeneration == mediaGeneration && !candidate.state.isTerminal
          && candidate.state != .submitting then some true
      else acceptedSuccessorAlong mediaGeneration hops candidate.supersededBy

/-- Identities below `next_load_attempt_id` bound every chain. -/
def acceptedSuccessorExists (attemptId : LoadAttemptId) : Bool :=
  match s.loadAttempts[attemptId]? with
  | none => false
  | some attempt =>
    (s.acceptedSuccessorAlong attempt.mediaGeneration (s.nextLoadAttemptId + 1)
      attempt.supersededBy).getD false

def hasProactiveUnboundLoadAttempt : Bool :=
  s.attempts.any fun attempt =>
    attempt.attachmentEpoch == s.attachmentEpoch && attempt.playlistEntryId.isNone
      && (attempt.state == .submitting || attempt.state == .acceptedUnbound
        || attempt.state == .mayStillEmit)

end PlayerLifecycleState

end Sorotte.Lifecycle
