import Sorotte.Framework.Runs
import Sorotte.Protocol.Payloads

/-! # The player transition classifier

  `PlayerTransitionClassifier` of `player_transition.rs`, every operation a
  function of the classifier's state.  Times are exact rationals, so the tests
  for finite values hold of all of them.
-/

namespace Sorotte.Transition

/-! ### Commands -/

inductive PlayerCommandCause where
  | localUserPlaybackControl | remoteRoomSynchronization | automaticReadinessStart
  | readinessGateHold | roomBufferingPolicy | seekPreparation | desyncCorrection | recovery
  | mediaLoading | playlistTransition | transportRefresh
  deriving DecidableEq, Repr

inductive PlayerCommandCompletion where
  | pending
  | completed (atSeconds : Seconds)
  | timedOut (atSeconds : Seconds)
  | failed (atSeconds : Seconds)
  | superseded (atSeconds : Seconds)
  deriving DecidableEq

namespace PlayerCommandCompletion

def terminalAtSeconds : PlayerCommandCompletion → Option Seconds
  | pending => none
  | completed atSeconds | timedOut atSeconds | failed atSeconds | superseded atSeconds =>
      some atSeconds

def isSuperseded : PlayerCommandCompletion → Bool
  | superseded _ => true
  | _ => false

end PlayerCommandCompletion

structure PlayerCommandRegistration where
  commandId : Nat
  mediaGeneration : Nat
  adapterEpoch : Nat
  cause : PlayerCommandCause
  desiredPaused : Bool
  issuedAtSeconds : Seconds
  completion : PlayerCommandCompletion
  deriving DecidableEq

structure PlayerCommandKey where
  adapterEpoch : Nat
  commandId : Nat
  deriving DecidableEq

instance : Ord PlayerCommandKey :=
  ⟨compareLex (compareOn PlayerCommandKey.adapterEpoch) (compareOn PlayerCommandKey.commandId)⟩

instance : Std.TransOrd PlayerCommandKey :=
  inferInstanceAs (Std.TransCmp
    (compareLex (compareOn PlayerCommandKey.adapterEpoch)
      (compareOn PlayerCommandKey.commandId)))

instance : Std.LawfulEqOrd PlayerCommandKey where
  compare_self := Std.ReflCmp.compare_self
  eq_of_compare := by
    intro first second h
    have hboth : compareLex (compareOn PlayerCommandKey.adapterEpoch)
      (compareOn PlayerCommandKey.commandId) first second = .eq := h
    rw [compareLex_eq_eq] at hboth
    obtain ⟨hepoch, hid⟩ := hboth
    cases first
    cases second
    simp [compareOn] at hepoch hid
    simp [hepoch, hid]

structure PlayerTransitionClassifierConfig where
  stableConfirmationSeconds : Seconds
  commandObservationGraceSeconds : Seconds
  pendingCommandTimeoutSeconds : Seconds
  unknownOriginTimeoutSeconds : Seconds

/-- A registered command, with the end of its ownership window. -/
structure RegisteredCommand where
  registration : PlayerCommandRegistration
  ownershipDeadlineSeconds : Option Seconds
  observationMatched : Bool

namespace RegisteredCommand

/-- The time is inside the ownership window. -/
def owns (command : RegisteredCommand) (observedAtSeconds : Seconds) : Bool :=
  command.registration.issuedAtSeconds ≤ observedAtSeconds
    && command.ownershipDeadlineSeconds.all fun deadline => observedAtSeconds ≤ deadline

def activeAt (command : RegisteredCommand) (observedAtSeconds : Seconds) : Bool :=
  !command.observationMatched && command.owns observedAtSeconds

def matchableAt (command : RegisteredCommand) (observedAtSeconds : Seconds) : Bool :=
  !command.observationMatched && !command.registration.completion.isSuperseded
    && command.owns observedAtSeconds

end RegisteredCommand

/-! ### Observations -/

inductive PlayerTransportPhase where
  | empty | loading | prebuffering | readyPaused | playing | rebuffering | seeking | ended | failed
  deriving DecidableEq, Repr

inductive PlayerTransitionTechnicalReason where
  | empty | loading | prebuffering | rebuffering | seeking | ended | failed | cachePause
  | mediaTransition | recovery | seekPreparation | roomBufferingPolicy | playbackBarrier
  | synchronization
  deriving DecidableEq, Repr

structure PlayerTransitionContext where
  phase : Option PlayerTransportPhase
  pausedForCache : Bool
  seeking : Bool
  mediaTransitionActive : Bool
  recoveryActive : Bool
  seekPreparationActive : Bool
  roomBufferingPolicyActive : Bool
  playbackBarrierActive : Bool
  synchronizationActive : Bool
  deriving DecidableEq

namespace PlayerTransitionContext

/-- `PlayerTransitionContext::new`. -/
def new (phase : Option PlayerTransportPhase) : PlayerTransitionContext :=
  ⟨phase, false, false, false, false, false, false, false, false⟩

def technicalReason (c : PlayerTransitionContext) : Option PlayerTransitionTechnicalReason :=
  if c.pausedForCache then some .cachePause
  else if c.seeking then some .seeking
  else if c.mediaTransitionActive then some .mediaTransition
  else if c.recoveryActive then some .recovery
  else if c.seekPreparationActive then some .seekPreparation
  else if c.roomBufferingPolicyActive then some .roomBufferingPolicy
  else if c.playbackBarrierActive then some .playbackBarrier
  else if c.synchronizationActive then some .synchronization
  else
    match c.phase with
    | some .empty => some .empty
    | some .loading => some .loading
    | some .prebuffering => some .prebuffering
    | some .rebuffering => some .rebuffering
    | some .seeking => some .seeking
    | some .ended => some .ended
    | some .failed => some .failed
    | some .readyPaused | some .playing | none => none

def stableFor (c : PlayerTransitionContext) (logicalPaused : Bool) : Bool :=
  (match c.phase, logicalPaused with
    | some .readyPaused, true => true
    | some .playing, false => true
    | _, _ => false)
    && c.technicalReason.isNone

end PlayerTransitionContext

structure PlayerLogicalPauseObservation where
  mediaGeneration : Nat
  adapterEpoch : Nat
  observedAtSeconds : Seconds
  logicalPaused : Bool
  context : PlayerTransitionContext
  deriving DecidableEq

namespace PlayerLogicalPauseObservation

/-- The technical reason, unless it is a playback barrier around a play edge. -/
def technicalReason (o : PlayerLogicalPauseObservation) :
    Option PlayerTransitionTechnicalReason :=
  o.context.technicalReason.filter fun reason =>
    reason != .playbackBarrier || o.logicalPaused

end PlayerLogicalPauseObservation

/-! ### Classifications -/

inductive NativePlayerAction where
  | play | pause
  deriving DecidableEq, Repr

def NativePlayerAction.fromPaused (paused : Bool) : NativePlayerAction :=
  if paused then .pause else .play

inductive PlayerTransitionUnknownReason where
  | initialObservation | activeCommandDidNotMatch | ambiguousCommandMatch
  | unstableTransitionTimedOut
  deriving DecidableEq, Repr

inductive PlayerTransitionIgnoredReason where
  | noActiveScope | scopeMismatch | nonMonotonicTimestamp
  deriving DecidableEq, Repr

inductive PlayerTransitionClassification where
  | ownedCommand (commandId : Nat) (cause : PlayerCommandCause)
      (completion : PlayerCommandCompletion)
  | technical (action : NativePlayerAction) (reason : PlayerTransitionTechnicalReason)
  | awaitingStability (action : NativePlayerAction) (firstObservedAtSeconds : Seconds)
  | nativePlayerGesture (action : NativePlayerAction)
  | unknownOrigin (action : NativePlayerAction) (reason : PlayerTransitionUnknownReason)
  | duplicate
  | ignored (reason : PlayerTransitionIgnoredReason)
  deriving DecidableEq

structure PendingStableEdge where
  logicalPaused : Bool
  firstObservedAtSeconds : Seconds
  deriving DecidableEq

inductive CommandMatch where
  | none
  | one (key : PlayerCommandKey) (command : RegisteredCommand)
  | ambiguous

/-! ### The classifier -/

structure PlayerTransitionClassifier where
  config : PlayerTransitionClassifierConfig
  activeMediaGeneration : Option Nat
  activeAdapterEpoch : Option Nat
  commands : BTreeMap PlayerCommandKey RegisteredCommand
  acceptedLogicalPaused : Option Bool
  lastObservedAtSeconds : Option Seconds
  lastObservedLogicalPaused : Option Bool
  pendingEdge : Option PendingStableEdge

def normalizedNonnegativeSeconds (value fallback : Seconds) : Seconds :=
  if 0 ≤ value then value else fallback

namespace PlayerTransitionClassifier

/-- The configuration with its defaults where a value is negative. -/
def normalized (config : PlayerTransitionClassifierConfig) : PlayerTransitionClassifierConfig :=
  let stable := normalizedNonnegativeSeconds config.stableConfirmationSeconds (1 / 10)
  { stableConfirmationSeconds := stable
    commandObservationGraceSeconds :=
      normalizedNonnegativeSeconds config.commandObservationGraceSeconds 1
    pendingCommandTimeoutSeconds :=
      normalizedNonnegativeSeconds config.pendingCommandTimeoutSeconds 5
    unknownOriginTimeoutSeconds :=
      max (normalizedNonnegativeSeconds config.unknownOriginTimeoutSeconds 1) stable }

def new (config : PlayerTransitionClassifierConfig) : PlayerTransitionClassifier where
  config := normalized config
  activeMediaGeneration := none
  activeAdapterEpoch := none
  commands := ∅
  acceptedLogicalPaused := none
  lastObservedAtSeconds := none
  lastObservedLogicalPaused := none
  pendingEdge := none

/-- A scope can be begun for it. -/
def opensScope (mediaGeneration adapterEpoch : Nat) : Bool :=
  mediaGeneration != 0 && adapterEpoch != 0

def beginScope (s : PlayerTransitionClassifier) (mediaGeneration adapterEpoch : Nat) :
    PlayerTransitionClassifier :=
  if opensScope mediaGeneration adapterEpoch then
    { s with
      activeMediaGeneration := some mediaGeneration
      activeAdapterEpoch := some adapterEpoch
      commands := ∅
      acceptedLogicalPaused := none
      lastObservedAtSeconds := none
      lastObservedLogicalPaused := none
      pendingEdge := none }
  else s

/-! ### Registering commands -/

def validCompletion (completion : PlayerCommandCompletion) (issuedAtSeconds : Seconds) : Bool :=
  completion.terminalAtSeconds.all fun at' => issuedAtSeconds ≤ at'

def keyOf (registration : PlayerCommandRegistration) : PlayerCommandKey :=
  ⟨registration.adapterEpoch, registration.commandId⟩

/-- `register_command` answers true. -/
def registers (s : PlayerTransitionClassifier) (registration : PlayerCommandRegistration) : Bool :=
  some registration.mediaGeneration == s.activeMediaGeneration
    && some registration.adapterEpoch == s.activeAdapterEpoch
    && registration.mediaGeneration != 0
    && registration.adapterEpoch != 0
    && registration.commandId != 0
    && validCompletion registration.completion registration.issuedAtSeconds
    && registration.completion.terminalAtSeconds.all (fun at' =>
      at' ≤ registration.issuedAtSeconds + s.config.pendingCommandTimeoutSeconds)
    && !s.commands.contains (keyOf registration)

def registered (s : PlayerTransitionClassifier) (registration : PlayerCommandRegistration) :
    RegisteredCommand where
  registration := registration
  ownershipDeadlineSeconds :=
    some (match registration.completion.terminalAtSeconds with
      | none => registration.issuedAtSeconds + s.config.pendingCommandTimeoutSeconds
      | some at' => at' + s.config.commandObservationGraceSeconds)
  observationMatched := false

def registerCommand (s : PlayerTransitionClassifier) (registration : PlayerCommandRegistration) :
    PlayerTransitionClassifier :=
  if s.registers registration then
    { s with commands := s.commands.insert (keyOf registration) (s.registered registration) }
  else s

/-! ### Completing commands -/

/-- A terminal time the command can still take. -/
def acceptsTerminal (s : PlayerTransitionClassifier) (command : RegisteredCommand)
    (at' : Seconds) : Bool :=
  !(decide (at' < command.registration.issuedAtSeconds)
    || (command.registration.completion.terminalAtSeconds.isNone
      && decide (command.registration.issuedAtSeconds + s.config.pendingCommandTimeoutSeconds < at'))
    || (command.registration.completion.terminalAtSeconds.isSome
      && command.ownershipDeadlineSeconds.any fun deadline => deadline < at')
    || command.registration.completion.terminalAtSeconds.any fun current => at' < current)

/-- The command with its completion, its window ended anew. -/
def completedCommand (s : PlayerTransitionClassifier) (command : RegisteredCommand)
    (completion : PlayerCommandCompletion) (at' : Seconds) : RegisteredCommand :=
  let deadline := at' + s.config.commandObservationGraceSeconds
  { command with
    registration := { command.registration with completion := completion }
    ownershipDeadlineSeconds :=
      some (if command.registration.completion.terminalAtSeconds.isSome then
        match command.ownershipDeadlineSeconds with
        | none => deadline
        | some current => max current deadline
      else deadline) }

def updateCommandCompletion (s : PlayerTransitionClassifier) (key : PlayerCommandKey)
    (completion : PlayerCommandCompletion) : PlayerTransitionClassifier :=
  match s.commands[key]?, completion.terminalAtSeconds with
  | some command, some at' =>
      if s.acceptsTerminal command at' then
        { s with commands := s.commands.insert key (s.completedCommand command completion at') }
      else s
  | _, _ => s

/-- The commands of a cause that wait for their observation. -/
def unmatchedOf (s : PlayerTransitionClassifier) (cause : PlayerCommandCause)
    (atSeconds : Seconds) : List PlayerCommandKey :=
  (s.commands.toList.filter fun entry =>
    !entry.2.observationMatched && entry.2.registration.cause == cause
      && entry.2.registration.issuedAtSeconds ≤ atSeconds).map (·.1)

def supersedeUnmatchedCommands (s : PlayerTransitionClassifier) (cause : PlayerCommandCause)
    (atSeconds : Seconds) : PlayerTransitionClassifier :=
  (s.unmatchedOf cause atSeconds).foldl
    (fun s key => s.updateCommandCompletion key (.superseded atSeconds)) s

def pruneCommands (s : PlayerTransitionClassifier) (nowSeconds : Seconds) :
    PlayerTransitionClassifier :=
  { s with commands := s.commands.filter fun _ command =>
      command.ownershipDeadlineSeconds.all fun deadline => nowSeconds ≤ deadline }

/-! ### Classifying observations -/

def acceptTransition (s : PlayerTransitionClassifier) (logicalPaused : Bool) :
    PlayerTransitionClassifier :=
  { s with
    acceptedLogicalPaused := some logicalPaused
    pendingEdge := none }

/-- A command the observation could be of. -/
def candidate (o : PlayerLogicalPauseObservation) (command : RegisteredCommand) : Bool :=
  command.registration.mediaGeneration == o.mediaGeneration
    && command.registration.adapterEpoch == o.adapterEpoch
    && command.registration.desiredPaused == o.logicalPaused
    && command.matchableAt o.observedAtSeconds

/-- The latest candidate so far, and whether another was issued at its time. -/
def selectCandidate (selected : Option (PlayerCommandKey × RegisteredCommand) × Bool)
    (entry : PlayerCommandKey × RegisteredCommand) :
    Option (PlayerCommandKey × RegisteredCommand) × Bool :=
  match selected.1 with
  | none => (some entry, false)
  | some (_, latest) =>
      if entry.2.registration.issuedAtSeconds < latest.registration.issuedAtSeconds then selected
      else if entry.2.registration.issuedAtSeconds = latest.registration.issuedAtSeconds then
        (selected.1, true)
      else (some entry, false)

def matchingCommand (s : PlayerTransitionClassifier) (o : PlayerLogicalPauseObservation) :
    CommandMatch :=
  match (s.commands.toList.filter fun entry => candidate o entry.2).foldl selectCandidate
    (none, false) with
  | (_, true) => .ambiguous
  | (none, false) => .none
  | (some (key, command), false) => .one key command

def hasActiveUnmatchedCommand (s : PlayerTransitionClassifier) (observedAtSeconds : Seconds) :
    Bool :=
  s.commands.toList.any fun entry => entry.2.activeAt observedAtSeconds

/-- The answer to an observation that is not looked at. -/
def refused (s : PlayerTransitionClassifier) (o : PlayerLogicalPauseObservation) :
    Option PlayerTransitionClassification :=
  if s.activeMediaGeneration.isNone || s.activeAdapterEpoch.isNone then
    some (.ignored .noActiveScope)
  else if s.activeMediaGeneration ≠ some o.mediaGeneration
      ∨ s.activeAdapterEpoch ≠ some o.adapterEpoch then
    some (.ignored .scopeMismatch)
  else
    match s.lastObservedAtSeconds with
    | none => none
    | some last =>
        if o.observedAtSeconds ≤ last then
          if o.observedAtSeconds = last ∧ s.lastObservedLogicalPaused = some o.logicalPaused then
            some .duplicate
          else some (.ignored .nonMonotonicTimestamp)
        else none

/-- An edge away from the accepted state. -/
def classifyEdge (s : PlayerTransitionClassifier) (o : PlayerLogicalPauseObservation) :
    PlayerTransitionClassifier × PlayerTransitionClassification :=
  let action := NativePlayerAction.fromPaused o.logicalPaused
  let fresh : PendingStableEdge := ⟨o.logicalPaused, o.observedAtSeconds⟩
  let pending := (s.pendingEdge.filter fun edge => edge.logicalPaused == o.logicalPaused).getD fresh
  let s := { s with pendingEdge := some pending }
  let stableElapsed := o.observedAtSeconds - pending.firstObservedAtSeconds
  if o.context.stableFor o.logicalPaused
      ∧ s.config.stableConfirmationSeconds ≤ stableElapsed then
    (s.acceptTransition o.logicalPaused, .nativePlayerGesture action)
  else if s.config.unknownOriginTimeoutSeconds ≤ stableElapsed then
    (s.acceptTransition o.logicalPaused, .unknownOrigin action .unstableTransitionTimedOut)
  else (s, .awaitingStability action pending.firstObservedAtSeconds)

/-- An observation no command owns. -/
def classifyUnowned (s : PlayerTransitionClassifier) (o : PlayerLogicalPauseObservation) :
    PlayerTransitionClassifier × PlayerTransitionClassification :=
  let action := NativePlayerAction.fromPaused o.logicalPaused
  match o.technicalReason with
  | some reason =>
      if s.acceptedLogicalPaused = some o.logicalPaused ∧ s.pendingEdge = none then (s, .duplicate)
      else (s.acceptTransition o.logicalPaused, .technical action reason)
  | none =>
      if s.hasActiveUnmatchedCommand o.observedAtSeconds then
        (s.acceptTransition o.logicalPaused, .unknownOrigin action .activeCommandDidNotMatch)
      else
        match s.acceptedLogicalPaused with
        | none => (s.acceptTransition o.logicalPaused, .unknownOrigin action .initialObservation)
        | some accepted =>
            if o.logicalPaused = accepted then ({ s with pendingEdge := none }, .duplicate)
            else s.classifyEdge o

def recordObservation (s : PlayerTransitionClassifier) (o : PlayerLogicalPauseObservation) :
    PlayerTransitionClassifier :=
  { s with
    lastObservedAtSeconds := some o.observedAtSeconds
    lastObservedLogicalPaused := some o.logicalPaused }

/-- An observation of the scope, later than the last one. -/
def classifyFresh (s : PlayerTransitionClassifier) (o : PlayerLogicalPauseObservation) :
    PlayerTransitionClassifier × PlayerTransitionClassification :=
  let s := s.recordObservation o
  match s.matchingCommand o with
  | .one key command =>
      let matched := { command with observationMatched := true }
      ({ s with commands := s.commands.insert key matched }.acceptTransition o.logicalPaused,
        .ownedCommand command.registration.commandId command.registration.cause
          command.registration.completion)
  | .ambiguous =>
      (s.acceptTransition o.logicalPaused,
        .unknownOrigin (.fromPaused o.logicalPaused) .ambiguousCommandMatch)
  | .none => s.classifyUnowned o

def classify (s : PlayerTransitionClassifier) (o : PlayerLogicalPauseObservation) :
    PlayerTransitionClassifier × PlayerTransitionClassification :=
  match s.refused o with
  | some answer => (s, answer)
  | none => s.classifyFresh o

/-! ### Pending edges -/

def confirmPendingNativePlay (s : PlayerTransitionClassifier) :
    PlayerTransitionClassifier × Option PlayerTransitionClassification :=
  match s.pendingEdge with
  | none => (s, none)
  | some pending =>
      if pending.logicalPaused ≠ false ∨ s.lastObservedLogicalPaused ≠ some false then (s, none)
      else (s.acceptTransition false, some (.nativePlayerGesture .play))

/-- `invalidate_pending_native_pause`, and `invalidate_pending_native_play` for `false`. -/
def invalidatePendingNative (s : PlayerTransitionClassifier) (logicalPaused : Bool) :
    PlayerTransitionClassifier :=
  match s.pendingEdge with
  | none => s
  | some pending =>
      if pending.logicalPaused ≠ logicalPaused then s else s.acceptTransition logicalPaused

def tick (s : PlayerTransitionClassifier) (nowSeconds : Seconds) :
    PlayerTransitionClassifier × Option PlayerTransitionClassification :=
  match s.pendingEdge with
  | none => (s, none)
  | some pending =>
      if nowSeconds - pending.firstObservedAtSeconds < s.config.unknownOriginTimeoutSeconds then
        (s, none)
      else
        (s.acceptTransition pending.logicalPaused,
          some (.unknownOrigin (.fromPaused pending.logicalPaused) .unstableTransitionTimedOut))

end PlayerTransitionClassifier

/-! ### Runs -/

inductive Op where
  | beginScope (mediaGeneration adapterEpoch : Nat)
  | registerCommand (registration : PlayerCommandRegistration)
  | updateCommandCompletion (key : PlayerCommandKey) (completion : PlayerCommandCompletion)
  | supersedeUnmatchedCommands (cause : PlayerCommandCause) (atSeconds : Seconds)
  | classify (observation : PlayerLogicalPauseObservation)
  | confirmPendingNativePlay
  | invalidatePendingNative (logicalPaused : Bool)
  | tick (nowSeconds : Seconds)
  | pruneCommands (nowSeconds : Seconds)
  deriving DecidableEq

/-- The state after an operation, and the classification it returned. -/
def perform (s : PlayerTransitionClassifier) :
    Op → PlayerTransitionClassifier × Option PlayerTransitionClassification
  | .beginScope mediaGeneration adapterEpoch => (s.beginScope mediaGeneration adapterEpoch, none)
  | .registerCommand registration => (s.registerCommand registration, none)
  | .updateCommandCompletion key completion => (s.updateCommandCompletion key completion, none)
  | .supersedeUnmatchedCommands cause atSeconds =>
      (s.supersedeUnmatchedCommands cause atSeconds, none)
  | .classify observation =>
      ((s.classify observation).1, some (s.classify observation).2)
  | .confirmPendingNativePlay => s.confirmPendingNativePlay
  | .invalidatePendingNative logicalPaused => (s.invalidatePendingNative logicalPaused, none)
  | .tick nowSeconds => s.tick nowSeconds
  | .pruneCommands nowSeconds => (s.pruneCommands nowSeconds, none)

def step (s : PlayerTransitionClassifier) (op : Op) : PlayerTransitionClassifier :=
  (perform s op).1

def output (s : PlayerTransitionClassifier) (op : Op) : Option PlayerTransitionClassification :=
  (perform s op).2

end Sorotte.Transition
