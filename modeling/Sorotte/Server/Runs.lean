import Sorotte.Server.Handlers

/-! # Runs of the server

  The runtime is single-threaded: everything it does is an inbound message, a
  transport disconnect or a maintenance tick.  Runs are cut finer than that.  A
  Set batch is one action for each command, and a tick one action for each room
  or client it may serve, so that a condition on "the state before the step"
  means the state the code really reads.  `message_runs` says that whole
  messages are such runs.
-/

namespace Sorotte.Server

open Sorotte.Framework

/-! ### Messages -/

inductive ServerInboundCommand where
  | hello (hello : ServerHelloCommand) (freshToken : String)
  | set (commands : List (ServerSetCommand × String))
  | listRequest
  | state (state : ServerStateCommand) (forwardDelay : Seconds)
  | tls (startTls : String) (contextAvailable : Bool)
  | chat (message : String)
  | ignore

/-- One inbound message.  `framesFit` is the outcome of the line-limit checks,
    which only read the runtime. -/
def handleProtocolMessageFanoutForPeer (clientId : String) (command : ServerInboundCommand)
    (framesFit : Bool) : ServerM Outbound := do
  let fenced ← rejectFencedPlaybackBarrierTransport clientId
  if fenced then
    pure []
  else match command with
    | .hello hello freshToken => handleHelloForPeer clientId hello framesFit freshToken
    | .set commands => handleSet clientId commands framesFit
    | .listRequest => handleList clientId
    | .state state forwardDelay => handleState clientId state forwardDelay
    | .tls startTls contextAvailable => handleTls clientId startTls contextAvailable
    | .chat message => handleChat clientId message framesFit
    | .ignore => pure []

/-! ### Actions -/

inductive Action where
  | hello (clientId : String) (command : ServerHelloCommand) (framesFit : Bool)
      (freshToken : String)
  /-- One command of a Set batch that passed the checks made for the whole
      message; `next` is the command after it. -/
  | setCommand (clientId freshToken : String) (command : ServerSetCommand)
      (next : Option ServerSetCommand)
  | state (clientId : String) (command : ServerStateCommand) (forwardDelay : Seconds)
  | chat (clientId message : String) (framesFit : Bool)
  | list (clientId : String)
  | tls (clientId startTls : String) (contextAvailable : Bool)
  /-- A message from a transport that was superseded. -/
  | fencedInput (clientId : String)
  | disconnect (clientId : String)
  | pruneMemberships
  | pruneTombstones
  | persistActivity
  | expireRoom (roomName : String)
  | duePrepare (roomName : String)
  | dueStarted (roomName : String)
  | dueBuffering (roomName : String)
  | dueTimeout (clientId : String)
  | dueTick (clientId : String)

/-- Forgets what a program returns. -/
def silently {α : Type} (m : ServerM α) : ServerM Unit := do
  let _ ← m
  pure ()

/-- What an action does to the runtime; a failed action keeps its updates. -/
def Action.run : Action → ServerM Unit
  | .hello clientId command framesFit freshToken =>
      silently (handleHelloForPeer clientId command framesFit freshToken)
  | .setCommand clientId freshToken command next =>
      silently (applySetCommand clientId freshToken command next)
  | .state clientId command forwardDelay => silently (handleState clientId command forwardDelay)
  | .chat clientId message framesFit => silently (handleChat clientId message framesFit)
  | .list clientId => silently (handleList clientId)
  | .tls clientId startTls contextAvailable =>
      silently (handleTls clientId startTls contextAvailable)
  | .fencedInput clientId => silently (rejectFencedPlaybackBarrierTransport clientId)
  | .disconnect clientId => silently (timeoutDisconnectMessages clientId)
  | .pruneMemberships => Prog.modify (·.pruneReadinessReconnectCache)
  | .pruneTombstones => Prog.modify (·.prunePlaybackBarrierRequestTombstones)
  | .persistActivity => Prog.modify fun s =>
      s.persistOccupiedRoomActivityIfDueAtForAllRooms s.currentTimeSeconds
  | .expireRoom roomName => Prog.modify (·.discardRoom roomName)
  | .duePrepare roomName => do
      let s ← Prog.get
      silently (finishDuePrepare roomName s.currentTimeSeconds)
  | .dueStarted roomName => silently (finishDueStarted roomName)
  | .dueBuffering roomName => do
      let s ← Prog.get
      silently (evaluateRoomBufferingAt roomName s.currentTimeSeconds false)
  | .dueTimeout clientId => silently (timeoutDueClient clientId)
  | .dueTick clientId => do
      let s ← Prog.get
      silently (tickDueClient s.currentTimeSeconds clientId)

/-- The runtime after an action at a given clock reading. -/
def Action.next (action : Action) (clock : Clock) (s : ServerRuntime) : ServerRuntime :=
  Prog.after action.run { s with clock }

/-- The elapsed and the request clock never go back; the wall clock may. -/
def Clock.le (a b : Clock) : Prop := a.elapsed ≤ b.elapsed ∧ a.request ≤ b.request

instance (a b : Clock) : Decidable (a.le b) := inferInstanceAs (Decidable (_ ∧ _))

/-- One step of a run. -/
inductive Step : ServerRuntime → ServerRuntime → Prop
  | act (s : ServerRuntime) (action : Action) (clock : Clock) (h : s.clock.le clock) :
      Step s (action.next clock s)

/-! ### Initial and reachable states -/

/-- A server that has just started.  Rooms restored from the database or named
    as permanent are there already, paused and without members. -/
structure Initial (s : ServerRuntime) : Prop where
  noSessions : s.sessions = ∅
  noRoster : s.roomRoster = ∅
  noControllers : ∀ username roomName, s.userIsRoomController username roomName = false
  restoredPaused : ∀ roomName, (s.roomPlaybackState roomName).paused = true
  noBarriers : s.roomPlaybackBarriers = ∅
  noControls : s.roomBufferingControls = ∅
  noReadiness : s.roomReadiness = ∅
  noDetached : s.readinessReconnectCache = ∅
  noIdentities : s.readinessReconnectIdentityByClient = ∅
  noSamples : s.clientPlaybackStates = ∅
  noPending : s.pendingUserTransportByClient = ∅
  noTombstones : s.playbackBarrierRequestTombstones = ∅
  noGeneration : s.nextPlaybackBarrierGeneration = 0
  noRevision : s.nextPlaybackBarrierRevision = 0
  noHistory : s.history = []

/-- The hash that the default salt gives `room1` under `AB-123-456`. -/
def defaultRoomHash (baseRoom password : String) : String :=
  if baseRoom = "room1" ∧ password = "AB-123-456" then "CB39A19549E8" else ""

/-- A server with default settings, no database and no rooms. -/
def emptyServer : ServerRuntime where
  roomPasswordProvider :=
    { isWordChar := Char.isAlphanum, isDigitChar := Char.isDigit
      computeRoomHash := defaultRoomHash }
  sha256 := id
  versionSupportsChat := fun _ => true
  md5Hex := id
  normalizePeerIp := id
  persistentRoomOwnerBucket := id

theorem emptyServer_initial : Initial emptyServer where
  noSessions := rfl
  noRoster := rfl
  noControllers username roomName := by
    simp [ServerRuntime.userIsRoomController, emptyServer]
  restoredPaused roomName := by
    simp [ServerRuntime.roomPlaybackState, emptyServer, RoomPlaybackState.newAt]
  noBarriers := rfl
  noControls := rfl
  noReadiness := rfl
  noDetached := rfl
  noIdentities := rfl
  noSamples := rfl
  noPending := rfl
  noTombstones := rfl
  noGeneration := rfl
  noRevision := rfl
  noHistory := rfl

/-- States of a server that runs from a start. -/
def Reachable (s : ServerRuntime) : Prop :=
  ∃ s₀, Initial s₀ ∧ Relation.ReflTransGen Step s₀ s

/-- A run whose every action meets `ok` in the state it starts from, at the
    clock it reads. -/
inductive RunOf (ok : Action → ServerRuntime → Prop) : ServerRuntime → ServerRuntime → Prop
  | refl (s : ServerRuntime) : RunOf ok s s
  | step {s t : ServerRuntime} (action : Action) (clock : Clock) (run : RunOf ok s t)
      (h : t.clock.le clock) (hok : ok action { t with clock }) :
      RunOf ok s (action.next clock t)

end Sorotte.Server
