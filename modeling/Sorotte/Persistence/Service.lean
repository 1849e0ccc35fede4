import Sorotte.Persistence.Store
import Sorotte.Framework.Runs

/-! # The room persistence service

  `RoomPersistenceService` of `persistence_actor.rs`: a map of desired effects
  behind a mutex, a wake flag, a bounded command queue and one worker thread.

  The service is modelled as a state with one step per atomic action of a
  thread: a critical section, an atomic access, a `try_send`, a `recv`, a commit.
  An enqueue call is three steps (arbitrate, swap the flag, send the wake-up), so
  callers and the worker interleave freely.  Event reporting and the shutdown
  path are left out; SQLite never fails here.
-/

namespace Sorotte.Persistence

open Sorotte.Framework

/-! ### Effects -/

inductive RoomEffect where
  | saveRoom (roomName : String) (state : PersistedRoomState)
  | deleteRoom (roomName : String) (version : Nat)
  deriving DecidableEq

inductive ServerPersistenceEffect where
  | room (effect : RoomEffect)
  | recordStatsSnapshot (snapshotTime : Int) (versions : List String)
  deriving DecidableEq

namespace RoomEffect

/-- The key of `room_effect_key_and_version`. -/
def roomName : RoomEffect → String
  | saveRoom roomName _ => roomName
  | deleteRoom roomName _ => roomName

/-- The version of `room_effect_key_and_version`. -/
def version : RoomEffect → Nat
  | saveRoom _ state => state.version
  | deleteRoom _ version => version

def isDelete : RoomEffect → Bool
  | saveRoom .. => false
  | deleteRoom .. => true

/-- What a load would read for a room whose last effect this is. -/
def storedState : RoomEffect → Option PersistedRoomState
  | saveRoom _ state => some { state with index := normalizedIndex state.files state.index }
  | deleteRoom .. => none

end RoomEffect

/-- The rows by room name: a row is replaced or deleted by a larger version only. -/
abbrev RoomRows := BTreeMap String PersistedRoomState

/-- A row of this version gives way to the effect. -/
def yields (rows : RoomRows) (effect : RoomEffect) : Bool :=
  rows[effect.roomName]?.all (·.version < effect.version)

def applyEffect (rows : RoomRows) (effect : RoomEffect) : RoomRows :=
  if yields rows effect then
    match effect.storedState with
    | some state => rows.insert effect.roomName state
    | none => rows.erase effect.roomName
  else rows

/-! ### Arbitration -/

structure RoomPersistenceDesiredState where
  highestSeenVersion : Nat := 0
  desiredEffect : Option RoomEffect := none
  unresolvedFailureVersion : Option Nat := none

abbrev RoomPersistenceArbitration := BTreeMap String RoomPersistenceDesiredState

inductive RoomEffectEnqueueDisposition where
  | accepted | ignoredStale | notRoomEffect
  deriving DecidableEq

namespace RoomPersistenceArbitration

def enqueue (states : RoomPersistenceArbitration) :
    ServerPersistenceEffect → RoomEffectEnqueueDisposition × RoomPersistenceArbitration
  | .recordStatsSnapshot .. => (.notRoomEffect, states)
  | .room effect =>
    let state := states.getD effect.roomName {}
    if effect.version ≤ state.highestSeenVersion then
      (.ignoredStale, states.insert effect.roomName state)
    else
      (.accepted, states.insert effect.roomName
        { highestSeenVersion := effect.version
          desiredEffect := some effect
          unresolvedFailureVersion := none })

def desiredEffects (states : RoomPersistenceArbitration) : List RoomEffect :=
  states.toList.filterMap fun entry => entry.2.desiredEffect

def isEffectCurrent (states : RoomPersistenceArbitration) (effect : RoomEffect) : Bool :=
  states[effect.roomName]?.any fun state =>
    state.highestSeenVersion == effect.version
      && state.desiredEffect.any (·.version == effect.version)

def isVersionCurrent (states : RoomPersistenceArbitration) (roomName : String) (version : Nat) :
    Bool :=
  states[roomName]?.any (·.highestSeenVersion == version)

def markApplied (states : RoomPersistenceArbitration) (effect : RoomEffect) :
    RoomPersistenceArbitration :=
  if !states.isVersionCurrent effect.roomName effect.version then states
  else if effect.isDelete then states.erase effect.roomName
  else
    states.modify effect.roomName fun state =>
      { state with desiredEffect := none, unresolvedFailureVersion := none }

def isSettled (states : RoomPersistenceArbitration) : Bool :=
  states.toList.all fun entry =>
    entry.2.desiredEffect.isNone && entry.2.unresolvedFailureVersion.isNone

end RoomPersistenceArbitration

/-! ### The service -/

/-- The commands that the room service sends to its worker. -/
inductive WorkerCommand where
  | wake | flush
  deriving DecidableEq

/-- Where the worker thread stands. -/
inductive WorkerState where
  /-- Waiting for a command. -/
  | idle
  /-- A command was taken from the queue. -/
  | received (command : WorkerCommand)
  /-- About to copy the desired effects. -/
  | scanning
  /-- At the head of the loop over the copied effects. -/
  | applying (effects : List RoomEffect)
  /-- Inside the transaction of a current effect. -/
  | writing (effect : RoomEffect) (rest : List RoomEffect)
  /-- The effect was still current; its transaction is about to commit. -/
  | committing (effect : RoomEffect) (rest : List RoomEffect)
  /-- Committed, and not yet marked as applied. -/
  | marking (effect : RoomEffect) (rest : List RoomEffect)
  deriving DecidableEq

def persistenceCommandQueueCapacity : Nat := 256

structure RoomPersistenceService where
  queueCapacity : Nat
  desiredEffects : RoomPersistenceArbitration
  wakePending : Bool
  commands : List WorkerCommand
  /-- The deadline of `WorkerControl`, and the clock it is compared with. -/
  deadline : Option Nat
  now : Nat
  worker : WorkerState
  rows : RoomRows
  /-- Enqueue calls that have updated the map and not yet swapped the flag. -/
  arbitrated : Nat
  /-- Enqueue calls that have set the flag and not yet sent the wake-up. -/
  sending : Nat

namespace RoomPersistenceService

/-- A started service on a database with these rows. -/
def start (queueCapacity : Nat) (rows : RoomRows) : RoomPersistenceService :=
  { queueCapacity
    desiredEffects := ∅
    wakePending := false
    commands := []
    deadline := none
    now := 0
    worker := .idle
    rows
    arbitrated := 0
    sending := 0 }

/-- `WorkerControl::expired`. -/
def expired (service : RoomPersistenceService) : Bool :=
  service.deadline.any (· ≤ service.now)

/-- `try_send`: a full queue refuses the command. -/
def trySend (service : RoomPersistenceService) (command : WorkerCommand) :
    RoomPersistenceService :=
  if service.commands.length < service.queueCapacity then
    { service with commands := service.commands ++ [command] }
  else service

/-- The arbitration of `enqueue`. -/
def arbitrate (service : RoomPersistenceService) (effect : ServerPersistenceEffect) :
    RoomPersistenceService :=
  match service.desiredEffects.enqueue effect with
  | (.accepted, desiredEffects) =>
    { service with desiredEffects, arbitrated := service.arbitrated + 1 }
  | (_, desiredEffects) => { service with desiredEffects }

/-- `wake_pending.swap(true)` of `wake`. -/
def swapWake (service : RoomPersistenceService) : RoomPersistenceService :=
  if service.arbitrated = 0 then service
  else if service.wakePending then { service with arbitrated := service.arbitrated - 1 }
  else
    { service with
      arbitrated := service.arbitrated - 1
      wakePending := true
      sending := service.sending + 1 }

/-- `try_send(Wake)` of `wake`: a full queue counts as success. -/
def sendWake (service : RoomPersistenceService) : RoomPersistenceService :=
  if service.sending = 0 then service
  else { service with sending := service.sending - 1 }.trySend .wake

/-- The next atomic action of `run_room_worker`. -/
def workerStep (service : RoomPersistenceService) : RoomPersistenceService :=
  match service.worker with
  | .idle =>
    match service.commands with
    | [] => service
    | command :: commands => { service with commands, worker := .received command }
  | .received .wake => { service with wakePending := false, worker := .scanning }
  | .received .flush => { service with worker := .scanning }
  | .scanning =>
    if service.expired then { service with worker := .idle }
    else { service with worker := .applying service.desiredEffects.desiredEffects }
  | .applying [] => { service with worker := .idle }
  | .applying (effect :: rest) =>
    if service.expired then { service with worker := .idle }
    else if service.desiredEffects.isEffectCurrent effect then
      { service with worker := .writing effect rest }
    else { service with worker := .applying rest }
  | .writing effect rest =>
    if service.desiredEffects.isVersionCurrent effect.roomName effect.version then
      { service with worker := .committing effect rest }
    else { service with worker := .applying rest }
  | .committing effect rest =>
    { service with rows := applyEffect service.rows effect, worker := .marking effect rest }
  | .marking effect rest =>
    { service with
      desiredEffects := service.desiredEffects.markApplied effect
      worker := .applying rest }

end RoomPersistenceService

/-- One atomic action of a thread. -/
inductive ServiceAction where
  /-- A caller of `enqueue` updates the desired effects. -/
  | arbitrate (effect : ServerPersistenceEffect)
  /-- A caller of `enqueue` swaps the wake flag. -/
  | swapWake
  /-- A caller of `enqueue` sends the wake-up. -/
  | sendWake
  /-- A flush sets or clears its deadline. -/
  | setDeadline (deadline : Option Nat)
  /-- A flush tries to send its command. -/
  | sendFlush
  /-- Time passes. -/
  | tick
  /-- The worker takes its next action. -/
  | worker

def serviceStep (service : RoomPersistenceService) : ServiceAction → RoomPersistenceService
  | .arbitrate effect => service.arbitrate effect
  | .swapWake => service.swapWake
  | .sendWake => service.sendWake
  | .setDeadline deadline => { service with deadline }
  | .sendFlush => service.trySend .flush
  | .tick => { service with now := service.now + 1 }
  | .worker => service.workerStep

end Sorotte.Persistence
