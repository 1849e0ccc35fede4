import Sorotte.Protocol.Payloads

/-! # The client's protocol outbox

  `ProtocolOutbox` of `sorotte-client-core/src/outbox.rs`: two parallel queues,
  the messages and how each of them is to be delivered, whose front may be
  leased to an asynchronous writer.

  A State message keeps its raw JSON extensions, because the outbox strips and
  merges them by key.  The typed decoders of those extensions are derived code;
  the two that the merge consults are the fields of `WireCodec`.  Lifecycle
  evidence that the source emits beside a mutation is not part of the model.
-/

namespace Sorotte.Client

/-! ### Messages -/

/-- A JSON value. -/
inductive Json where
  | null
  | bool (value : Bool)
  | number (value : ℚ)
  | string (value : String)
  | array (items : List Json)
  | object (fields : List (String × Json))

/-- `Map::insert` on the fields of a JSON object. -/
def insertField (fields : List (String × Json)) (key : String) (value : Json) :
    List (String × Json) :=
  if fields.any (·.1 == key) then
    fields.map fun field => if field.1 == key then (key, value) else field
  else fields ++ [(key, value)]

/-- Extension values a payload carries beside its typed fields. -/
abbrev Extra := BTreeMap String Json

def sorotteParticipantStatusV1 : String := "sorotteParticipantStatusV1"

def sorottePlaybackBarrierV1 : String := "sorottePlaybackBarrierV1"

def sorotteTransportRevision : String := "sorotteTransportRevision"

structure PlaystatePayload where
  position : Option F64
  paused : Option Bool
  doSeek : Option Bool
  setBy : Option String
  extra : Extra

structure PingPayload where
  latencyCalculation : Option F64
  clientLatencyCalculation : Option F64
  clientRtt : Option F64
  serverRtt : Option F64
  extra : Extra

structure IgnoringOnTheFlyPayload where
  server : Option Nat
  client : Option Nat
  extra : Extra

structure StatePayload where
  playstate : Option PlaystatePayload
  ping : Option PingPayload
  ignoringOnTheFly : Option IgnoringOnTheFlyPayload
  extra : Extra

/-- The observations of a playback-barrier State extension, re-encoded. -/
structure BarrierObservations where
  ready : Option Json
  started : Option Json
  transport : Option Json

/-- The derived decoders of the extensions that the outbox looks into; `none`
    is a decoding error. -/
structure WireCodec where
  playbackBarrierV1 : Json → Option BarrierObservations
  transportRevision : Json → Option Nat

namespace PlaystatePayload

/-- `transport_revision`; the outer `none` is a decoding error. -/
def transportRevision (codec : WireCodec) (playstate : PlaystatePayload) : Option (Option Nat) :=
  match playstate.extra[sorotteTransportRevision]? with
  | none => some none
  | some .null => some none
  | some value => (codec.transportRevision value).map some

end PlaystatePayload

namespace StatePayload

/-- `StatePayload::default()`. -/
def new : StatePayload :=
  { playstate := none, ping := none, ignoringOnTheFly := none, extra := ∅ }

/-- `state == StatePayload::default()`. -/
def isDefault (state : StatePayload) : Bool :=
  state.playstate.isNone && state.ping.isNone && state.ignoringOnTheFly.isNone
    && state.extra.isEmpty

/-- `playback_barrier_v1`; absence and a decoding error are alike here. -/
def playbackBarrierV1 (codec : WireCodec) (state : StatePayload) : Option BarrierObservations :=
  state.extra[sorottePlaybackBarrierV1]?.bind codec.playbackBarrierV1

/-- Whether the State carries a participant-status report. -/
def carriesParticipantStatus (state : StatePayload) : Bool :=
  state.extra.contains sorotteParticipantStatusV1

/-- The State without its participant-status report. -/
def withoutParticipantStatus (state : StatePayload) : StatePayload :=
  { state with extra := state.extra.erase sorotteParticipantStatusV1 }

end StatePayload

/-- A protocol message; the outbox looks into State messages only. -/
inductive ProtocolMessage where
  | hello (body : Json)
  | set (body : Json)
  | list (body : Json)
  | state (payload : StatePayload)
  | chat (body : Json)
  | error (body : Json)
  | tls (body : Json)

namespace ProtocolMessage

/-- `matches!(message, ProtocolMessage::State(_))`. -/
def isState : ProtocolMessage → Bool
  | .state _ => true
  | _ => false

def carriesParticipantStatus : ProtocolMessage → Bool
  | .state payload => payload.carriesParticipantStatus
  | _ => false

end ProtocolMessage

/-! ### Merging a pending State into the one that replaces it -/

/-- Keeps the entries of `latest` and adds those only `previous` has. -/
def mergeMissingEntries (previous latest : Extra) : Extra :=
  previous.foldl (fun latest key value => latest.insertIfNew key value) latest

/-- One observation, taken from the previous extension if the latest has none. -/
def mergeObservation (key : String) (previous latest : Option Json)
    (fields : List (String × Json)) : List (String × Json) :=
  match latest, previous with
  | none, some value => insertField fields key value
  | _, _ => fields

def mergePlaybackBarrierObservations (codec : WireCodec) (previous latest : StatePayload) :
    StatePayload :=
  match previous.playbackBarrierV1 codec, latest.playbackBarrierV1 codec,
      latest.extra[sorottePlaybackBarrierV1]? with
  | some previousExtension, some latestExtension, some (.object fields) =>
    let fields := mergeObservation "ready" previousExtension.ready latestExtension.ready fields
    let fields :=
      mergeObservation "started" previousExtension.started latestExtension.started fields
    let fields :=
      mergeObservation "transport" previousExtension.transport latestExtension.transport fields
    { latest with extra := latest.extra.insert sorottePlaybackBarrierV1 (.object fields) }
  | _, _, _ => latest

def mergePlaystate (codec : WireCodec) (previous latest : PlaystatePayload) : PlaystatePayload :=
  let revisionsMatch :=
    match latest.transportRevision codec, previous.transportRevision codec with
    | some latestRevision, some previousRevision => latestRevision == previousRevision
    | _, _ => false
  if revisionsMatch then
    { position := latest.position.or previous.position
      paused := latest.paused.or previous.paused
      doSeek :=
        if previous.doSeek = some true then some true else latest.doSeek.or previous.doSeek
      setBy := latest.setBy.or previous.setBy
      extra := mergeMissingEntries previous.extra latest.extra }
  else latest

def mergePing (previous latest : PingPayload) : PingPayload :=
  { latencyCalculation := latest.latencyCalculation.or previous.latencyCalculation
    clientLatencyCalculation :=
      latest.clientLatencyCalculation.or previous.clientLatencyCalculation
    clientRtt := latest.clientRtt.or previous.clientRtt
    serverRtt := latest.serverRtt.or previous.serverRtt
    extra := mergeMissingEntries previous.extra latest.extra }

def mergeIgnoring (previous latest : IgnoringOnTheFlyPayload) : IgnoringOnTheFlyPayload :=
  { server := latest.server.or previous.server
    client := latest.client.or previous.client
    extra := mergeMissingEntries previous.extra latest.extra }

/-- A part of the State that either side may lack. -/
def mergePart {α : Type} (merge : α → α → α) : Option α → Option α → Option α
  | some previous, some latest => some (merge previous latest)
  | some previous, none => some previous
  | none, latest => latest

def mergePendingStateObligations (codec : WireCodec) (previous latest : StatePayload) :
    StatePayload :=
  let latest :=
    { latest with
      playstate := mergePart (mergePlaystate codec) previous.playstate latest.playstate
      ping := mergePart mergePing previous.ping latest.ping
      ignoringOnTheFly := mergePart mergeIgnoring previous.ignoringOnTheFly latest.ignoringOnTheFly }
  let latest := mergePlaybackBarrierObservations codec previous latest
  { latest with extra := mergeMissingEntries previous.extra latest.extra }

/-! ### Delivery semantics -/

inductive ProtocolDelivery where
  | reliable
  | connectionScopedReliable (connectionGeneration : Nat) (room : String)
      (localMediaGeneration requestNonce : Nat) (cancelled : Bool)
  | connectionRoomScopedReadinessIntent (connectionGeneration : Nat) (room : String)
      (membershipEpoch : Nat) (cancelled : Bool)
  | connectionScopedCausalState
  | connectionScopedState (generation : Nat) (participantStatusCancelled : Bool)
  deriving DecidableEq

namespace ProtocolDelivery

def setParticipantStatusCancelled (cancelled : Bool) : ProtocolDelivery → ProtocolDelivery
  | .connectionScopedState generation _ => .connectionScopedState generation cancelled
  | delivery => delivery

def participantStatusIsCancelled : ProtocolDelivery → Bool
  | .connectionScopedState _ cancelled => cancelled
  | _ => false

def isReliable : ProtocolDelivery → Bool
  | .reliable => true
  | _ => false

def isConnectionScopedReliable : ProtocolDelivery → Bool
  | .connectionScopedReliable .. => true
  | _ => false

def isReadinessIntent : ProtocolDelivery → Bool
  | .connectionRoomScopedReadinessIntent .. => true
  | _ => false

def isConnectionScopedState : ProtocolDelivery → Bool
  | .connectionScopedState .. => true
  | _ => false

/-- Marks a scoped request for disposal. -/
def cancelRequest : ProtocolDelivery → ProtocolDelivery
  | .connectionScopedReliable generation room localMediaGeneration requestNonce _ =>
    .connectionScopedReliable generation room localMediaGeneration requestNonce true
  | delivery => delivery

/-- Marks a readiness intent for disposal. -/
def cancelIntent : ProtocolDelivery → ProtocolDelivery
  | .connectionRoomScopedReadinessIntent generation room membershipEpoch _ =>
    .connectionRoomScopedReadinessIntent generation room membershipEpoch true
  | delivery => delivery

/-- Whether a released front of this kind is disposed of. -/
def discardCancelled : ProtocolDelivery → Bool
  | .connectionScopedReliable _ _ _ _ cancelled => cancelled
  | .connectionRoomScopedReadinessIntent _ _ _ cancelled => cancelled
  | _ => false

/-- The requests that fall outside the scope `room`, `localMediaGeneration`. -/
def outsideScope (connectionGeneration : Nat) (room : String) (localMediaGeneration : Nat) :
    ProtocolDelivery → Bool
  | .connectionScopedReliable pendingConnectionGeneration pendingRoom pendingGeneration
      requestNonce _ =>
    pendingConnectionGeneration != connectionGeneration || pendingRoom != room
      || pendingGeneration != localMediaGeneration || requestNonce == 0
  | _ => false

end ProtocolDelivery

/-- Identity of one staged outbox front. -/
abbrev ProtocolLineLease := Nat

/-- `u64::wrapping_add(1)`. -/
def wrappingSucc (n : Nat) : Nat := (n + 1) % 2 ^ 64

/-- The lease number issued after `n`: zero is skipped. -/
def leaseAfter (n : Nat) : Nat := max (wrappingSucc n) 1

/-! ### The outbox -/

structure ProtocolOutbox where
  pending : List ProtocolMessage
  delivery : List ProtocolDelivery
  connectionGeneration : Nat
  activeGeneration : Option Nat
  nextLease : Nat
  leasedFront : Option ProtocolLineLease

namespace ProtocolOutbox

/-- `ProtocolOutbox::default()`. -/
def empty : ProtocolOutbox :=
  { pending := []
    delivery := []
    connectionGeneration := 0
    activeGeneration := none
    nextLease := 0
    leasedFront := none }

/-- Stages the front: the lease, the message, and whether the lease is new. -/
def frontForDeliveryWithStatus (outbox : ProtocolOutbox) :
    Option (ProtocolLineLease × ProtocolMessage × Bool) × ProtocolOutbox :=
  match outbox.pending.head? with
  | none => (none, outbox)
  | some message =>
    match outbox.leasedFront with
    | some lease => (some (lease, message, false), outbox)
    | none =>
      let next := leaseAfter outbox.nextLease
      (some (next, message, true), { outbox with nextLease := next, leasedFront := some next })

def insertReliable (outbox : ProtocolOutbox) (message : ProtocolMessage)
    (delivery : ProtocolDelivery) : ProtocolOutbox :=
  { outbox with
    pending := outbox.pending ++ [message]
    delivery := outbox.delivery ++ [delivery] }

/-- The loop of `retain_deliveries`, from the entry at `index` on. -/
def retainLoop (preserveFront : Bool) (keep : ProtocolDelivery → Bool) :
    Nat → List ProtocolMessage → List ProtocolDelivery →
      List ProtocolMessage × List ProtocolDelivery
  | index, message :: pending, delivery :: deliveries =>
    let rest := retainLoop preserveFront keep (index + 1) pending deliveries
    if (preserveFront && index == 0) || keep delivery then
      (message :: rest.1, delivery :: rest.2)
    else rest
  | _, _, _ => ([], [])

def retainDeliveries (outbox : ProtocolOutbox) (preserveLeasedFront : Bool)
    (keep : ProtocolDelivery → Bool) : ProtocolOutbox :=
  let retained := retainLoop (preserveLeasedFront && outbox.leasedFront.isSome) keep 0
    outbox.pending outbox.delivery
  { outbox with pending := retained.1, delivery := retained.2 }

/-- The shape of `invalidate_readiness_intents` and
    `invalidate_connection_scoped_reliable`: a leased front is only marked. -/
def invalidate (outbox : ProtocolOutbox) (mark : ProtocolDelivery → ProtocolDelivery)
    (shouldCancel : ProtocolDelivery → Bool) : ProtocolOutbox :=
  let marked :=
    if outbox.leasedFront.isSome && outbox.delivery.head?.any shouldCancel then
      { outbox with delivery := outbox.delivery.modifyHead mark }
    else outbox
  marked.retainDeliveries true fun delivery => !shouldCancel delivery

def invalidateReadinessIntents (outbox : ProtocolOutbox)
    (shouldCancel : ProtocolDelivery → Bool) : ProtocolOutbox :=
  outbox.invalidate ProtocolDelivery.cancelIntent shouldCancel

def invalidateConnectionScopedReliable (outbox : ProtocolOutbox)
    (shouldCancel : ProtocolDelivery → Bool) : ProtocolOutbox :=
  outbox.invalidate ProtocolDelivery.cancelRequest shouldCancel

def cancelReadinessIntents (outbox : ProtocolOutbox) : ProtocolOutbox :=
  outbox.invalidateReadinessIntents ProtocolDelivery.isReadinessIntent

def cancelConnectionScopedReliable (outbox : ProtocolOutbox) : ProtocolOutbox :=
  outbox.invalidateConnectionScopedReliable ProtocolDelivery.isConnectionScopedReliable

def retainConnectionScopedReliableScope (outbox : ProtocolOutbox) (room : String)
    (localMediaGeneration : Nat) : ProtocolOutbox :=
  outbox.invalidateConnectionScopedReliable
    (ProtocolDelivery.outsideScope outbox.connectionGeneration room localMediaGeneration)

def stripParticipantStatusAt (outbox : ProtocolOutbox) (index : Nat) : ProtocolOutbox :=
  match outbox.pending[index]? with
  | some (.state payload) =>
    let stripped := payload.withoutParticipantStatus
    if stripped.isDefault then
      { outbox with
        pending := outbox.pending.eraseIdx index
        delivery := outbox.delivery.eraseIdx index }
    else
      { outbox with
        pending := outbox.pending.set index (.state stripped)
        delivery := outbox.delivery.modify index
          (ProtocolDelivery.setParticipantStatusCancelled false) }
  | _ =>
    { outbox with
      delivery := outbox.delivery.modify index
        (ProtocolDelivery.setParticipantStatusCancelled false) }

/-- One turn of the loop of `cancel_pending_participant_status_reports`. -/
def cancelParticipantStatusAt (frontIsLeased : Bool) (outbox : ProtocolOutbox) (index : Nat) :
    ProtocolOutbox :=
  -- The transport already owns the serialized bytes of a leased front.
  if frontIsLeased && index == 0 then outbox
  else if outbox.delivery[index]?.any ProtocolDelivery.isConnectionScopedState then
    outbox.stripParticipantStatusAt index
  else outbox

def cancelPendingParticipantStatusReports (outbox : ProtocolOutbox) : ProtocolOutbox :=
  let frontIsLeased := outbox.leasedFront.isSome
  let marked :=
    if frontIsLeased then
      { outbox with
        delivery :=
          outbox.delivery.modifyHead (ProtocolDelivery.setParticipantStatusCancelled true) }
    else outbox
  (List.range outbox.pending.length).reverse.foldl (cancelParticipantStatusAt frontIsLeased) marked

/-- Whether the connection generation of the outbox is the active one. -/
def isActive (outbox : ProtocolOutbox) : Bool :=
  outbox.activeGeneration == some outbox.connectionGeneration

/-- The tail State that a newer State replaces. -/
def coalescible (outbox : ProtocolOutbox) : Bool :=
  match outbox.delivery.getLast? with
  | some (.connectionScopedState generation _) =>
    generation == outbox.connectionGeneration
      && !(outbox.delivery.length - 1 == 0 && outbox.leasedFront.isSome)
  | _ => false

def coalesceOrAppend (codec : WireCodec) (outbox : ProtocolOutbox) (message : ProtocolMessage) :
    ProtocolOutbox :=
  if outbox.coalescible then
    let index := outbox.delivery.length - 1
    let merged :=
      match outbox.pending[index]?, message with
      | some (.state previous), .state latest =>
        .state (mergePendingStateObligations codec previous latest)
      | _, _ => message
    { outbox with pending := outbox.pending.set index merged }
  else
    outbox.insertReliable message (.connectionScopedState outbox.connectionGeneration false)

def pushConnectionScopedState (codec : WireCodec) (outbox : ProtocolOutbox)
    (message : ProtocolMessage) : Bool × ProtocolOutbox :=
  if !outbox.isActive then (false, outbox)
  else
    let outbox :=
      if message.carriesParticipantStatus then outbox.cancelPendingParticipantStatusReports
      else outbox
    (true, outbox.coalesceOrAppend codec message)

def pushBack (codec : WireCodec) (outbox : ProtocolOutbox) (message : ProtocolMessage) :
    ProtocolOutbox :=
  if message.isState then (outbox.pushConnectionScopedState codec message).2
  else outbox.insertReliable message .reliable

def pushConnectionScopedReliable (outbox : ProtocolOutbox) (message : ProtocolMessage)
    (room : String) (localMediaGeneration requestNonce : Nat) : Bool × ProtocolOutbox :=
  if !outbox.isActive then (false, outbox)
  else
    (true, outbox.cancelConnectionScopedReliable.insertReliable message
      (.connectionScopedReliable outbox.connectionGeneration room localMediaGeneration
        requestNonce false))

def pushConnectionScopedCausalState (outbox : ProtocolOutbox) (message : ProtocolMessage) :
    Bool × ProtocolOutbox :=
  if !outbox.isActive || !message.isState then (false, outbox)
  else (true, outbox.insertReliable message .connectionScopedCausalState)

/-- The guard of `push_readiness_intent`. -/
def acceptsReadinessIntent (outbox : ProtocolOutbox) (room : String) (membershipEpoch : Nat) :
    Bool :=
  outbox.isActive && !(trimText room).isEmpty && membershipEpoch != 0

def pushReadinessIntent (outbox : ProtocolOutbox) (message : ProtocolMessage) (room : String)
    (membershipEpoch : Nat) : Bool × ProtocolOutbox :=
  if !outbox.acceptsReadinessIntent room membershipEpoch then (false, outbox)
  else
    (true, outbox.cancelReadinessIntents.insertReliable message
      (.connectionRoomScopedReadinessIntent outbox.connectionGeneration room membershipEpoch
        false))

def beginConnectionGeneration (outbox : ProtocolOutbox) : ProtocolOutbox :=
  { outbox with
    connectionGeneration := wrappingSucc outbox.connectionGeneration
    activeGeneration := none
    leasedFront := none }.retainDeliveries false ProtocolDelivery.isReliable

def activateConnectionGeneration (outbox : ProtocolOutbox) : ProtocolOutbox :=
  { outbox with activeGeneration := some outbox.connectionGeneration }

def acknowledgeFront (outbox : ProtocolOutbox) (lease : ProtocolLineLease) :
    Option ProtocolMessage × ProtocolOutbox :=
  if outbox.leasedFront ≠ some lease then (none, outbox)
  else
    match outbox.pending with
    | [] => (none, outbox)
    | message :: pending =>
      (some message,
        { outbox with pending, delivery := outbox.delivery.tail, leasedFront := none })

def releaseFront (outbox : ProtocolOutbox) (lease : ProtocolLineLease) : Bool × ProtocolOutbox :=
  if outbox.leasedFront ≠ some lease then (false, outbox)
  else
    let released := { outbox with leasedFront := none }
    if outbox.delivery.head?.any ProtocolDelivery.discardCancelled then
      (true, { released with
        pending := outbox.pending.tail, delivery := outbox.delivery.tail })
    else if outbox.delivery.head?.any ProtocolDelivery.participantStatusIsCancelled then
      (true, released.stripParticipantStatusAt 0)
    else (true, released)

end ProtocolOutbox

/-! ### Operations -/

inductive OutboxOp where
  | pushBack (message : ProtocolMessage)
  | pushConnectionScopedReliable (message : ProtocolMessage) (room : String)
      (localMediaGeneration requestNonce : Nat)
  | pushConnectionScopedCausalState (message : ProtocolMessage)
  | pushReadinessIntent (message : ProtocolMessage) (room : String) (membershipEpoch : Nat)
  | pushConnectionScopedState (message : ProtocolMessage)
  | cancelReadinessIntents
  | cancelConnectionScopedReliable
  | cancelPendingParticipantStatusReports
  | retainConnectionScopedReliableScope (room : String) (localMediaGeneration : Nat)
  | frontForDelivery
  | acknowledgeFront (lease : ProtocolLineLease)
  | releaseFront (lease : ProtocolLineLease)
  | beginConnectionGeneration
  | activateConnectionGeneration

/-- The outbox after one operation. -/
def outboxStep (codec : WireCodec) (outbox : ProtocolOutbox) : OutboxOp → ProtocolOutbox
  | .pushBack message => outbox.pushBack codec message
  | .pushConnectionScopedReliable message room localMediaGeneration requestNonce =>
    (outbox.pushConnectionScopedReliable message room localMediaGeneration requestNonce).2
  | .pushConnectionScopedCausalState message => (outbox.pushConnectionScopedCausalState message).2
  | .pushReadinessIntent message room membershipEpoch =>
    (outbox.pushReadinessIntent message room membershipEpoch).2
  | .pushConnectionScopedState message => (outbox.pushConnectionScopedState codec message).2
  | .cancelReadinessIntents => outbox.cancelReadinessIntents
  | .cancelConnectionScopedReliable => outbox.cancelConnectionScopedReliable
  | .cancelPendingParticipantStatusReports => outbox.cancelPendingParticipantStatusReports
  | .retainConnectionScopedReliableScope room localMediaGeneration =>
    outbox.retainConnectionScopedReliableScope room localMediaGeneration
  | .frontForDelivery => outbox.frontForDeliveryWithStatus.2
  | .acknowledgeFront lease => (outbox.acknowledgeFront lease).2
  | .releaseFront lease => (outbox.releaseFront lease).2
  | .beginConnectionGeneration => outbox.beginConnectionGeneration
  | .activateConnectionGeneration => outbox.activateConnectionGeneration

end Sorotte.Client
