import Sorotte.Framework.FloatBits
import Sorotte.Framework.Maps
import Sorotte.Framework.Runs

/-! # Ping challenges

  The server puts a timestamp on every state message to a client and measures
  the round trip by the echo of that timestamp.  An echo is the identity of a
  challenge, never an elapsed time of the client's.

  Timestamps are binary64 patterns.  Readings of the elapsed clock and times are
  exact rationals.
-/

namespace Sorotte.Ping

open Sorotte.Framework

/-- `PROTOCOL_TIMEOUT_SECONDS`. -/
def protocolTimeoutSeconds : Seconds := 90

/-- `PING_MOVING_AVERAGE_WEIGHT`. -/
def pingMovingAverageWeight : Seconds := 85 / 100

/-- `1.0e15`. -/
def latestWireTimestamp : Binary64 := .ofBits 0x430C6BF526340000

/-- `(0.0..=PROTOCOL_TIMEOUT_SECONDS).contains(..)`. -/
def withinTimeout (elapsedSeconds : Seconds) : Bool :=
  0 ≤ elapsedSeconds && elapsedSeconds ≤ protocolTimeoutSeconds

/-- What the server has measured of a client. -/
structure PingMetrics where
  pingRttSeconds : Seconds := 0
  pingAverageRttSeconds : Seconds := 0
  pingForwardDelaySeconds : Seconds := 0
  pingMetricsObservedAtSeconds : Option Seconds := none
  pingMetricsWallObservedAtSeconds : Option Seconds := none
  deriving DecidableEq, Repr

/-- The part of `ClientStateCounters` that is about pings.  A challenge is its
    timestamp with the elapsed time at which it was sent. -/
structure ClientStateCounters where
  metrics : PingMetrics := {}
  outstandingPingChallenges : List (Binary64 × Seconds) := []
  deriving DecidableEq, Repr

/-- The part of `ServerRuntime` that is about pings. -/
structure PingRuntime where
  clientStateCounters : BTreeMap String ClientStateCounters := ∅
  lastPingChallengeTimestamp : Option Binary64 := none

/-! ### Challenges -/

/-- The timestamp that `record_ping_challenge` puts on the wire. -/
def challengeTimestamp (previous : Option Binary64) (wireTimestamp : Binary64) : Binary64 :=
  let wireTimestamp :=
    if wireTimestamp.isFinite && Binary64.zero.lt wireTimestamp then
      wireTimestamp.least latestWireTimestamp
    else .zero
  match previous with
  | some previous => if wireTimestamp.le previous then previous.nextUp else wireTimestamp
  | none => wireTimestamp

/-- A client's queue with one more challenge. -/
def ClientStateCounters.challenged (counters : ClientStateCounters) (wireTimestamp : Binary64)
    (sentAt : Seconds) : ClientStateCounters :=
  let challenges := counters.outstandingPingChallenges.filter fun challenge =>
    withinTimeout (sentAt - challenge.2) && challenge.1 != wireTimestamp
  let challenges := challenges.drop (challenges.length - 63)
  { counters with outstandingPingChallenges := challenges ++ [(wireTimestamp, sentAt)] }

/-- `record_ping_challenge`, with a reading of the elapsed clock. -/
def PingRuntime.recordPingChallenge (s : PingRuntime) (clientId : String)
    (wireTimestamp : Binary64) (sentAt : Seconds) : Binary64 × PingRuntime :=
  let wireTimestamp := challengeTimestamp s.lastPingChallengeTimestamp wireTimestamp
  let counters := s.clientStateCounters[clientId]?.getD {}
  (wireTimestamp,
    { s with
      lastPingChallengeTimestamp := some wireTimestamp
      clientStateCounters :=
        s.clientStateCounters.insert clientId (counters.challenged wireTimestamp sentAt) })

/-! ### Echoes -/

/-- The challenges of a client that are still answered. -/
def ClientStateCounters.unexpired (counters : ClientStateCounters) (elapsedNow : Seconds) :
    List (Binary64 × Seconds) :=
  counters.outstandingPingChallenges.filter fun challenge =>
    withinTimeout (elapsedNow - challenge.2)

/-- The estimates after a round trip. -/
def PingMetrics.measured (metrics : PingMetrics) (currentRttSeconds senderRtt wallNow
    elapsedNow : Seconds) : PingMetrics :=
  let average :=
    if metrics.pingAverageRttSeconds = 0 then currentRttSeconds
    else metrics.pingAverageRttSeconds
  let average :=
    average * pingMovingAverageWeight + currentRttSeconds * (1 - pingMovingAverageWeight)
  let forwardDelay := average / 2 + max (currentRttSeconds - senderRtt) 0
  { pingRttSeconds := currentRttSeconds
    pingAverageRttSeconds := average
    pingForwardDelaySeconds := max 0 (min forwardDelay protocolTimeoutSeconds)
    pingMetricsObservedAtSeconds := some elapsedNow
    pingMetricsWallObservedAtSeconds := some wallNow }

/-- A client's counters after an echo that passed the checks on its values. -/
def ClientStateCounters.echoed (counters : ClientStateCounters) (latencyCalculation : Binary64)
    (senderRtt wallNow elapsedNow : Seconds) : ClientStateCounters :=
  let challenges := counters.unexpired elapsedNow
  match challenges.find? fun challenge => challenge.1 == latencyCalculation with
  | none => { counters with outstandingPingChallenges := challenges }
  | some (_, sentAt) =>
    let counters :=
      { counters with
        outstandingPingChallenges :=
          challenges.eraseP fun challenge => challenge.1 == latencyCalculation }
    let currentRttSeconds := elapsedNow - sentAt
    if !withinTimeout currentRttSeconds then counters
    else
      { counters with
        metrics := counters.metrics.measured currentRttSeconds senderRtt wallNow elapsedNow }

/-- The sender's own round trip, when it and the echo are finite and not
    negative and it is within the timeout. -/
def validEcho (latencyCalculation : Binary64) (clientRtt : Option F64) : Option Seconds :=
  match clientRtt.getD (.finite 0) with
  | .nonFinite => none
  | .finite senderRtt =>
    if latencyCalculation.isFinite && Binary64.zero.le latencyCalculation
        && withinTimeout senderRtt then
      some senderRtt
    else none

/-- `ingest_client_ping_metrics`, with readings of both clocks. -/
def PingRuntime.ingestClientPingMetrics (s : PingRuntime) (clientId : String)
    (latencyCalculation : Option Binary64) (clientRtt : Option F64)
    (wallNow elapsedNow : Seconds) : PingRuntime :=
  match latencyCalculation with
  | none => s
  | some latencyCalculation =>
    match validEcho latencyCalculation clientRtt with
    | none => s
    | some senderRtt =>
      { s with
        clientStateCounters := s.clientStateCounters.modify clientId fun counters =>
          counters.echoed latencyCalculation senderRtt wallNow elapsedNow }

/-! ### Estimates -/

/-- `server_rtt_seconds`. -/
def PingRuntime.serverRttSeconds (s : PingRuntime) (clientId : String) : Seconds :=
  (s.clientStateCounters[clientId]?.getD {}).metrics.pingRttSeconds

/-- `participant_status_forward_delay_ms_at`: the estimate is forgotten when it
    is no longer used. -/
def PingRuntime.participantStatusForwardDelayMsAt (s : PingRuntime) (clientId : String)
    (nowSeconds elapsed : Seconds) : Option Nat × PingRuntime :=
  match s.clientStateCounters[clientId]? with
  | none => (none, s)
  | some counters =>
    match counters.metrics.pingMetricsObservedAtSeconds with
    | none => (none, s)
    | some observedAtSeconds =>
      let rolledBack :=
        counters.metrics.pingMetricsWallObservedAtSeconds.any fun observed => nowSeconds < observed
      if !withinTimeout (elapsed - observedAtSeconds) || rolledBack
          || !withinTimeout counters.metrics.pingForwardDelaySeconds then
        (none,
          { s with
            clientStateCounters := s.clientStateCounters.modify clientId fun counters =>
              { counters with
                metrics := { counters.metrics with pingMetricsObservedAtSeconds := none } } })
      else (some ⌈counters.metrics.pingForwardDelaySeconds * 1000⌉.toNat, s)

/-- What `remove_session_tracking` does to the counters of a client. -/
def PingRuntime.removeSessionTracking (s : PingRuntime) (clientId : String) : PingRuntime :=
  { s with clientStateCounters := s.clientStateCounters.erase clientId }

/-! ### Runs -/

/-- What happens to the challenges of a server, in any order and with any
    readings of the clocks. -/
inductive Event where
  | challenge (clientId : String) (wireTimestamp : Binary64) (sentAt : Seconds)
  | echo (clientId : String) (latencyCalculation : Option Binary64) (clientRtt : Option F64)
      (wallNow elapsedNow : Seconds)
  | estimate (clientId : String) (nowSeconds elapsed : Seconds)
  | leave (clientId : String)
  deriving DecidableEq

def PingRuntime.step (s : PingRuntime) : Event → PingRuntime
  | .challenge clientId wireTimestamp sentAt =>
    (s.recordPingChallenge clientId wireTimestamp sentAt).2
  | .echo clientId latencyCalculation clientRtt wallNow elapsedNow =>
    s.ingestClientPingMetrics clientId latencyCalculation clientRtt wallNow elapsedNow
  | .estimate clientId nowSeconds elapsed =>
    (s.participantStatusForwardDelayMsAt clientId nowSeconds elapsed).2
  | .leave clientId => s.removeSessionTracking clientId

/-- The state that a new server reaches by some events. -/
def after (events : List Event) : PingRuntime := runFrom PingRuntime.step {} events

end Sorotte.Ping
