import Sorotte.Protocol.Payloads

/-! # Participant status views

  A row of the server's status snapshot, and the client's projection of it: what
  is dropped when the row comes in, when its scope is superseded, and as it ages.
  Every step only drops evidence.
-/

namespace Sorotte.Status

/-! ### Rows of a snapshot -/

inductive ParticipantPlayerConnection where
  | unavailable | starting | connected | disconnected | failed
  deriving DecidableEq, Repr

inductive ParticipantPlaybackPhase where
  | empty | loading | prebuffering | readyPaused | playing | rebuffering | seeking | ended
  | failed | unknown
  deriving DecidableEq, Repr

inductive ParticipantTimelineKind where
  | vod | live | unknown
  deriving DecidableEq, Repr

inductive ParticipantStatusAvailability where
  | fresh | delayed | stale | awaitingReport | unsupported | unavailable
  deriving DecidableEq, Repr

/-- The row is an observation of a player, not a statement about capabilities. -/
def ParticipantStatusAvailability.observed : ParticipantStatusAvailability → Bool
  | fresh | delayed | stale => true
  | awaitingReport | unsupported | unavailable => false

inductive ParticipantStatusCorrelation where
  | exact | uncorrelated | superseded
  deriving DecidableEq, Repr

inductive ParticipantStatusSnapshotMode where
  | full | compact | unavailable
  deriving DecidableEq, Repr

structure ParticipantPlaybackScope where
  mediaGeneration : Nat
  stateRevision : Option Nat
  transportRevision : Option Nat
  deriving DecidableEq, Repr

namespace ParticipantPlaybackScope

/-- A value that the schema allows and no authority has. -/
def malformed (scope : ParticipantPlaybackScope) : Bool :=
  scope.mediaGeneration == 0 || scope.stateRevision == some 0 || scope.transportRevision == some 0

/-- `candidate.state_revision < current.state_revision`, on options. -/
def revisionBefore : Option Nat → Option Nat → Bool
  | none, some _ => true
  | some candidate, some current => decide (candidate < current)
  | _, none => false

/-- The comparison once the transport revisions agree. -/
def mediaOlder (candidate current : ParticipantPlaybackScope) : Bool :=
  if candidate.mediaGeneration < current.mediaGeneration then true
  else if current.mediaGeneration < candidate.mediaGeneration then false
  else revisionBefore candidate.stateRevision current.stateRevision

/-- `participant_status_scope_is_older`. -/
def isOlder (candidate current : ParticipantPlaybackScope) : Bool :=
  match candidate.transportRevision, current.transportRevision with
  | some candidateRevision, some currentRevision =>
      if candidateRevision < currentRevision then true
      else if currentRevision < candidateRevision then false
      else candidate.mediaOlder current
  | none, some _ => true
  | some _, none => false
  | none, none => candidate.mediaOlder current

end ParticipantPlaybackScope

structure ParticipantStatusView where
  availability : ParticipantStatusAvailability
  correlation : Option ParticipantStatusCorrelation := none
  playbackScope : Option ParticipantPlaybackScope := none
  playerConnection : Option ParticipantPlayerConnection := none
  phase : Option ParticipantPlaybackPhase := none
  timelineKind : Option ParticipantTimelineKind := none
  positionSeconds : Option F64 := none
  logicalPaused : Option Bool := none
  playbackRate : Option F64 := none
  pausedForCache : Option Bool := none
  cachePercent : Option F64 := none
  bufferedAheadSeconds : Option F64 := none
  sampleAgeMs : Option Nat := none
  positionSampleAgeMs : Option Nat := none
  reportAgeMs : Option Nat := none
  roomOffsetSeconds : Option F64 := none
  deriving DecidableEq, Repr

structure ParticipantStatusSnapshot where
  revision : Nat
  mode : ParticipantStatusSnapshotMode
  participants : BTreeMap String ParticipantStatusView

namespace ParticipantStatusView

def positionEligible (v : ParticipantStatusView) : Bool :=
  v.playerConnection == some .connected
    && (v.phase == some .readyPaused || v.phase == some .playing || v.phase == some .rebuffering
      || v.phase == some .ended)

def bufferEligible (v : ParticipantStatusView) : Bool :=
  v.playerConnection == some .connected
    && (v.phase == some .prebuffering || v.phase == some .readyPaused || v.phase == some .playing
      || v.phase == some .rebuffering)

/-- No field derived from a playback epoch. -/
def withoutEpoch (v : ParticipantStatusView) : ParticipantStatusView :=
  { v with
    playbackScope := none
    timelineKind := none
    positionSeconds := none
    logicalPaused := none
    playbackRate := none
    pausedForCache := none
    cachePercent := none
    bufferedAheadSeconds := none
    sampleAgeMs := none
    positionSampleAgeMs := none
    roomOffsetSeconds := none }

def redactOffset (v : ParticipantStatusView) : ParticipantStatusView :=
  if v.correlation = some .exact ∧ v.timelineKind = some .vod then v
  else { v with roomOffsetSeconds := none }

def redactPosition (v : ParticipantStatusView) : ParticipantStatusView :=
  if v.positionEligible then v
  else
    { v with
      timelineKind := none
      positionSeconds := none
      logicalPaused := none
      playbackRate := none
      positionSampleAgeMs := none
      roomOffsetSeconds := none }

def redactBuffer (v : ParticipantStatusView) : ParticipantStatusView :=
  if v.bufferEligible then v
  else
    { v with
      pausedForCache := none
      cachePercent := none
      bufferedAheadSeconds := none }

def redactIneligibleMediaEvidence (v : ParticipantStatusView) : ParticipantStatusView :=
  if v.correlation = some .superseded then v.withoutEpoch
  else
    let redacted := v.redactOffset.redactPosition.redactBuffer
    if v.positionEligible || v.bufferEligible then redacted
    else { redacted with sampleAgeMs := none }

end ParticipantStatusView

/-! ### The client's projection -/

inductive ClientParticipantStatusFreshness where
  | unknown | fresh | delayed | stale
  deriving DecidableEq, Repr

namespace ClientParticipantStatusFreshness

/-- The rank of the derived order. -/
def rank : ClientParticipantStatusFreshness → Nat
  | unknown => 0
  | fresh => 1
  | delayed => 2
  | stale => 3

def max (first second : ClientParticipantStatusFreshness) : ClientParticipantStatusFreshness :=
  if first.rank ≤ second.rank then second else first

/-- `PARTICIPANT_STATUS_FRESH_SECONDS` and `PARTICIPANT_STATUS_DELAYED_SECONDS`. -/
def freshSeconds : Seconds := 3

def delayedSeconds : Seconds := 10

def fromReportAgeSeconds (reportAgeSeconds : Option Seconds) : ClientParticipantStatusFreshness :=
  match reportAgeSeconds.filter fun age => 0 ≤ age with
  | none => .unknown
  | some age =>
      if age ≤ freshSeconds then .fresh
      else if age ≤ delayedSeconds then .delayed
      else .stale

end ClientParticipantStatusFreshness

structure ClientParticipantStatusView where
  status : ParticipantStatusView
  reportAgeSeconds : Option Seconds
  freshness : ClientParticipantStatusFreshness
  deriving DecidableEq

namespace ClientParticipantStatusView

/-- A `u64` count of milliseconds in seconds. -/
def secondsOf (ageMs : Nat) : Seconds := ageMs / 1000

/-- `saturating_add`. -/
def saturatingAdd (first second : Nat) : Nat := min (first + second) u64Max

def clearNonPositionMediaEvidence (status : ParticipantStatusView) : ParticipantStatusView :=
  { status with
    logicalPaused := none
    playbackRate := none
    pausedForCache := none
    cachePercent := none
    bufferedAheadSeconds := none
    sampleAgeMs := none
    roomOffsetSeconds := none }

def clearPositionEvidence (status : ParticipantStatusView) : ParticipantStatusView :=
  { status with
    timelineKind := none
    positionSeconds := none
    positionSampleAgeMs := none
    roomOffsetSeconds := none }

def clearMediaEvidence (status : ParticipantStatusView) : ParticipantStatusView :=
  clearPositionEvidence (clearNonPositionMediaEvidence status)

def redactPreciseScopeEvidence (v : ClientParticipantStatusView) : ClientParticipantStatusView :=
  { v with
    status := clearMediaEvidence
      { v.status with
        correlation :=
          if v.status.correlation = some .exact then some .superseded else v.status.correlation
        playbackScope := none } }

def retainCompactSnapshotFields (v : ClientParticipantStatusView) : ClientParticipantStatusView :=
  { v with status := clearMediaEvidence { v.status with playbackScope := none } }

/-- The availability that goes with a freshness. -/
def availabilityOf (freshness : ClientParticipantStatusFreshness)
    (availability : ParticipantStatusAvailability) : ParticipantStatusAvailability :=
  match freshness with
  | .fresh => .fresh
  | .delayed => .delayed
  | .stale => .stale
  | .unknown => availability

def synchronizeAgeDerivedAvailability (v : ClientParticipantStatusView) :
    ClientParticipantStatusView :=
  if v.status.availability.observed then
    let status := { v.status with availability := availabilityOf v.freshness v.status.availability }
    let status :=
      if v.freshness = .fresh then status else { status with roomOffsetSeconds := none }
    { v with
      status :=
        if v.freshness = .stale then { status.withoutEpoch with phase := none } else status }
  else v

def within (ageMs : Option Nat) (limit : Seconds) : Bool :=
  ageMs.any fun age => decide (secondsOf age ≤ limit)

def synchronizeEvidenceAge (v : ClientParticipantStatusView) (elapsedSeconds : Seconds) :
    ClientParticipantStatusView :=
  let elapsedMillis := min ⌈elapsedSeconds * 1000⌉₊ u64Max
  let sampleAgeMs := v.status.sampleAgeMs.map fun age => saturatingAdd age elapsedMillis
  let positionSampleAgeMs :=
    v.status.positionSampleAgeMs.map fun age => saturatingAdd age elapsedMillis
  let status :=
    { v.status with sampleAgeMs := sampleAgeMs, positionSampleAgeMs := positionSampleAgeMs }
  let fresh := within sampleAgeMs ClientParticipantStatusFreshness.freshSeconds
    && within positionSampleAgeMs ClientParticipantStatusFreshness.freshSeconds
  let status := if fresh then status else { status with roomOffsetSeconds := none }
  let status :=
    if within sampleAgeMs ClientParticipantStatusFreshness.delayedSeconds then status
    else clearNonPositionMediaEvidence status
  let status :=
    if within positionSampleAgeMs ClientParticipantStatusFreshness.delayedSeconds then
      if within positionSampleAgeMs ClientParticipantStatusFreshness.freshSeconds then status
      else { status with roomOffsetSeconds := none }
    else clearPositionEvidence status
  { v with status := status }

def failClosedStale (v : ClientParticipantStatusView) : ClientParticipantStatusView :=
  if v.status.availability.observed then
    { v with freshness := .stale }.synchronizeAgeDerivedAvailability
  else v

def agedBy (v : ClientParticipantStatusView) (elapsedSeconds : F64) :
    ClientParticipantStatusView :=
  match elapsedSeconds with
  | .nonFinite => v.failClosedStale
  | .finite elapsed =>
      if elapsed < 0 then v.failClosedStale
      else
        let v := { v with reportAgeSeconds := v.reportAgeSeconds.map (· + elapsed) }
        let v :=
          if v.status.availability.observed then
            { v with freshness := v.freshness.max (.fromReportAgeSeconds v.reportAgeSeconds)
              }.synchronizeAgeDerivedAvailability
          else v
        v.synchronizeEvidenceAge elapsed

/-- The freshness a row comes in with. -/
def wireFreshness (availability : ParticipantStatusAvailability)
    (reportAgeSeconds : Option Seconds) : ClientParticipantStatusFreshness :=
  let ageFreshness :=
    match reportAgeSeconds with
    | none => .stale
    | some age => .fromReportAgeSeconds (some age)
  match availability with
  | .fresh => ageFreshness
  | .delayed => ClientParticipantStatusFreshness.delayed.max ageFreshness
  | .stale => .stale
  | .awaitingReport | .unsupported | .unavailable => .unknown

def fromWire (value : ParticipantStatusView) : ClientParticipantStatusView :=
  let value := if value.availability.observed then value else { availability := value.availability }
  let value := value.redactIneligibleMediaEvidence
  let reportAgeSeconds := value.reportAgeMs.map secondsOf
  let view : ClientParticipantStatusView :=
    ⟨value, reportAgeSeconds, wireFreshness value.availability reportAgeSeconds⟩
  let view :=
    if view.status.playbackScope.any (·.malformed) then view.redactPreciseScopeEvidence else view
  view.synchronizeAgeDerivedAvailability.synchronizeEvidenceAge 0

end ClientParticipantStatusView

end Sorotte.Status
