import Sorotte.Server.RoomBuffering

/-! # The playback barrier

  The coordinated start of a room: prepare, readiness and Started
  acknowledgements, commit, the two timeouts, supersession, recovery by a newer
  connection, and the configuration of the buffering policy that accompanies a
  start.  All of `runtime_playback_barrier.rs` except the policy's own state
  machine.
-/

namespace Sorotte.Server

open Sorotte.Framework

def playbackBarrierDefaultTimeoutSeconds : Seconds := 20

def playbackBarrierMinTimeoutSeconds : Seconds := 1

def playbackBarrierMaxTimeoutSeconds : Seconds := 30

def playbackBarrierStartedTimeoutSeconds : Seconds := 10

/-- Applies `f` to the status of every participant. -/
def RoomPlaybackBarrier.mapStatus (barrier : RoomPlaybackBarrier)
    (f : PlaybackBarrierParticipantStatus → PlaybackBarrierParticipantStatus) :
    RoomPlaybackBarrier :=
  { barrier with
    participants := barrier.participants.map fun _ participant =>
      { participant with status := f participant.status } }

/-- Applies `f` to the status of one participant, if it is one. -/
def RoomPlaybackBarrier.mapParticipant (barrier : RoomPlaybackBarrier) (clientId : String)
    (f : PlaybackBarrierParticipantStatus → PlaybackBarrierParticipantStatus) :
    RoomPlaybackBarrier :=
  { barrier with
    participants := barrier.participants.modify clientId fun participant =>
      { participant with status := f participant.status } }

/-! ### Policy -/

namespace ServerRuntime

/-- The room has a readiness coordinator that governs coordinated starts. -/
def readinessGoverned (s : ServerRuntime) (roomName : String) : Bool :=
  s.readinessEnabled && s.roomReadiness.contains roomName

/-- A barrier participant counts as ready: it reported MediaReady and, in a
    governed room, its member is start-eligible. -/
def participantIsReady (s : ServerRuntime) (roomName clientId : String)
    (participant : RoomPlaybackBarrierParticipant) : Bool :=
  participant.status.phase == .ready
    && (!s.readinessGoverned roomName || s.sessions[clientId]?.any fun session =>
      session.room == roomName && session.capabilities.playbackBarrierV1
        && session.capabilities.readinessV2
        && s.readinessParticipantIsStartEligible roomName session.username == some true)

def playbackBarrierPolicySatisfied (s : ServerRuntime) (roomName : String) : Bool :=
  match s.roomPlaybackBarriers[roomName]? with
  | none => false
  | some barrier =>
      s.readinessRequiredCohortStartEligible roomName &&
      match barrier.prepare.policy with
      | .allEligible => barrier.participants.toList.all fun entry =>
          entry.2.status.phase == .degraded || s.participantIsReady roomName entry.1 entry.2
      | .controller => barrier.participants[barrier.initiatorClientId]?.any fun participant =>
          s.participantIsReady roomName barrier.initiatorClientId participant
      | .quorum =>
          let readyCount := (barrier.participants.toList.filter fun entry =>
            s.participantIsReady roomName entry.1 entry.2).length
          barrier.prepare.quorum.getD u32Max ≤ readyCount

/-! ### Commit -/

/-- What a commit does to a participant that was not ready in time. -/
def settledAtCommit (timedOut : Bool) (status : PlaybackBarrierParticipantStatus) :
    PlaybackBarrierParticipantStatus :=
  if status.phase = .ready then status
  else if status.phase = .degraded ∧ status.degradedReason = some .disconnected then status
  else
    { status with
      phase := if timedOut then .prepareTimedOut else .degraded
      degradedReason := some (if timedOut then .prepareTimeout else .notReadyAtCommit) }

/-- A governed room commits only with a satisfied policy and an owned pause. -/
def commitBlocked (s : ServerRuntime) (roomName : String) (barrier : RoomPlaybackBarrier) :
    Bool :=
  s.readinessGoverned roomName
    && (!s.playbackBarrierPolicySatisfied roomName
      || !s.readinessGateOwnsPause roomName barrier.prepare.mediaGeneration)

def commitPayload (s : ServerRuntime) (roomName : String) (barrier : RoomPlaybackBarrier)
    (now : Seconds) : CommitStartPayload :=
  { mediaGeneration := barrier.prepare.mediaGeneration
    stateRevision := s.nextPlaybackBarrierRevision + 1
    readinessRevision := s.readinessRevisionForCommit roomName
    anchorPosition := barrier.prepare.targetPosition
    anchorServerTime := now
    startedDeadline := now + playbackBarrierStartedTimeoutSeconds }

def committedBarrier (s : ServerRuntime) (roomName : String) (barrier : RoomPlaybackBarrier)
    (timedOut : Bool) (now : Seconds) : RoomPlaybackBarrier :=
  { barrier.mapStatus (settledAtCommit timedOut) with
    phase := .committed
    stateRevision := some (s.nextPlaybackBarrierRevision + 1)
    readinessRevision := s.readinessRevisionForCommit roomName
    startedDeadline := some (s.localTimeSeconds + playbackBarrierStartedTimeoutSeconds)
    commit := some (s.commitPayload roomName barrier now) }

/-- The runtime after the barrier of `roomName` commits: the room plays from
    the barrier's target and the gate gives up its pause. -/
def commitStart (s : ServerRuntime) (roomName : String) (barrier : RoomPlaybackBarrier)
    (timedOut : Bool) (now : Seconds) : ServerRuntime :=
  let payload := s.commitPayload roomName barrier now
  let snapshot : CommitSnapshot :=
    { timedOut, barrier, coordinator := s.roomReadiness[roomName]?, sessions := s.sessions
      fencedClients := s.playbackBarrierFencedClients
      mixedReadinessPolicy := s.mixedReadinessPolicy, payload }
  let committed := { s with
    roomPlaybackBarriers := s.roomPlaybackBarriers.insert roomName
      (s.committedBarrier roomName barrier timedOut now)
    nextPlaybackBarrierRevision := s.nextPlaybackBarrierRevision + 1
    history := .committed roomName snapshot :: s.history }
  let transported := committed.establishRoomTransport roomName
    { position := barrier.prepare.targetPosition
      paused := false
      setBy := some barrier.initiatorUsername
      updatedAtSeconds := now }
  match payload.readinessRevision with
  | some readinessRevision => transported.markReadinessGateCommitted roomName
      barrier.prepare.mediaGeneration readinessRevision payload.stateRevision
  | none => transported

end ServerRuntime

def commitPlaybackBarrier (roomName : String) (timedOut : Bool) (now : Seconds) :
    ServerM Outbound := do
  let s ← Prog.get
  match s.roomPlaybackBarriers[roomName]? with
  | none => pure []
  | some barrier =>
      if barrier.phase != .preparing || s.commitBlocked roomName barrier then
        pure []
      else do
        let payload := s.commitPayload roomName barrier now
        Prog.modify (·.commitStart roomName barrier timedOut now)
        let t ← Prog.get
        let committed := t.playbackBarrierFanout roomName
          { commit := some payload, status := t.playbackBarrierStatus roomName }
        let states ← forcedStateFanout (t.clientsInRoom roomName) payload.anchorPosition false
          (some true) (some barrier.initiatorUsername)
        let t ← Prog.get
        let snapshot := if payload.readinessRevision.isSome then
            t.readinessSnapshotFanout roomName else []
        pure (committed ++ states ++ snapshot)

/-- Commits a preparing barrier whose policy is satisfied. -/
def maybeCommitReadinessGate (roomName : String) : ServerM Outbound := do
  let s ← Prog.get
  if s.barrierPhase roomName = some .preparing ∧ s.playbackBarrierPolicySatisfied roomName then
    commitPlaybackBarrier roomName false s.currentTimeSeconds
  else
    pure []

/-! ### Acknowledgements -/

def readyStatus (ready : MediaReadyPayload) (status : PlaybackBarrierParticipantStatus) :
    PlaybackBarrierParticipantStatus :=
  { status with
    phase := if ready.isReady then .ready else .pending
    readiness := some ready
    degradedReason := none }

def recordPlaybackBarrierReady (clientId : String) (ready : MediaReadyPayload) :
    ServerM Outbound := do
  let s ← Prog.get
  match s.sessions[clientId]? with
  | none => Prog.throw (.missingSession clientId)
  | some session =>
    match s.roomPlaybackBarriers[session.room]? with
    | none => pure []
    | some barrier =>
      if !session.capabilities.playbackBarrierV1 || barrier.phase != .preparing
          || ready.mediaGeneration != barrier.prepare.mediaGeneration
          || !barrier.participants.contains clientId then
        pure []
      else do
        Prog.modify (·.updateBarrier session.room (·.mapParticipant clientId (readyStatus ready)))
        let t ← Prog.get
        if t.playbackBarrierPolicySatisfied session.room then
          commitPlaybackBarrier session.room false t.currentTimeSeconds
        else
          pure (t.playbackBarrierStatusFanout session.room)

def startedStatus (observedPosition : Seconds) (status : PlaybackBarrierParticipantStatus) :
    PlaybackBarrierParticipantStatus :=
  { status with
    phase := .started
    observedPosition := some (max observedPosition 0)
    degradedReason := none }

/-- Every participant of the barrier has acknowledged Started. -/
def RoomPlaybackBarrier.allStarted (barrier : RoomPlaybackBarrier) : Bool :=
  barrier.participants.toList.all fun entry => entry.2.status.phase == .started

/-- The barrier after an accepted Started acknowledgement. -/
def RoomPlaybackBarrier.withStarted (barrier : RoomPlaybackBarrier) (clientId : String)
    (observedPosition : Seconds) : RoomPlaybackBarrier :=
  let acknowledged := barrier.mapParticipant clientId (startedStatus observedPosition)
  if acknowledged.allStarted then { acknowledged with phase := .complete } else acknowledged

namespace ServerRuntime

def acknowledgeStarted (s : ServerRuntime) (roomName clientId : String)
    (barrier : RoomPlaybackBarrier) (started : StartedAckPayload) (observedPosition : Seconds) :
    ServerRuntime :=
  let barrier := barrier.withStarted clientId observedPosition
  let acknowledgement : Event :=
    .startedAcknowledged roomName started.mediaGeneration started.stateRevision clientId
  { s with
    roomPlaybackBarriers := s.roomPlaybackBarriers.insert roomName barrier
    history :=
      if barrier.phase = .complete then
        .becameComplete roomName barrier :: acknowledgement :: s.history
      else acknowledgement :: s.history }

end ServerRuntime

def recordPlaybackBarrierStarted (clientId : String) (started : StartedAckPayload) :
    ServerM Outbound := do
  let s ← Prog.get
  match s.sessions[clientId]?, started.observedPosition with
  | some session, .finite observedPosition =>
    match s.roomPlaybackBarriers[session.room]? with
    | none => pure []
    | some barrier =>
      if !session.capabilities.playbackBarrierV1 || barrier.phase != .committed
          || started.mediaGeneration != barrier.prepare.mediaGeneration
          || some started.stateRevision != barrier.stateRevision
          || !barrier.participants.contains clientId then
        pure []
      else do
        Prog.modify (·.acknowledgeStarted session.room clientId barrier started observedPosition)
        let t ← Prog.get
        let status := t.playbackBarrierStatusFanout session.room
        if t.barrierPhase session.room = some .complete then
          let cleared ← clearReadinessGate session.room
          pure (status ++ cleared)
        else
          pure status
  | _, _ => pure []

/-! ### Timeouts -/

def prepareTimedOutStatus (status : PlaybackBarrierParticipantStatus) :
    PlaybackBarrierParticipantStatus :=
  if status.phase = .ready then status
  else { status with phase := .prepareTimedOut, degradedReason := some .prepareTimeout }

def finishPrepareTimeoutWithoutCommit (roomName : String) (awaitingControllerDecision : Bool) :
    ServerM Outbound := do
  let s ← Prog.get
  if s.barrierPhase roomName = some .preparing then
    Prog.modify (·.updateBarrier roomName fun barrier =>
      { barrier.mapStatus prepareTimedOutStatus with
        phase := if awaitingControllerDecision then .awaitingDecision else .degraded })
    Prog.gets (·.playbackBarrierStatusFanout roomName)
  else
    pure []

/-- One due prepare deadline. -/
def finishDuePrepare (roomName : String) (now : Seconds) : ServerM Outbound := do
  let s ← Prog.get
  let governed := s.readinessGoverned roomName
  let timeoutAction :=
    (s.roomPlaybackBarriers[roomName]?.bind (·.prepare.timeoutAction)).getD .continue_
  match timeoutAction with
  | .continue_ =>
      if s.roomPlaybackBarriers[roomName]?.any (s.commitBlocked roomName ·) then
        let finished ← finishPrepareTimeoutWithoutCommit roomName false
        let gate ← markReadinessGateDegraded roomName .timedOut
        pure (finished ++ gate)
      else
        commitPlaybackBarrier roomName true now
  | .remainPaused => do
      let finished ← finishPrepareTimeoutWithoutCommit roomName false
      let gate ← if governed then markReadinessGateDegraded roomName .timedOut else pure []
      pure (finished ++ gate)
  | .askController => do
      let finished ← finishPrepareTimeoutWithoutCommit roomName true
      let gate ← if governed then markReadinessGateDegraded roomName .timedOut else pure []
      pure (finished ++ gate)

def startedTimedOutStatus (status : PlaybackBarrierParticipantStatus) :
    PlaybackBarrierParticipantStatus :=
  match status.phase with
  | .pending | .ready =>
      { status with phase := .startedAckTimedOut, degradedReason := some .startedTimeout }
  | _ => status

/-- One due Started deadline. -/
def finishDueStarted (roomName : String) : ServerM Outbound := do
  Prog.modify (·.updateBarrier roomName fun barrier =>
    { barrier.mapStatus startedTimedOutStatus with phase := .degraded })
  let status ← Prog.gets (·.playbackBarrierStatusFanout roomName)
  let cleared ← clearReadinessGate roomName
  pure (status ++ cleared)

/-! ### Retirement -/

def retireAwaitingPlaybackBarrierDecision (clientId roomName : String) : ServerM Outbound := do
  let s ← Prog.get
  let authorized := s.sessions[clientId]?.any fun session =>
    session.room == roomName && session.capabilities.playbackBarrierV1
      && s.userCanControlPlaylist session.username roomName
  if authorized ∧ s.barrierPhase roomName = some .awaitingDecision then
    Prog.modify (·.updateBarrier roomName fun barrier => { barrier with phase := .degraded })
    Prog.gets (·.playbackBarrierStatusFanout roomName)
  else
    pure []

def userInterruptedStatus (status : PlaybackBarrierParticipantStatus) :
    PlaybackBarrierParticipantStatus :=
  if status.phase = .started then status
  else { status with phase := .degraded, degradedReason := some .userInterrupted }

def supersededStatus (status : PlaybackBarrierParticipantStatus) :
    PlaybackBarrierParticipantStatus :=
  { status with phase := .degraded, degradedReason := some .superseded }

/-- The control of a room whose canonical selection moved on. -/
def retiredControl (control : RoomBufferingControl) : RoomBufferingControl :=
  { control with
    retiredForSelection := true
    config := { control.config with policy := .independent, quorumPercent := none }
    reports := ∅
    conditionActiveSince := none
    conditionClearSince := none
    pausedByPolicy := false
    pauseDeadline := none
    failOpenLatched := false }

/-- A canonical selection supersedes the room's start and buffering episodes;
    their identities stay for idempotent retries. -/
def retirePlaybackCoordinationForSelection (roomName : String) : ServerM Outbound := do
  Prog.modify (·.updateBarrier roomName fun barrier =>
    { barrier.mapStatus supersededStatus with phase := .degraded, startedDeadline := none })
  let status ← Prog.gets (·.playbackBarrierStatusFanout roomName)
  Prog.modify (·.updateControl roomName retiredControl)
  let s ← Prog.get
  match s.roomBufferingControls[roomName]? with
  | none => pure status
  | some control =>
      pure (status ++ s.roomBufferingFanout roomName
        { bufferingPolicy := some control.config
          bufferingStatus := s.roomBufferingStatus roomName })

namespace ServerRuntime

/-- An accepted user pause ends any buffering episode of the room. -/
def releaseBufferingEpisode (s : ServerRuntime) (roomName : String) : ServerRuntime :=
  s.updateControl roomName fun control =>
    { control with
      pausedByPolicy := false
      pauseDeadline := none
      conditionActiveSince := none
      conditionClearSince := none }

end ServerRuntime

namespace ServerRuntime

/-- A committed barrier after an accepted user pause: the commit stays as
    history, participants that had not started record the interruption. -/
def retireCommittedBarrier (s : ServerRuntime) (roomName : String) : ServerRuntime :=
  if s.barrierPhase roomName = some .committed then
    s.updateBarrier roomName fun barrier =>
      { barrier.mapStatus userInterruptedStatus with phase := .degraded, startedDeadline := none }
  else s

def retireCommittedPlaybackBarrierForUserPause (s : ServerRuntime) (roomName : String) :
    ServerRuntime :=
  if s.barrierPhase roomName = some .committed then
    (s.retireCommittedBarrier roomName).clearReadinessGate roomName
  else s

/-- The runtime after a user claims the room's pause. -/
def claimUserPauseOwnership (s : ServerRuntime) (roomName actor : String) : ServerRuntime :=
  (((s.releaseBufferingEpisode roomName).retireCommittedPlaybackBarrierForUserPause roomName
    ).setReadinessPauseOwner roomName (.user actor)).refreshReadinessGatePhase roomName

/-- The messages of that claim, in wire order. -/
def claimUserPauseMessages (s : ServerRuntime) (roomName actor : String) : Outbound :=
  let released := s.releaseBufferingEpisode roomName
  let retired := released.retireCommittedBarrier roomName
  let interrupted := if s.barrierPhase roomName = some .committed then
      retired.playbackBarrierStatusFanout roomName
        ++ (if retired.readinessGateIsActive roomName then
          (retired.clearReadinessGate roomName).readinessSnapshotFanout roomName else [])
    else []
  interrupted ++ (s.claimUserPauseOwnership roomName actor).readinessSnapshotFanout roomName

end ServerRuntime

def claimUserPauseOwnership (roomName actor : String) : ServerM Outbound := do
  let s ← Prog.get
  Prog.modify (·.claimUserPauseOwnership roomName actor)
  pure (s.claimUserPauseMessages roomName actor)

def disconnectedStatus (status : PlaybackBarrierParticipantStatus) :
    PlaybackBarrierParticipantStatus :=
  { status with phase := .degraded, degradedReason := some .disconnected }

def markPlaybackBarrierParticipantDisconnected (clientId roomName : String) :
    ServerM Outbound := do
  let s ← Prog.get
  match s.roomPlaybackBarriers[roomName]? with
  | none => pure []
  | some barrier =>
      -- the source first returns early for a superseded transport that is no
      -- participant; it would return here all the same
      if !(barrier.phase == .preparing || barrier.phase == .committed)
          || !barrier.participants.contains clientId then
        pure []
      else do
        Prog.modify (·.updateBarrier roomName (·.mapParticipant clientId disconnectedStatus))
        let t ← Prog.get
        if barrier.phase = .preparing ∧ t.playbackBarrierPolicySatisfied roomName then
          commitPlaybackBarrier roomName false t.currentTimeSeconds
        else
          pure (t.playbackBarrierStatusFanout roomName)

end Sorotte.Server
