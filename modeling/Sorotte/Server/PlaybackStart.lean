import Sorotte.Server.PlaybackBarrier

/-! # Requests that start, rebind or reconfigure playback

  `handle_playback_barrier_set` and `handle_playback_barrier_state`: prepares
  with their idempotent retries and supersession, recovery by a newer
  connection, and buffering-policy configuration.
-/

namespace Sorotte.Server

open Sorotte.Framework

/-! ### Owner rebinding -/

/-- The entry a newer connection inherits from the older owner. -/
def inheritedParticipant (barrier : RoomPlaybackBarrier) (clientId username : String) :
    RoomPlaybackBarrierParticipant :=
  let held := ((barrier.participants[barrier.initiatorClientId]?).or
    barrier.participants[clientId]?).getD { username, status := .pending }
  let status := held.status
  let status := if status.degradedReason = some .disconnected then
      match barrier.phase with
      | .preparing => { status with phase := .pending, degradedReason := none }
      | .committed => { status with phase := .ready, degradedReason := none }
      | .awaitingDecision | .complete | .degraded => status
    else status
  { username, status }

def reboundBarrier (barrier : RoomPlaybackBarrier) (clientId username : String)
    (sessionSequence : Nat) : RoomPlaybackBarrier :=
  { barrier with
    participants := (barrier.participants.erase barrier.initiatorClientId).insert clientId
      (inheritedParticipant barrier clientId username)
    initiatorClientId := clientId
    initiatorSessionSequence := sessionSequence
    initiatorUsername := username }

/-- A policy control handed to a newer connection of its owner. -/
def reboundControl (control : RoomBufferingControl) (oldClientId clientId username : String) :
    RoomBufferingControl :=
  { control with
    config := if control.retiredForSelection then control.config else control.requestedConfig
    configuredByClientId := clientId
    configuredByUsername := username
    reports := (control.reports.erase oldClientId).erase clientId
    conditionActiveSince := none
    conditionClearSince := none }

namespace ServerRuntime

/-- Revokes the older transport if it is still connected. -/
def fenceIfConnected (s : ServerRuntime) (clientId : String) : ServerRuntime :=
  if s.sessions.contains clientId then s.fenceAndClosePlaybackBarrierTransport clientId else s

def rebindPlaybackBarrierOwner (s : ServerRuntime) (clientId username roomName : String)
    (sessionSequence : Nat) (barrier : RoomPlaybackBarrier) : ServerRuntime :=
  let oldClientId := barrier.initiatorClientId
  let rebound := { s with
    roomPlaybackBarriers := s.roomPlaybackBarriers.insert roomName
      (reboundBarrier barrier clientId username sessionSequence)
    history := .ownerRebound roomName barrier.prepare.mediaGeneration oldClientId clientId
      :: s.history }
  let fenced := if oldClientId != clientId then rebound.fenceIfConnected oldClientId else rebound
  fenced.updateControl roomName fun control =>
    if control.configuredByClientId = oldClientId then
      reboundControl control oldClientId clientId username
    else control

end ServerRuntime

def rebindPlaybackBarrierOwnerIfNewer (clientId roomName : String) : ServerM Bool := do
  let s ← Prog.get
  match s.clientRoomJoinSequence[clientId]?, s.sessions[clientId]?,
      s.roomPlaybackBarriers[roomName]? with
  | some sessionSequence, some session, some barrier =>
      if sessionSequence ≤ barrier.initiatorSessionSequence then
        pure false
      else do
        Prog.modify (·.rebindPlaybackBarrierOwner clientId session.username roomName
          sessionSequence barrier)
        pure true
  | _, _, _ => pure false

namespace ServerRuntime

def rebindRoomBufferingOwner (s : ServerRuntime) (clientId username roomName oldClientId : String) :
    ServerRuntime :=
  (s.updateControl roomName fun control =>
    reboundControl control oldClientId clientId username).fenceIfConnected oldClientId

end ServerRuntime

def rebindRoomBufferingOwnerIfNewer (clientId roomName : String) : ServerM Unit := do
  let s ← Prog.get
  match s.sessions[clientId]?, s.clientRoomJoinSequence[clientId]?,
      s.roomBufferingControls[roomName]? with
  | some session, some sessionSequence, some control =>
      let oldClientId := control.configuredByClientId
      if oldClientId = clientId
          ∨ sessionSequence ≤ s.clientRoomJoinSequence.getD oldClientId 0 then
        pure ()
      else
        Prog.modify (·.rebindRoomBufferingOwner clientId session.username roomName oldClientId)
  | _, _, _ => pure ()

/-! ### Prepare -/

/-- What a fresh, admitted prepare does to the room's current lifecycle. -/
inductive PrepareDecision where
  | reject
  /-- A transport refresh of the current media: replay its snapshot. -/
  | snapshot
  | accept (supersedesActive : Bool) (loadIntent : MediaLoadIntent)
  deriving DecidableEq

def prepareDecision (barrier : Option RoomPlaybackBarrier) (clientId : String)
    (sessionSequence : Nat) (prepare : PrepareMediaRequest) (logicalMediaId : String) :
    PrepareDecision :=
  match barrier with
  | none => if prepare.loadIntent = .transportRefresh then .reject
      else .accept false prepare.loadIntent
  | some barrier =>
      let sameLogicalMedia := barrier.prepare.logicalMediaId == logicalMediaId
      let sameOwner := barrier.initiatorClientId == clientId
        && barrier.initiatorSessionSequence == sessionSequence
      if prepare.loadIntent = .transportRefresh then
        if sameLogicalMedia then .snapshot else .reject
      else if barrier.phase = .preparing ∨ barrier.phase = .committed then
        let matchesIdentity := match prepare.loadIntent with
          | .newPlayback => !sameLogicalMedia
          | .replay => sameLogicalMedia
          | .transportRefresh => false
        if sameOwner && matchesIdentity then .accept true prepare.loadIntent else .reject
      else
        -- a reconnected owner cannot know that its media already played
        let loadIntent :=
          if prepare.loadIntent = .newPlayback ∧ sameLogicalMedia ∧ !sameOwner then .replay
          else prepare.loadIntent
        match loadIntent with
        | .newPlayback => if sameLogicalMedia then .reject else .accept false .newPlayback
        | .replay => if sameLogicalMedia then .accept false .replay else .reject
        | .transportRefresh => .reject

def barrierTimeoutSeconds (timeoutMs : Option Nat) : Seconds :=
  let requested : Seconds := match timeoutMs with
    | some timeoutMs => (timeoutMs : ℚ) / 1000
    | none => playbackBarrierDefaultTimeoutSeconds
  max playbackBarrierMinTimeoutSeconds (min requested playbackBarrierMaxTimeoutSeconds)

/-- The quorum and percentage stored for a prepare with `eligible` members. -/
def acceptedQuorum (prepare : PrepareMediaRequest) (eligible : Nat) : Option Nat × Option Nat :=
  match prepare.policy with
  | .quorum =>
      match prepare.quorumPercent with
      | some percent =>
          let percent := max 1 (min percent 100)
          (some (roomBufferingQuorumRequired eligible percent), some percent)
      | none => (some (max 1 (min (prepare.quorum.getD eligible) eligible)), none)
  | .allEligible | .controller => (none, none)

/-- The prepare the server stores for an accepted request. -/
def acceptedPrepare (prepare : PrepareMediaRequest) (logicalMediaId : String) (target : Seconds)
    (loadIntent : MediaLoadIntent) (generation eligible : Nat) (now : Seconds) :
    PrepareMediaPayload :=
  let timeout := barrierTimeoutSeconds prepare.timeoutMs
  let quorum := acceptedQuorum prepare eligible
  { mediaGeneration := generation
    requestNonce := prepare.requestNonce
    requestId := prepare.requestId
    loadIntent
    logicalMediaId
    targetPosition := max target 0
    policy := prepare.policy
    quorum := quorum.1
    quorumPercent := quorum.2
    timeoutMs := some (timeout * 1000).floor.toNat
    timeoutAction := some (prepare.timeoutAction.getD .continue_)
    deadline := some (now + timeout) }

namespace ServerRuntime

/-- Members that take part in a new barrier of the room. -/
def barrierCohort (s : ServerRuntime) (roomName : String) :
    BTreeMap String RoomPlaybackBarrierParticipant :=
  (s.sessions.filter fun clientId session =>
      session.room == roomName && !s.playbackBarrierFencedClients.contains clientId
        && session.capabilities.playbackBarrierV1
        && (!s.readinessGoverned roomName || session.capabilities.readinessV2)).map
    fun _ session => { username := session.username, status := .pending }

def barrierExcluded (s : ServerRuntime) (roomName : String) : BTreeSet String :=
  (∅ : BTreeSet String).insertMany <|
    (s.sessions.toList.filter fun entry =>
      entry.2.room == roomName && !s.playbackBarrierFencedClients.contains entry.1
        && !(entry.2.capabilities.playbackBarrierV1
          && (!s.readinessGoverned roomName || entry.2.capabilities.readinessV2))).map
      fun entry => entry.2.username

/-- A new start owns the canonical pause: no older buffering episode of the
    room may resume it. -/
def controlsForNewStart (s : ServerRuntime) (roomName : String) (generation : Nat) :
    BTreeMap String RoomBufferingControl :=
  match s.roomBufferingControls[roomName]? with
  | none => s.roomBufferingControls
  | some control =>
      if control.config.mediaGeneration ≠ generation then s.roomBufferingControls.erase roomName
      else s.roomBufferingControls.insert roomName
        { control with
          reports := ∅
          conditionActiveSince := none
          conditionClearSince := none
          pausedByPolicy := false
          pauseDeadline := none
          failOpenLatched := false }

/-- Allocates the generation of an accepted prepare. -/
def allocateForPrepare (s : ServerRuntime) (roomName : String) (requestId : Option String)
    (generation : Nat) : ServerRuntime :=
  { s with
    nextPlaybackBarrierGeneration := generation
    history := .prepareAccepted roomName requestId generation
      s.playbackBarrierRequestClockSeconds :: s.history }

/-- The runtime after a prepare is installed: displaced identities are
    retained, the barrier is preparing, the room is frozen at the target and the
    readiness generation follows. -/
def installBarrier (s : ServerRuntime) (roomName : String) (barrier : RoomPlaybackBarrier)
    (displaced : BTreeMap String DisplacedPlaybackBarrierRequest) (now : Seconds) :
    ServerRuntime :=
  let generation := barrier.prepare.mediaGeneration
  let retained := (s.retainDisplacedPlaybackBarrierRequests roomName displaced
    ).allocateForPrepare roomName barrier.prepare.requestId generation
  let stored := { retained with
    roomBufferingControls := s.controlsForNewStart roomName generation
    roomPlaybackBarriers := s.roomPlaybackBarriers.insert roomName barrier }
  let transported :=
    (stored.advanceParticipantStatusMediaGeneration roomName (some generation)
      ).establishRoomTransport roomName
      { position := barrier.prepare.targetPosition
        paused := true
        setBy := some barrier.initiatorUsername
        updatedAtSeconds := now }
  transported.replaceReadinessGeneration roomName (some generation) true

end ServerRuntime

/-- Ends the active lifecycle that a new prepare of its owner replaces. -/
def supersedeActiveBarrier (roomName : String) : ServerM Outbound := do
  let s ← Prog.get
  let wasPreparing := s.barrierPhase roomName = some .preparing
  Prog.modify (·.updateBarrier roomName fun barrier =>
    { barrier.mapStatus supersededStatus with phase := .degraded })
  let status ← Prog.gets (·.playbackBarrierStatusFanout roomName)
  let gate ← if wasPreparing then markReadinessGateDegraded roomName .cancelled else pure []
  pure (status ++ gate)

/-- Installs a prepare under its generation and publishes it. -/
def installPrepare (clientId : String) (session : ServerSession) (sessionSequence : Nat)
    (prepare : PrepareMediaRequest) (logicalMediaId : String) (target : Seconds)
    (displaced : BTreeMap String DisplacedPlaybackBarrierRequest) (loadIntent : MediaLoadIntent)
    (generation : Nat) : ServerM Outbound := do
  let s ← Prog.get
  let roomName := session.room
  let now := s.currentTimeSeconds
  let participants := s.barrierCohort roomName
  if participants.isEmpty then
    Prog.modify (·.allocateForPrepare roomName prepare.requestId generation)
    pure []
  else do
    let stored := acceptedPrepare prepare logicalMediaId target loadIntent generation
      participants.size now
    let barrier : RoomPlaybackBarrier :=
      { prepare := stored
        commit := none
        initiatorClientId := clientId
        initiatorSessionSequence := sessionSequence
        initiatorUsername := session.username
        participants
        excludedUnsupportedClients := s.barrierExcluded roomName
        phase := .preparing
        stateRevision := none
        readinessRevision := none
        deadline := s.localTimeSeconds + barrierTimeoutSeconds prepare.timeoutMs
        startedDeadline := none }
    let previous := s.readinessProjection roomName
    Prog.modify (·.installBarrier roomName barrier displaced now)
    let readiness ← publishReplacedReadinessGeneration roomName previous
    let t ← Prog.get
    let states ← forcedStateFanout (t.clientsInRoom roomName) stored.targetPosition true
      (some true) (some session.username)
    let t ← Prog.get
    pure (readiness ++ states ++ t.playbackBarrierFanout roomName
      { prepare := some stored, status := t.playbackBarrierStatus roomName })

/-- Accepts an admitted prepare: ends the start it replaces, then installs it. -/
def acceptPrepare (clientId : String) (session : ServerSession) (sessionSequence : Nat)
    (prepare : PrepareMediaRequest) (logicalMediaId : String) (target : Seconds)
    (displaced : BTreeMap String DisplacedPlaybackBarrierRequest) (supersedesActive : Bool)
    (loadIntent : MediaLoadIntent) : ServerM Outbound := do
  let s ← Prog.get
  match s.nextAllocatedGeneration with
  | none => pure []
  | some generation =>
      if supersedesActive then do
        let superseded ← supersedeActiveBarrier session.room
        let installed ← installPrepare clientId session sessionSequence prepare logicalMediaId
          target displaced loadIntent generation
        pure (superseded ++ installed)
      else
        installPrepare clientId session sessionSequence prepare logicalMediaId target displaced
          loadIntent generation

/-- A retry of the prepare that the room's current barrier was made for. -/
def retryCurrentPrepare (clientId : String) (session : ServerSession)
    (prepare : PrepareMediaRequest) (logicalMediaId : String) (barrier : RoomPlaybackBarrier) :
    ServerM Outbound := do
  if barrier.prepare.requestNonce == prepare.requestNonce
      && barrier.prepare.logicalMediaId == logicalMediaId then
    Prog.modify fun s => s.setRequestNonce clientId
      (max (s.playbackBarrierRequestNonces.getD clientId 0) prepare.requestNonce)
    let rebound ← rebindPlaybackBarrierOwnerIfNewer clientId session.room
    let s ← Prog.get
    let status := if rebound then s.playbackBarrierStatusFanout session.room else []
    pure (status ++ s.playbackBarrierSnapshotForClient session.room clientId)
  else
    pure []

/-- Rate, replay capacity and nonce of a prepare with a new identity. -/
def admitPrepare (clientId : String) (session : ServerSession) (sessionSequence : Nat)
    (prepare : PrepareMediaRequest) (logicalMediaId : String) (target : Seconds) :
    ServerM Outbound := do
  let roomName := session.room
  let retryAfter ← playbackBarrierNewIdentityRetryAfterMillis clientId roomName
    prepare.requestId prepare.requestNonce
  match retryAfter with
  | some retryAfterMs =>
      pure (playbackBarrierRetryLater clientId prepare.requestId prepare.requestNonce retryAfterMs)
  | none => do
      let s ← Prog.get
      let displaced := if prepare.loadIntent = .transportRefresh then ∅
        else s.displacedPlaybackBarrierRequests roomName prepare.requestId true true
      Prog.modify (·.prunePlaybackBarrierRequestTombstones)
      let s ← Prog.get
      if !s.canRetainDisplacedPlaybackBarrierRequests roomName displaced then
        pure (playbackBarrierRetryLater clientId prepare.requestId prepare.requestNonce
          (s.playbackBarrierReplayCapacityRetryAfterMillis roomName displaced))
      else do
        Prog.modify (·.setRequestNonce clientId prepare.requestNonce)
        match prepareDecision s.roomPlaybackBarriers[roomName]? clientId sessionSequence prepare
            logicalMediaId with
        | .reject => pure []
        | .snapshot => Prog.gets (·.playbackBarrierSnapshotForClient roomName clientId)
        | .accept supersedesActive loadIntent =>
            acceptPrepare clientId session sessionSequence prepare logicalMediaId target displaced
              supersedesActive loadIntent

namespace ServerRuntime

/-- The sender may start playback and the request is well formed. -/
def prepareIsAuthorized (s : ServerRuntime) (session : ServerSession)
    (prepare : PrepareMediaRequest) : Bool :=
  session.capabilities.playbackBarrierV1
    && (!s.readinessGoverned session.room || session.capabilities.readinessV2)
    && s.userCanControlPlaylist session.username session.room
    && prepare.mediaGeneration == 0 && prepare.requestNonce != 0
    && !(trimText prepare.logicalMediaId).isEmpty
    && prepare.requestId.all validPlaybackBarrierRequestId

end ServerRuntime

def startPlaybackBarrier (clientId : String) (prepare : PrepareMediaRequest) :
    ServerM Outbound := do
  let s ← Prog.get
  match s.sessions[clientId]? with
  | none => Prog.throw (.missingSession clientId)
  | some session =>
    match prepare.targetPosition, s.clientRoomJoinSequence[clientId]? with
    | .finite target, some sessionSequence =>
      let logicalMediaId := truncateTextToMaxChars (trimText prepare.logicalMediaId)
        playbackBarrierMaxLogicalMediaIdChars
      let current := s.roomPlaybackBarriers[session.room]?.filter fun barrier =>
        prepare.requestId.isSome && barrier.prepare.requestId == prepare.requestId
      if !s.prepareIsAuthorized session prepare then
        pure []
      else match current with
        | some barrier => retryCurrentPrepare clientId session prepare logicalMediaId barrier
        | none =>
          -- a policy-only operation identity cannot become a start request
          if prepare.requestId.isSome && s.roomBufferingControls[session.room]?.any
              (·.config.requestId == prepare.requestId) then
            pure []
          else do
            Prog.modify (·.prunePlaybackBarrierRequestTombstones)
            let s ← Prog.get
            if prepare.requestId.any fun requestId =>
                (s.requestTombstone session.room requestId).isSome then
              pure []
            else if s.requestNonceIsStale clientId prepare.requestNonce then
              if s.roomPlaybackBarriers[session.room]?.any fun barrier =>
                  barrier.initiatorClientId == clientId
                    && barrier.initiatorSessionSequence == sessionSequence
                    && barrier.prepare.requestNonce == prepare.requestNonce then
                pure (s.playbackBarrierSnapshotForClient session.room clientId)
              else
                pure []
            else
              admitPrepare clientId session sessionSequence prepare logicalMediaId target
    | _, _ => pure []

/-! ### Buffering-policy configuration -/

/-- `Option` order of the source: `None` is the least revision. -/
def revisionLt : Option Nat → Option Nat → Bool
  | none, some _ => true
  | some a, some b => a < b
  | _, none => false

def normalizedPolicyConfig (config : RoomBufferingPolicyPayload) : RoomBufferingPolicyPayload :=
  { config with
    quorumPercent := match config.policy with
      | .quorum => some (max 1 (min
          (config.quorumPercent.getD roomBufferingDefaultQuorumPercent) 100))
      | _ => none
    debounceMs := some (normalizeRoomBufferingDurationMs config.debounceMs (3 / 4) 0 10)
    resumeHysteresisMs :=
      some (normalizeRoomBufferingDurationMs config.resumeHysteresisMs (3 / 2) 0 15)
    maxPauseMs := some (normalizeRoomBufferingDurationMs config.maxPauseMs 30 1 60) }

namespace ServerRuntime

/-- The room's lifecycle accepts a policy for this generation and revision. -/
def acceptsPolicyGeneration (s : ServerRuntime) (roomName : String)
    (config : RoomBufferingPolicyPayload) : Bool :=
  (s.roomPlaybackBarriers[roomName]?.all fun barrier =>
    !(config.mediaGeneration < barrier.prepare.mediaGeneration
      || (config.mediaGeneration == barrier.prepare.mediaGeneration
        && barrier.stateRevision.isSome && config.stateRevision != barrier.stateRevision)))
  && s.roomBufferingControls[roomName]?.all fun active =>
    !(config.mediaGeneration < active.config.mediaGeneration
      || (config.mediaGeneration == active.config.mediaGeneration
        && (active.retiredForSelection
          || revisionLt config.stateRevision active.config.stateRevision)))

/-- Drops a terminal barrier that a policy-only lifecycle replaces. -/
def replaceRoomBarrierParticipantStatusScope (s : ServerRuntime) (roomName : String)
    (mediaGeneration : Nat) : ServerRuntime :=
  let advanced := s.advanceParticipantStatusMediaGeneration roomName (some mediaGeneration)
  { advanced with
    roomPlaybackBarriers := advanced.roomPlaybackBarriers.erase roomName
  }.clearReadinessGate roomName

/-- A policy that still holds the room's pause releases it. -/
def releasePolicyPause (s : ServerRuntime) (roomName username : String) (now : Seconds) :
    ServerRuntime :=
  if s.roomBufferingControls[roomName]?.any (·.pausedByPolicy) then
    s.applyRoomBufferingTransition roomName .resume username now
  else s

def newControl (clientId username : String) (config : RoomBufferingPolicyPayload) :
    RoomBufferingControl :=
  { config
    requestedConfig := config
    configuredByClientId := clientId
    configuredByUsername := username
    reports := ∅
    conditionActiveSince := none
    conditionClearSince := none
    pausedByPolicy := false
    pauseDeadline := none
    failOpenLatched := false
    retiredForSelection := false }

/-- An unpaired policy moves the readiness coordinator to its generation. -/
def followTechnicalGeneration (s : ServerRuntime) (roomName : String) (mediaGeneration : Nat) :
    ServerRuntime :=
  if s.readinessMediaGeneration roomName = some mediaGeneration then s
  else s.replaceReadinessGeneration roomName (some mediaGeneration) false

/-- The room before the new control is stored: displaced identities retained
    and, for a policy-only lifecycle, the terminal barrier dropped. -/
def clearedForPolicy (s : ServerRuntime) (roomName : String)
    (config : RoomBufferingPolicyPayload)
    (displaced : BTreeMap String DisplacedPlaybackBarrierRequest) (replaceRoomBarrier : Bool) :
    ServerRuntime :=
  let retained := s.retainDisplacedPlaybackBarrierRequests roomName displaced
  if replaceRoomBarrier then
    retained.replaceRoomBarrierParticipantStatusScope roomName config.mediaGeneration
  else retained

/-- The runtime after a buffering policy is configured. -/
def installPolicy (s : ServerRuntime) (clientId username roomName : String)
    (config : RoomBufferingPolicyPayload)
    (displaced : BTreeMap String DisplacedPlaybackBarrierRequest)
    (replaceRoomBarrier pairedWithNewPrepare : Bool) (now : Seconds) : ServerRuntime :=
  let released := (s.clearedForPolicy roomName config displaced replaceRoomBarrier
    ).releasePolicyPause roomName username now
  let stored := released.installControl roomName (newControl clientId username config)
  if pairedWithNewPrepare then stored
  else stored.followTechnicalGeneration roomName config.mediaGeneration

end ServerRuntime

/-- Publishes the technical generation of an unpaired policy; `moved` says that
    the coordinator's generation changed. -/
def publishTechnicalGeneration (roomName : String) (moved : Bool)
    (previous : BTreeMap String Bool) : ServerM Outbound := do
  if moved then publishReplacedReadinessGeneration roomName previous else pure []

/-- Installs a policy whose generation is known, and publishes it. -/
def installRoomBufferingPolicy (clientId : String) (session : ServerSession)
    (requested : RoomBufferingPolicyPayload)
    (displaced : BTreeMap String DisplacedPlaybackBarrierRequest)
    (replaceRoomBarrier targetedPublicIndependent pairedWithNewPrepare : Bool) :
    ServerM Outbound := do
  let s ← Prog.get
  let roomName := session.room
  if !s.acceptsPolicyGeneration roomName requested then
    pure []
  else do
    let config := normalizedPolicyConfig requested
    let now := s.currentTimeSeconds
    let cleared := s.clearedForPolicy roomName config displaced replaceRoomBarrier
    let released := cleared.releasePolicyPause roomName session.username now
    let clearSnapshot :=
      if replaceRoomBarrier && s.readinessGateIsActive roomName then
        cleared.readinessSnapshotFanout roomName
      else []
    Prog.modify (·.installPolicy clientId session.username roomName config displaced
      replaceRoomBarrier pairedWithNewPrepare now)
    let resumed ←
      if cleared.roomBufferingControls[roomName]?.any (·.pausedByPolicy) then
        publishRoomBufferingTransition cleared released roomName .resume session.username now
      else
        pure []
    let technical ← publishTechnicalGeneration roomName
      (!pairedWithNewPrepare
        && released.readinessMediaGeneration roomName != some config.mediaGeneration)
      (released.readinessProjection roomName)
    let t ← Prog.get
    let policy := if targetedPublicIndependent then
        t.roomBufferingSnapshotForClient roomName clientId
      else t.roomBufferingFanout roomName
        { bufferingPolicy := some config, bufferingStatus := t.roomBufferingStatus roomName }
    pure (clearSnapshot ++ resumed ++ technical ++ policy)

namespace ServerRuntime

def policyIsAuthorized (s : ServerRuntime) (session : ServerSession)
    (config : RoomBufferingPolicyPayload) : Bool :=
  let controlledRoom := s.roomPasswordProvider.isControlledRoomName session.room
  session.capabilities.playbackBarrierV1
    && (!controlledRoom || s.userIsRoomController session.username session.room)
    && (controlledRoom || config.policy == .independent)
    && config.stateRevision != some 0
    && !(config.loadIntent == .transportRefresh && config.mediaGeneration != 0)
    && config.requestId.all validPlaybackBarrierRequestId

/-- The retained identity a transport refresh rebinds, or `none` when the room
    has no refreshable policy of this user. -/
def transportRefreshIdentity (s : ServerRuntime) (session : ServerSession) :
    Option (Nat × Option Nat) :=
  if s.roomPlaybackBarriers.contains session.room then none
  else match s.roomBufferingControls[session.room]? with
    | none => none
    | some control =>
        if control.retiredForSelection || control.configuredByUsername != session.username then none
        else some (control.config.mediaGeneration, control.config.stateRevision)

/-- The canonical identity public Independent requests are coalesced onto. -/
def publicIndependentIdentity (s : ServerRuntime) (roomName : String) :
    Option (Nat × Option Nat) :=
  (s.roomBufferingControls[roomName]?.filter fun control =>
    !control.retiredForSelection && control.config.policy == .independent).map fun control =>
      (control.config.mediaGeneration, control.config.stateRevision)

/-- The barrier is owned by this connection of the client. -/
def ownsBarrier (s : ServerRuntime) (clientId : String) (barrier : RoomPlaybackBarrier) : Bool :=
  barrier.initiatorClientId == clientId
    && s.clientRoomJoinSequence[clientId]?.any (· == barrier.initiatorSessionSequence)

end ServerRuntime

/-- A policy with generation zero that opens its own lifecycle. -/
def admitPolicy (clientId : String) (session : ServerSession)
    (config : RoomBufferingPolicyPayload) : ServerM Outbound := do
  let s ← Prog.get
  let roomName := session.room
  let isRefresh := config.loadIntent == .transportRefresh
  let refreshIdentity := if isRefresh then s.transportRefreshIdentity session else none
  if s.requestNonceIsStale clientId config.requestNonce then
    if s.roomBufferingControls[roomName]?.any fun control =>
        control.configuredByClientId == clientId
          && control.config.requestNonce == config.requestNonce then
      pure (s.roomBufferingSnapshotForClient roomName clientId)
    else
      pure []
  else if isRefresh && refreshIdentity.isNone then
    pure []
  else do
    let targeted := !s.roomPasswordProvider.isControlledRoomName roomName
      && config.policy == .independent
      && (isRefresh || !s.roomPlaybackBarriers.contains roomName)
    let publicIdentity := if targeted then s.publicIndependentIdentity roomName else none
    let displaced := if targeted then ∅
      else s.displacedPlaybackBarrierRequests roomName config.requestId
        refreshIdentity.isNone true
    let retryAfter ← playbackBarrierNewIdentityRetryAfterMillis clientId roomName
      config.requestId config.requestNonce
    match retryAfter with
    | some retryAfterMs =>
        pure (playbackBarrierRetryLater clientId config.requestId config.requestNonce retryAfterMs)
    | none => do
        Prog.modify (·.prunePlaybackBarrierRequestTombstones)
        let s ← Prog.get
        if !s.canRetainDisplacedPlaybackBarrierRequests roomName displaced then
          pure (playbackBarrierRetryLater clientId config.requestId config.requestNonce
            (s.playbackBarrierReplayCapacityRetryAfterMillis roomName displaced))
        else do
          Prog.modify (·.setRequestNonce clientId config.requestNonce)
          match refreshIdentity.or publicIdentity with
          | some (mediaGeneration, stateRevision) =>
              installRoomBufferingPolicy clientId session
                { config with mediaGeneration, stateRevision } displaced false targeted false
          | none =>
              if s.barrierPhase roomName = some .preparing
                  ∨ s.barrierPhase roomName = some .committed then
                pure []
              else match s.nextAllocatedGeneration with
                | none => pure []
                | some generation => do
                    Prog.modify (·.allocatePlaybackBarrierGeneration)
                    installRoomBufferingPolicy clientId session
                      { config with mediaGeneration := generation, stateRevision := none }
                      displaced (!targeted) targeted false

/-- A retry of the policy operation the room's control was made for. -/
def retryCurrentPolicy (clientId : String) (session : ServerSession)
    (config : RoomBufferingPolicyPayload) : ServerM Outbound := do
  let s ← Prog.get
  match s.roomPlaybackBarriers[session.room]?.filter fun barrier =>
      barrier.prepare.requestId == config.requestId with
  | some barrier =>
      -- a replacement transport recovers the whole start lifecycle or nothing
      if s.ownsBarrier clientId barrier then
        pure (s.playbackBarrierSnapshotForClient session.room clientId)
      else
        pure []
  | none => do
      rebindRoomBufferingOwnerIfNewer clientId session.room
      Prog.gets (·.roomBufferingSnapshotForClient session.room clientId)

def configureUnpairedPolicy (clientId : String) (session : ServerSession)
    (config : RoomBufferingPolicyPayload) : ServerM Outbound := do
  let s ← Prog.get
  match config.requestId with
  | none => admitPolicy clientId session config
  | some requestId =>
      let control := s.roomBufferingControls[session.room]?.filter fun control =>
        control.config.requestId == some requestId
      if control.any (·.config.requestNonce == config.requestNonce) then
        retryCurrentPolicy clientId session config
      else if control.isSome
          || (s.roomPlaybackBarriers[session.room]?.any
            (·.prepare.requestId == some requestId))
          || (s.requestTombstone session.room requestId).isSome then
        pure []
      else
        admitPolicy clientId session config

/-- A policy sent together with the prepare that was just accepted. -/
def configurePairedPolicy (clientId : String) (session : ServerSession)
    (config : RoomBufferingPolicyPayload) : ServerM Outbound := do
  let s ← Prog.get
  match s.roomPlaybackBarriers[session.room]? with
  | none => pure []
  | some barrier =>
      if s.ownsBarrier clientId barrier && barrier.prepare.requestNonce == config.requestNonce
          && barrier.prepare.requestId == config.requestId then
        installRoomBufferingPolicy clientId session
          { config with
            mediaGeneration := barrier.prepare.mediaGeneration
            stateRevision := barrier.stateRevision
            loadIntent := barrier.prepare.loadIntent } ∅ false false true
      else
        pure []

def configureRoomBufferingPolicy (clientId : String) (config : RoomBufferingPolicyPayload)
    (pairedWithNewPrepare : Bool) : ServerM Outbound := do
  let s ← Prog.get
  match s.sessions[clientId]? with
  | none => Prog.throw (.missingSession clientId)
  | some session =>
      if !s.policyIsAuthorized session config then
        pure []
      else if config.mediaGeneration ≠ 0 then
        installRoomBufferingPolicy clientId session config ∅ false false pairedWithNewPrepare
      else if config.requestNonce = 0 then
        pure []
      else do
        Prog.modify (·.prunePlaybackBarrierRequestTombstones)
        if pairedWithNewPrepare then
          configurePairedPolicy clientId session config
        else
          configureUnpairedPolicy clientId session config

/-! ### Recovery -/

def playbackBarrierRecoveryResult (query : PlaybackBarrierRecoveryPayload)
    (disposition : PlaybackBarrierRecoveryDisposition) (mediaGeneration : Option Nat) :
    PlaybackBarrierRecoveryPayload :=
  { query with disposition := some disposition, mediaGeneration }

def recoveryReply (clientId : String) (query : PlaybackBarrierRecoveryPayload)
    (disposition : PlaybackBarrierRecoveryDisposition) (mediaGeneration : Option Nat) :
    Outbound :=
  [{ clientId
     message := .playbackBarrier
      { recovery := some (playbackBarrierRecoveryResult query disposition mediaGeneration) } }]

def recoveryQueryIsValid (query : PlaybackBarrierRecoveryPayload) : Bool :=
  query.disposition.isNone && query.mediaGeneration.isNone
    && 0 < query.originalRequestNonce && 0 < query.recoveryNonce
    && validPlaybackBarrierRequestId query.requestId
    && !(trimText query.logicalMediaId).isEmpty
    && query.logicalMediaId.length ≤ playbackBarrierMaxLogicalMediaIdChars

/-- Recovery of a policy-only operation by its request identity. -/
def recoverPolicy (clientId roomName : String) (query : PlaybackBarrierRecoveryPayload)
    (control : RoomBufferingControl) : ServerM Outbound := do
  if control.config.requestNonce != query.originalRequestNonce then
    pure (recoveryReply clientId query .rejected (some control.config.mediaGeneration))
  else do
    rebindRoomBufferingOwnerIfNewer clientId roomName
    let s ← Prog.get
    let config := s.roomBufferingControls[roomName]?.map (·.config)
    pure [s.playbackBarrierMessage roomName clientId
      { bufferingPolicy := config
        recovery := some (playbackBarrierRecoveryResult query .recovered
          (config.map (·.mediaGeneration)))
        bufferingStatus := s.roomBufferingStatus roomName }]

/-- Recovery against the barrier the room holds now. -/
def recoverBarrier (clientId roomName : String) (query : PlaybackBarrierRecoveryPayload)
    (barrier : RoomPlaybackBarrier) : ServerM Outbound := do
  let generation := barrier.prepare.mediaGeneration
  let sameLogicalMedia := barrier.prepare.logicalMediaId == query.logicalMediaId
  let exactRequest := sameLogicalMedia
    && barrier.prepare.requestNonce == query.originalRequestNonce
    && barrier.prepare.requestId == some query.requestId
  let lifecycleIsActive := barrier.phase == .preparing || barrier.phase == .committed
    || barrier.phase == .awaitingDecision
  if exactRequest || (sameLogicalMedia && lifecycleIsActive) then do
    let rebound ←
      if exactRequest then rebindPlaybackBarrierOwnerIfNewer clientId roomName else pure false
    let rebinding ←
      if rebound then do
        let s ← Prog.get
        let buffering ← evaluateRoomBufferingAt roomName s.currentTimeSeconds true
        pure (s.playbackBarrierStatusFanout roomName ++ buffering)
      else
        pure []
    let s ← Prog.get
    let recovery := playbackBarrierRecoveryResult query
      (if exactRequest then .recovered else .existing) (some generation)
    pure (rebinding ++
      s.playbackBarrierSnapshotForClientWithRecovery roomName clientId (some recovery))
  else if sameLogicalMedia then
    pure (recoveryReply clientId query .absent none)
  else
    pure (recoveryReply clientId query .superseded (some generation))

def handlePlaybackBarrierRecovery (clientId : String) (query : PlaybackBarrierRecoveryPayload) :
    ServerM Outbound := do
  let s ← Prog.get
  match s.sessions[clientId]? with
  | none => Prog.throw (.missingSession clientId)
  | some session =>
      let roomName := session.room
      let authorized := !s.playbackBarrierFencedClients.contains clientId
        && s.userCanControlPlaylist session.username roomName
      if !session.capabilities.playbackBarrierV1 then
        pure []
      else if !recoveryQueryIsValid query || !authorized then
        pure (recoveryReply clientId query .rejected none)
      else do
        Prog.modify (·.prunePlaybackBarrierRequestTombstones)
        let s ← Prog.get
        match s.roomPlaybackBarriers[roomName]?.filter fun barrier =>
            barrier.prepare.requestId == some query.requestId with
        | some barrier =>
            if barrier.prepare.requestNonce == query.originalRequestNonce
                && barrier.prepare.logicalMediaId == query.logicalMediaId then
              recoverBarrier clientId roomName query barrier
            else
              pure (recoveryReply clientId query .rejected (some barrier.prepare.mediaGeneration))
        | none =>
          match s.roomBufferingControls[roomName]?.filter fun control =>
              control.config.requestId == some query.requestId with
          | some control => recoverPolicy clientId roomName query control
          | none =>
            match s.requestTombstone roomName query.requestId with
            | some tombstone =>
                let tombstoneMatches := tombstone.requestNonce == query.originalRequestNonce
                  && tombstone.logicalMediaIdDigest.all
                    (· == s.logicalMediaIdDigest query.logicalMediaId)
                pure (recoveryReply clientId query
                  (if tombstoneMatches then .superseded else .rejected)
                  (some tombstone.mediaGeneration))
            | none =>
              match s.roomPlaybackBarriers[roomName]? with
              | none => pure (recoveryReply clientId query .absent none)
              | some barrier => recoverBarrier clientId roomName query barrier

/-! ### Entry points -/

def handlePlaybackBarrierSet (clientId : String) (extension : PlaybackBarrierSetRequest) :
    ServerM Outbound := do
  match extension.recovery with
  | some recovery => handlePlaybackBarrierRecovery clientId recovery
  | none => do
      let s ← Prog.get
      if s.playbackBarrierFencedClients.contains clientId then
        pure []
      else match extension.prepare with
        | none =>
            match extension.bufferingPolicy with
            | none => pure []
            | some policy => configureRoomBufferingPolicy clientId policy false
        | some prepare => do
            let started ← startPlaybackBarrier clientId prepare
            let t ← Prog.get
            match extension.bufferingPolicy with
            | some policy =>
                if s.nextPlaybackBarrierGeneration < t.nextPlaybackBarrierGeneration then
                  let configured ← configureRoomBufferingPolicy clientId policy true
                  pure (started ++ configured)
                else
                  pure started
            | none => pure started

def handlePlaybackBarrierState (clientId : String) (extension : PlaybackBarrierStateExtension) :
    ServerM Outbound := do
  let s ← Prog.get
  if s.playbackBarrierFencedClients.contains clientId then
    pure []
  else do
    let ready ← Prog.onSome (recordPlaybackBarrierReady clientId) extension.ready
    let started ← Prog.onSome (recordPlaybackBarrierStarted clientId) extension.started
    let transport ← Prog.onSome (recordRoomBufferingReport clientId) extension.transport
    pure (ready ++ started ++ transport)

end Sorotte.Server
