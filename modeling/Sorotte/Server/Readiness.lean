import Sorotte.Server.PlaybackStart

/-! # Readiness memberships, intents and technical reports

  The rest of `runtime_readiness.rs`: attaching and detaching memberships, the
  mixed-room cohort, staged player transport, readiness intents, technical
  reports and the bridge from plain Ready messages.  Each of these may be the
  last thing a coordinated start was waiting for.
-/

namespace Sorotte.Server

open Sorotte.Framework

namespace ServerRuntime

def pruneReadinessReconnectCache (s : ServerRuntime) : ServerRuntime :=
  { s with
    pendingUserTransportByClient :=
      s.pendingUserTransportByClient.filter fun _ pending =>
        s.localTimeSeconds < pending.expiresAtSeconds
    readinessReconnectCache := s.readinessReconnectCache.filter fun _ membership =>
      s.localTimeSeconds - membership.detachedAtSeconds < readinessReconnectTtlSeconds }

/-! ### Attach -/

/-- The generation a joining member's technical state refers to. -/
def joiningGeneration (s : ServerRuntime) (roomName : String) : Option Nat :=
  (s.readinessMediaGeneration roomName).or <|
    ((s.roomPlaybackBarriers[roomName]?.filter fun barrier =>
        barrier.phase == .preparing || barrier.phase == .committed).map
      (·.prepare.mediaGeneration)).or <|
      (s.roomBufferingControls[roomName]?.filter fun control =>
        !control.retiredForSelection).map (·.config.mediaGeneration)

/-- The detached membership a presented token restores. -/
def restorableMembership (s : ServerRuntime) (session : ServerSession)
    (presentedToken : Option String) : Option DetachedReadinessMembership :=
  (presentedToken.filter fun token => token.utf8ByteSize ≤ readinessMaxOperationIdBytes).bind
    fun token => s.readinessReconnectCache[s.sha256 token]?.filter fun membership =>
      membership.roomName == session.room && membership.username == session.username

/-- Takes the restored membership out of the cache and binds the reconnect
    token the connection will present next time. -/
def bindReconnectIdentity (s : ServerRuntime) (clientId : String) (session : ServerSession)
    (presentedToken : Option String) (freshToken : String) : ServerRuntime :=
  match presentedToken, s.restorableMembership session presentedToken with
  | some token, some _ =>
      { s with
        readinessReconnectCache := s.readinessReconnectCache.erase (s.sha256 token)
        readinessReconnectIdentityByClient :=
          s.readinessReconnectIdentityByClient.insert clientId token }
  | _, _ =>
      { s with
        readinessReconnectIdentityByClient :=
          s.readinessReconnectIdentityByClient.insert clientId freshToken }

/-- A member's first record in the room. -/
def freshParticipant (clientId : String) (membershipEpoch : Nat) (intent : UserReadinessIntent)
    (role : StartParticipationRole) (generation : Option Nat) : ServerReadinessParticipant :=
  { clientId
    record :=
      { membershipEpoch
        lastTechnicalReportSequence := 0
        userIntent := intent
        userIntentRevision := 0
        lastUserMutation := none
        technicalState := initialTechnicalState generation
        terminalTechnicalBlock := none
        participationRole := role
        roomReady := false
        startEligible := false }
    initializationOpen := true
    highestRequestNonce := 0
    acceptedOperations := ∅
    pendingAutomaticPauseOwner := none
    lastTechnicalObservedAt := none }

/-- The record of a member whose detached membership is restored. -/
def restoredParticipant (clientId : String) (restored : DetachedReadinessMembership)
    (role : StartParticipationRole) (generation : Option Nat) : ServerReadinessParticipant :=
  { clientId
    record :=
      { membershipEpoch := restored.membershipEpoch
        lastTechnicalReportSequence := restored.lastTechnicalReportSequence
        userIntent := restored.userIntent
        userIntentRevision := restored.userIntentRevision
        lastUserMutation := restored.lastUserMutation
        technicalState := initialTechnicalState generation
        terminalTechnicalBlock := none
        participationRole := role
        roomReady := false
        startEligible := false }
    initializationOpen := false
    highestRequestNonce := 0
    acceptedOperations := restored.acceptedOperations
    pendingAutomaticPauseOwner := none
    lastTechnicalObservedAt := none }

/-- The record a member brings to a coordinator that is at `revision`. -/
def joinedRecord (record : ParticipantReadiness) (revision : Nat) (mediaGeneration : Option Nat) :
    ParticipantReadiness :=
  { recomputeParticipantReadiness record mediaGeneration with
    lastUserMutation := record.lastUserMutation.or
      (some { source := .initialization, roomReadinessRevision := revision }) }

/-- The coordinator after `participant` joined it under `username`. -/
def joinedCoordinator (room : RoomReadinessCoordinator) (username : String)
    (participant : ServerReadinessParticipant) (restoredRevision : Nat)
    (generation : Option Nat) : RoomReadinessCoordinator :=
  let revision := max room.revision restoredRevision + 1
  let mediaGeneration := generation.or room.mediaGeneration
  { room with
    revision
    mediaGeneration
    participants := room.participants.insert username
      { participant with record := joinedRecord participant.record revision mediaGeneration } }

def joinCoordinator (s : ServerRuntime) (roomName username : String)
    (participant : ServerReadinessParticipant) (restoredRevision : Nat)
    (generation : Option Nat) : ServerRuntime :=
  { s with
    roomReadiness := s.roomReadiness.insert roomName
      (joinedCoordinator (s.roomReadiness.getD roomName {}) username participant
        restoredRevision generation) }

/-- A preparing start claims the pause unless a user holds it. -/
def claimPauseForActiveStart (s : ServerRuntime) (roomName : String) : ServerRuntime :=
  match s.roomPlaybackBarriers[roomName]?, s.roomReadiness[roomName]? with
  | some barrier, some room =>
      if barrier.phase = .preparing ∧ !room.pauseOwner.isUser then
        s.setReadinessPauseOwner roomName (.readinessStartGate barrier.prepare.mediaGeneration)
      else s
  | _, _ => s

/-- The runtime after the client joined the coordinator, before the cohort is
    reconciled. -/
def joinedMembership (s : ServerRuntime) (clientId : String) (session : ServerSession)
    (restored : Option DetachedReadinessMembership) (seedSyncplayReadyIntent : Bool) :
    ServerRuntime :=
  let role : StartParticipationRole :=
    if session.capabilities.playbackBarrierV1 then .required else .excludedUnsupported
  let generation := s.joiningGeneration session.room
  let intent : UserReadinessIntent :=
    if seedSyncplayReadyIntent
        ∧ s.storedUserReady session.username session.room = some true then .ready
    else .notReady
  match restored with
  | some restored =>
      s.joinCoordinator session.room session.username
        (restoredParticipant clientId restored role generation)
        restored.roomReadinessRevision generation
  | none =>
      { s with
        nextReadinessMembershipEpoch := s.nextReadinessMembershipEpoch + 1
      }.joinCoordinator session.room session.username
        (freshParticipant clientId s.nextReadinessMembershipEpoch intent role generation)
        0 generation

/-- The runtime after the client's membership is part of the room's
    coordinator, restored from `restored` or with a fresh epoch. -/
def attachMembership (s : ServerRuntime) (clientId : String) (session : ServerSession)
    (restored : Option DetachedReadinessMembership) (seedSyncplayReadyIntent : Bool) :
    ServerRuntime :=
  (((s.joinedMembership clientId session restored seedSyncplayReadyIntent
    ).reconcileMixedReadinessCohortState session.room).claimPauseForActiveStart session.room
    ).refreshReadinessGatePhase session.room

end ServerRuntime

def attachReadinessMembership (clientId : String) (presentedToken : Option String)
    (freshToken : String) (issueReconnectToken seedSyncplayReadyIntent : Bool) :
    ServerM Outbound := do
  Prog.modify (·.clearPendingUserTransport clientId)
  let s ← Prog.get
  match s.sessions[clientId]? with
  | none => Prog.throw (.missingSession clientId)
  | some session =>
      if !s.readinessEnabled || !session.capabilities.readinessV2 then
        pure []
      else do
        Prog.modify (·.pruneReadinessReconnectCache)
        let s ← Prog.get
        let restored :=
          if issueReconnectToken then s.restorableMembership session presentedToken else none
        Prog.modify fun s => if issueReconnectToken then
            s.bindReconnectIdentity clientId session presentedToken freshToken else s
        let s ← Prog.get
        let generation := s.joiningGeneration session.room
        let wasPreparing := s.barrierPhase session.room = some .preparing
        Prog.modify (·.attachMembership clientId session restored seedSyncplayReadyIntent)
        let s ← Prog.get
        let roomReady := (s.readinessRecord session.room session.username).any (·.roomReady)
        setRosterReady session.username session.room roomReady
        let s ← Prog.get
        let status := if wasPreparing then s.playbackBarrierStatusFanout session.room else []
        let snapshot := if s.roomPlaybackBarriers[session.room]?.any fun barrier =>
            some barrier.prepare.mediaGeneration == generation then
          s.playbackBarrierSnapshotForClient session.room clientId else []
        let committed ← maybeCommitReadinessGate session.room
        pure (s.syncplayReadinessProjectionFanout session.room session.username roomReady false
            none
          ++ s.readinessParticipantFanout session.room session.username none
          ++ s.readinessSnapshotFanoutWithMembership session.room (some clientId)
          ++ status ++ snapshot ++ committed)

/-! ### Detach -/

namespace ServerRuntime

/-- The digest of the membership detached longest ago. -/
def oldestDetachedMembership (cache : BTreeMap String DetachedReadinessMembership) :
    Option String :=
  (cache.toList.foldl (fun best entry =>
    match best with
    | none => some entry
    | some held =>
        if entry.2.detachedAtSeconds < held.2.detachedAtSeconds then some entry else some held)
    none).map Prod.fst

/-- Evicts the oldest memberships until one more fits. -/
def trimmedReconnectCache (cache : BTreeMap String DetachedReadinessMembership) :
    BTreeMap String DetachedReadinessMembership :=
  (List.range (cache.size + 1 - readinessReconnectMaxRetained)).foldl (fun cache _ =>
    match oldestDetachedMembership cache with
    | none => cache
    | some key => cache.erase key) cache

/-- Keeps a departed membership for the connection's reconnect token. -/
def retainForReconnect (s : ServerRuntime) (session : ServerSession)
    (participant : ServerReadinessParticipant) (roomRevision : Nat) (reconnectToken : String) :
    ServerRuntime :=
  let s := s.pruneReadinessReconnectCache
  { s with
    readinessReconnectCache := (trimmedReconnectCache s.readinessReconnectCache).insert
      (s.sha256 reconnectToken)
      { roomName := session.room
        username := session.username
        membershipEpoch := participant.record.membershipEpoch
        userIntent := participant.record.userIntent
        userIntentRevision := participant.record.userIntentRevision
        lastUserMutation := participant.record.lastUserMutation
        lastTechnicalReportSequence := participant.record.lastTechnicalReportSequence
        initializationOpen := participant.initializationOpen
        acceptedOperations := participant.acceptedOperations
        roomReadinessRevision := roomRevision
        detachedAtSeconds := s.localTimeSeconds } }

/-- Takes a member out of the room's coordinator. -/
def removeParticipant (s : ServerRuntime) (roomName username : String) : ServerRuntime :=
  (s.updateReadiness roomName fun room =>
    { room with
      participants := room.participants.erase username
      revision := room.revision + 1 }).refreshReadinessGatePhase roomName

/-- A coordinator that lost its last member is discarded. -/
def discardEmptyCoordinator (s : ServerRuntime) (roomName : String) : ServerRuntime :=
  if s.roomReadiness[roomName]?.any (·.participants.isEmpty) then
    { s with
      roomReadiness := s.roomReadiness.erase roomName
      history := .coordinatorRemoved roomName :: s.history }
  else s

end ServerRuntime

/-- Commits what the departed member held up, and discards a coordinator
    without members. -/
def settleDetachedMembership (roomName : String) : ServerM Outbound := do
  let snapshot ← Prog.gets (·.readinessSnapshotFanout roomName)
  let committed ← maybeCommitReadinessGate roomName
  let s ← Prog.get
  if s.roomReadiness[roomName]?.any (·.participants.isEmpty) then
    let cleared ← clearReadinessGate roomName
    Prog.modify (·.discardEmptyCoordinator roomName)
    pure (snapshot ++ committed ++ cleared)
  else
    pure (snapshot ++ committed)

def detachReadinessMembership (clientId : String) (retainForReconnect : Bool) :
    ServerM Outbound := do
  Prog.modify (·.clearPendingUserTransport clientId)
  let s ← Prog.get
  match s.sessions[clientId]? with
  | none => pure []
  | some session =>
    match s.readinessParticipant session.room session.username with
    | none => pure []
    | some participant =>
      if participant.clientId ≠ clientId then
        pure []
      else do
        let roomRevision := (s.roomReadiness[session.room]?.map (·.revision + 1)).getD 0
        Prog.modify (·.removeParticipant session.room session.username)
        Prog.modify fun s =>
          match retainForReconnect, s.readinessReconnectIdentityByClient[clientId]? with
          | true, some token => s.retainForReconnect session participant roomRevision token
          | _, _ => s
        settleDetachedMembership session.room

/-- Re-evaluates the mixed-room cohort after a capability or membership
    change. -/
def refreshMixedReadinessCohort (roomName : String) : ServerM Outbound := do
  let before ← Prog.get
  let changed := match before.readinessEnabled, before.roomReadiness[roomName]? with
    | true, some room => before.changedRoleUsernames roomName room
    | _, _ => []
  Prog.modify (·.reconcileMixedReadinessCohortState roomName)
  let s ← Prog.get
  let barrierChanged := before.readinessGoverned roomName
    && before.barrierCohortDiffers s roomName
  if changed.isEmpty && !barrierChanged then
    pure []
  else do
    Prog.modify (·.refreshReadinessGatePhase roomName)
    let s ← Prog.get
    let participants := changed.flatMap fun username =>
      s.readinessParticipantFanout roomName username none
    let snapshot := if changed.isEmpty then [] else s.readinessSnapshotFanout roomName
    let status := if barrierChanged then s.playbackBarrierStatusFanout roomName else []
    let committed ← maybeCommitReadinessGate roomName
    pure (participants ++ snapshot ++ status ++ committed)

/-! ### Staged player transport -/

namespace ServerRuntime

def storePendingUserTransport (s : ServerRuntime) (clientId roomName actor : String)
    (desiredPaused : Bool) (evidence : PendingUserTransportEvidence) : ServerRuntime :=
  match s.roomReadiness[roomName]? with
  | none => s.clearPendingUserTransport clientId
  | some room =>
      { s with
        pendingUserTransportByClient := s.pendingUserTransportByClient.insert clientId
          { roomName, actor, desiredPaused, evidence
            transportAuthorityRevision := room.transportAuthorityRevision
            expiresAtSeconds := s.localTimeSeconds + readinessUserTransportGraceSeconds } }

/-- Staged evidence of the client that fits a transition exactly; consuming it
    also removes whatever was staged. -/
def pendingUserTransportMatches (s : ServerRuntime) (clientId roomName actor : String)
    (desiredPaused : Bool) (evidence : PendingUserTransportEvidence) : Bool :=
  s.pendingUserTransportByClient[clientId]?.any fun pending =>
    pending.roomName == roomName && pending.actor == actor
      && pending.desiredPaused == desiredPaused && pending.evidence == evidence
      && some pending.transportAuthorityRevision
        == s.roomReadiness[roomName]?.map (·.transportAuthorityRevision)
      && s.localTimeSeconds < pending.expiresAtSeconds

/-- Ownership half of a staged transition: a pause is claimed for the user, a
    play releases whatever owner held the pause. -/
def ownStagedTransition (s : ServerRuntime) (roomName actor : String) (desiredPaused : Bool) :
    ServerRuntime :=
  if desiredPaused then s.claimUserPauseOwnership roomName actor
  else s.setReadinessPauseOwner roomName .none

/-- Where the client's own sample puts the room; the room's position if the
    client has none. -/
def watcherPosition (s : ServerRuntime) (clientId : String) (paused : Bool)
    (fallback now : Seconds) : Seconds :=
  (s.clientPlaybackStates[clientId]?.bind fun state => state.positionAt paused now).getD fallback

def applyStagedTransition (s : ServerRuntime) (clientId roomName actor : String)
    (desiredPaused : Bool) (now : Seconds) : ServerRuntime :=
  let before := s.roomPlaybackStateAt roomName now
  let owned := s.ownStagedTransition roomName actor desiredPaused
  if before.paused = desiredPaused then owned
  else owned.establishRoomTransport roomName
    { position := owned.watcherPosition clientId desiredPaused before.position now
      paused := desiredPaused
      setBy := some actor
      updatedAtSeconds := now }

end ServerRuntime

def applyStagedUserTransportTransition (clientId roomName actor : String)
    (desiredPaused : Bool) : ServerM Outbound := do
  let retired ← retireAwaitingPlaybackBarrierDecision clientId roomName
  let s ← Prog.get
  let now := s.currentTimeSeconds
  let owned := s.ownStagedTransition roomName actor desiredPaused
  let ownership := if desiredPaused then s.claimUserPauseMessages roomName actor
    else if s.readinessPauseOwnerDiffers roomName .none then
      owned.readinessSnapshotFanout roomName
    else []
  Prog.modify (·.applyStagedTransition clientId roomName actor desiredPaused now)
  if (s.roomPlaybackState roomName).paused = desiredPaused then
    pure (retired ++ ownership)
  else do
    let t ← Prog.get
    let room := t.roomPlaybackStateAt roomName now
    let states ← forcedStateFanout (t.clientsInRoom roomName) room.position room.paused
      (some false) (some actor)
    pure (retired ++ ownership ++ states)

namespace ServerRuntime

def automaticPauseOwnerFromReadiness (s : ServerRuntime) (roomName username : String) :
    Option RoomPauseOwner :=
  (s.readinessParticipant roomName username).bind fun participant =>
    participant.pendingAutomaticPauseOwner.or <|
      match participant.record.technicalState with
      | .temporarilyBlocked _ .recovery _ | .terminallyBlocked _ .recovery => some .recovery
      | .temporarilyBlocked _ .endOfFile _ | .terminallyBlocked _ .endOfFile =>
          some .endOfPlaylist
      | _ => none

def automaticTransportOwnerForObservation (s : ServerRuntime) (roomName username : String)
    (observedPaused : Bool) : Option RoomPauseOwner :=
  s.roomReadiness[roomName]?.bind fun room =>
    if observedPaused then
      match room.pauseOwner with
      | .none => s.automaticPauseOwnerFromReadiness roomName username
      | .user _ => none
      | owner => some owner
    else
      let playable := (s.readinessRecord roomName username).any fun record =>
        match record.technicalState with
        | .playable _ => true
        | _ => false
      if room.pauseOwner == .recovery && playable then some .recovery else none

/-! ### Intents -/

/-- The initialization of a membership is still open for the sender. -/
def initializationIsOpen (s : ServerRuntime) (session : ServerSession) : Bool :=
  (s.readinessParticipant session.room session.username).any fun participant =>
    participant.initializationOpen && participant.record.userIntent == .notReady
      && participant.record.userIntentRevision == 0
      && match participant.record.lastUserMutation with
        | some mutation => mutation.source == .initialization
        | none => false

/-- A repeated operation identity: rejected when its content differs. -/
def repeatedOperationStatus (s : ServerRuntime) (session : ServerSession)
    (request : ReadinessIntentRequest) (targetUsername : String)
    (existing : AcceptedReadinessOperation) : ReadinessRequestResultStatus :=
  if existing.membershipEpoch = request.membershipEpoch ∧ existing.desired = request.desired
      ∧ existing.source = request.source ∧ existing.targetUsername = request.targetUsername then
    if (s.readinessRecord session.room targetUsername).any fun record =>
        record.userIntentRevision == existing.acceptedUserIntentRevision then .duplicate
    else .superseded
  else .rejectedInvalid

/-- Why an intent is not applied, before its nonce is consumed. -/
def intentDisposition (s : ServerRuntime) (session : ServerSession)
    (request : ReadinessIntentRequest) : Option ReadinessRequestResultStatus :=
  let targetUsername := request.targetUsername.getD session.username
  let participant := s.readinessParticipant session.room session.username
  if targetUsername ≠ session.username
      ∧ !s.userCanControlPlaylist session.username session.room then
    some .rejectedUnauthorized
  else if request.operationId.isEmpty
      ∨ readinessMaxOperationIdBytes < request.operationId.utf8ByteSize
      ∨ request.requestNonce = 0
      ∨ !readinessIntentSourceMatchesDesired request.source request.desired then
    some .rejectedInvalid
  else if participant.map (·.record.membershipEpoch) ≠ some request.membershipEpoch then
    some .rejectedStaleMembership
  else match participant.bind (·.acceptedOperations[request.operationId]?) with
    | some existing => some (s.repeatedOperationStatus session request targetUsername existing)
    | none =>
        if request.source = .initialization
            ∧ (targetUsername ≠ session.username ∨ !s.initializationIsOpen session) then
          some .rejectedInvalid
        else if request.requestNonce ≤ (participant.map (·.highestRequestNonce)).getD 0 then
          some .rejectedStaleNonce
        else none

def updateParticipant (s : ServerRuntime) (roomName username : String)
    (f : ServerReadinessParticipant → ServerReadinessParticipant) : ServerRuntime :=
  s.updateReadiness roomName fun room =>
    { room with participants := room.participants.modify username f }

/-- The record after its user's intent changed. -/
def mutatedRecord (record : ParticipantReadiness) (desired : UserReadinessIntent)
    (metadata : ReadinessMutationMetadata) (generation : Option Nat) : ParticipantReadiness :=
  recomputeParticipantReadiness
    { record with
      userIntent := desired
      userIntentRevision := record.userIntentRevision + 1
      lastUserMutation := some metadata } generation

/-- The state half of `mutate_readiness_intent`. -/
def mutateReadinessIntent (s : ServerRuntime) (roomName targetUsername : String)
    (desired : UserReadinessIntent) (source : ReadinessMutationSource) (actor : String)
    (operationId : Option String) : ServerRuntime :=
  s.updateReadiness roomName fun room =>
    { room with
      revision := room.revision + 1
      participants := room.participants.modify targetUsername fun participant =>
        { participant with
          record := mutatedRecord participant.record desired
            { source, actor := some actor, operationId
              roomReadinessRevision := room.revision + 1 } room.mediaGeneration } }

/-- Remembers an accepted operation under its identity. -/
def recordAcceptedOperation (s : ServerRuntime) (session : ServerSession)
    (request : ReadinessIntentRequest) (acceptedRevision acceptedUserIntentRevision : Nat) :
    ServerRuntime :=
  s.updateParticipant session.room session.username fun participant =>
    { participant with
      initializationOpen := false
      acceptedOperations := trimReadinessOperations <|
        participant.acceptedOperations.insert request.operationId
          { membershipEpoch := request.membershipEpoch
            desired := request.desired
            source := request.source
            targetUsername := request.targetUsername
            acceptedRevision
            acceptedUserIntentRevision } }

/-- A Ready intent re-arms a preparing start's claim on the pause. -/
def rearmStartGate (s : ServerRuntime) (roomName : String) : ServerRuntime :=
  match s.roomPlaybackBarriers[roomName]? with
  | some barrier =>
      if barrier.phase = .preparing then
        s.setReadinessPauseOwner roomName (.readinessStartGate barrier.prepare.mediaGeneration)
      else s
  | none => s

end ServerRuntime

/-- The playstate an indirect player action asks for. -/
def indirectPlayerDesiredPaused : UserReadinessMutationSource → Option Bool
  | .indirectPlayer .pause _ => some true
  | .indirectPlayer .play _ => some false
  | .initialization | .directUser _ => none

/-- The transport consequence of an accepted indirect player action. -/
def applyIndirectPlayerTransport (clientId : String) (session : ServerSession)
    (desiredPaused stagedObservationMatches : Bool) : ServerM Outbound := do
  let s ← Prog.get
  let gateHoldsPlay := !desiredPaused ∧ s.barrierPhase session.room = some .preparing
  if stagedObservationMatches ∧ ¬gateHoldsPlay then
    applyStagedUserTransportTransition clientId session.room session.username desiredPaused
  else if (s.roomPlaybackState session.room).paused = desiredPaused then do
    let retired ← retireAwaitingPlaybackBarrierDecision clientId session.room
    let claimed ← Prog.when desiredPaused
      (claimUserPauseOwnership session.room session.username)
    pure (retired ++ claimed)
  else if ¬gateHoldsPlay then do
    Prog.modify (·.storePendingUserTransport clientId session.room session.username desiredPaused
      .acceptedIndirectAction)
    pure []
  else
    pure []

/-- Applies an intent whose nonce was fresh and whose target exists. -/
def acceptReadinessIntent (clientId : String) (session : ServerSession)
    (request : ReadinessIntentRequest) : ServerM Outbound := do
  let s ← Prog.get
  let roomName := session.room
  let targetUsername := request.targetUsername.getD session.username
  let targetIsSelf := targetUsername = session.username
  let mayControlRoomTransport :=
    targetIsSelf ∧ s.userCanControlPlaylist session.username roomName
  let stagedObservationMatches := (indirectPlayerDesiredPaused request.source).any fun paused =>
    mayControlRoomTransport && s.pendingUserTransportMatches clientId roomName session.username
      paused .unclassifiedObservation
  Prog.modify (·.clearPendingUserTransport clientId)
  let source := if targetIsSelf then canonicalUserSource request.source
    else .controllerOverride session.username
  Prog.modify (·.mutateReadinessIntent roomName targetUsername request.desired source
    session.username (some request.operationId))
  let s ← Prog.get
  let acceptedRevision := (s.roomReadiness[roomName]?.map (·.revision)).getD 0
  let record := s.readinessRecord roomName targetUsername
  let roomReady := record.any (·.roomReady)
  Prog.modify (·.recordAcceptedOperation session request acceptedRevision
    ((record.map (·.userIntentRevision)).getD 0))
  setRosterReady targetUsername roomName roomReady
  let s ← Prog.get
  let gateIsPreparing := s.barrierPhase roomName = some .preparing
  let transport ← Prog.onSome (fun desiredPaused => Prog.when mayControlRoomTransport
      (applyIndirectPlayerTransport clientId session desiredPaused stagedObservationMatches))
    (indirectPlayerDesiredPaused request.source)
  Prog.modify fun s =>
    if request.desired = .ready ∧ gateIsPreparing then s.rearmStartGate roomName else s
  Prog.modify (·.refreshReadinessGatePhase roomName)
  let s ← Prog.get
  let committed ← maybeCommitReadinessGate roomName
  pure (s.syncplayReadinessProjectionFanout roomName targetUsername roomReady
      (request.source != .initialization) (some session.username)
    ++ transport
    ++ s.readinessParticipantFanout roomName targetUsername (some (clientId, request.operationId))
    ++ s.readinessSnapshotFanout roomName
    ++ s.readinessRequestResultMessage clientId request .accepted (some acceptedRevision)
      ((s.readinessRecord roomName session.username).map (·.membershipEpoch))
    ++ committed)

/-- Answers an intent that is not applied. -/
def rejectReadinessIntent (clientId : String) (session : ServerSession)
    (request : ReadinessIntentRequest) (status : ReadinessRequestResultStatus) :
    ServerM Outbound := do
  -- a mere duplicate leaves the evidence of the first copy staged
  Prog.modify fun s =>
    if status = .duplicate then s else s.clearPendingUserTransport clientId
  let s ← Prog.get
  pure (s.readinessRequestResultMessage clientId request status
    (s.roomReadiness[session.room]?.map (·.revision))
    ((s.readinessRecord session.room session.username).map (·.membershipEpoch)))

def applyReadinessIntent (clientId : String) (request : ReadinessIntentRequest) :
    ServerM Outbound := do
  let s ← Prog.get
  match s.sessions[clientId]? with
  | none => Prog.throw (.missingSession clientId)
  | some session =>
      if !s.readinessEnabled || !session.capabilities.readinessV2 then do
        Prog.modify (·.clearPendingUserTransport clientId)
        pure []
      else match s.intentDisposition session request with
        | some status => rejectReadinessIntent clientId session request status
        | none => do
            let targetRevision := (s.readinessRecord session.room
              (request.targetUsername.getD session.username)).map (·.userIntentRevision)
            Prog.modify (·.updateParticipant session.room session.username fun participant =>
              { participant with highestRequestNonce := request.requestNonce })
            match targetRevision with
            | none => rejectReadinessIntent clientId session request .rejectedInvalid
            | some targetRevision =>
                if request.expectedUserIntentRevision.any (· != targetRevision) then
                  rejectReadinessIntent clientId session request .rejectedRevisionConflict
                else
                  acceptReadinessIntent clientId session request

/-! ### Technical reports -/

namespace ServerRuntime

def authoritativePlaybackRevision (s : ServerRuntime) (roomName : String)
    (reason : Option TechnicalBlockCause) : Option Nat :=
  let policyRevision := if reason = some .roomBufferingPolicy then
      (s.roomBufferingControls[roomName]?.filter fun control =>
        s.readinessMediaGeneration roomName == some control.config.mediaGeneration).bind
          (·.config.stateRevision)
    else none
  policyRevision.or <| s.roomPlaybackBarriers[roomName]?.bind fun barrier =>
    if barrier.commit.isSome then barrier.stateRevision else none

def technicalReadinessReportIsCurrent (s : ServerRuntime) (clientId : String)
    (report : TechnicalReadinessReport) : Bool :=
  match s.sessions[clientId]? with
  | none => false
  | some session =>
      s.readinessEnabled && session.capabilities.readinessV2 && report.membershipEpoch != 0
        && report.reportSequence != 0
        && s.readinessMediaGeneration session.room == some report.mediaGeneration
        && ((s.readinessParticipant session.room session.username).any fun participant =>
          participant.clientId == clientId
            && participant.record.membershipEpoch == report.membershipEpoch
            && participant.record.lastTechnicalReportSequence < report.reportSequence
            && report.observedAt.all fun observedAt => match observedAt with
              | .finite observedAt => participant.lastTechnicalObservedAt.all (· ≤ observedAt)
              | .nonFinite => false)
        && report.authoritativePlaybackRevision
          == s.authoritativePlaybackRevision session.room report.reason

end ServerRuntime

def reportedTechnicalState (report : TechnicalReadinessReport) (generation : Nat) :
    TechnicalPlayability :=
  match report.phase with
  | .unknown => .unknown
  | .preparing => .preparing generation
  | .playable => .playable generation
  | .temporarilyBlocked => .temporarilyBlocked generation (report.reason.getD .unknown)
      (report.recovery.getD .notStarted)
  | .terminallyBlocked => .terminallyBlocked generation (report.reason.getD .unknown)

def reportedPauseOwner (report : TechnicalReadinessReport) : Option RoomPauseOwner :=
  match report.reason with
  | some .endOfFile => some .endOfPlaylist
  | some .recovery => some .recovery
  | _ => none

/-- The participant after a current technical report. -/
def reportedParticipant (participant : ServerReadinessParticipant)
    (report : TechnicalReadinessReport) (generation : Nat) : ServerReadinessParticipant :=
  let technicalState := reportedTechnicalState report generation
  { participant with
    record := recomputeParticipantReadiness
      { participant.record with
        technicalState
        lastTechnicalReportSequence := report.reportSequence
        terminalTechnicalBlock := match technicalState with
          | .terminallyBlocked _ cause => some { mediaGeneration := generation, cause }
          | .playable _ => none
          | _ => participant.record.terminalTechnicalBlock } (some generation)
    lastTechnicalObservedAt :=
      (report.observedAt.bind F64.finite?).or participant.lastTechnicalObservedAt
    pendingAutomaticPauseOwner := match reportedPauseOwner report, technicalState with
      | some owner, _ => some owner
      | none, .unknown | none, .playable _ => none
      | none, _ => participant.pendingAutomaticPauseOwner }

namespace ServerRuntime

/-- A current report always changes the record: its sequence is new. -/
def storeTechnicalReport (s : ServerRuntime) (session : ServerSession)
    (report : TechnicalReadinessReport) (generation : Nat) : ServerRuntime :=
  s.updateReadiness session.room fun room =>
    { room with
      revision := room.revision + 1
      participants := room.participants.modify session.username fun participant =>
        reportedParticipant participant report generation }

/-- The automatic owner a report installs or releases. -/
def ownerAfterReport (s : ServerRuntime) (roomName : String)
    (report : TechnicalReadinessReport) : Option RoomPauseOwner :=
  let current := (s.roomReadiness[roomName]?.map (·.pauseOwner)).getD .none
  if (s.roomPlaybackState roomName).paused then
    (reportedPauseOwner report).filter fun owner => current == .none || current == owner
  else if current = .recovery then some .none
  else none

def applyReportedOwner (s : ServerRuntime) (roomName : String)
    (report : TechnicalReadinessReport) : ServerRuntime :=
  match s.ownerAfterReport roomName report with
  | some owner => s.setReadinessPauseOwner roomName owner
  | none => s

end ServerRuntime

def applyTechnicalReadinessReport (clientId : String) (report : TechnicalReadinessReport) :
    ServerM Outbound := do
  let s ← Prog.get
  match s.sessions[clientId]? with
  | none => Prog.throw (.missingSession clientId)
  | some session =>
    match s.technicalReadinessReportIsCurrent clientId report,
        s.readinessMediaGeneration session.room with
    | true, some generation => do
        let roomName := session.room
        let beforeRoomReady := (s.readinessRecord roomName session.username).any (·.roomReady)
        Prog.modify (·.storeTechnicalReport session report generation)
        let s ← Prog.get
        let roomReady := (s.readinessRecord roomName session.username).any (·.roomReady)
        setRosterReady session.username roomName roomReady
        Prog.modify (·.applyReportedOwner roomName report)
        Prog.modify (·.refreshReadinessGatePhase roomName)
        let s ← Prog.get
        let projection := if beforeRoomReady != roomReady then
            s.syncplayReadinessProjectionFanout roomName session.username roomReady false none
          else []
        let committed ← maybeCommitReadinessGate roomName
        pure (projection ++ s.readinessParticipantFanout roomName session.username none
          ++ s.readinessSnapshotFanout roomName ++ committed)
    | _, _ => pure []

/-! ### Plain Ready messages -/

/-- Maps a plain Ready of a non-V2 sender onto the V2 record of its target;
    `none` when the target has no V2 membership. -/
def applySyncplayReadyToReadinessV2 (clientId targetUsername : String)
    (desired manuallyInitiated : Bool) : ServerM (Option Outbound) := do
  let s ← Prog.get
  if !s.readinessEnabled then
    pure none
  else match s.sessions[clientId]? with
    | none => Prog.throw (.missingSession clientId)
    | some session =>
        let roomName := session.room
        let targetIsSelf := targetUsername = session.username
        if (s.readinessRecord roomName targetUsername).isNone then
          pure none
        else if session.capabilities.readinessV2
            || (!targetIsSelf && !s.userCanControlPlaylist session.username roomName) then
          pure (some [])
        else do
          let source : ReadinessMutationSource :=
            if targetIsSelf then
              if manuallyInitiated then .directUser .remoteControlSurface else .initialization
            else .controllerOverride session.username
          Prog.modify (·.mutateReadinessIntent roomName targetUsername
            (if desired then .ready else .notReady) source session.username none)
          let s ← Prog.get
          let roomReady := (s.readinessRecord roomName targetUsername).any (·.roomReady)
          setRosterReady targetUsername roomName roomReady
          Prog.modify (·.refreshReadinessGatePhase roomName)
          let s ← Prog.get
          let committed ← maybeCommitReadinessGate roomName
          pure (some (s.syncplayReadinessProjectionFanout roomName targetUsername roomReady
              (manuallyInitiated || !targetIsSelf) (some session.username)
            ++ s.readinessParticipantFanout roomName targetUsername none
            ++ s.readinessSnapshotFanout roomName ++ committed))

/-! ### Entry points -/

def handleReadinessSet (clientId : String) (intent : Option ReadinessIntentRequest) :
    ServerM Outbound := do
  let s ← Prog.get
  match s.readinessEnabled, intent with
  | true, some intent => applyReadinessIntent clientId intent
  | _, _ => pure []

def handleReadinessState (clientId : String) (technical : Option TechnicalReadinessReport) :
    ServerM Outbound := do
  let s ← Prog.get
  match technical with
  | some report =>
      if s.readinessEnabled && s.technicalReadinessReportIsCurrent clientId report then
        applyTechnicalReadinessReport clientId report
      else
        pure []
  | none => pure []

end Sorotte.Server
