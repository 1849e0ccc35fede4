import Sorotte.Quotas.Programs

/-! # Handlers that quotas do not see

  Memberships, intents, technical reports, States and the Set commands other
  than playlist changes.
-/

namespace Sorotte.Server

open Sorotte.Framework Sorotte.Framework.Prog ServerRuntime

variable {clientId room freshToken : String} {session : ServerSession}

/-! ### Memberships -/

instance : IgnoresRooms (·.clearPendingUserTransport clientId) := ⟨fun _ => rfl⟩

instance : IgnoresRooms (·.pruneReadinessReconnectCache) := ⟨fun _ => rfl⟩

instance {presentedToken : Option String} :
    IgnoresRooms (·.bindReconnectIdentity clientId session presentedToken freshToken) :=
  ⟨fun s => s.persistentRooms_bindReconnectIdentity clientId session presentedToken freshToken⟩

instance {restored : Option DetachedReadinessMembership} {seed : Bool} :
    IgnoresRooms (·.attachMembership clientId session restored seed) :=
  ⟨fun s => s.persistentRooms_attachMembership clientId session restored seed⟩

instance {username : String} : IgnoresRooms (·.removeParticipant room username) := ⟨fun _ => rfl⟩

instance : IgnoresRooms (·.discardEmptyCoordinator room) :=
  ⟨fun s => s.persistentRooms_discardEmptyCoordinator room⟩

instance : IgnoresRooms (·.reconcileMixedReadinessCohortState room) :=
  ⟨fun s => s.persistentRooms_reconcileMixedReadinessCohortState room⟩

instance : IgnoresRooms (·.refreshReadinessGatePhase room) := ⟨fun _ => rfl⟩

instance {presentedToken : Option String} {issueReconnectToken seed : Bool} :
    KeepsRooms (attachReadinessMembership clientId presentedToken freshToken issueReconnectToken
      seed) := by
  unfold attachReadinessMembership
  apply keeps_then
  intro _
  apply keeps_get_bind
  intro s
  split
  · infer_instance
  · apply keeps_branch
    · infer_instance
    · apply keeps_then
      intro _
      apply keeps_get_bind
      intro t
      dsimp only
      apply keeps_then
      intro _
      infer_instance

instance : KeepsRooms (settleDetachedMembership room) := by
  unfold settleDetachedMembership
  infer_instance

instance {retain : Bool} : KeepsRooms (detachReadinessMembership clientId retain) := by
  unfold detachReadinessMembership
  apply keeps_then
  intro _
  apply keeps_get_bind
  intro s
  split
  · infer_instance
  · split
    · infer_instance
    · apply keeps_branch
      · infer_instance
      · apply keeps_then
        intro _
        apply keeps_modify_then
        · intro t
          split
          · exact t.persistentRooms_retainForReconnect _ _ _ _
          · rfl
        · infer_instance

instance : KeepsRooms (refreshMixedReadinessCohort room) := by
  unfold refreshMixedReadinessCohort
  infer_instance

/-! ### Intents -/

instance {actor : String} {desiredPaused : Bool} {evidence : PendingUserTransportEvidence} :
    IgnoresRooms (·.storePendingUserTransport clientId room actor desiredPaused evidence) :=
  ⟨fun s => s.persistentRooms_storePendingUserTransport room clientId actor desiredPaused
    evidence⟩

instance {actor : String} {desiredPaused : Bool} {now : Seconds} :
    IgnoresRooms (·.applyStagedTransition clientId room actor desiredPaused now) :=
  ⟨fun s => s.persistentRooms_applyStagedTransition room clientId actor desiredPaused now⟩

instance {actor : String} {desiredPaused : Bool} :
    KeepsRooms (applyStagedUserTransportTransition clientId room actor desiredPaused) := by
  unfold applyStagedUserTransportTransition
  infer_instance

instance {desiredPaused stagedObservationMatches : Bool} :
    KeepsRooms (applyIndirectPlayerTransport clientId session desiredPaused
      stagedObservationMatches) := by
  unfold applyIndirectPlayerTransport
  infer_instance

instance {target actor : String} {desired : UserReadinessIntent} {source : ReadinessMutationSource}
    {operationId : Option String} :
    IgnoresRooms (·.mutateReadinessIntent room target desired source actor operationId) :=
  ⟨fun _ => rfl⟩

instance {request : ReadinessIntentRequest} {revision intentRevision : Nat} :
    IgnoresRooms (·.recordAcceptedOperation session request revision intentRevision) :=
  ⟨fun _ => rfl⟩

instance {username : String} {f : ServerReadinessParticipant → ServerReadinessParticipant} :
    IgnoresRooms (·.updateParticipant room username f) := ⟨fun _ => rfl⟩

instance : IgnoresRooms (·.rearmStartGate room) := ⟨fun s => s.persistentRooms_rearmStartGate room⟩

section intents

variable {request : ReadinessIntentRequest}

instance : KeepsRooms (acceptReadinessIntent clientId session request) := by
  unfold acceptReadinessIntent
  apply keeps_get_bind
  intro s
  dsimp only
  apply keeps_then
  intro _
  apply keeps_then
  intro _
  apply keeps_get_bind
  intro t
  apply keeps_then
  intro _
  apply keeps_then
  intro _
  apply keeps_get_bind
  intro u
  apply keeps_then
  intro transport
  infer_instance

instance {status : ReadinessRequestResultStatus} :
    KeepsRooms (rejectReadinessIntent clientId session request status) := by
  unfold rejectReadinessIntent
  infer_instance

instance : KeepsRooms (applyReadinessIntent clientId request) := by
  unfold applyReadinessIntent
  apply keeps_get_bind
  intro s
  split
  · infer_instance
  · apply keeps_branch
    · infer_instance
    · split
      · infer_instance
      · apply keeps_then
        intro _
        split <;> infer_instance

end intents

instance {report : TechnicalReadinessReport} {generation : Nat} :
    IgnoresRooms (·.storeTechnicalReport session report generation) := ⟨fun _ => rfl⟩

instance {report : TechnicalReadinessReport} : IgnoresRooms (·.applyReportedOwner room report) :=
  ⟨fun s => s.persistentRooms_applyReportedOwner room report⟩

instance {report : TechnicalReadinessReport} :
    KeepsRooms (applyTechnicalReadinessReport clientId report) := by
  unfold applyTechnicalReadinessReport
  apply keeps_get_bind
  intro s
  split
  · infer_instance
  · split
    · dsimp only
      apply keeps_then
      intro _
      infer_instance
    · infer_instance

instance {targetUsername : String} {desired manuallyInitiated : Bool} :
    KeepsRooms (applySyncplayReadyToReadinessV2 clientId targetUsername desired
      manuallyInitiated) := by
  unfold applySyncplayReadyToReadinessV2
  apply keeps_get_bind
  intro s
  apply keeps_branch
  · infer_instance
  · split <;> infer_instance

instance {intent : Option ReadinessIntentRequest} :
    KeepsRooms (handleReadinessSet clientId intent) := by
  unfold handleReadinessSet
  apply keeps_get_bind
  intro s
  split <;> infer_instance

instance {technical : Option TechnicalReadinessReport} :
    KeepsRooms (handleReadinessState clientId technical) := by
  unfold handleReadinessState
  apply keeps_get_bind
  intro s
  split <;> infer_instance

/-! ### States -/

section states

variable {state : ServerStateCommand} {playstate : ServerPlaystate} {forwardDelay now : Seconds}
  {observation : TransportObservation}

instance : IgnoresRooms (·.ensureRoomState room) :=
  ⟨fun s => s.persistentRooms_ensureRoomState room⟩

instance : IgnoresRooms (·.acknowledgeState clientId room state) :=
  ⟨fun s => s.persistentRooms_acknowledgeState room clientId state⟩

instance : IgnoresRooms (·.recordObservation clientId observation playstate forwardDelay now) :=
  ⟨fun s => s.persistentRooms_recordObservation clientId observation playstate forwardDelay now⟩

instance : IgnoresRooms (·.commitObservation clientId session observation now) :=
  ⟨fun s => s.persistentRooms_commitObservation clientId session observation now⟩

instance {doSeek : Option Bool} :
    KeepsRooms (publishObservation clientId session observation doSeek now) := by
  unfold publishObservation
  infer_instance

instance : KeepsRooms (applyPlaystate clientId session playstate forwardDelay) := by
  unfold applyPlaystate
  infer_instance

instance : KeepsRooms (handlePlaystate clientId session playstate forwardDelay) := by
  unfold handlePlaystate
  infer_instance

instance : KeepsRooms (handleState clientId state forwardDelay) := by
  unfold handleState
  apply keeps_get_bind
  intro s
  split
  · infer_instance
  · apply keeps_then
    intro _
    apply keeps_then
    intro technical
    apply keeps_then
    intro barrier
    apply keeps_get_bind
    intro t
    dsimp only
    split <;> infer_instance

end states

/-! ### Set commands -/

instance {f : ServerSession → ServerSession} : IgnoresRooms (·.updateSession clientId f) :=
  ⟨fun _ => rfl⟩

instance {file : Option ServerSharedFile} : KeepsRooms (setFile clientId session file) := by
  unfold setFile
  apply keeps_then
  intro _
  apply keeps_get_bind
  intro s
  split <;> infer_instance

instance {username password : String} :
    IgnoresRooms (·.grantController clientId username room password) :=
  ⟨fun s => s.persistentRooms_grantController room clientId username password⟩

instance {authRoom : Option String} {password : String} :
    KeepsRooms (setControllerAuth clientId session authRoom password) := by
  unfold setControllerAuth
  apply keeps_get_bind
  intro s
  dsimp only
  split <;> infer_instance

instance {isReady manuallyInitiated : Bool} {username : Option String} :
    KeepsRooms (setReady clientId session isReady manuallyInitiated username) := by
  unfold setReady
  apply keeps_then
  intro bridged
  split
  · infer_instance
  · apply keeps_get_bind
    intro s
    dsimp only
    apply keeps_branch
    · split <;> infer_instance
    · infer_instance

instance {capabilities : ServerClientCapabilities} :
    KeepsRooms (setFeatures clientId session capabilities freshToken) := by
  unfold setFeatures
  infer_instance

/-! ### Selections -/

instance {state : RoomPlaybackState} : IgnoresRooms (·.setRoomPlaybackState room state) :=
  ⟨fun _ => rfl⟩

instance {position now : Seconds} :
    IgnoresRooms (·.seedRoomClientPlaybackStates room position now) :=
  ⟨fun s => s.persistentRooms_seedRoomClientPlaybackStates room position now⟩

instance {setBy : String} {now : Seconds} :
    KeepsRooms (resetRoomTransportForCanonicalSelectionChange room setBy now) := by
  unfold resetRoomTransportForCanonicalSelectionChange
  apply keeps_then
  intro revisionBefore
  apply keeps_then
  intro retired
  apply keeps_modify_then
  · intro s
    split <;> simp
  · apply keeps_then
    intro readiness
    apply keeps_then
    intro _
    apply keeps_modify_then
    · intro s
      split <;> simp
    · infer_instance

instance : IgnoresRooms (·.ownPauseForSelection room) :=
  ⟨fun s => s.persistentRooms_ownPauseForSelection room⟩

instance : KeepsRooms (ownPauseForSelection room) := by
  unfold Server.ownPauseForSelection
  infer_instance

instance : IgnoresRooms (·.persistRoomIfNeeded room) :=
  ⟨fun s => s.persistentRooms_persistRoomIfNeeded room⟩

/-! ### Ticks and small messages -/

instance : IgnoresRooms (·.requestClose clientId) := ⟨fun _ => rfl⟩

instance {peerIp : Option String} : IgnoresRooms (·.setPeerIp clientId peerIp) := ⟨fun _ => rfl⟩

instance {now : Seconds} : IgnoresRooms (·.joinSession clientId session now) :=
  ⟨fun s => s.persistentRooms_joinSession clientId session now⟩

instance {message : String} {framesFit : Bool} :
    KeepsRooms (handleChat clientId message framesFit) := by
  unfold handleChat
  apply keeps_get_bind
  intro s
  apply keeps_branch
  · infer_instance
  · split <;> infer_instance

instance : KeepsRooms (handleList clientId) := by
  unfold handleList
  infer_instance

instance {startTls : String} {contextAvailable : Bool} :
    KeepsRooms (handleTls clientId startTls contextAvailable) := by
  unfold handleTls
  apply keeps_get_bind
  intro s
  apply keeps_branch
  · infer_instance
  · apply keeps_modify_then
    · intro t
      split <;> rfl
    · infer_instance

instance {playback : RoomPlaybackState} {readiness : Outbound} {carriedReady : Option Bool} :
    KeepsRooms (publishRoomSwitch clientId session playback readiness carriedReady) := by
  unfold publishRoomSwitch
  apply keeps_then
  intro state
  apply keeps_get_bind
  intro s
  exact keeps_pure _

end Sorotte.Server
