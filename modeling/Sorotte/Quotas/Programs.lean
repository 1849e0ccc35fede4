import Sorotte.Quotas.Updates

/-! # Programs that quotas do not see

  The readiness gate, the buffering policy, starts, memberships and States
  neither create nor give up a persistent room.  Each program is framed by the
  programs and updates it is made of.
-/

namespace Sorotte.Server

open Sorotte.Framework Sorotte.Framework.Prog ServerRuntime

/-- The program neither creates nor gives up a persistent room. -/
abbrev KeepsRooms {α : Type} (m : ServerM α) : Prop := Keeps persistentRooms m

/-- The update neither creates nor gives up a persistent room. -/
abbrev IgnoresRooms (f : ServerRuntime → ServerRuntime) : Prop := Unseen persistentRooms f

variable {clientId room : String} {before after : ServerRuntime}

/-! ### Forced and periodic States -/

instance {f : ClientStateCounters → ClientStateCounters} :
    IgnoresRooms (·.updateStateCounters clientId f) := ⟨fun _ => rfl⟩

instance {position : Seconds} {paused : Bool} {doSeek : Option Bool} {setBy : Option String} :
    KeepsRooms (forcedStateSyncMessageForClient clientId position paused doSeek setBy) := by
  unfold forcedStateSyncMessageForClient
  infer_instance

instance {clients : List String} {position : Seconds} {paused : Bool} {doSeek : Option Bool}
    {setBy : Option String} :
    KeepsRooms (forcedStateFanout clients position paused doSeek setBy) := by
  unfold forcedStateFanout
  infer_instance

instance {position : Seconds} {paused : Bool} {setBy : Option String} {now : Seconds} :
    KeepsRooms (periodicStateSyncMessageForClientAt clientId position paused setBy now) := by
  unfold periodicStateSyncMessageForClientAt
  apply keeps_get_bind
  intro s
  split <;> infer_instance

instance {playback : RoomPlaybackState} {paused doSeek : Bool} :
    KeepsRooms (forceCanonicalState clientId playback paused doSeek) := by
  unfold forceCanonicalState
  infer_instance

/-! ### The readiness gate -/

instance ignores_setRoster {roster : BTreeMap String (BTreeMap String (Option Bool))} :
    IgnoresRooms fun s => { s with roomRoster := roster } := ⟨fun _ => rfl⟩

instance {username : String} {ready : Bool} : KeepsRooms (setRosterReady username room ready) := by
  unfold setRosterReady
  apply keeps_get_bind
  intro s
  split <;> infer_instance

instance {changes : ServerRuntime → Bool} {update : ServerRuntime → ServerRuntime}
    [IgnoresRooms update] : KeepsRooms (updateAndPublish room changes update) := by
  unfold updateAndPublish
  infer_instance

instance {reason : StartGateDegradedReason} :
    IgnoresRooms (·.markReadinessGateDegraded room reason) := ⟨fun _ => rfl⟩

instance : IgnoresRooms (·.clearReadinessGate room) := ⟨fun _ => rfl⟩

instance {reason : StartGateDegradedReason} :
    KeepsRooms (markReadinessGateDegraded room reason) := by
  unfold Server.markReadinessGateDegraded
  infer_instance

instance : KeepsRooms (clearReadinessGate room) := by
  unfold Server.clearReadinessGate
  infer_instance

instance {previous : BTreeMap String Bool} {username : String} :
    KeepsRooms (projectReadinessParticipant room previous username) := by
  unfold projectReadinessParticipant
  infer_instance

instance {previous : BTreeMap String Bool} :
    KeepsRooms (publishReplacedReadinessGeneration room previous) := by
  unfold publishReplacedReadinessGeneration
  apply keeps_get_bind
  intro s
  split <;> infer_instance

instance {generation : Option Nat} {ownsStartPause : Bool} :
    IgnoresRooms (·.replaceReadinessGeneration room generation ownsStartPause) :=
  ⟨fun s => s.persistentRooms_replaceReadinessGeneration room generation ownsStartPause⟩

instance {generation : Option Nat} {ownsStartPause : Bool} :
    KeepsRooms (replaceReadinessGeneration room generation ownsStartPause) := by
  unfold Server.replaceReadinessGeneration
  infer_instance

instance : KeepsRooms (retireReadinessGeneration room) := by
  unfold retireReadinessGeneration
  infer_instance

/-! ### The buffering policy -/

instance {f : RoomBufferingControl → RoomBufferingControl} :
    IgnoresRooms (·.updateControl room f) := ⟨fun _ => rfl⟩

instance {now : Seconds} : IgnoresRooms (·.evaluateRoomBuffering room now) :=
  ⟨fun s => s.persistentRooms_evaluateRoomBuffering room now⟩

instance {username : String} {report : TransportBufferingReportPayload} :
    IgnoresRooms (·.acceptBufferingReport clientId username room report) := ⟨fun _ => rfl⟩

instance {now : Seconds} : IgnoresRooms (·.retireOwnerlessPolicy room clientId now) :=
  ⟨fun s => s.persistentRooms_retireOwnerlessPolicy room clientId now⟩

instance {transition : RoomBufferingTransition} {setBy : String} {now : Seconds} :
    KeepsRooms (publishRoomBufferingTransition before after room transition setBy now) := by
  unfold publishRoomBufferingTransition
  infer_instance

instance {now : Seconds} {alwaysPublishStatus : Bool} :
    KeepsRooms (evaluateRoomBufferingAt room now alwaysPublishStatus) := by
  unfold evaluateRoomBufferingAt
  apply keeps_get_bind
  intro before
  split
  · infer_instance
  · apply keeps_then
    intro _
    dsimp only
    split <;> infer_instance

instance {report : TransportBufferingReportPayload} :
    KeepsRooms (recordRoomBufferingReport clientId report) := by
  unfold recordRoomBufferingReport
  apply keeps_get_bind
  intro s
  split
  · infer_instance
  · split <;> infer_instance

instance : KeepsRooms (refreshRoomBufferingParticipant clientId) := by
  unfold refreshRoomBufferingParticipant
  apply keeps_get_bind
  intro s
  split <;> infer_instance

instance : KeepsRooms (markRoomBufferingParticipantDisconnected clientId room) := by
  unfold markRoomBufferingParticipantDisconnected
  apply keeps_get_bind
  intro s
  split <;> infer_instance

/-! ### The playback barrier -/

instance {f : RoomPlaybackBarrier → RoomPlaybackBarrier} : IgnoresRooms (·.updateBarrier room f) :=
  ⟨fun _ => rfl⟩

instance {barrier : RoomPlaybackBarrier} {timedOut : Bool} {now : Seconds} :
    IgnoresRooms (·.commitStart room barrier timedOut now) :=
  ⟨fun s => s.persistentRooms_commitStart room barrier timedOut now⟩

instance {barrier : RoomPlaybackBarrier} {started : StartedAckPayload}
    {observedPosition : Seconds} :
    IgnoresRooms (·.acknowledgeStarted room clientId barrier started observedPosition) :=
  ⟨fun _ => rfl⟩

instance {actor : String} : IgnoresRooms (·.claimUserPauseOwnership room actor) :=
  ⟨fun s => s.persistentRooms_claimUserPauseOwnership room actor⟩

instance {timedOut : Bool} {now : Seconds} :
    KeepsRooms (commitPlaybackBarrier room timedOut now) := by
  unfold commitPlaybackBarrier
  apply keeps_get_bind
  intro s
  split <;> infer_instance

instance : KeepsRooms (maybeCommitReadinessGate room) := by
  unfold maybeCommitReadinessGate
  infer_instance

instance {ready : MediaReadyPayload} : KeepsRooms (recordPlaybackBarrierReady clientId ready) := by
  unfold recordPlaybackBarrierReady
  apply keeps_get_bind
  intro s
  split
  · infer_instance
  · split <;> infer_instance

instance {started : StartedAckPayload} :
    KeepsRooms (recordPlaybackBarrierStarted clientId started) := by
  unfold recordPlaybackBarrierStarted
  apply keeps_get_bind
  intro s
  split
  · split <;> infer_instance
  · infer_instance

instance {awaiting : Bool} : KeepsRooms (finishPrepareTimeoutWithoutCommit room awaiting) := by
  unfold finishPrepareTimeoutWithoutCommit
  infer_instance

instance {now : Seconds} : KeepsRooms (finishDuePrepare room now) := by
  unfold finishDuePrepare
  apply keeps_get_bind
  intro s
  dsimp only
  split <;> infer_instance

instance : KeepsRooms (finishDueStarted room) := by
  unfold finishDueStarted
  infer_instance

instance : KeepsRooms (retireAwaitingPlaybackBarrierDecision clientId room) := by
  unfold retireAwaitingPlaybackBarrierDecision
  infer_instance

instance : KeepsRooms (retirePlaybackCoordinationForSelection room) := by
  unfold retirePlaybackCoordinationForSelection
  apply keeps_then
  intro _
  apply keeps_then
  intro status
  apply keeps_then
  intro _
  apply keeps_get_bind
  intro s
  split <;> infer_instance

instance {actor : String} : KeepsRooms (claimUserPauseOwnership room actor) := by
  unfold Server.claimUserPauseOwnership
  infer_instance

instance : KeepsRooms (markPlaybackBarrierParticipantDisconnected clientId room) := by
  unfold markPlaybackBarrierParticipantDisconnected
  apply keeps_get_bind
  intro s
  split <;> infer_instance

/-! ### Request identities -/

instance : IgnoresRooms (·.fenceAndClosePlaybackBarrierTransport clientId) :=
  ⟨fun s => s.persistentRooms_fenceAndClose clientId⟩

instance : IgnoresRooms (·.prunePlaybackBarrierNewIdentityRateHistory) := ⟨fun _ => rfl⟩

instance : IgnoresRooms (·.prunePlaybackBarrierRequestTombstones) := ⟨fun _ => rfl⟩

instance {requestId : Option String} {requestNonce : Nat} :
    IgnoresRooms (·.chargeNewIdentity clientId room requestId requestNonce) :=
  ⟨fun s => s.persistentRooms_chargeNewIdentity room clientId requestId requestNonce⟩

instance {nonce : ServerRuntime → Nat} :
    IgnoresRooms fun s => s.setRequestNonce clientId (nonce s) := ⟨fun _ => rfl⟩

instance : IgnoresRooms (·.allocatePlaybackBarrierGeneration) :=
  ⟨persistentRooms_allocatePlaybackBarrierGeneration⟩

instance : KeepsRooms (rejectFencedPlaybackBarrierTransport clientId) := by
  unfold rejectFencedPlaybackBarrierTransport
  infer_instance

instance {requestId : Option String} {requestNonce : Nat} :
    KeepsRooms (playbackBarrierNewIdentityRetryAfterMillis clientId room requestId
      requestNonce) := by
  unfold playbackBarrierNewIdentityRetryAfterMillis
  apply keeps_then
  intro _
  apply keeps_get_bind
  intro s
  split <;> infer_instance

/-! ### Owner rebinding -/

instance {username : String} {sessionSequence : Nat} {barrier : RoomPlaybackBarrier} :
    IgnoresRooms (·.rebindPlaybackBarrierOwner clientId username room sessionSequence barrier) :=
  ⟨fun s => s.persistentRooms_rebindPlaybackBarrierOwner room clientId username sessionSequence
    barrier⟩

instance {username oldClientId : String} :
    IgnoresRooms (·.rebindRoomBufferingOwner clientId username room oldClientId) :=
  ⟨fun _ => persistentRooms_fenceIfConnected _ oldClientId⟩

instance : KeepsRooms (rebindPlaybackBarrierOwnerIfNewer clientId room) := by
  unfold rebindPlaybackBarrierOwnerIfNewer
  apply keeps_get_bind
  intro s
  split <;> infer_instance

instance : KeepsRooms (rebindRoomBufferingOwnerIfNewer clientId room) := by
  unfold rebindRoomBufferingOwnerIfNewer
  apply keeps_get_bind
  intro s
  split <;> infer_instance

/-! ### Starts -/

instance {requestId : Option String} {generation : Nat} :
    IgnoresRooms (·.allocateForPrepare room requestId generation) := ⟨fun _ => rfl⟩

instance {barrier : RoomPlaybackBarrier}
    {displaced : BTreeMap String DisplacedPlaybackBarrierRequest} {now : Seconds} :
    IgnoresRooms (·.installBarrier room barrier displaced now) :=
  ⟨fun s => s.persistentRooms_installBarrier room barrier displaced now⟩

instance : KeepsRooms (supersedeActiveBarrier room) := by
  unfold supersedeActiveBarrier
  infer_instance

section starts

variable {session : ServerSession} {sessionSequence generation : Nat}
  {prepare : PrepareMediaRequest} {logicalMediaId : String} {target : Seconds}
  {displaced : BTreeMap String DisplacedPlaybackBarrierRequest} {loadIntent : MediaLoadIntent}

instance : KeepsRooms (installPrepare clientId session sessionSequence prepare logicalMediaId
    target displaced loadIntent generation) := by
  unfold installPrepare
  infer_instance

instance {supersedesActive : Bool} : KeepsRooms (acceptPrepare clientId session sessionSequence
    prepare logicalMediaId target displaced supersedesActive loadIntent) := by
  unfold acceptPrepare
  apply keeps_get_bind
  intro s
  split <;> infer_instance

instance {barrier : RoomPlaybackBarrier} :
    KeepsRooms (retryCurrentPrepare clientId session prepare logicalMediaId barrier) := by
  unfold retryCurrentPrepare
  infer_instance

instance : KeepsRooms (admitPrepare clientId session sessionSequence prepare logicalMediaId
    target) := by
  unfold admitPrepare
  apply keeps_then
  intro retryAfter
  split
  · infer_instance
  · apply keeps_get_bind
    intro s
    dsimp only
    apply keeps_then
    intro _
    apply keeps_get_bind
    intro t
    apply keeps_branch
    · infer_instance
    · apply keeps_then
      intro _
      split <;> infer_instance

instance : KeepsRooms (startPlaybackBarrier clientId prepare) := by
  unfold startPlaybackBarrier
  apply keeps_get_bind
  intro s
  split
  · infer_instance
  · split
    · dsimp only
      split
      · infer_instance
      · split <;> infer_instance
    · infer_instance

end starts

/-! ### Policies -/

section policies

variable {session : ServerSession} {config : RoomBufferingPolicyPayload}
  {displaced : BTreeMap String DisplacedPlaybackBarrierRequest}

instance {username : String} {replaceRoomBarrier pairedWithNewPrepare : Bool} {now : Seconds} :
    IgnoresRooms (·.installPolicy clientId username room config displaced replaceRoomBarrier
      pairedWithNewPrepare now) :=
  ⟨fun s => s.persistentRooms_installPolicy room clientId username config displaced
    replaceRoomBarrier pairedWithNewPrepare now⟩

instance {moved : Bool} {previous : BTreeMap String Bool} :
    KeepsRooms (publishTechnicalGeneration room moved previous) := by
  unfold publishTechnicalGeneration
  infer_instance

instance {replaceRoomBarrier targetedPublicIndependent pairedWithNewPrepare : Bool} :
    KeepsRooms (installRoomBufferingPolicy clientId session config displaced replaceRoomBarrier
      targetedPublicIndependent pairedWithNewPrepare) := by
  unfold installRoomBufferingPolicy
  infer_instance

instance : KeepsRooms (admitPolicy clientId session config) := by
  unfold admitPolicy
  apply keeps_get_bind
  intro s
  dsimp only
  apply keeps_branch
  · split <;> infer_instance
  · apply keeps_branch
    · infer_instance
    · apply keeps_then
      intro retryAfter
      split
      · infer_instance
      · apply keeps_then
        intro _
        apply keeps_get_bind
        intro t
        apply keeps_branch
        · infer_instance
        · apply keeps_then
          intro _
          split
          · infer_instance
          · split
            · infer_instance
            · split <;> infer_instance

instance : KeepsRooms (retryCurrentPolicy clientId session config) := by
  unfold retryCurrentPolicy
  apply keeps_get_bind
  intro s
  split <;> infer_instance

instance : KeepsRooms (configureUnpairedPolicy clientId session config) := by
  unfold configureUnpairedPolicy
  apply keeps_get_bind
  intro s
  split <;> infer_instance

instance : KeepsRooms (configurePairedPolicy clientId session config) := by
  unfold configurePairedPolicy
  apply keeps_get_bind
  intro s
  split <;> infer_instance

instance {pairedWithNewPrepare : Bool} :
    KeepsRooms (configureRoomBufferingPolicy clientId config pairedWithNewPrepare) := by
  unfold configureRoomBufferingPolicy
  apply keeps_get_bind
  intro s
  split <;> infer_instance

end policies

/-! ### Recovery and entry points -/

instance {query : PlaybackBarrierRecoveryPayload} {control : RoomBufferingControl} :
    KeepsRooms (recoverPolicy clientId room query control) := by
  unfold recoverPolicy
  infer_instance

instance {query : PlaybackBarrierRecoveryPayload} {barrier : RoomPlaybackBarrier} :
    KeepsRooms (recoverBarrier clientId room query barrier) := by
  unfold recoverBarrier
  infer_instance

instance {query : PlaybackBarrierRecoveryPayload} :
    KeepsRooms (handlePlaybackBarrierRecovery clientId query) := by
  unfold handlePlaybackBarrierRecovery
  apply keeps_get_bind
  intro s
  split
  · infer_instance
  · dsimp only
    split
    · infer_instance
    · split
      · infer_instance
      · apply keeps_then
        intro _
        apply keeps_get_bind
        intro t
        split
        · infer_instance
        · split
          · infer_instance
          · split
            · infer_instance
            · split <;> infer_instance

instance {extension : PlaybackBarrierSetRequest} :
    KeepsRooms (handlePlaybackBarrierSet clientId extension) := by
  unfold handlePlaybackBarrierSet
  split
  · infer_instance
  · apply keeps_get_bind
    intro s
    split
    · infer_instance
    · split
      · split <;> infer_instance
      · apply keeps_then
        intro started
        apply keeps_get_bind
        intro t
        split <;> infer_instance

instance {extension : PlaybackBarrierStateExtension} :
    KeepsRooms (handlePlaybackBarrierState clientId extension) := by
  unfold handlePlaybackBarrierState
  infer_instance

end Sorotte.Server
