import Sorotte.Quotas.PersistentRooms

/-! # Updates that quotas do not see

  Everything the runtime updates apart from playlists, owners and creation
  times, grouped as the source groups it.
-/

namespace Sorotte.Server.ServerRuntime

open Sorotte.Framework Sorotte.Framework.Prog

variable (s : ServerRuntime) (room clientId : String)

/-! ### Canonical room state -/

@[simp] theorem persistentRooms_ensureRoomState :
    (s.ensureRoomState room).persistentRooms = s.persistentRooms := by
  have hplaylist : (s.ensureRoomState room).roomPlaylistState = s.roomPlaylistState := by
    funext other
    exact getD_insertIfNew_default _ _ _ _
  unfold persistentRooms
  rw [hplaylist]
  rfl

@[simp] theorem persistentRooms_setRoomPlaybackState (state : RoomPlaybackState) :
    (s.setRoomPlaybackState room state).persistentRooms = s.persistentRooms := rfl

@[simp] theorem persistentRooms_advanceMediaGeneration (generation : Option Nat) :
    (s.advanceParticipantStatusMediaGeneration room generation).persistentRooms =
      s.persistentRooms :=
  s.persistentRooms_ensureRoomState room

@[simp] theorem persistentRooms_advanceTransportRevision :
    (s.advanceParticipantStatusTransportRevision room).persistentRooms = s.persistentRooms :=
  s.persistentRooms_ensureRoomState room

@[simp] theorem persistentRooms_advanceTransportAuthorityRevision :
    (s.advanceTransportAuthorityRevision room).persistentRooms = s.persistentRooms :=
  s.persistentRooms_advanceTransportRevision room

@[simp] theorem persistentRooms_seedClientPlaybackState (position : Option Seconds)
    (now : Seconds) :
    (s.seedClientPlaybackState clientId position now).persistentRooms = s.persistentRooms := rfl

theorem persistentRooms_seedClients (clients : List String) (position now : Seconds) :
    (clients.foldl (fun s clientId => s.seedClientPlaybackState clientId (some position) now)
      s).persistentRooms = s.persistentRooms := by
  induction clients generalizing s with
  | nil => rfl
  | cons clientId clients ih =>
    rw [List.foldl_cons, ih]
    exact s.persistentRooms_seedClientPlaybackState clientId _ now

@[simp] theorem persistentRooms_seedRoomClientPlaybackStates (position now : Seconds) :
    (s.seedRoomClientPlaybackStates room position now).persistentRooms = s.persistentRooms :=
  s.persistentRooms_seedClients _ position now

@[simp] theorem persistentRooms_persistRoomAtIfNeeded (now : Seconds) :
    (s.persistRoomAtIfNeeded room now).persistentRooms = s.persistentRooms := by
  unfold persistRoomAtIfNeeded
  split
  · rfl
  · dsimp only
    split
    · rfl
    · split <;> rfl

@[simp] theorem persistentRooms_persistRoomIfNeeded :
    (s.persistRoomIfNeeded room).persistentRooms = s.persistentRooms :=
  s.persistentRooms_persistRoomAtIfNeeded room _

@[simp] theorem persistentRooms_persistOccupiedRoomActivityIfDueAt (now : Seconds) :
    (s.persistOccupiedRoomActivityIfDueAt room now).persistentRooms = s.persistentRooms := by
  unfold persistOccupiedRoomActivityIfDueAt
  extract_lets recent
  split <;> simp

theorem persistentRooms_persistRooms (rooms : List String) (now : Seconds) :
    (rooms.foldl (fun s room => s.persistOccupiedRoomActivityIfDueAt room now)
      s).persistentRooms = s.persistentRooms := by
  induction rooms generalizing s with
  | nil => rfl
  | cons room rooms ih =>
    rw [List.foldl_cons, ih]
    exact s.persistentRooms_persistOccupiedRoomActivityIfDueAt room now

theorem persistentRooms_persistActivity (now : Seconds) :
    (s.persistOccupiedRoomActivityIfDueAtForAllRooms now).persistentRooms = s.persistentRooms :=
  s.persistentRooms_persistRooms _ now

@[simp] theorem persistentRooms_deletePersistedRoomIfNeeded :
    (s.deletePersistedRoomIfNeeded room).persistentRooms = s.persistentRooms := by
  unfold deletePersistedRoomIfNeeded
  split
  · rfl
  · split <;> rfl

@[simp] theorem persistentRooms_establishRoomTransport (state : RoomPlaybackState) :
    (s.establishRoomTransport room state).persistentRooms = s.persistentRooms := by
  simp [establishRoomTransport]

@[simp] theorem persistentRooms_refreshRoomPlayback (now : Seconds) :
    (s.refreshRoomPlaybackStateFromClientsAt room now).2.persistentRooms = s.persistentRooms := by
  unfold refreshRoomPlaybackStateFromClientsAt
  dsimp only
  split
  · rfl
  · split <;> rfl

@[simp] theorem persistentRooms_readyForJoin (now : Seconds) :
    (s.readyForJoin room now).persistentRooms = s.persistentRooms := by
  simp [readyForJoin]

@[simp] theorem persistentRooms_fillRoomSetBy :
    (s.fillRoomSetBy room).persistentRooms = s.persistentRooms := by
  unfold fillRoomSetBy
  dsimp only
  split <;> rfl

/-! ### The readiness gate -/

@[simp] theorem persistentRooms_updateReadiness
    (f : RoomReadinessCoordinator → RoomReadinessCoordinator) :
    (s.updateReadiness room f).persistentRooms = s.persistentRooms := rfl

@[simp] theorem persistentRooms_setReadinessPauseOwner (owner : RoomPauseOwner) :
    (s.setReadinessPauseOwner room owner).persistentRooms = s.persistentRooms := by
  unfold setReadinessPauseOwner
  split <;> simp

@[simp] theorem persistentRooms_refreshReadinessGatePhase :
    (s.refreshReadinessGatePhase room).persistentRooms = s.persistentRooms := rfl

@[simp] theorem persistentRooms_clearPendingInRoom :
    (s.clearPendingUserTransportInRoom room).persistentRooms = s.persistentRooms := rfl

@[simp] theorem persistentRooms_clearReadinessGate :
    (s.clearReadinessGate room).persistentRooms = s.persistentRooms := rfl

@[simp] theorem persistentRooms_replaceReadinessGeneration (generation : Option Nat)
    (ownsStartPause : Bool) :
    (s.replaceReadinessGeneration room generation ownsStartPause).persistentRooms =
      s.persistentRooms := by
  unfold replaceReadinessGeneration
  dsimp only
  split <;> rfl

@[simp] theorem persistentRooms_reconcileMixedReadinessCohortState :
    (s.reconcileMixedReadinessCohortState room).persistentRooms = s.persistentRooms := by
  unfold reconcileMixedReadinessCohortState
  split
  · rfl
  · split <;> rfl

@[simp] theorem persistentRooms_claimPauseForActiveStart :
    (s.claimPauseForActiveStart room).persistentRooms = s.persistentRooms := by
  unfold claimPauseForActiveStart
  split
  · split <;> simp
  · rfl

@[simp] theorem persistentRooms_rearmStartGate :
    (s.rearmStartGate room).persistentRooms = s.persistentRooms := by
  unfold rearmStartGate
  split
  · split <;> simp
  · rfl

@[simp] theorem persistentRooms_applyReportedOwner (report : TechnicalReadinessReport) :
    (s.applyReportedOwner room report).persistentRooms = s.persistentRooms := by
  unfold applyReportedOwner
  split <;> simp

@[simp] theorem persistentRooms_storePendingUserTransport (actor : String)
    (desiredPaused : Bool) (evidence : PendingUserTransportEvidence) :
    (s.storePendingUserTransport clientId room actor desiredPaused evidence).persistentRooms =
      s.persistentRooms := by
  unfold storePendingUserTransport
  split <;> rfl

@[simp] theorem persistentRooms_clearPendingUserTransport :
    (s.clearPendingUserTransport clientId).persistentRooms = s.persistentRooms := rfl

/-! ### The buffering policy -/

@[simp] theorem persistentRooms_updateControl (f : RoomBufferingControl → RoomBufferingControl) :
    (s.updateControl room f).persistentRooms = s.persistentRooms := rfl

@[simp] theorem persistentRooms_installControl (control : RoomBufferingControl) :
    (s.installControl room control).persistentRooms = s.persistentRooms := rfl

@[simp] theorem persistentRooms_applyRoomBufferingTransition
    (transition : RoomBufferingTransition) (setBy : String) (now : Seconds) :
    (s.applyRoomBufferingTransition room transition setBy now).persistentRooms =
      s.persistentRooms := by
  unfold applyRoomBufferingTransition
  split
  · dsimp only
    split <;> simp
  · rfl

@[simp] theorem persistentRooms_evaluateRoomBuffering (now : Seconds) :
    (s.evaluateRoomBuffering room now).persistentRooms = s.persistentRooms := by
  unfold evaluateRoomBuffering
  split
  · rfl
  · dsimp only
    split <;> simp

@[simp] theorem persistentRooms_retireOwnerlessPolicy (now : Seconds) :
    (s.retireOwnerlessPolicy room clientId now).persistentRooms = s.persistentRooms := by
  unfold retireOwnerlessPolicy
  split
  · rfl
  · dsimp only
    split <;> simp

@[simp] theorem persistentRooms_releasePolicyPause (username : String) (now : Seconds) :
    (s.releasePolicyPause room username now).persistentRooms = s.persistentRooms := by
  unfold releasePolicyPause
  split <;> simp

/-! ### The playback barrier -/

@[simp] theorem persistentRooms_updateBarrier (f : RoomPlaybackBarrier → RoomPlaybackBarrier) :
    (s.updateBarrier room f).persistentRooms = s.persistentRooms := rfl

@[simp] theorem persistentRooms_commitStart (barrier : RoomPlaybackBarrier) (timedOut : Bool)
    (now : Seconds) :
    (s.commitStart room barrier timedOut now).persistentRooms = s.persistentRooms := by
  unfold commitStart
  extract_lets payload snapshot committed transported
  have hcommitted : committed.persistentRooms = s.persistentRooms := rfl
  have htransported : transported.persistentRooms = s.persistentRooms := by
    rw [← hcommitted]
    exact committed.persistentRooms_establishRoomTransport room _
  clear_value transported
  split
  · exact htransported
  · exact htransported

@[simp] theorem persistentRooms_retireCommittedBarrier :
    (s.retireCommittedBarrier room).persistentRooms = s.persistentRooms := by
  unfold retireCommittedBarrier
  split <;> rfl

@[simp] theorem persistentRooms_retireCommittedForUserPause :
    (s.retireCommittedPlaybackBarrierForUserPause room).persistentRooms = s.persistentRooms := by
  unfold retireCommittedPlaybackBarrierForUserPause
  split <;> simp

@[simp] theorem persistentRooms_claimUserPauseOwnership (actor : String) :
    (s.claimUserPauseOwnership room actor).persistentRooms = s.persistentRooms := by
  simp [claimUserPauseOwnership, releaseBufferingEpisode]

@[simp] theorem persistentRooms_fenceAndClose :
    (s.fenceAndClosePlaybackBarrierTransport clientId).persistentRooms = s.persistentRooms := by
  unfold fenceAndClosePlaybackBarrierTransport requestTransportClose
  split <;> rfl

@[simp] theorem persistentRooms_fenceIfConnected :
    (s.fenceIfConnected clientId).persistentRooms = s.persistentRooms := by
  unfold fenceIfConnected
  split <;> simp

@[simp] theorem persistentRooms_rebindPlaybackBarrierOwner (username : String)
    (sessionSequence : Nat) (barrier : RoomPlaybackBarrier) :
    (s.rebindPlaybackBarrierOwner clientId username room sessionSequence barrier).persistentRooms =
      s.persistentRooms := by
  unfold rebindPlaybackBarrierOwner
  dsimp only
  split
  · exact persistentRooms_fenceIfConnected _ _
  · rfl

@[simp] theorem persistentRooms_retainDisplaced
    (displaced : BTreeMap String DisplacedPlaybackBarrierRequest) :
    (s.retainDisplacedPlaybackBarrierRequests room displaced).persistentRooms =
      s.persistentRooms := by
  unfold retainDisplacedPlaybackBarrierRequests
  split <;> rfl

@[simp] theorem persistentRooms_installBarrier (barrier : RoomPlaybackBarrier)
    (displaced : BTreeMap String DisplacedPlaybackBarrierRequest) (now : Seconds) :
    (s.installBarrier room barrier displaced now).persistentRooms = s.persistentRooms := by
  unfold installBarrier
  simp only [persistentRooms_replaceReadinessGeneration, persistentRooms_establishRoomTransport,
    persistentRooms_advanceMediaGeneration]
  exact s.persistentRooms_retainDisplaced room displaced

@[simp] theorem persistentRooms_allocatePlaybackBarrierGeneration :
    s.allocatePlaybackBarrierGeneration.persistentRooms = s.persistentRooms := by
  unfold allocatePlaybackBarrierGeneration
  split <;> rfl

@[simp] theorem persistentRooms_chargeNewIdentity (requestId : Option String)
    (requestNonce : Nat) :
    (s.chargeNewIdentity clientId room requestId requestNonce).persistentRooms =
      s.persistentRooms := by
  unfold chargeNewIdentity
  split
  · rfl
  · split <;> rfl

@[simp] theorem persistentRooms_clearedForPolicy (config : RoomBufferingPolicyPayload)
    (displaced : BTreeMap String DisplacedPlaybackBarrierRequest) (replaceRoomBarrier : Bool) :
    (s.clearedForPolicy room config displaced replaceRoomBarrier).persistentRooms =
      s.persistentRooms := by
  unfold clearedForPolicy
  dsimp only
  split
  · exact (persistentRooms_advanceMediaGeneration _ room (some config.mediaGeneration)).trans
      (s.persistentRooms_retainDisplaced room displaced)
  · exact s.persistentRooms_retainDisplaced room displaced

@[simp] theorem persistentRooms_installPolicy (username : String)
    (config : RoomBufferingPolicyPayload)
    (displaced : BTreeMap String DisplacedPlaybackBarrierRequest)
    (replaceRoomBarrier pairedWithNewPrepare : Bool) (now : Seconds) :
    (s.installPolicy clientId username room config displaced replaceRoomBarrier
      pairedWithNewPrepare now).persistentRooms = s.persistentRooms := by
  unfold installPolicy followTechnicalGeneration
  dsimp only
  split
  · simp
  · split <;> simp

/-! ### Memberships -/

@[simp] theorem persistentRooms_bindReconnectIdentity (session : ServerSession)
    (presentedToken : Option String) (freshToken : String) :
    (s.bindReconnectIdentity clientId session presentedToken freshToken).persistentRooms =
      s.persistentRooms := by
  unfold bindReconnectIdentity
  split <;> rfl

@[simp] theorem persistentRooms_attachMembership (session : ServerSession)
    (restored : Option DetachedReadinessMembership) (seed : Bool) :
    (s.attachMembership clientId session restored seed).persistentRooms = s.persistentRooms := by
  unfold attachMembership joinedMembership
  dsimp only
  split <;> simp <;> rfl

theorem persistentRooms_setReconnectCache
    (cache : BTreeMap String DetachedReadinessMembership) :
    { s with readinessReconnectCache := cache }.persistentRooms = s.persistentRooms := rfl

@[simp] theorem persistentRooms_retainForReconnect (session : ServerSession)
    (participant : ServerReadinessParticipant) (revision : Nat) (token : String) :
    (s.retainForReconnect session participant revision token).persistentRooms =
      s.persistentRooms := by
  unfold retainForReconnect
  exact s.pruneReadinessReconnectCache.persistentRooms_setReconnectCache _

@[simp] theorem persistentRooms_discardEmptyCoordinator :
    (s.discardEmptyCoordinator room).persistentRooms = s.persistentRooms := by
  unfold discardEmptyCoordinator
  split <;> rfl

@[simp] theorem persistentRooms_removeSessionTracking (session : ServerSession) :
    (s.removeSessionTracking clientId session).persistentRooms = s.persistentRooms := rfl

@[simp] theorem persistentRooms_joinSession (session : ServerSession) (now : Seconds) :
    (s.joinSession clientId session now).persistentRooms = s.persistentRooms :=
  s.persistentRooms_readyForJoin session.room now

@[simp] theorem persistentRooms_moveSession (session : ServerSession) (newRoom : String)
    (roster : BTreeMap String (BTreeMap String (Option Bool))) (now : Seconds) :
    (s.moveSession clientId session newRoom roster now).persistentRooms = s.persistentRooms :=
  persistentRooms_readyForJoin _ newRoom now

@[simp] theorem persistentRooms_grantController (username password : String) :
    (s.grantController clientId username room password).persistentRooms = s.persistentRooms :=
  s.persistentRooms_ensureRoomState room

/-! ### States -/

@[simp] theorem persistentRooms_ownStagedTransition (actor : String) (desiredPaused : Bool) :
    (s.ownStagedTransition room actor desiredPaused).persistentRooms = s.persistentRooms := by
  unfold ownStagedTransition
  split <;> simp

@[simp] theorem persistentRooms_applyStagedTransition (actor : String) (desiredPaused : Bool)
    (now : Seconds) :
    (s.applyStagedTransition clientId room actor desiredPaused now).persistentRooms =
      s.persistentRooms := by
  unfold applyStagedTransition
  dsimp only
  split <;> simp

@[simp] theorem persistentRooms_ownPauseForSelection :
    (s.ownPauseForSelection room).persistentRooms = s.persistentRooms := by
  unfold ownPauseForSelection
  split <;> simp

@[simp] theorem persistentRooms_acknowledgeState (state : ServerStateCommand) :
    (s.acknowledgeState clientId room state).persistentRooms = s.persistentRooms := by
  unfold acknowledgeState
  extract_lets acknowledged queued latent
  have hacknowledged : acknowledged.persistentRooms = s.persistentRooms := by
    unfold acknowledged
    split <;> rfl
  have hqueued : queued.persistentRooms = s.persistentRooms := by
    rw [← hacknowledged]
    unfold queued
    split <;> rfl
  have hlatent : latent.persistentRooms = s.persistentRooms := by
    rw [← hqueued]
    unfold latent
    split <;> rfl
  clear_value latent
  rw [persistentRooms_persistOccupiedRoomActivityIfDueAt]
  exact hlatent

@[simp] theorem persistentRooms_ownObservedPause (session : ServerSession)
    (observation : TransportObservation) :
    (s.ownObservedPause session observation).persistentRooms = s.persistentRooms := by
  unfold ownObservedPause
  split
  · simp
  · split
    · split <;> simp
    · rfl

@[simp] theorem persistentRooms_commitObservation (session : ServerSession)
    (observation : TransportObservation) (now : Seconds) :
    (s.commitObservation clientId session observation now).persistentRooms =
      s.persistentRooms := by
  unfold commitObservation
  dsimp only
  split <;> simp

@[simp] theorem persistentRooms_recordObservation (observation : TransportObservation)
    (playstate : ServerPlaystate) (forwardDelay now : Seconds) :
    (s.recordObservation clientId observation playstate forwardDelay now).persistentRooms =
      s.persistentRooms := by
  unfold recordObservation
  dsimp only
  split <;> rfl

end Sorotte.Server.ServerRuntime
