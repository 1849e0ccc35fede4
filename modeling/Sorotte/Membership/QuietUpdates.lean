import Sorotte.Membership.Frame

/-! # Quiet updates

  The updates of the runtime that are quiet, grouped as the source groups them:
  the readiness gate, canonical transport, the buffering policy and the
  playback barrier.
-/

namespace Sorotte.Server

open Sorotte.Framework Sorotte.Framework.Prog

namespace ServerRuntime

/-! ### The readiness gate -/

theorem quiet_advanceTransportAuthorityRevision (s : ServerRuntime) (room : String) :
    Quiet s (s.advanceTransportAuthorityRevision room) := by
  unfold advanceTransportAuthorityRevision
  extract_lets advanced
  have hadvanced : Quiet s advanced :=
    (s.quiet_advanceParticipantStatusTransportRevision room).trans
      (quiet_updateReadiness _ room fun _ => ⟨rfl, le_refl _⟩)
  exact hadvanced.trans (Quiet.of_fields rfl rfl rfl rfl rfl rfl rfl rfl rfl)

theorem quiet_setReadinessPauseOwner (s : ServerRuntime) (room : String)
    (owner : RoomPauseOwner) : Quiet s (s.setReadinessPauseOwner room owner) := by
  unfold setReadinessPauseOwner
  split
  · have howned : Quiet s (s.updateReadiness room fun k =>
        { k with revision := k.revision + 1, pauseOwner := owner }) :=
      s.quiet_updateReadiness room fun _ => ⟨rfl, Nat.le_succ _⟩
    exact howned.trans (quiet_advanceTransportAuthorityRevision _ room)
  · exact Quiet.refl s

theorem quiet_refreshReadinessGatePhase (s : ServerRuntime) (room : String) :
    Quiet s (s.refreshReadinessGatePhase room) := by
  apply quiet_updateReadiness
  intro k
  split
  · exact ⟨rfl, le_refl _⟩
  · exact ⟨rfl, le_refl _⟩

theorem quiet_clearPendingUserTransportInRoom (s : ServerRuntime) (room : String) :
    Quiet s (s.clearPendingUserTransportInRoom room) :=
  Quiet.of_fields rfl rfl rfl rfl rfl rfl rfl rfl rfl

theorem quiet_clearPendingUserTransport (s : ServerRuntime) (clientId : String) :
    Quiet s (s.clearPendingUserTransport clientId) :=
  Quiet.of_fields rfl rfl rfl rfl rfl rfl rfl rfl rfl

theorem quiet_markReadinessGateCommitted (s : ServerRuntime) (room : String)
    (mediaGeneration readinessRevision playbackRevision : Nat) :
    Quiet s (s.markReadinessGateCommitted room mediaGeneration readinessRevision
      playbackRevision) :=
  (s.quiet_clearPendingUserTransportInRoom room).trans
    (quiet_updateReadiness _ room fun _ => ⟨rfl, Nat.le_succ _⟩)

theorem quiet_markReadinessGateDegraded (s : ServerRuntime) (room : String)
    (reason : StartGateDegradedReason) : Quiet s (s.markReadinessGateDegraded room reason) := by
  apply quiet_updateReadiness
  intro k
  split
  · exact ⟨rfl, le_refl _⟩
  · exact ⟨rfl, Nat.le_succ _⟩

theorem quiet_clearReadinessGate (s : ServerRuntime) (room : String) :
    Quiet s (s.clearReadinessGate room) := by
  apply quiet_updateReadiness
  intro k
  split
  · exact ⟨rfl, le_refl _⟩
  · exact ⟨rfl, Nat.le_succ _⟩

theorem quiet_claimPauseForActiveStart (s : ServerRuntime) (room : String) :
    Quiet s (s.claimPauseForActiveStart room) := by
  unfold claimPauseForActiveStart
  split
  · split
    · exact s.quiet_setReadinessPauseOwner room _
    · exact Quiet.refl s
  · exact Quiet.refl s

theorem quiet_rearmStartGate (s : ServerRuntime) (room : String) :
    Quiet s (s.rearmStartGate room) := by
  unfold rearmStartGate
  split
  · split
    · exact s.quiet_setReadinessPauseOwner room _
    · exact Quiet.refl s
  · exact Quiet.refl s

theorem quiet_applyReportedOwner (s : ServerRuntime) (room : String)
    (report : TechnicalReadinessReport) : Quiet s (s.applyReportedOwner room report) := by
  unfold applyReportedOwner
  split
  · exact s.quiet_setReadinessPauseOwner room _
  · exact Quiet.refl s

theorem quiet_storePendingUserTransport (s : ServerRuntime) (clientId room actor : String)
    (desiredPaused : Bool) (evidence : PendingUserTransportEvidence) :
    Quiet s (s.storePendingUserTransport clientId room actor desiredPaused evidence) := by
  unfold storePendingUserTransport
  split
  · exact s.quiet_clearPendingUserTransport clientId
  · exact Quiet.of_fields rfl rfl rfl rfl rfl rfl rfl rfl rfl

/-! ### Canonical transport -/

theorem quiet_establishRoomTransport (s : ServerRuntime) (room : String)
    (state : RoomPlaybackState) : Quiet s (s.establishRoomTransport room state) := by
  unfold establishRoomTransport
  have hset := s.quiet_setRoomPlaybackState room state
  have hadvanced := hset.trans (quiet_advanceTransportAuthorityRevision _ room)
  have hseeded := hadvanced.trans
    (quiet_seedRoomClientPlaybackStates _ room state.position state.updatedAtSeconds)
  exact hseeded.trans (quiet_persistRoomIfNeeded _ room)

theorem quiet_refreshRoomPlayback (s : ServerRuntime) (room : String) (now : Seconds) :
    Quiet s (s.refreshRoomPlaybackStateFromClientsAt room now).2 := by
  unfold refreshRoomPlaybackStateFromClientsAt
  extract_lets current
  split
  · exact Quiet.refl s
  · split
    · exact Quiet.refl s
    · exact s.quiet_setRoomPlaybackState room _

theorem quiet_readyForJoin (s : ServerRuntime) (room : String) (now : Seconds) :
    Quiet s (s.readyForJoin room now) :=
  (s.quiet_ensureRoomState room).trans (quiet_refreshRoomPlayback _ room now)

theorem quiet_fillRoomSetBy (s : ServerRuntime) (room : String) :
    Quiet s (s.fillRoomSetBy room) := by
  unfold fillRoomSetBy
  extract_lets playback
  split
  · exact s.quiet_setRoomPlaybackState room _
  · exact Quiet.refl s

theorem quiet_persistOccupiedRoomActivityIfDueAt (s : ServerRuntime) (room : String)
    (now : Seconds) : Quiet s (s.persistOccupiedRoomActivityIfDueAt room now) := by
  unfold persistOccupiedRoomActivityIfDueAt
  extract_lets recent
  split
  · exact Quiet.refl s
  · exact s.quiet_persistRoomAtIfNeeded room now

theorem quiet_persistActivity (s : ServerRuntime) (now : Seconds) :
    Quiet s (s.persistOccupiedRoomActivityIfDueAtForAllRooms now) := by
  unfold persistOccupiedRoomActivityIfDueAtForAllRooms
  extract_lets occupied
  generalize occupied.toList = rooms
  clear occupied
  induction rooms generalizing s with
  | nil => exact Quiet.refl s
  | cons room rooms ih =>
    exact (s.quiet_persistOccupiedRoomActivityIfDueAt room now).trans (ih _)

/-! ### The buffering policy -/

theorem quiet_installControl (s : ServerRuntime) (room : String) (control : RoomBufferingControl) :
    Quiet s (s.installControl room control) :=
  Quiet.of_fields rfl rfl rfl rfl rfl rfl rfl rfl rfl

theorem quiet_applyRoomBufferingTransition (s : ServerRuntime) (room : String)
    (transition : RoomBufferingTransition) (setBy : String) (now : Seconds) :
    Quiet s (s.applyRoomBufferingTransition room transition setBy now) := by
  unfold applyRoomBufferingTransition
  extract_lets transported
  split
  · have htransported : Quiet s transported := s.quiet_establishRoomTransport room _
    split
    · exact htransported.trans (transported.quiet_setReadinessPauseOwner room _)
    · exact htransported
  · exact Quiet.refl s

theorem quiet_evaluateRoomBuffering (s : ServerRuntime) (room : String) (now : Seconds) :
    Quiet s (s.evaluateRoomBuffering room now) := by
  unfold evaluateRoomBuffering
  split
  · exact Quiet.refl s
  · extract_lets evaluated installed
    have hinstalled : Quiet s installed := s.quiet_installControl room _
    split
    · exact hinstalled
    · exact hinstalled.trans (installed.quiet_applyRoomBufferingTransition room _ _ now)

theorem quiet_retireOwnerlessPolicy (s : ServerRuntime) (room clientId : String)
    (now : Seconds) : Quiet s (s.retireOwnerlessPolicy room clientId now) := by
  unfold retireOwnerlessPolicy
  split
  · exact Quiet.refl s
  · extract_lets installed
    have hinstalled : Quiet s installed := s.quiet_installControl room _
    split
    · exact hinstalled.trans (installed.quiet_applyRoomBufferingTransition room _ _ now)
    · exact hinstalled

theorem quiet_releasePolicyPause (s : ServerRuntime) (room username : String) (now : Seconds) :
    Quiet s (s.releasePolicyPause room username now) := by
  unfold releasePolicyPause
  split
  · exact s.quiet_applyRoomBufferingTransition room _ username now
  · exact Quiet.refl s

/-! ### The playback barrier -/

theorem quiet_commitStart (s : ServerRuntime) (room : String) (barrier : RoomPlaybackBarrier)
    (timedOut : Bool) (now : Seconds) : Quiet s (s.commitStart room barrier timedOut now) := by
  unfold commitStart
  extract_lets payload snapshot committed transported
  have hcommitted : Quiet s committed :=
    Quiet.of_same (SameMembers.of_fields rfl rfl rfl rfl rfl) rfl rfl rfl
      (List.suffix_cons _ _)
  have htransported : Quiet s transported :=
    hcommitted.trans (committed.quiet_establishRoomTransport room _)
  split
  · exact htransported.trans (transported.quiet_markReadinessGateCommitted room _ _ _)
  · exact htransported

theorem quiet_acknowledgeStarted (s : ServerRuntime) (room clientId : String)
    (barrier : RoomPlaybackBarrier) (started : StartedAckPayload) (observedPosition : Seconds) :
    Quiet s (s.acknowledgeStarted room clientId barrier started observedPosition) := by
  unfold acknowledgeStarted
  extract_lets started' acknowledgement
  have hhistory : s.history <:+ if started'.phase = .complete then
      Event.becameComplete room started' :: acknowledgement :: s.history
      else acknowledgement :: s.history := by
    split
    · exact (List.suffix_cons _ _).trans (List.suffix_cons _ _)
    · exact List.suffix_cons _ _
  exact Quiet.of_same (SameMembers.of_fields rfl rfl rfl rfl rfl) rfl rfl rfl hhistory

theorem quiet_retireCommittedBarrier (s : ServerRuntime) (room : String) :
    Quiet s (s.retireCommittedBarrier room) := by
  unfold retireCommittedBarrier
  split
  · exact s.quiet_updateBarrier room _
  · exact Quiet.refl s

theorem quiet_claimUserPauseOwnership (s : ServerRuntime) (room actor : String) :
    Quiet s (s.claimUserPauseOwnership room actor) := by
  unfold claimUserPauseOwnership
  have hreleased : Quiet s (s.releaseBufferingEpisode room) := s.quiet_updateControl room _
  have hretired : Quiet s
      ((s.releaseBufferingEpisode room).retireCommittedPlaybackBarrierForUserPause room) := by
    unfold retireCommittedPlaybackBarrierForUserPause
    split
    · exact (hreleased.trans (quiet_retireCommittedBarrier _ room)).trans
        (quiet_clearReadinessGate _ room)
    · exact hreleased
  exact (hretired.trans (quiet_setReadinessPauseOwner _ room _)).trans
    (quiet_refreshReadinessGatePhase _ room)

theorem quiet_fenceAndClose (s : ServerRuntime) (clientId : String) :
    Quiet s (s.fenceAndClosePlaybackBarrierTransport clientId) := by
  unfold fenceAndClosePlaybackBarrierTransport requestTransportClose
  dsimp only
  split <;> exact Quiet.of_fields rfl rfl rfl rfl rfl rfl rfl rfl rfl

theorem quiet_fenceIfConnected (s : ServerRuntime) (clientId : String) :
    Quiet s (s.fenceIfConnected clientId) := by
  unfold fenceIfConnected
  split
  · exact s.quiet_fenceAndClose clientId
  · exact Quiet.refl s

theorem quiet_rebindPlaybackBarrierOwner (s : ServerRuntime) (clientId username room : String)
    (sessionSequence : Nat) (barrier : RoomPlaybackBarrier) :
    Quiet s (s.rebindPlaybackBarrierOwner clientId username room sessionSequence barrier) := by
  unfold rebindPlaybackBarrierOwner
  extract_lets oldClientId rebound fenced
  have hrebound : Quiet s rebound :=
    Quiet.of_same (SameMembers.of_fields rfl rfl rfl rfl rfl) rfl rfl rfl
      (List.suffix_cons _ _)
  have hfenced : Quiet s fenced := by
    show Quiet s (if _ then _ else _)
    split
    · exact hrebound.trans (rebound.quiet_fenceIfConnected oldClientId)
    · exact hrebound
  exact hfenced.trans (quiet_updateControl _ room _)

theorem quiet_rebindRoomBufferingOwner (s : ServerRuntime)
    (clientId username room oldClientId : String) :
    Quiet s (s.rebindRoomBufferingOwner clientId username room oldClientId) :=
  (s.quiet_updateControl room _).trans (quiet_fenceIfConnected _ oldClientId)

theorem quiet_retainDisplaced (s : ServerRuntime) (room : String)
    (displaced : BTreeMap String DisplacedPlaybackBarrierRequest) :
    Quiet s (s.retainDisplacedPlaybackBarrierRequests room displaced) := by
  unfold retainDisplacedPlaybackBarrierRequests
  split
  · exact Quiet.refl s
  · exact Quiet.of_same (SameMembers.of_fields rfl rfl rfl rfl rfl) rfl rfl rfl
      (List.suffix_append _ _)

theorem quiet_allocateForPrepare (s : ServerRuntime) (room : String) (requestId : Option String)
    (generation : Nat) : Quiet s (s.allocateForPrepare room requestId generation) :=
  Quiet.of_same (SameMembers.of_fields rfl rfl rfl rfl rfl) rfl rfl rfl
    (List.suffix_cons _ _)

theorem quiet_allocatePlaybackBarrierGeneration (s : ServerRuntime) :
    Quiet s s.allocatePlaybackBarrierGeneration := by
  unfold allocatePlaybackBarrierGeneration
  split
  · exact Quiet.refl s
  · exact Quiet.of_fields rfl rfl rfl rfl rfl rfl rfl rfl rfl

theorem quiet_pruneTombstones (s : ServerRuntime) :
    Quiet s s.prunePlaybackBarrierRequestTombstones :=
  Quiet.of_fields rfl rfl rfl rfl rfl rfl rfl rfl rfl

theorem quiet_chargeNewIdentity (s : ServerRuntime) (clientId room : String)
    (requestId : Option String) (requestNonce : Nat) :
    Quiet s (s.chargeNewIdentity clientId room requestId requestNonce) := by
  unfold chargeNewIdentity
  split
  · exact Quiet.refl s
  · split
    · exact Quiet.refl s
    · exact Quiet.of_fields rfl rfl rfl rfl rfl rfl rfl rfl rfl

theorem quiet_setRequestNonce (s : ServerRuntime) (clientId : String) (nonce : Nat) :
    Quiet s (s.setRequestNonce clientId nonce) :=
  Quiet.of_fields rfl rfl rfl rfl rfl rfl rfl rfl rfl

theorem quiet_replaceRoomBarrierScope (s : ServerRuntime) (room : String)
    (mediaGeneration : Nat) :
    Quiet s (s.replaceRoomBarrierParticipantStatusScope room mediaGeneration) := by
  unfold replaceRoomBarrierParticipantStatusScope
  extract_lets advanced
  have hadvanced : Quiet s advanced :=
    s.quiet_advanceParticipantStatusMediaGeneration room (some mediaGeneration)
  have herased : Quiet advanced
      { advanced with roomPlaybackBarriers := advanced.roomPlaybackBarriers.erase room } :=
    Quiet.of_fields rfl rfl rfl rfl rfl rfl rfl rfl rfl
  exact (hadvanced.trans herased).trans (quiet_clearReadinessGate _ room)

theorem quiet_clearedForPolicy (s : ServerRuntime) (room : String)
    (config : RoomBufferingPolicyPayload)
    (displaced : BTreeMap String DisplacedPlaybackBarrierRequest) (replaceRoomBarrier : Bool) :
    Quiet s (s.clearedForPolicy room config displaced replaceRoomBarrier) := by
  unfold clearedForPolicy
  extract_lets retained
  have hretained : Quiet s retained := s.quiet_retainDisplaced room displaced
  split
  · exact hretained.trans (retained.quiet_replaceRoomBarrierScope room _)
  · exact hretained

/-! ### Handlers -/

theorem quiet_acknowledgeState (s : ServerRuntime) (clientId room : String)
    (state : ServerStateCommand) : Quiet s (s.acknowledgeState clientId room state) := by
  unfold acknowledgeState
  extract_lets ignored queued measured
  have hignored : Quiet s ignored := by
    dsimp only [ignored]
    split
    · exact Quiet.of_fields rfl rfl rfl rfl rfl rfl rfl rfl rfl
    · exact Quiet.refl s
  have hqueued : Quiet s queued := by
    dsimp only [queued]
    split
    · exact hignored.trans (ignored.quiet_updateStateCounters clientId _)
    · exact hignored
  have hmeasured : Quiet s measured := by
    dsimp only [measured]
    split
    · exact hqueued.trans (queued.quiet_updateStateCounters clientId _)
    · exact hqueued
  have hrecorded : Quiet measured (measured.recordClientStateUpdateNow clientId) :=
    Quiet.of_fields rfl rfl rfl rfl rfl rfl rfl rfl rfl
  exact (hmeasured.trans hrecorded).trans (quiet_persistOccupiedRoomActivityIfDueAt _ room _)

theorem quiet_ownPauseForSelection (s : ServerRuntime) (room : String) :
    Quiet s (s.ownPauseForSelection room) := by
  unfold ownPauseForSelection
  split
  · exact s.quiet_setReadinessPauseOwner room _
  · exact Quiet.refl s

theorem quiet_acceptPlaylist (s : ServerRuntime) (room : String) (playlist : RoomPlaylistState)
    (expected : Option (Int × Nat)) : Quiet s (s.acceptPlaylist room playlist expected) :=
  Quiet.of_same (SameMembers.of_fields rfl rfl rfl rfl rfl) rfl rfl rfl
    (List.suffix_cons _ _)

theorem quiet_grantController (s : ServerRuntime) (clientId username room password : String) :
    Quiet s (s.grantController clientId username room password) := by
  unfold grantController addRoomController
  extract_lets ensured
  have hgranted : Quiet ensured
      { ensured with
        roomControllers := ensured.roomControllers.insert room
          ((ensured.roomControllers.getD room ∅).insert username) } :=
    Quiet.of_fields rfl rfl rfl rfl rfl rfl rfl rfl rfl
  exact ((s.quiet_ensureRoomState room).trans hgranted).trans
    (Quiet.of_same (SameMembers.of_fields rfl rfl rfl rfl rfl) rfl rfl rfl
      (List.suffix_cons _ _))

theorem quiet_ownStagedTransition (s : ServerRuntime) (room actor : String)
    (desiredPaused : Bool) : Quiet s (s.ownStagedTransition room actor desiredPaused) := by
  unfold ownStagedTransition
  split
  · exact s.quiet_claimUserPauseOwnership room actor
  · exact s.quiet_setReadinessPauseOwner room _

theorem quiet_applyStagedTransition (s : ServerRuntime) (clientId room actor : String)
    (desiredPaused : Bool) (now : Seconds) :
    Quiet s (s.applyStagedTransition clientId room actor desiredPaused now) := by
  unfold applyStagedTransition
  extract_lets before owned
  have howned : Quiet s owned := s.quiet_ownStagedTransition room actor desiredPaused
  split
  · exact howned
  · exact howned.trans (owned.quiet_establishRoomTransport room _)

theorem quiet_ownObservedPause (s : ServerRuntime) (session : ServerSession)
    (observation : TransportObservation) : Quiet s (s.ownObservedPause session observation) := by
  unfold ownObservedPause
  split
  · exact s.quiet_claimUserPauseOwnership _ _
  · split
    · split
      · exact s.quiet_setReadinessPauseOwner _ _
      · exact Quiet.refl s
    · exact Quiet.refl s

theorem quiet_commitObservation (s : ServerRuntime) (clientId : String) (session : ServerSession)
    (observation : TransportObservation) (now : Seconds) :
    Quiet s (s.commitObservation clientId session observation now) := by
  unfold commitObservation
  extract_lets before owned transported
  have htransported : Quiet s transported :=
    (s.quiet_ownObservedPause session observation).trans
      (owned.quiet_establishRoomTransport session.room _)
  split
  · exact htransported.trans (transported.quiet_setReadinessPauseOwner _ _)
  · exact htransported

theorem quiet_recordPersistentRoomCreation (s : ServerRuntime) (room identity : String)
    (now : Seconds) : Quiet s (s.recordPersistentRoomCreation room identity now) :=
  Quiet.of_fields rfl rfl rfl rfl rfl rfl rfl rfl rfl

theorem quiet_releasePersistentRoomOwnership (s : ServerRuntime) (room : String) :
    Quiet s (s.releasePersistentRoomOwnership room) :=
  Quiet.of_fields rfl rfl rfl rfl rfl rfl rfl rfl rfl

end ServerRuntime

end Sorotte.Server
