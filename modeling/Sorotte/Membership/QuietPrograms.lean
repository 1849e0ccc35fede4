import Sorotte.Membership.QuietUpdates

/-! # Quiet programs

  The server code that never fails and only makes quiet changes: publishing,
  the readiness gate, the buffering policy, commits, timeouts, retirement and
  the requests of `handle_playback_barrier_set` that install nothing.
-/

namespace Sorotte.Server

open Sorotte.Framework Sorotte.Framework.Prog

theorem Quiet.session {s s' : ServerRuntime} (h : Quiet s s') (clientId : String) :
    s'.sessions[clientId]? = s.sessions[clientId]? := by
  rw [h.same.sessions]

/-! ### Forced and periodic States -/

theorem forcedStateSync_quiet (s : ServerRuntime) (clientId : String) (position : Seconds)
    (paused : Bool) (doSeek : Option Bool) (setBy : Option String) :
    Succeeds Quiet s (forcedStateSyncMessageForClient clientId position paused doSeek setBy) :=
  succeeds_get_bind <|
    succeeds_modify_bind (s.quiet_updateStateCounters clientId _) (succeeds_pure _ _)

theorem forcedStateFanout_quiet (s : ServerRuntime) (clients : List String) (position : Seconds)
    (paused : Bool) (doSeek : Option Bool) (setBy : Option String) :
    Succeeds Quiet s (forcedStateFanout clients position paused doSeek setBy) := by
  refine succeeds_collect fun clientId _ t _ => ?_
  exact succeeds_bind (forcedStateSync_quiet t clientId position paused doSeek setBy)
    fun _ u _ => succeeds_pure u _

theorem periodicStateSync_quiet (s : ServerRuntime) (clientId : String) (position : Seconds)
    (paused : Bool) (setBy : Option String) (now : Seconds) :
    Succeeds Quiet s (periodicStateSyncMessageForClientAt clientId position paused setBy now) := by
  refine succeeds_get_bind ?_
  split
  · exact succeeds_pure _ _
  · refine succeeds_modify_bind (s.quiet_updateStateCounters clientId _) ?_
    split <;> exact succeeds_pure _ _

theorem forceCanonicalState_quiet (s : ServerRuntime) (clientId : String)
    (playback : RoomPlaybackState) (paused doSeek : Bool) :
    Succeeds Quiet s (forceCanonicalState clientId playback paused doSeek) :=
  succeeds_bind (forcedStateSync_quiet s clientId _ _ _ _) fun _ t _ => succeeds_pure t _

/-! ### The readiness gate -/

theorem updateAndPublish_quiet (s : ServerRuntime) (room : String)
    (changes : ServerRuntime → Bool) {update : ServerRuntime → ServerRuntime}
    (h : Quiet s (update s)) : Succeeds Quiet s (updateAndPublish room changes update) := by
  refine succeeds_get_bind (succeeds_modify_bind h ?_)
  split
  · exact succeeds_gets _ _
  · exact succeeds_pure _ _

theorem markReadinessGateDegraded_quiet (s : ServerRuntime) (room : String)
    (reason : StartGateDegradedReason) :
    Succeeds Quiet s (markReadinessGateDegraded room reason) :=
  updateAndPublish_quiet s room _ (s.quiet_markReadinessGateDegraded room reason)

theorem clearReadinessGate_quiet (s : ServerRuntime) (room : String) :
    Succeeds Quiet s (clearReadinessGate room) :=
  updateAndPublish_quiet s room _ (s.quiet_clearReadinessGate room)

/-! ### The buffering policy -/

theorem publishRoomBufferingTransition_quiet (s before after : ServerRuntime) (room : String)
    (transition : RoomBufferingTransition) (setBy : String) (now : Seconds) :
    Succeeds Quiet s
      (publishRoomBufferingTransition before after room transition setBy now) := by
  unfold publishRoomBufferingTransition
  split
  · exact succeeds_bind (forcedStateFanout_quiet s _ _ _ _ _) fun _ t _ => succeeds_pure t _
  · exact succeeds_pure _ _

theorem evaluateRoomBufferingAt_quiet (s : ServerRuntime) (room : String) (now : Seconds)
    (alwaysPublishStatus : Bool) :
    Succeeds Quiet s (evaluateRoomBufferingAt room now alwaysPublishStatus) := by
  refine succeeds_get_bind ?_
  split
  · exact succeeds_pure _ _
  · refine succeeds_modify_bind (s.quiet_evaluateRoomBuffering room now) ?_
    extract_lets publish
    have hpublish : ∀ out t, Succeeds Quiet t (publish out) := by
      intro out t
      refine succeeds_get_bind ?_
      dsimp only
      split <;> exact succeeds_pure _ _
    split
    · exact succeeds_bind (succeeds_pure _ _) fun out t _ => hpublish out t
    · exact succeeds_bind (publishRoomBufferingTransition_quiet _ _ _ _ _ _ _)
        fun out t _ => hpublish out t

theorem recordRoomBufferingReport_quiet {s : ServerRuntime} {clientId : String}
    {session : ServerSession} (hsession : s.sessions[clientId]? = some session)
    (report : TransportBufferingReportPayload) :
    Succeeds Quiet s (recordRoomBufferingReport clientId report) := by
  refine succeeds_get_bind ?_
  rw [hsession]
  dsimp only
  split
  · exact succeeds_pure _ _
  · split
    · exact succeeds_pure _ _
    · exact succeeds_modify_bind (s.quiet_updateControl session.room _)
        (evaluateRoomBufferingAt_quiet _ _ _ _)

theorem refreshRoomBufferingParticipant_quiet (s : ServerRuntime) (clientId : String) :
    Succeeds Quiet s (refreshRoomBufferingParticipant clientId) := by
  refine succeeds_get_bind ?_
  split
  · exact succeeds_pure _ _
  · split
    · exact succeeds_pure _ _
    · exact succeeds_bind (evaluateRoomBufferingAt_quiet s _ _ _) fun _ t _ =>
        succeeds_get_bind (succeeds_pure t _)

theorem markRoomBufferingParticipantDisconnected_quiet (s : ServerRuntime)
    (clientId room : String) :
    Succeeds Quiet s (markRoomBufferingParticipantDisconnected clientId room) := by
  refine succeeds_get_bind ?_
  split
  · exact succeeds_pure _ _
  · split
    · exact succeeds_pure _ _
    · split
      · refine succeeds_modify_bind (s.quiet_retireOwnerlessPolicy room clientId _) ?_
        dsimp only
        split
        · exact succeeds_bind (publishRoomBufferingTransition_quiet _ _ _ _ _ _ _)
            fun _ t _ => succeeds_get_bind (succeeds_pure t _)
        · exact succeeds_bind (succeeds_pure _ _) fun _ t _ => succeeds_get_bind (succeeds_pure t _)
      · exact succeeds_modify_bind (s.quiet_updateControl room _)
          (evaluateRoomBufferingAt_quiet _ _ _ _)

/-! ### Commits, acknowledgements and timeouts -/

theorem commitPlaybackBarrier_quiet (s : ServerRuntime) (room : String) (timedOut : Bool)
    (now : Seconds) : Succeeds Quiet s (commitPlaybackBarrier room timedOut now) := by
  refine succeeds_get_bind ?_
  split
  · exact succeeds_pure _ _
  · next barrier _ =>
    split
    · exact succeeds_pure _ _
    · refine succeeds_modify_bind (s.quiet_commitStart room barrier timedOut now)
        (succeeds_get_bind ?_)
      exact succeeds_bind (forcedStateFanout_quiet _ _ _ _ _ _) fun _ t _ =>
        succeeds_get_bind (succeeds_pure t _)

theorem maybeCommitReadinessGate_quiet (s : ServerRuntime) (room : String) :
    Succeeds Quiet s (maybeCommitReadinessGate room) := by
  refine succeeds_get_bind ?_
  split
  · exact commitPlaybackBarrier_quiet s room false _
  · exact succeeds_pure _ _

theorem recordPlaybackBarrierReady_quiet {s : ServerRuntime} {clientId : String}
    {session : ServerSession} (hsession : s.sessions[clientId]? = some session)
    (ready : MediaReadyPayload) : Succeeds Quiet s (recordPlaybackBarrierReady clientId ready) := by
  refine succeeds_get_bind ?_
  rw [hsession]
  dsimp only
  split
  · exact succeeds_pure _ _
  · split
    · exact succeeds_pure _ _
    · refine succeeds_modify_bind (s.quiet_updateBarrier session.room _) (succeeds_get_bind ?_)
      split
      · exact commitPlaybackBarrier_quiet _ _ _ _
      · exact succeeds_pure _ _

theorem recordPlaybackBarrierStarted_quiet (s : ServerRuntime) (clientId : String)
    (started : StartedAckPayload) :
    Succeeds Quiet s (recordPlaybackBarrierStarted clientId started) := by
  refine succeeds_get_bind ?_
  split
  · next session observedPosition _ _ =>
    split
    · exact succeeds_pure _ _
    · next barrier _ =>
      split
      · exact succeeds_pure _ _
      · refine succeeds_modify_bind
          (s.quiet_acknowledgeStarted session.room clientId barrier started observedPosition)
          (succeeds_get_bind ?_)
        dsimp only
        split
        · exact succeeds_bind (clearReadinessGate_quiet _ _) fun _ t _ => succeeds_pure t _
        · exact succeeds_pure _ _
  · exact succeeds_pure _ _

theorem finishPrepareTimeout_quiet (s : ServerRuntime) (room : String) (awaiting : Bool) :
    Succeeds Quiet s (finishPrepareTimeoutWithoutCommit room awaiting) := by
  refine succeeds_get_bind ?_
  split
  · exact succeeds_modify_bind (s.quiet_updateBarrier room _) (succeeds_gets _ _)
  · exact succeeds_pure _ _

/-- A start that timed out without a commit may degrade the gate. -/
theorem finishAndDegrade_quiet (s : ServerRuntime) (room : String) (awaiting degrades : Bool) :
    Succeeds Quiet s (do
      let finished ← finishPrepareTimeoutWithoutCommit room awaiting
      let gate ← if degrades then markReadinessGateDegraded room .timedOut else pure []
      pure (finished ++ gate) : ServerM Outbound) := by
  refine succeeds_bind (finishPrepareTimeout_quiet s room awaiting) fun _ t _ => ?_
  cases degrades with
  | true =>
    exact succeeds_bind (markReadinessGateDegraded_quiet t room .timedOut)
      fun _ u _ => succeeds_pure u _
  | false => exact succeeds_bind (succeeds_pure _ _) fun _ u _ => succeeds_pure u _

theorem finishDuePrepare_quiet (s : ServerRuntime) (room : String) (now : Seconds) :
    Succeeds Quiet s (finishDuePrepare room now) := by
  refine succeeds_get_bind ?_
  dsimp only
  split
  · split
    · exact finishAndDegrade_quiet s room false true
    · exact commitPlaybackBarrier_quiet s room true now
  · exact finishAndDegrade_quiet s room false _
  · exact finishAndDegrade_quiet s room true _

theorem finishDueStarted_quiet (s : ServerRuntime) (room : String) :
    Succeeds Quiet s (finishDueStarted room) :=
  succeeds_modify_bind (s.quiet_updateBarrier room _) <| succeeds_gets_bind <|
    succeeds_bind (clearReadinessGate_quiet _ _) fun _ t _ => succeeds_pure t _

/-! ### Retirement -/

theorem retireAwaitingPlaybackBarrierDecision_quiet (s : ServerRuntime)
    (clientId room : String) :
    Succeeds Quiet s (retireAwaitingPlaybackBarrierDecision clientId room) := by
  refine succeeds_get_bind ?_
  dsimp only
  split
  · exact succeeds_modify_bind (s.quiet_updateBarrier room _) (succeeds_gets _ _)
  · exact succeeds_pure _ _

theorem retirePlaybackCoordinationForSelection_quiet (s : ServerRuntime) (room : String) :
    Succeeds Quiet s (retirePlaybackCoordinationForSelection room) := by
  refine succeeds_modify_bind (s.quiet_updateBarrier room _) (succeeds_gets_bind ?_)
  refine succeeds_modify_bind (ServerRuntime.quiet_updateControl _ room _) (succeeds_get_bind ?_)
  split <;> exact succeeds_pure _ _

theorem claimUserPauseOwnership_quiet (s : ServerRuntime) (room actor : String) :
    Succeeds Quiet s (claimUserPauseOwnership room actor) :=
  succeeds_get_bind <|
    succeeds_modify_bind (s.quiet_claimUserPauseOwnership room actor) (succeeds_pure _ _)

theorem markPlaybackBarrierParticipantDisconnected_quiet (s : ServerRuntime)
    (clientId room : String) :
    Succeeds Quiet s (markPlaybackBarrierParticipantDisconnected clientId room) := by
  refine succeeds_get_bind ?_
  split
  · exact succeeds_pure _ _
  · split
    · exact succeeds_pure _ _
    · refine succeeds_modify_bind (s.quiet_updateBarrier room _) (succeeds_get_bind ?_)
      split
      · exact commitPlaybackBarrier_quiet _ _ _ _
      · exact succeeds_pure _ _

/-! ### Requests -/

theorem playbackBarrierNewIdentityRetryAfterMillis_quiet (s : ServerRuntime)
    (clientId room : String) (requestId : Option String) (requestNonce : Nat) :
    Succeeds Quiet s
      (playbackBarrierNewIdentityRetryAfterMillis clientId room requestId requestNonce) := by
  have hpruned : Quiet s s.prunePlaybackBarrierNewIdentityRateHistory :=
    Quiet.of_fields rfl rfl rfl rfl rfl rfl rfl rfl rfl
  refine succeeds_modify_bind hpruned (succeeds_get_bind ?_)
  split
  · exact succeeds_pure _ _
  · exact succeeds_modify_bind (ServerRuntime.quiet_chargeNewIdentity _ _ _ _ _)
      (succeeds_pure _ _)

theorem rejectFencedPlaybackBarrierTransport_quiet (s : ServerRuntime) (clientId : String) :
    Succeeds Quiet s (rejectFencedPlaybackBarrierTransport clientId) := by
  refine succeeds_get_bind ?_
  split
  · exact succeeds_modify_bind (s.quiet_fenceAndClose clientId) (succeeds_pure _ _)
  · exact succeeds_pure _ _

theorem rebindPlaybackBarrierOwnerIfNewer_quiet (s : ServerRuntime) (clientId room : String) :
    Succeeds Quiet s (rebindPlaybackBarrierOwnerIfNewer clientId room) := by
  refine succeeds_get_bind ?_
  split
  · split
    · exact succeeds_pure _ _
    · exact succeeds_modify_bind (s.quiet_rebindPlaybackBarrierOwner clientId _ room _ _)
        (succeeds_pure _ _)
  · exact succeeds_pure _ _

theorem rebindRoomBufferingOwnerIfNewer_quiet (s : ServerRuntime) (clientId room : String) :
    Succeeds Quiet s (rebindRoomBufferingOwnerIfNewer clientId room) := by
  refine succeeds_get_bind ?_
  split
  · dsimp only
    split
    · exact succeeds_pure _ _
    · exact succeeds_modify (s.quiet_rebindRoomBufferingOwner clientId _ room _)
  · exact succeeds_pure _ _

theorem supersedeActiveBarrier_quiet (s : ServerRuntime) (room : String) :
    Succeeds Quiet s (supersedeActiveBarrier room) := by
  refine succeeds_get_bind
    (succeeds_modify_bind (s.quiet_updateBarrier room _) (succeeds_gets_bind ?_))
  dsimp only
  split
  · exact succeeds_bind (markReadinessGateDegraded_quiet _ _ _) fun _ t _ => succeeds_pure t _
  · exact succeeds_bind (succeeds_pure _ _) fun _ t _ => succeeds_pure t _

theorem retryCurrentPrepare_quiet (s : ServerRuntime) (clientId : String)
    (session : ServerSession) (prepare : PrepareMediaRequest) (logicalMediaId : String)
    (barrier : RoomPlaybackBarrier) :
    Succeeds Quiet s (retryCurrentPrepare clientId session prepare logicalMediaId barrier) := by
  unfold retryCurrentPrepare
  split
  · refine succeeds_modify_bind (s.quiet_setRequestNonce clientId _) ?_
    exact succeeds_bind (rebindPlaybackBarrierOwnerIfNewer_quiet _ _ _) fun _ t _ =>
      succeeds_get_bind (succeeds_pure t _)
  · exact succeeds_pure _ _

theorem retryCurrentPolicy_quiet (s : ServerRuntime) (clientId : String)
    (session : ServerSession) (config : RoomBufferingPolicyPayload) :
    Succeeds Quiet s (retryCurrentPolicy clientId session config) := by
  refine succeeds_get_bind ?_
  split
  · split <;> exact succeeds_pure _ _
  · exact succeeds_bind (rebindRoomBufferingOwnerIfNewer_quiet s _ _) fun _ t _ =>
      succeeds_gets t _

theorem recoverPolicy_quiet (s : ServerRuntime) (clientId room : String)
    (query : PlaybackBarrierRecoveryPayload) (control : RoomBufferingControl) :
    Succeeds Quiet s (recoverPolicy clientId room query control) := by
  unfold recoverPolicy
  split
  · exact succeeds_pure _ _
  · exact succeeds_bind (rebindRoomBufferingOwnerIfNewer_quiet s _ _) fun _ t _ =>
      succeeds_get_bind (succeeds_pure t _)

theorem recoverBarrier_quiet (s : ServerRuntime) (clientId room : String)
    (query : PlaybackBarrierRecoveryPayload) (barrier : RoomPlaybackBarrier) :
    Succeeds Quiet s (recoverBarrier clientId room query barrier) := by
  unfold recoverBarrier
  dsimp only
  split
  · have hreply : ∀ (t : ServerRuntime) (rebound : Bool)
        (reply : Outbound → ServerRuntime → Outbound), Succeeds Quiet t (do
          let rebinding ←
            if rebound then do
              let s ← Prog.get
              let buffering ← evaluateRoomBufferingAt room s.currentTimeSeconds true
              pure (s.playbackBarrierStatusFanout room ++ buffering)
            else
              pure []
          let s ← Prog.get
          pure (reply rebinding s) : ServerM Outbound) := by
      intro t rebound reply
      cases rebound with
      | true =>
        exact succeeds_get_bind <| succeeds_bind (evaluateRoomBufferingAt_quiet t _ _ _)
          fun _ u _ => succeeds_pure_bind (succeeds_get_bind (succeeds_pure u _))
      | false =>
        exact succeeds_bind (succeeds_pure _ _) fun _ u _ => succeeds_get_bind (succeeds_pure u _)
    split
    · exact succeeds_bind (rebindPlaybackBarrierOwnerIfNewer_quiet s _ _)
        fun rebound t _ => hreply t rebound _
    · exact succeeds_bind (succeeds_pure _ _) fun rebound t _ => hreply t rebound _
  · split <;> exact succeeds_pure _ _

theorem handlePlaybackBarrierRecovery_quiet {s : ServerRuntime} {clientId : String}
    {session : ServerSession} (hsession : s.sessions[clientId]? = some session)
    (query : PlaybackBarrierRecoveryPayload) :
    Succeeds Quiet s (handlePlaybackBarrierRecovery clientId query) := by
  refine succeeds_get_bind ?_
  rw [hsession]
  dsimp only
  split
  · exact succeeds_pure _ _
  · split
    · exact succeeds_pure _ _
    · refine succeeds_modify_bind s.quiet_pruneTombstones (succeeds_get_bind ?_)
      split
      · split
        · exact recoverBarrier_quiet _ _ _ _ _
        · exact succeeds_pure _ _
      · split
        · exact recoverPolicy_quiet _ _ _ _ _
        · split
          · exact succeeds_pure _ _
          · split
            · exact succeeds_pure _ _
            · exact recoverBarrier_quiet _ _ _ _ _

theorem handlePlaybackBarrierState_quiet {s : ServerRuntime} {clientId : String}
    {session : ServerSession} (hsession : s.sessions[clientId]? = some session)
    (extension : PlaybackBarrierStateExtension) :
    Succeeds Quiet s (handlePlaybackBarrierState clientId extension) := by
  refine succeeds_get_bind ?_
  split
  · exact succeeds_pure _ _
  · refine succeeds_bind (succeeds_onSome fun ready _ => recordPlaybackBarrierReady_quiet hsession
      ready) fun _ t ht => ?_
    refine succeeds_bind (succeeds_onSome fun started _ =>
      recordPlaybackBarrierStarted_quiet t clientId started) fun _ u hu => ?_
    have hsession' : u.sessions[clientId]? = some session := by
      rw [hu.session, ht.session, hsession]
    exact succeeds_bind (succeeds_onSome fun report _ =>
      recordRoomBufferingReport_quiet hsession' report) fun _ v _ => succeeds_pure v _

/-! ### Player transport -/

theorem applyStagedUserTransportTransition_quiet (s : ServerRuntime)
    (clientId room actor : String) (desiredPaused : Bool) :
    Succeeds Quiet s (applyStagedUserTransportTransition clientId room actor desiredPaused) := by
  refine succeeds_bind (retireAwaitingPlaybackBarrierDecision_quiet s clientId room)
    fun _ t _ => succeeds_get_bind ?_
  refine succeeds_modify_bind
    (t.quiet_applyStagedTransition clientId room actor desiredPaused t.currentTimeSeconds) ?_
  split
  · exact succeeds_pure _ _
  · exact succeeds_get_bind <| succeeds_bind (forcedStateFanout_quiet _ _ _ _ _ _)
      fun _ u _ => succeeds_pure u _

theorem applyIndirectPlayerTransport_quiet (s : ServerRuntime) (clientId : String)
    (session : ServerSession) (desiredPaused stagedObservationMatches : Bool) :
    Succeeds Quiet s
      (applyIndirectPlayerTransport clientId session desiredPaused stagedObservationMatches) := by
  refine succeeds_get_bind ?_
  dsimp only
  split
  · exact applyStagedUserTransportTransition_quiet s _ _ _ _
  · split
    · refine succeeds_bind (retireAwaitingPlaybackBarrierDecision_quiet s clientId session.room)
        fun _ t _ => ?_
      exact succeeds_bind (succeeds_when fun _ => claimUserPauseOwnership_quiet t _ _)
        fun _ u _ => succeeds_pure u _
    · split
      · exact succeeds_modify_bind (s.quiet_storePendingUserTransport clientId _ _ _ _)
          (succeeds_pure _ _)
      · exact succeeds_pure _ _

theorem publishObservation_quiet (s : ServerRuntime) (clientId : String)
    (session : ServerSession) (observation : TransportObservation) (doSeek : Option Bool)
    (now : Seconds) :
    Succeeds Quiet s (publishObservation clientId session observation doSeek now) := by
  refine succeeds_get_bind (succeeds_modify_bind
    (s.quiet_commitObservation clientId session observation now) (succeeds_get_bind ?_))
  exact succeeds_bind (forcedStateFanout_quiet _ _ _ _ _ _) fun _ t _ => succeeds_pure t _

/-- A sample that passed the check on its revision names the room's authority. -/
theorem authority_of_not_stale {s : ServerRuntime} {room : String} {playstate : ServerPlaystate}
    (hstale : s.transportRevisionIsStale room playstate = false) {revision : Nat}
    (hrevision : playstate.transportRevision = some revision) :
    s.authority room = some revision := by
  unfold ServerRuntime.transportRevisionIsStale at hstale
  rw [hrevision, Option.any_some, Bool.or_eq_false_iff, bne_eq_false_iff_eq] at hstale
  exact hstale.2.symm

theorem applyPlaystate_quiet {s : ServerRuntime} {clientId : String} {session : ServerSession}
    (hsession : s.sessions[clientId]? = some session) {playstate : ServerPlaystate}
    (hstale : s.transportRevisionIsStale session.room playstate = false)
    (forwardDelay : Seconds) :
    Succeeds Quiet s (applyPlaystate clientId session playstate forwardDelay) := by
  refine succeeds_get_bind ?_
  extract_lets now before observation
  have hrecorded :
      Quiet s (s.recordObservation clientId observation playstate forwardDelay now) := by
    unfold ServerRuntime.recordObservation
    extract_lets consumed position
    have hconsumed : Quiet s consumed := by
      show Quiet s (if _ then _ else _)
      split
      · exact s.quiet_clearPendingUserTransport clientId
      · exact Quiet.refl s
    have hscopes : consumed.authority = s.authority := by
      show ServerRuntime.authority (if _ then _ else _) = _
      split <;> rfl
    refine hconsumed.trans (consumed.quiet_recordClientPlaybackStateSample clientId position now
      playstate.transportRevision fun session' revision hsession' hrevision => ?_)
    rw [hconsumed.session, hsession] at hsession'
    cases hsession'
    rw [hscopes]
    exact authority_of_not_stale hstale hrevision
  refine succeeds_modify_bind hrecorded ?_
  split
  · exact succeeds_modify_bind (ServerRuntime.quiet_storePendingUserTransport _ _ _ _ _ _)
      (forceCanonicalState_quiet _ _ _ _ _)
  · refine succeeds_bind (succeeds_when fun _ =>
      retireAwaitingPlaybackBarrierDecision_quiet _ clientId session.room) fun _ t _ => ?_
    split
    · exact succeeds_pure _ _
    · split
      · exact succeeds_bind (publishObservation_quiet t _ _ _ _ _) fun _ u _ => succeeds_pure u _
      · refine succeeds_bind (forcedStateSync_quiet t clientId _ _ _ _) fun _ u _ => ?_
        exact succeeds_bind (forceCanonicalState_quiet u _ _ _ _) fun _ v _ => succeeds_pure v _

theorem handlePlaystate_quiet {s : ServerRuntime} {clientId : String} {session : ServerSession}
    (hsession : s.sessions[clientId]? = some session) (playstate : ServerPlaystate)
    (forwardDelay : Seconds) :
    Succeeds Quiet s (handlePlaystate clientId session playstate forwardDelay) := by
  refine succeeds_modify_bind (s.quiet_ensureRoomState session.room) (succeeds_get_bind ?_)
  split
  · exact forceCanonicalState_quiet _ _ _ _ _
  · next hstale =>
    exact applyPlaystate_quiet (s := s.ensureRoomState session.room) hsession
      (by simpa using hstale) forwardDelay

/-! ### Set commands that move no one -/

theorem setControllerAuth_quiet (s : ServerRuntime) (clientId : String) (session : ServerSession)
    (room : Option String) (password : String) :
    Succeeds Quiet s (setControllerAuth clientId session room password) := by
  refine succeeds_get_bind ?_
  dsimp only
  split
  · exact succeeds_modify_bind (s.quiet_grantController clientId _ _ _) (succeeds_pure _ _)
  · exact succeeds_pure _ _
  · exact succeeds_pure _ _
  · exact succeeds_pure _ _

theorem ownPauseForSelection_quiet (s : ServerRuntime) (room : String) :
    Succeeds Quiet s (ownPauseForSelection room) := by
  refine succeeds_get_bind (succeeds_modify_bind (s.quiet_ownPauseForSelection room)
    (succeeds_get_bind ?_))
  split <;> exact succeeds_pure _ _

end Sorotte.Server
