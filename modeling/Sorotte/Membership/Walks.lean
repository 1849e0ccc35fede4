import Sorotte.Membership.QuietPrograms
import Sorotte.Membership.Samples

/-! # Programs as walks

  Every program that changes memberships is a walk of moves, when it starts
  where seats are coherent, and does not fail there: what it writes to the
  roster is on it, and what it reads of a session is the session it was called
  for.
-/

namespace Sorotte.Server

open Sorotte.Framework Sorotte.Framework.Prog

variable {ok : Move → Prop} {s s' : ServerRuntime}

theorem Walk.seats (h : Walk ok s s') (hs : Seats s) : Seats s' :=
  h.preserves (fun _ _ _ _ hmove ht => hmove.seats ht) hs

/-- The rule for a bind: its second half starts where seats are coherent, too. -/
theorem walk_bind {α β : Type} {m : ServerM α} {k : α → ServerM β} (hs : Seats s)
    (hm : Succeeds (Walk ok) s m)
    (hk : ∀ a t, Walk ok s t → Seats t → Succeeds (Walk ok) t (k a)) :
    Succeeds (Walk ok) s (m >>= k) :=
  succeeds_bind hm fun a t hwalk => hk a t hwalk (hwalk.seats hs)

/-- A quiet program in front of a walk. -/
theorem walk_quiet_bind {α β : Type} {m : ServerM α} {k : α → ServerM β} (hs : Seats s)
    (hm : Succeeds Quiet s m)
    (hk : ∀ a t, Quiet s t → Seats t → Succeeds (Walk ok) t (k a)) :
    Succeeds (Walk ok) s (m >>= k) := by
  obtain ⟨a, t, hrun, hquiet⟩ := hm
  obtain ⟨b, u, hrest, hwalk⟩ := hk a t hquiet (hs.quiet hquiet)
  refine ⟨b, u, ?_, Relation.ReflTransGen.head ⟨.quiet, .inl rfl, .quiet hquiet⟩ hwalk⟩
  rw [bind_run, hrun]
  exact hrest

theorem walk_quiet_modify_bind {β : Type} {f : ServerRuntime → ServerRuntime}
    {k : Unit → ServerM β} (hs : Seats s) (hf : Quiet s (f s))
    (hk : Seats (f s) → Succeeds (Walk ok) (f s) (k ())) :
    Succeeds (Walk ok) s (modify f >>= k) :=
  succeeds_modify_bind (.quiet hf) (hk (hs.quiet hf))

theorem walk_modify_bind {β : Type} {f : ServerRuntime → ServerRuntime} {k : Unit → ServerM β}
    {move : Move} (hs : Seats s) (hok : ok move) (hmove : Moves move s (f s))
    (hk : Seats (f s) → Succeeds (Walk ok) (f s) (k ())) :
    Succeeds (Walk ok) s (modify f >>= k) :=
  succeeds_modify_bind (.move hok hmove) (hk (hmove.seats hs))

/-! ### Which moves -/

/-- Moves that leave every session as it is. -/
def Move.keepsSessions : Move → Prop
  | .attach _ _ _ | .detach _ => True
  | move => move.edits

theorem Moves.sessions {move : Move} (h : Moves move s s') (hkeeps : move.keepsSessions) :
    s'.sessions = s.sessions := by
  by_cases hedits : move.edits
  · exact (@Moves.edit (fun _ _ => False) (fun _ => False) _ _ _ h hedits).1.sessions
  · cases h with
    | @attach _ clientId session presentedToken freshToken seed hsession henabled hcapable =>
      set bound := s.bindReconnectIdentity clientId session presentedToken freshToken
      have htokens : OnlyTokens s bound := bind_onlyTokens s _ _ presentedToken freshToken
      obtain ⟨p, -, hadded⟩ := joinedMembership_added bound clientId session
        (s.restorableMembership session presentedToken) seed
      exact ((attachMembership_seatsKept bound clientId session _ seed).sessions.trans
        hadded.sessions).trans htokens.sessions
    | detach retain hsession hseat hclient =>
      exact (detachSeat_detached s _ _ _ retain).kept.sessions
    | _ => exact absurd hkeeps (by assumption)

theorem Walk.sessions (h : Walk ok s s') (hkeeps : ∀ move, ok move → move.keepsSessions) :
    s'.sessions = s.sessions := by
  induction h with
  | refl => rfl
  | tail _ hstep ih =>
    obtain ⟨move, hok, hmoved⟩ := hstep
    refine (hmoved.sessions ?_).trans ih
    rcases hok with rfl | hok
    · trivial
    · exact hkeeps move hok

/-- A session survives a walk of edits. -/
theorem Walk.session {clientId : String} {session : ServerSession} (h : Walk Move.edits s s')
    (hsession : s.sessions[clientId]? = some session) :
    s'.sessions[clientId]? = some session := by
  rw [h.sessions fun move hedits => ?_]
  · exact hsession
  · cases move <;> first | exact hedits | exact hedits.elim

/-! ### Generations -/

/-- Writing a flag of the roster that is there does not fail. -/
theorem setRosterReady_run {room username : String}
    (hflag : (s.rosterFlag room username).isSome = true) (ready : Bool) :
    setRosterReady username room ready s =
      (.ok (), { s with
        roomRoster := Roster.joinRoomWithReady s.roomRoster username room (some ready) }) := by
  unfold setRosterReady
  rw [get_bind_run, Roster.setReady_of_flag hflag]
  rfl

theorem projectReadinessParticipant_run {room username : String}
    (hflag : (s.rosterFlag room username).isSome = true) (previous : BTreeMap String Bool) :
    ∃ out, projectReadinessParticipant room previous username s =
      (.ok out, s.projectReady room username) := by
  unfold projectReadinessParticipant
  rw [get_bind_run, bind_of_ok (setRosterReady_run hflag _)]
  exact ⟨_, rfl⟩

theorem projectParticipants_run {stale : String → String → Prop} {excused : String → Prop}
    {room : String} (previous : BTreeMap String Bool) (usernames : List String)
    (hs : Members stale excused s)
    (hflags : ∀ username ∈ usernames, (s.rosterFlag room username).isSome = true) :
    ∃ out, collect (projectReadinessParticipant room previous) usernames s =
      (.ok out, s.projectAll room usernames) := by
  induction usernames generalizing s stale with
  | nil => exact ⟨[], rfl⟩
  | cons username usernames ih =>
    obtain ⟨out, hrun⟩ := projectReadinessParticipant_run (hflags username (by simp)) previous
    have hprojected := hs.project (hflags username (by simp))
    obtain ⟨rest, hrest⟩ := ih hprojected fun other hother =>
      (hprojected.rostered room other).mpr <| (hs.rostered room other).mp <|
        hflags other (List.mem_cons_of_mem _ hother)
    refine ⟨out ++ rest, ?_⟩
    rw [collect, bind_of_ok hrun, bind_of_ok hrest]
    rfl

/-- Publishing a replaced generation writes every projection back. -/
theorem publishReplaced_run {stale : String → String → Prop} {excused : String → Prop}
    (hs : Members stale excused s) (room : String) (previous : BTreeMap String Bool) :
    ∃ out, publishReplacedReadinessGeneration room previous s =
      (.ok out, s.projectAll room (s.members room)) := by
  unfold publishReplacedReadinessGeneration
  rw [get_bind_run]
  cases hk : s.roomReadiness[room]? with
  | none =>
    have hmembers : s.members room = [] := by
      unfold ServerRuntime.members
      rw [hk]
      rfl
    rw [hmembers]
    cases s.readinessEnabled <;> exact ⟨[], rfl⟩
  | some k =>
    have hmembers : s.members room = k.participants.keys := by
      unfold ServerRuntime.members
      rw [hk]
      rfl
    rw [hs.enabled room k hk, hmembers]
    obtain ⟨out, hrun⟩ := projectParticipants_run previous k.participants.keys hs
      fun username hmem => by
        rw [← hmembers] at hmem
        obtain ⟨p, hp⟩ := exists_of_mem_members hmem
        exact hs.flag hp
    refine ⟨out ++ (s.projectAll room k.participants.keys).readinessSnapshotFanout room, ?_⟩
    show (collect (projectReadinessParticipant room previous) k.participants.keys >>= _) s = _
    rw [bind_of_ok hrun]
    rfl

/-- A generation that is replaced by a state update, with quiet code before its
    projections are written back. -/
theorem replaced_walk {t : ServerRuntime} (hs : Seats s) (room : String)
    (generation : Option Nat) (ownsStartPause : Bool) (previous : BTreeMap String Bool)
    (hquiet : Quiet (s.replaceReadinessGeneration room generation ownsStartPause) t) :
    ∃ out, publishReplacedReadinessGeneration room previous t =
      (.ok out, t.projectAll room (t.members room))
      ∧ Walk Move.edits s (t.projectAll room (t.members room)) := by
  have howed := ((replaceGeneration_spec s room generation ownsStartPause).2 hs).quiet hquiet
  obtain ⟨out, hrun⟩ := publishReplaced_run howed room previous
  exact ⟨out, hrun, .move (by trivial)
    (.regenerate room generation ownsStartPause hquiet)⟩

/-- The rule for a program that publishes a replaced generation and goes on. -/
theorem walk_replaced_bind {β : Type} {t u : ServerRuntime} {k : Outbound → ServerM β}
    (hs : Seats s) (ht : Quiet s t) {room : String} {generation : Option Nat}
    {ownsStartPause : Bool} (previous : BTreeMap String Bool)
    (hu : Quiet (t.replaceReadinessGeneration room generation ownsStartPause) u)
    (hk : ∀ out v, Seats v → Succeeds (Walk Move.edits) v (k out)) :
    ∃ b v, (publishReplacedReadinessGeneration room previous >>= k) u = (.ok b, v)
      ∧ Walk Move.edits s v := by
  obtain ⟨out, hrun, hwalk⟩ :=
    replaced_walk (hs.quiet ht) room generation ownsStartPause previous hu
  obtain ⟨b, v, hrest, hrests⟩ := hk out _ (hwalk.seats (hs.quiet ht))
  refine ⟨b, v, ?_, ((Walk.quiet ht).trans hwalk).trans hrests⟩
  rw [bind_of_ok hrun]
  exact hrest

theorem replaceReadinessGeneration_walk (hs : Seats s) (room : String)
    (generation : Option Nat) (ownsStartPause : Bool) :
    Succeeds (Walk Move.edits) s (replaceReadinessGeneration room generation ownsStartPause) := by
  unfold replaceReadinessGeneration
  refine succeeds_gets_bind ?_
  obtain ⟨out, hrun, hwalk⟩ := replaced_walk hs room generation ownsStartPause
    (s.readinessProjection room) (Quiet.refl _)
  refine ⟨out, _, ?_, hwalk⟩
  rw [modify_bind_run]
  exact hrun

/-! ### Starts -/

theorem quiet_beforeInstall (s : ServerRuntime) (room : String) (barrier : RoomPlaybackBarrier)
    (displaced : BTreeMap String DisplacedPlaybackBarrierRequest) (now : Seconds) :
    ∃ t, Quiet s t ∧ s.installBarrier room barrier displaced now =
      t.replaceReadinessGeneration room (some barrier.prepare.mediaGeneration) true := by
  unfold ServerRuntime.installBarrier
  extract_lets generation retained stored transported
  have hretained : Quiet s retained :=
    (s.quiet_retainDisplaced room displaced).trans (ServerRuntime.quiet_allocateForPrepare _ _ _ _)
  have hstored : Quiet retained stored :=
    Quiet.of_fields rfl rfl rfl rfl rfl rfl rfl rfl rfl
  have htransported : Quiet stored transported :=
    (stored.quiet_advanceParticipantStatusMediaGeneration room _).trans
      (ServerRuntime.quiet_establishRoomTransport _ room _)
  exact ⟨transported, (hretained.trans hstored).trans htransported, rfl⟩

theorem installPrepare_walk (hs : Seats s) (clientId : String) (session : ServerSession)
    (sessionSequence : Nat) (prepare : PrepareMediaRequest) (logicalMediaId : String)
    (target : Seconds) (displaced : BTreeMap String DisplacedPlaybackBarrierRequest)
    (loadIntent : MediaLoadIntent) (generation : Nat) :
    Succeeds (Walk Move.edits) s (installPrepare clientId session sessionSequence prepare
      logicalMediaId target displaced loadIntent generation) := by
  refine succeeds_get_bind ?_
  dsimp only
  split
  · exact walk_quiet_modify_bind hs (s.quiet_allocateForPrepare _ _ _)
      fun _ => succeeds_pure _ _
  · obtain ⟨t, hquiet, hinstalled⟩ :=
      quiet_beforeInstall s session.room _ displaced s.currentTimeSeconds
    obtain ⟨b, v, hrun, hwalk⟩ := walk_replaced_bind hs hquiet
      (s.readinessProjection session.room) (Quiet.refl _) fun out v hv =>
        succeeds_get_bind <| walk_quiet_bind hv (forcedStateFanout_quiet v _ _ _ _ _)
          fun _ w _ _ => succeeds_get_bind (succeeds_pure w _)
    refine ⟨b, v, ?_, hwalk⟩
    rw [modify_bind_run, hinstalled]
    exact hrun

theorem acceptPrepare_walk (hs : Seats s) (clientId : String) (session : ServerSession)
    (sessionSequence : Nat) (prepare : PrepareMediaRequest) (logicalMediaId : String)
    (target : Seconds) (displaced : BTreeMap String DisplacedPlaybackBarrierRequest)
    (supersedesActive : Bool) (loadIntent : MediaLoadIntent) :
    Succeeds (Walk Move.edits) s (acceptPrepare clientId session sessionSequence prepare
      logicalMediaId target displaced supersedesActive loadIntent) := by
  refine succeeds_get_bind ?_
  split
  · exact succeeds_pure _ _
  · next generation _ =>
    split
    · refine walk_quiet_bind hs (supersedeActiveBarrier_quiet s _) fun _ t _ ht => ?_
      exact walk_bind ht (installPrepare_walk ht _ _ _ _ _ _ _ _ _)
        fun _ u _ _ => succeeds_pure u _
    · exact installPrepare_walk hs _ _ _ _ _ _ _ _ _

theorem admitPrepare_walk (hs : Seats s) (clientId : String) (session : ServerSession)
    (sessionSequence : Nat) (prepare : PrepareMediaRequest) (logicalMediaId : String)
    (target : Seconds) :
    Succeeds (Walk Move.edits) s
      (admitPrepare clientId session sessionSequence prepare logicalMediaId target) := by
  unfold admitPrepare
  refine walk_quiet_bind hs (playbackBarrierNewIdentityRetryAfterMillis_quiet s _ _ _ _)
    fun retryAfter t _ ht => ?_
  split
  · exact succeeds_pure _ _
  · refine succeeds_get_bind ?_
    extract_lets displaced
    refine walk_quiet_modify_bind ht t.quiet_pruneTombstones fun hpruned => succeeds_get_bind ?_
    split
    · exact succeeds_pure _ _
    · refine walk_quiet_modify_bind hpruned (ServerRuntime.quiet_setRequestNonce _ _ _)
        fun hspent => ?_
      split
      · exact succeeds_pure _ _
      · exact succeeds_gets _ _
      · exact acceptPrepare_walk hspent _ _ _ _ _ _ _ _ _

theorem startPlaybackBarrier_walk {clientId : String} {session : ServerSession} (hs : Seats s)
    (hsession : s.sessions[clientId]? = some session) (prepare : PrepareMediaRequest) :
    Succeeds (Walk Move.edits) s (startPlaybackBarrier clientId prepare) := by
  refine succeeds_get_bind ?_
  rw [hsession]
  dsimp only
  split
  · split
    · exact succeeds_pure _ _
    · split
      · exact succeeds_walk (retryCurrentPrepare_quiet s _ _ _ _ _)
      · split
        · exact succeeds_pure _ _
        · refine walk_quiet_modify_bind hs s.quiet_pruneTombstones fun hpruned =>
            succeeds_get_bind ?_
          split
          · exact succeeds_pure _ _
          · split
            · split <;> exact succeeds_pure _ _
            · exact admitPrepare_walk hpruned _ _ _ _ _ _
  · exact succeeds_pure _ _

/-! ### Policies -/

theorem quiet_beforeStored (s : ServerRuntime) (clientId username room : String)
    (config : RoomBufferingPolicyPayload)
    (displaced : BTreeMap String DisplacedPlaybackBarrierRequest) (replaceRoomBarrier : Bool)
    (now : Seconds) :
    Quiet s (((s.clearedForPolicy room config displaced replaceRoomBarrier).releasePolicyPause
      room username now).installControl room (ServerRuntime.newControl clientId username config)) :=
  ((s.quiet_clearedForPolicy room config displaced replaceRoomBarrier).trans
    (ServerRuntime.quiet_releasePolicyPause _ room username now)).trans
    (ServerRuntime.quiet_installControl _ room _)

/-- What a policy resumes before it is published is quiet. -/
theorem resumedPolicy_quiet (s cleared released : ServerRuntime) (room username : String)
    (now : Seconds) :
    Succeeds Quiet s (if cleared.roomBufferingControls[room]?.any (·.pausedByPolicy) then
      publishRoomBufferingTransition cleared released room .resume username now
    else pure [] : ServerM Outbound) := by
  split
  · exact publishRoomBufferingTransition_quiet _ _ _ _ _ _ _
  · exact succeeds_pure _ _

theorem installRoomBufferingPolicy_walk (hs : Seats s) (clientId : String)
    (session : ServerSession) (requested : RoomBufferingPolicyPayload)
    (displaced : BTreeMap String DisplacedPlaybackBarrierRequest)
    (replaceRoomBarrier targeted paired : Bool) :
    Succeeds (Walk Move.edits) s (installRoomBufferingPolicy clientId session requested displaced
      replaceRoomBarrier targeted paired) := by
  refine succeeds_get_bind ?_
  dsimp only
  split
  · exact succeeds_pure _ _
  · generalize hconfig : normalizedPolicyConfig requested = config
    set cleared := s.clearedForPolicy session.room config displaced replaceRoomBarrier
    set released := cleared.releasePolicyPause session.room session.username s.currentTimeSeconds
    set stored := released.installControl session.room
      (ServerRuntime.newControl clientId session.username config)
    have hstored : Quiet s stored := quiet_beforeStored s clientId session.username session.room
      config displaced replaceRoomBarrier s.currentTimeSeconds
    have hinstalled : s.installPolicy clientId session.username session.room config displaced
        replaceRoomBarrier paired s.currentTimeSeconds =
          if paired then stored
          else stored.followTechnicalGeneration session.room config.mediaGeneration := rfl
    by_cases hmoved : (!paired
        && released.readinessMediaGeneration session.room != some config.mediaGeneration) = true
    · -- the coordinator follows, and its projections wait for the resumed States
      obtain ⟨hpaired, hgeneration⟩ := Bool.and_eq_true_iff.mp hmoved
      have hfollowed : s.installPolicy clientId session.username session.room config displaced
          replaceRoomBarrier paired s.currentTimeSeconds =
            stored.replaceReadinessGeneration session.room (some config.mediaGeneration) false := by
        rw [hinstalled, if_neg (by simpa using hpaired)]
        unfold ServerRuntime.followTechnicalGeneration
        rw [if_neg]
        exact fun hsame => (bne_iff_ne.mp hgeneration) hsame
      obtain ⟨out, u, hresumed, hquiet⟩ := resumedPolicy_quiet
        (stored.replaceReadinessGeneration session.room (some config.mediaGeneration) false)
        cleared released session.room session.username s.currentTimeSeconds
      obtain ⟨b, v, hrun, hwalk⟩ := walk_replaced_bind hs hstored
        (released.readinessProjection session.room) hquiet fun out' v _ =>
          succeeds_get_bind (succeeds_pure v _)
      refine ⟨b, v, ?_, hwalk⟩
      rw [modify_bind_run, hfollowed, hmoved]
      by_cases hresumes : cleared.roomBufferingControls[session.room]?.any (·.pausedByPolicy) = true
      · rw [if_pos hresumes] at hresumed ⊢
        rw [bind_of_ok hresumed]
        exact hrun
      · rw [if_neg hresumes] at hresumed ⊢
        rw [bind_of_ok hresumed]
        exact hrun
    · -- the coordinator is at this generation already, or keeps its own
      have hunmoved : s.installPolicy clientId session.username session.room config displaced
          replaceRoomBarrier paired s.currentTimeSeconds = stored := by
        rw [hinstalled]
        split
        · rfl
        · next hpaired =>
          unfold ServerRuntime.followTechnicalGeneration
          rw [if_pos]
          rw [Bool.and_eq_true_iff, not_and_or] at hmoved
          rcases hmoved with hmoved | hmoved
          · exact absurd (by simpa using hpaired) hmoved
          · exact not_not.mp fun hne => hmoved (bne_iff_ne.mpr hne)
      have hpublished : ∀ resumed u, Succeeds (Walk Move.edits) u (do
          let technical ← publishTechnicalGeneration session.room false
            (released.readinessProjection session.room)
          let t ← Prog.get
          pure ((if replaceRoomBarrier && s.readinessGateIsActive session.room then
            cleared.readinessSnapshotFanout session.room else []) ++ resumed ++ technical
              ++ if targeted then t.roomBufferingSnapshotForClient session.room clientId
                else t.roomBufferingFanout session.room
                  { bufferingPolicy := some config
                    bufferingStatus := t.roomBufferingStatus session.room }) : ServerM Outbound) := by
        intro resumed u
        unfold publishTechnicalGeneration
        exact succeeds_pure_bind (succeeds_get_bind (succeeds_pure u _))
      refine succeeds_modify_bind (by rw [hunmoved]; exact .quiet hstored) ?_
      rw [hunmoved, Bool.eq_false_iff.mpr hmoved]
      split
      · exact walk_quiet_bind (hs.quiet hstored) (publishRoomBufferingTransition_quiet _ _ _ _ _ _ _)
          fun resumed u _ _ => hpublished resumed u
      · exact succeeds_pure_bind (hpublished [] stored)

theorem admitPolicy_walk (hs : Seats s) (clientId : String) (session : ServerSession)
    (config : RoomBufferingPolicyPayload) :
    Succeeds (Walk Move.edits) s (admitPolicy clientId session config) := by
  refine succeeds_get_bind ?_
  extract_lets room isRefresh refreshIdentity
  split
  · split <;> exact succeeds_pure _ _
  · split
    · exact succeeds_pure _ _
    · refine walk_quiet_bind hs (playbackBarrierNewIdentityRetryAfterMillis_quiet s _ _ _ _)
        fun retryAfter t _ ht => ?_
      split
      · exact succeeds_pure _ _
      · refine walk_quiet_modify_bind ht t.quiet_pruneTombstones fun hpruned =>
          succeeds_get_bind ?_
        split
        · exact succeeds_pure _ _
        · refine walk_quiet_modify_bind hpruned (ServerRuntime.quiet_setRequestNonce _ _ _)
            fun hspent => ?_
          split
          · exact installRoomBufferingPolicy_walk hspent _ _ _ _ _ _ _
          · split
            · exact succeeds_pure _ _
            · split
              · exact succeeds_pure _ _
              · exact walk_quiet_modify_bind hspent
                  (ServerRuntime.quiet_allocatePlaybackBarrierGeneration _)
                  fun halloc => installRoomBufferingPolicy_walk halloc _ _ _ _ _ _ _

theorem configureUnpairedPolicy_walk (hs : Seats s) (clientId : String) (session : ServerSession)
    (config : RoomBufferingPolicyPayload) :
    Succeeds (Walk Move.edits) s (configureUnpairedPolicy clientId session config) := by
  refine succeeds_get_bind ?_
  split
  · exact admitPolicy_walk hs _ _ _
  · dsimp only
    split
    · exact succeeds_walk (retryCurrentPolicy_quiet s _ _ _)
    · split
      · exact succeeds_pure _ _
      · exact admitPolicy_walk hs _ _ _

theorem configurePairedPolicy_walk (hs : Seats s) (clientId : String) (session : ServerSession)
    (config : RoomBufferingPolicyPayload) :
    Succeeds (Walk Move.edits) s (configurePairedPolicy clientId session config) := by
  refine succeeds_get_bind ?_
  split
  · exact succeeds_pure _ _
  · split
    · exact installRoomBufferingPolicy_walk hs _ _ _ _ _ _ _
    · exact succeeds_pure _ _

theorem configureRoomBufferingPolicy_walk {clientId : String} {session : ServerSession}
    (hs : Seats s) (hsession : s.sessions[clientId]? = some session)
    (config : RoomBufferingPolicyPayload) (paired : Bool) :
    Succeeds (Walk Move.edits) s (configureRoomBufferingPolicy clientId config paired) := by
  refine succeeds_get_bind ?_
  rw [hsession]
  dsimp only
  split
  · exact succeeds_pure _ _
  · split
    · exact installRoomBufferingPolicy_walk hs _ _ _ _ _ _ _
    · split
      · exact succeeds_pure _ _
      · refine walk_quiet_modify_bind hs s.quiet_pruneTombstones fun hpruned => ?_
        split
        · exact configurePairedPolicy_walk hpruned _ _ _
        · exact configureUnpairedPolicy_walk hpruned _ _ _

theorem handlePlaybackBarrierSet_walk {clientId : String} {session : ServerSession}
    (hs : Seats s) (hsession : s.sessions[clientId]? = some session)
    (extension : PlaybackBarrierSetRequest) :
    Succeeds (Walk Move.edits) s (handlePlaybackBarrierSet clientId extension) := by
  unfold handlePlaybackBarrierSet
  split
  · exact succeeds_walk (handlePlaybackBarrierRecovery_quiet hsession _)
  · refine succeeds_get_bind ?_
    split
    · exact succeeds_pure _ _
    · split
      · split
        · exact succeeds_pure _ _
        · exact configureRoomBufferingPolicy_walk hs hsession _ _
      · refine walk_bind hs (startPlaybackBarrier_walk hs hsession _) fun _ t hwalk ht =>
          succeeds_get_bind ?_
        split
        · split
          · exact walk_bind ht
              (configureRoomBufferingPolicy_walk ht (hwalk.session hsession) _ _)
              fun _ u _ _ => succeeds_pure u _
          · exact succeeds_pure _ _
        · exact succeeds_pure _ _

end Sorotte.Server
