import Sorotte.Membership.IntentWalks

/-! # Set batches as walks

  What each Set command does to memberships, and that a batch whose sender has
  a session runs to its end: no command fails, and none takes the session away.
-/

namespace Sorotte.Server

open Sorotte.Framework Sorotte.Framework.Prog

variable {s s' : ServerRuntime}

/-! ### Sessions that stay -/

/-- Every session is still there. -/
def SessionsStay (s s' : ServerRuntime) : Prop :=
  ∀ c : String, (s.sessions[c]?).isSome = true → (s'.sessions[c]?).isSome = true

theorem SessionsStay.refl (s : ServerRuntime) : SessionsStay s s := fun _ h => h

theorem SessionsStay.trans {t : ServerRuntime} (h : SessionsStay s t) (h' : SessionsStay t s') :
    SessionsStay s s' := fun c hc => h' c (h c hc)

theorem SessionsStay.of_eq (h : s'.sessions = s.sessions) : SessionsStay s s' :=
  fun c hc => by rw [h]; exact hc

theorem sessionsStay_updateSession (s : ServerRuntime) (clientId : String)
    (f : ServerSession → ServerSession) : SessionsStay s (s.updateSession clientId f) := by
  intro c hc
  rw [updateSession_lookup]
  split
  · next h =>
    subst h
    rw [Option.isSome_map]
    exact hc
  · exact hc

theorem Moves.sessionsStay {move : Move} (h : Moves move s s') (hs : Seats s)
    (hstays : ∀ c, move ≠ .leave c) : SessionsStay s s' := by
  by_cases hkeeps : move.keepsSessions
  · exact .of_eq (h.sessions hkeeps)
  · cases h with
    | demote capabilities hquiet hsession hseat hclient =>
      refine (sessionsStay_updateSession s _ _).trans ((SessionsStay.of_eq hquiet.same.sessions
        ).trans (.of_eq ?_))
      exact (detachSeat_detached _ _ _ _ true).kept.sessions
    | @enter _ clientId session now hnew hname =>
      intro c hc
      rw [(joinSession_joined s clientId session now).sessions, Std.ExtTreeMap.getElem?_insert]
      split
      · rfl
      · exact hc
    | leave hsession hunattached => exact absurd rfl (hstays _)
    | @relocate _ clientId newRoom session roster now hsession hunattached hroom hleft =>
      intro c hc
      rw [(moveSession_moved hs hsession hleft now).sessions, Std.ExtTreeMap.getElem?_insert]
      split
      · rfl
      · exact hc
    | publish f hf hcapable => exact sessionsStay_updateSession s _ f
    | _ => exact absurd trivial hkeeps

theorem Walk.sessionsStay {ok : Move → Prop} (h : Walk ok s s') (hs : Seats s)
    (hok : ∀ c, ¬ ok (.leave c)) : SessionsStay s s' := by
  induction h with
  | refl => exact .refl s
  | tail hwalk hstep ih =>
    obtain ⟨move, hmove, hmoved⟩ := hstep
    refine ih.trans (hmoved.sessionsStay (Walk.seats hwalk hs) fun c hc => ?_)
    subst hc
    rcases hmove with hquiet | hleaves
    · cases hquiet
    · exact hok c hleaves

theorem Seated.sessionsStay {clientId freshToken : String} {ok : Move → Prop}
    (h : Seated clientId freshToken ok s s') (hs : Seats s) (hok : ∀ c, ¬ ok (.leave c)) :
    SessionsStay s s' := by
  rcases h with hwalk | ⟨t, t', presentedToken, hbefore, hattach, hafter⟩
  · exact hwalk.sessionsStay hs hok
  · have ht := hbefore.seats hs
    exact ((hbefore.sessionsStay hs hok).trans (hattach.sessionsStay ht fun c hc => by cases hc)
      ).trans (hafter.sessionsStay (hattach.seats ht) hok)

/-- What a Set command does: it stays, may seat its sender and may first move it
    to another room. -/
inductive Commanded (clientId freshToken : String) : ServerRuntime → ServerRuntime → Prop
  | stays {s s' : ServerRuntime} (h : Seated clientId freshToken Move.stationary s s') :
      Commanded clientId freshToken s s'
  | moves {s t t' s' : ServerRuntime} (hbefore : Walk Move.stationary s t)
      (hmove : Moves (.relocate clientId) t t')
      (hafter : Seated clientId freshToken Move.stationary t' s') :
      Commanded clientId freshToken s s'

section commanded

variable {clientId freshToken : String}

theorem Commanded.seats (h : Commanded clientId freshToken s s') (hs : Seats s) : Seats s' := by
  cases h with
  | stays h => exact h.seats hs
  | moves hbefore hmove hafter => exact hafter.seats (hmove.seats (hbefore.seats hs))

theorem Commanded.sessionsStay (h : Commanded clientId freshToken s s') (hs : Seats s) :
    SessionsStay s s' := by
  have hleave : ∀ c, ¬ Move.stationary (.leave c) := fun c hc => hc
  cases h with
  | stays h => exact h.sessionsStay hs hleave
  | moves hbefore hmove hafter =>
    have ht := hbefore.seats hs
    exact ((hbefore.sessionsStay hs hleave).trans (hmove.sessionsStay ht fun c hc => by cases hc)
      ).trans (hafter.sessionsStay (hmove.seats ht) hleave)

theorem commanded_edits {α : Type} {m : ServerM α} (h : Succeeds (Walk Move.edits) s m) :
    Succeeds (Commanded clientId freshToken) s m :=
  h.mono fun _ hwalk => .stays (.inl hwalk.of_edits)

end commanded

/-! ### Files and features -/

theorem setFile_walk (hs : Seats s) (clientId : String) (session : ServerSession)
    (file : Option ServerSharedFile) :
    Succeeds (Walk Move.stationary) s (setFile clientId session file) := by
  refine walk_modify_bind hs (by trivial)
    (.publish (fun session => { session with file }) (fun _ => ⟨rfl, rfl⟩)
      (.inl fun _ _ hcapable => hcapable)) fun _ => succeeds_get_bind ?_
  split <;> exact succeeds_pure _ _

/-- A client that gives up readiness support loses the seat it may have. -/
theorem demote_run {t : ServerRuntime} {clientId : String} (hs : Seats s)
    (capabilities : ServerClientCapabilities)
    (hquiet : Quiet (s.updateSession clientId fun session => { session with capabilities }) t) :
    ∃ out u, detachReadinessMembership clientId true t = (.ok out, u)
      ∧ Walk Move.stationary s u := by
  set update : ServerSession → ServerSession := fun session => { session with capabilities }
  have hupdated := (hs.updateSession clientId (f := update) fun _ => ⟨rfl, rfl⟩).quiet hquiet
  have hcleared := t.quiet_clearPendingUserTransport clientId
  -- without a seat the session may change as it likes
  have hpublished : ∀ u, Quiet t u → Unattached clientId t → Walk Move.stationary s u := by
    intro u hu hunattached
    have hunattached' : Unattached clientId s := by
      intro a b p hp
      refine hunattached a b p ?_
      rw [hquiet.same.participant]
      exact hp
    exact (Walk.move (by trivial) (.publish update (fun _ => ⟨rfl, rfl⟩)
      (.inr hunattached'))).trans (Walk.quiet (hquiet.trans hu))
  unfold detachReadinessMembership
  rw [modify_bind_run, get_bind_run]
  set cleared := t.clearPendingUserTransport clientId
  have hmembers := hupdated.quiet hcleared
  have hunattached : ∀ session, cleared.sessions[clientId]? = some session →
      (∀ p, cleared.readinessParticipant session.room session.username = some p →
        p.clientId ≠ clientId) → Unattached clientId t := by
    intro session hsession hfree a b p hp hclient
    obtain ⟨session', hsession', rfl, rfl, -⟩ := hupdated.seated a b p hp
    have hsame : t.sessions[clientId]? = some session := hsession
    rw [hclient, hsame] at hsession'
    cases hsession'
    exact hfree p hp hclient
  cases hsession : cleared.sessions[clientId]? with
  | none =>
    refine ⟨[], cleared, rfl, hpublished cleared hcleared fun a b p hp hclient => ?_⟩
    obtain ⟨session', hsession', -⟩ := hupdated.seated a b p hp
    have hnone : t.sessions[clientId]? = none := hsession
    rw [hclient, hnone] at hsession'
    cases hsession'
  | some session =>
    dsimp only
    cases hp : cleared.readinessParticipant session.room session.username with
    | none =>
      refine ⟨[], cleared, rfl, hpublished cleared hcleared
        (hunattached session hsession fun p hp' => ?_)⟩
      rw [hp] at hp'
      cases hp'
    | some participant =>
      dsimp only
      by_cases hclient : participant.clientId = clientId
      · rw [if_neg (not_not.mpr hclient)]
        have hdemote : Moves (.demote clientId) s
            (cleared.detachSeat clientId session participant true) :=
          .demote capabilities (hquiet.trans hcleared) hsession hp hclient
        obtain ⟨out, u, hrun, hafter⟩ :=
          settleDetachedMembership_walk (hdemote.seats hs) session.room
        refine ⟨out, u, ?_, (Walk.move (by trivial) hdemote).trans
          hafter.of_edits⟩
        rw [modify_bind_run, modify_bind_run]
        exact hrun
      · rw [if_pos hclient]
        refine ⟨[], cleared, rfl, hpublished cleared hcleared
          (hunattached session hsession fun p hp' => ?_)⟩
        rw [hp] at hp'
        cases hp'
        exact hclient

theorem setFeatures_seated {clientId : String} {session : ServerSession} (hs : Seats s)
    (hsession : s.sessions[clientId]? = some session) (capabilities : ServerClientCapabilities)
    (freshToken : String) :
    Succeeds (Seated clientId freshToken Move.stationary) s
      (setFeatures clientId session capabilities freshToken) := by
  unfold setFeatures
  split
  · exact seated_walk (succeeds_pure _ _)
  · refine succeeds_get_bind ?_
    extract_lets hadBarrier hasBarrier hadReadiness hasReadiness
    set published := s.updateSession clientId fun session => { session with capabilities }
    obtain ⟨gained, t, hgained, htgained⟩ : Succeeds Quiet published
        (Prog.when (!hadBarrier && hasBarrier) (refreshRoomBufferingParticipant clientId)) :=
      succeeds_when fun _ => refreshRoomBufferingParticipant_quiet published clientId
    obtain ⟨lost, u, hlost, hulost⟩ : Succeeds Quiet t
        (Prog.when (hadBarrier && !hasBarrier)
          (markRoomBufferingParticipantDisconnected clientId session.room)) :=
      succeeds_when fun _ => markRoomBufferingParticipantDisconnected_quiet t clientId session.room
    have hquiet : Quiet published u := htgained.trans hulost
    by_cases hdemotes : (hadReadiness && !hasReadiness) = true
    · -- the seat goes with the support
      obtain ⟨hhad, hhas⟩ := Bool.and_eq_true_iff.mp hdemotes
      have hnoattach : (!hadReadiness && hasReadiness) = false := by
        rw [hhad]
        rfl
      obtain ⟨detached, v, hdetached, hwalk⟩ := demote_run hs capabilities hquiet
      refine seated_arrive (k := ?k) hwalk ?run ?rest
      case run =>
        rw [modify_bind_run, get_bind_run, bind_of_ok hgained, bind_of_ok hlost, get_bind_run,
          hnoattach, hdemotes, when_false, pure_bind_run, when_true, bind_of_ok hdetached]
      case rest =>
        exact seated_walk <| walk_bind (hwalk.seats hs) (succeeds_when fun _ =>
          succeeds_edits (refreshMixedReadinessCohort_walk (hwalk.seats hs) session.room))
          fun _ w _ _ => succeeds_pure w _
    · -- the session keeps what its seat needs, and may gain a seat
      have hnodetach : (hadReadiness && !hasReadiness) = false := by simpa using hdemotes
      have hkept : (∀ session, s.sessions[clientId]? = some session →
          session.capabilities.readinessV2 = true → capabilities.readinessV2 = true)
          ∨ Unattached clientId s := by
        by_cases henabled : s.readinessEnabled = true
        · refine .inl fun session' hsession' hcapable => ?_
          rw [hsession] at hsession'
          cases hsession'
          by_contra hincapable
          have hhad : hadReadiness = true := by
            show (s.readinessEnabled && session.capabilities.readinessV2) = true
            rw [henabled, hcapable]
            rfl
          have hhas : hasReadiness = false := by
            show (s.readinessEnabled && capabilities.readinessV2) = false
            rw [Bool.eq_false_iff.mpr hincapable, Bool.and_false]
          rw [hhad, hhas] at hnodetach
          cases hnodetach
        · refine .inr fun a b p hp => ?_
          obtain ⟨k, hk, -⟩ := Option.bind_eq_some_iff.mp hp
          exact absurd (hs.enabled a k hk) henabled
      have hpublish : Walk Move.stationary s u :=
        (Walk.move (by trivial) (.publish
          (fun session => { session with capabilities }) (fun _ => ⟨rfl, rfl⟩) hkept)).trans
          (Walk.quiet hquiet)
      have hu : u.sessions[clientId]? = some { session with capabilities } := by
        rw [hquiet.same.sessions, updateSession_lookup, if_pos rfl, hsession]
        rfl
      refine seated_arrive (k := ?l) hpublish ?run ?rest
      case run =>
        rw [modify_bind_run, get_bind_run, bind_of_ok hgained, bind_of_ok hlost]
      case rest =>
        refine succeeds_get_bind ?_
        rw [hnodetach]
        refine seated_bind_right (hpublish.seats hs) ?_ fun _ v _ hv =>
          succeeds_pure_bind <| walk_bind hv (succeeds_when fun _ =>
            succeeds_edits (refreshMixedReadinessCohort_walk hv session.room))
            fun _ w _ _ => succeeds_pure w _
        by_cases hattaches : (!hadReadiness && hasReadiness) = true
        · rw [hattaches]
          exact (attachReadinessMembership_seated (hpublish.seats hs) hu _ freshToken true).mono
            fun _ h => h.mono fun _ => Move.edits.stationary
        · rw [Bool.eq_false_iff.mpr hattaches]
          exact seated_walk (succeeds_pure _ _)

/-! ### Playlists -/

theorem resetRoomTransport_walk (hs : Seats s) (room setBy : String) (now : Seconds) :
    Succeeds (Walk Move.edits) s
      (resetRoomTransportForCanonicalSelectionChange room setBy now) := by
  refine succeeds_gets_bind ?_
  refine walk_quiet_bind hs (retirePlaybackCoordinationForSelection_quiet s room)
    fun _ t _ ht => ?_
  have howned : Quiet t (if t.roomReadiness[room]?.any (!·.pauseOwner.isUser) then
      t.setReadinessPauseOwner room .endOfPlaylist else t) := by
    split
    · exact t.quiet_setReadinessPauseOwner room _
    · exact .refl t
  refine walk_quiet_modify_bind ht howned fun ht => ?_
  refine walk_bind ht (replaceReadinessGeneration_walk ht room none false) fun _ u _ hu => ?_
  refine walk_quiet_modify_bind hu (u.quiet_setRoomPlaybackState room _) fun hu => ?_
  set placed := u.setRoomPlaybackState room _
  have hadvanced : Quiet placed
      (if placed.transportAuthorityRevisionForRoom room =
          s.transportAuthorityRevisionForRoom room then
        placed.advanceTransportAuthorityRevision room else placed) := by
    split
    · exact placed.quiet_advanceTransportAuthorityRevision room
    · exact .refl placed
  refine walk_quiet_modify_bind hu hadvanced fun hu => ?_
  exact walk_quiet_modify_bind hu (ServerRuntime.quiet_seedRoomClientPlaybackStates _ room 0 now)
    fun _ => succeeds_pure _ _

theorem acceptPlaylistChange_walk (hs : Seats s) (clientId : String) (session : ServerSession)
    (files : List String) (compoundIndex : Option ServerPlaylistIndexCommand)
    (lifecycleAuthority : Bool) :
    Succeeds (Walk Move.edits) s
      (acceptPlaylistChange clientId session files compoundIndex lifecycleAuthority) := by
  refine succeeds_get_bind ?_
  extract_lets room now identity creationRequired playlist changed playlistChanged selectionChanged
  refine walk_quiet_modify_bind hs (s.quiet_acceptPlaylist room changed none) fun hs => ?_
  set accepted := s.acceptPlaylist room changed none
  refine walk_quiet_modify_bind hs (accepted.quiet_advanceMediaGenerationWhen room _) fun hs => ?_
  refine walk_bind hs (succeeds_when fun _ => resetRoomTransport_walk hs room _ now)
    fun _ t _ ht => ?_
  have howned : Quiet t (if creationRequired then t.recordPersistentRoomCreation room identity now
      else if files.isEmpty then t.releasePersistentRoomOwnership room else t) := by
    split
    · exact t.quiet_recordPersistentRoomCreation room identity now
    · split
      · exact t.quiet_releasePersistentRoomOwnership room
      · exact .refl t
  refine walk_quiet_modify_bind ht howned fun ht => ?_
  refine walk_quiet_modify_bind ht (ServerRuntime.quiet_persistRoomIfNeeded _ room)
    fun ht => succeeds_get_bind ?_
  refine walk_quiet_bind ht (succeeds_collect fun peer _ u _ => ?_) fun _ v _ _ => succeeds_pure v _
  exact succeeds_bind (forcedStateFanout_quiet u _ _ _ _ _) fun _ v _ => succeeds_pure v _

theorem setPlaylistChange_walk (hs : Seats s) (clientId : String) (session : ServerSession)
    (files : List String) (next : Option ServerSetCommand) :
    Succeeds (Walk Move.edits) s (setPlaylistChange clientId session files next) := by
  refine walk_quiet_modify_bind hs (s.quiet_ensureRoomState session.room) fun hs =>
    succeeds_get_bind ?_
  split
  · exact walk_bind hs (acceptPlaylistChange_walk hs _ _ _ _ _) fun _ t _ _ => succeeds_pure t _
  · exact succeeds_pure _ _

theorem acceptPlaylistIndex_walk (hs : Seats s) (session : ServerSession)
    (command : ServerPlaylistIndexCommand) :
    Succeeds (Walk Move.edits) s (acceptPlaylistIndex session command) := by
  refine succeeds_get_bind ?_
  extract_lets room now playlist selectionChanged guarded lifecycleAuthority resetTransport
  refine walk_quiet_modify_bind hs (s.quiet_acceptPlaylist room _ _) fun hs => ?_
  set accepted := s.acceptPlaylist room _ _
  refine walk_quiet_modify_bind hs (accepted.quiet_advanceMediaGenerationWhen room _) fun hs => ?_
  refine walk_bind hs (succeeds_when fun _ => resetRoomTransport_walk hs room _ now)
    fun _ t _ ht => ?_
  refine walk_quiet_bind ht (succeeds_when fun _ => ownPauseForSelection_quiet t room)
    fun _ u _ hu => ?_
  refine walk_quiet_modify_bind hu (u.quiet_persistRoomIfNeeded room) fun hu =>
    succeeds_get_bind ?_
  exact walk_quiet_bind hu (forcedStateFanout_quiet _ _ _ _ _ _) fun _ v _ _ => succeeds_pure v _

theorem setPlaylistIndex_walk (hs : Seats s) (clientId : String) (session : ServerSession)
    (command : ServerPlaylistIndexCommand) :
    Succeeds (Walk Move.edits) s (setPlaylistIndex clientId session command) := by
  refine walk_quiet_modify_bind hs (s.quiet_ensureRoomState session.room) fun hs =>
    succeeds_get_bind ?_
  extract_lets playlist preconditionMatches
  split
  · exact succeeds_pure _ _
  · split
    · exact acceptPlaylistIndex_walk hs session command
    · exact succeeds_pure _ _

/-! ### Room switches -/

/-- A room that is cleaned up is discarded only when nobody is in it. -/
theorem cleanupRoom_walk (s : ServerRuntime) (room : String) :
    Walk Move.edits s (s.cleanupRoomIfEmpty room) := by
  unfold ServerRuntime.cleanupRoomIfEmpty
  split
  · exact .refl
  · split
    · exact .quiet (s.quiet_persistRoomIfNeeded room)
    · unfold ServerRuntime.discardRoom
      split
      · next hempty =>
        exact .move (by trivial) (.discard (List.isEmpty_iff.mp hempty))
      · exact .refl

/-- Everything a member leaves behind in its old room. -/
def departure (clientId room : String) : ServerM Outbound := do
  let detached ← detachReadinessMembership clientId false
  let barrier ← markPlaybackBarrierParticipantDisconnected clientId room
  let buffering ← markRoomBufferingParticipantDisconnected clientId room
  pure (detached ++ barrier ++ buffering)

theorem Move.detaches.stationary {clientId : String} {move : Move} (h : move.detaches clientId) :
    move.stationary := by
  rcases h with hedits | rfl
  · exact hedits.stationary
  · trivial

theorem Move.detaches.keepsSessions {clientId : String} {move : Move}
    (h : move.detaches clientId) : move.keepsSessions := by
  rcases h with hedits | rfl
  · cases move <;> trivial
  · trivial

theorem departure_run {clientId : String} (hs : Seats s) (room : String) :
    ∃ detached t barrier u buffering, detachReadinessMembership clientId false s = (.ok detached, t)
      ∧ markPlaybackBarrierParticipantDisconnected clientId room t = (.ok barrier, u)
      ∧ markRoomBufferingParticipantDisconnected clientId room u =
        (.ok buffering, after (departure clientId room) s)
      ∧ Walk (Move.detaches clientId) s (after (departure clientId room) s)
      ∧ Unattached clientId (after (departure clientId room) s) := by
  obtain ⟨detached, t, hdetached, hwalk, hunattached⟩ :=
    detachReadinessMembership_run hs clientId false
  obtain ⟨barrier, u, hbarrier, htu⟩ :=
    markPlaybackBarrierParticipantDisconnected_quiet t clientId room
  obtain ⟨buffering, v, hbuffering, huv⟩ :=
    markRoomBufferingParticipantDisconnected_quiet u clientId room
  have hafter : after (departure clientId room) s = v := by
    unfold after departure
    rw [bind_of_ok hdetached, bind_of_ok hbarrier, bind_of_ok hbuffering]
    rfl
  rw [hafter]
  refine ⟨detached, t, barrier, u, buffering, hdetached, hbarrier, hbuffering,
    hwalk.trans (Walk.quiet (htu.trans huv)), fun a b p hp => ?_⟩
  rw [(htu.trans huv).same.participant] at hp
  exact hunattached a b p hp

theorem publishRoomSwitch_quiet (s : ServerRuntime) (clientId : String) (session : ServerSession)
    (playback : RoomPlaybackState) (readiness : Outbound) (carriedReady : Option Bool) :
    Succeeds Quiet s (publishRoomSwitch clientId session playback readiness carriedReady) :=
  succeeds_bind (forcedStateSync_quiet s clientId _ _ _ _) fun _ t _ =>
    succeeds_get_bind (succeeds_pure t _)

/-- What a relocated member does in its new room. -/
theorem relocated_seated {clientId : String} {session : ServerSession} (hs : Seats s)
    (hsession : s.sessions[clientId]? = some session) (previousRoom freshToken : String)
    (attaches : Bool) (playback : RoomPlaybackState) (carriedReady : Option Bool)
    (reply : Outbound → Outbound → Outbound → Outbound) :
    Succeeds (Seated clientId freshToken Move.edits) s (do
      let oldCohort ← refreshMixedReadinessCohort previousRoom
      let attached ← Prog.when attaches
        (attachReadinessMembership clientId none freshToken true false)
      let newCohort ← refreshMixedReadinessCohort session.room
      Prog.modify fun s => { s with
        clientNextPeriodicStateAt := s.clientNextPeriodicStateAt.insert clientId
          (s.localTimeSeconds + serverStateIntervalSeconds) }
      Prog.modify (·.cleanupRoomIfEmpty previousRoom)
      let published ← publishRoomSwitch clientId session playback (attached ++ newCohort)
        carriedReady
      let policy ← refreshRoomBufferingParticipant clientId
      pure (reply oldCohort published policy) : ServerM Outbound) := by
  refine seated_bind_left hs (refreshMixedReadinessCohort_walk hs previousRoom)
    fun _ t hwalk ht => ?_
  have hattached : Succeeds (Seated clientId freshToken Move.edits) t (Prog.when attaches
      (attachReadinessMembership clientId none freshToken true false)) := by
    cases attaches with
    | true => exact attachReadinessMembership_seated ht (hwalk.session hsession) _ _ _
    | false => exact seated_walk (succeeds_pure _ _)
  refine seated_bind_right ht hattached fun attached u _ hu => ?_
  refine walk_bind hu (refreshMixedReadinessCohort_walk hu session.room) fun newCohort v _ hv => ?_
  refine walk_quiet_modify_bind hv (Quiet.of_fields rfl rfl rfl rfl rfl rfl rfl rfl rfl)
    fun hv => ?_
  refine succeeds_modify_bind (cleanupRoom_walk _ previousRoom) ?_
  refine walk_quiet_bind ((cleanupRoom_walk _ previousRoom).seats hv)
    (publishRoomSwitch_quiet _ _ _ _ _ _) fun published w _ hw => ?_
  exact walk_quiet_bind hw (refreshRoomBufferingParticipant_quiet w clientId)
    fun policy x _ _ => succeeds_pure x _

/-- A room switch: the departure, the relocation, and what follows it. -/
theorem switchRoom_run {clientId : String} {session : ServerSession} (hs : Seats s)
    (hsession : s.sessions[clientId]? = some session) {newRoom : String}
    (hroom : session.room ≠ newRoom) (freshToken : String) :
    ∃ out roster s', switchRoom clientId session newRoom freshToken s = (.ok out, s')
      ∧ (after (departure clientId session.room) s).sessions[clientId]? = some session
      ∧ Moves (.relocate clientId) (after (departure clientId session.room) s)
        ((after (departure clientId session.room) s).moveSession clientId session newRoom roster
          (after (departure clientId session.room) s).currentTimeSeconds)
      ∧ Seated clientId freshToken Move.stationary
        ((after (departure clientId session.room) s).moveSession clientId session newRoom roster
          (after (departure clientId session.room) s).currentTimeSeconds) s' := by
  obtain ⟨detached, t₁, barrier, t₂, buffering, hdetached, hbarrier, hbuffering, hwalk,
    hunattached⟩ := @departure_run _ clientId hs session.room
  set t := after (departure clientId session.room) s
  have ht : Seats t := hwalk.seats hs
  have hheld : t.sessions[clientId]? = some session := by
    rw [hwalk.sessions fun _ => Move.detaches.keepsSessions]
    exact hsession
  obtain ⟨roster, hleft, -⟩ := Roster.leaveRoom_of_flag <|
    (ht.rostered session.room session.username).mpr ⟨clientId, session, hheld, rfl, rfl⟩
  have hmove : Moves (.relocate clientId) t
      (t.moveSession clientId session newRoom roster t.currentTimeSeconds) :=
    .relocate _ hheld hunattached hroom hleft
  set moved := t.moveSession clientId session newRoom roster t.currentTimeSeconds
  have hmoved : Seats moved := hmove.seats ht
  have hput : moved.sessions[clientId]? = some { session with room := newRoom } := by
    rw [(moveSession_moved ht hheld hleft _).sessions]
    exact Std.ExtTreeMap.getElem?_insert_self
  obtain ⟨out, s', hrest, hseated⟩ := relocated_seated hmoved hput session.room freshToken
    (t.readinessEnabled && session.capabilities.readinessV2)
    (t.joinPlayback newRoom t.currentTimeSeconds) (t.carriedReady session)
    fun oldCohort published policy => detached ++ barrier ++ buffering
      ++ (if t.isolateRooms then (t.clientsInRoom session.room).map fun peer =>
          { clientId := peer, message := .userLeft session.username session.room }
        else []) ++ oldCohort ++ published ++ policy
  refine ⟨out, roster, s', ?_, hheld, hmove, hseated.mono fun _ => Move.edits.stationary⟩
  unfold switchRoom
  rw [bind_of_ok hdetached, bind_of_ok hbarrier, bind_of_ok hbuffering, get_bind_run, hleft]
  exact hrest

theorem setRoom_commanded {clientId : String} {session : ServerSession} (hs : Seats s)
    (hsession : s.sessions[clientId]? = some session) (roomName freshToken : String) :
    Succeeds (Commanded clientId freshToken) s (setRoom clientId session roomName freshToken) := by
  unfold setRoom
  extract_lets newRoom
  split
  · exact commanded_edits (succeeds_pure _ _)
  · next hroom =>
    obtain ⟨out, roster, s', hrun, hheld, hmove, hafter⟩ :=
      switchRoom_run hs hsession hroom freshToken
    obtain ⟨-, -, -, -, -, -, -, -, hwalk, -⟩ := @departure_run _ clientId hs session.room
    exact ⟨out, s', hrun, .moves (hwalk.mono fun _ => Move.detaches.stationary) hmove hafter⟩

/-! ### Batches -/

/-- A command and the answer that it was consumed or not. -/
theorem succeeds_pair {r : ServerRuntime → ServerRuntime → Prop} {m : ServerM Outbound}
    (h : Succeeds r s m) :
    Succeeds r s (do
      let outbound ← m
      pure (outbound, false) : ServerM (Outbound × Bool)) := by
  obtain ⟨out, t, hrun, hr⟩ := h
  exact ⟨(out, false), t, by rw [bind_of_ok hrun]; rfl, hr⟩

/-- Only a room command changes rooms. -/
theorem applySetCommand_seated {clientId : String} (hs : Seats s)
    (hsession : (s.sessions[clientId]?).isSome = true) (freshToken : String)
    (command : ServerSetCommand) (next : Option ServerSetCommand)
    (hstays : ∀ name, command ≠ .room name) :
    Succeeds (Seated clientId freshToken Move.stationary) s
      (applySetCommand clientId freshToken command next) := by
  obtain ⟨session, hsession⟩ := Option.isSome_iff_exists.mp hsession
  refine succeeds_get_bind ?_
  rw [hsession]
  dsimp only
  split
  · exact seated_walk (succeeds_edits (setPlaylistChange_walk hs _ _ _ _))
  · next name => exact absurd rfl (hstays name)
  · exact succeeds_pair (seated_walk (setFile_walk hs _ _ _))
  · exact succeeds_pair (seated_walk (succeeds_walk (setControllerAuth_quiet s _ _ _ _)))
  · exact succeeds_pair (seated_walk (succeeds_edits (setReady_walk hs hsession _ _ _)))
  · exact succeeds_pair (seated_walk (succeeds_edits (setPlaylistIndex_walk hs _ _ _)))
  · exact succeeds_pair (setFeatures_seated hs hsession _ _)
  · exact succeeds_pair (seated_walk (succeeds_edits (handlePlaybackBarrierSet_walk hs hsession _)))
  · exact succeeds_pair (seated_walk (succeeds_edits (handleReadinessSet_walk hs hsession _)))

theorem applySetCommand_commanded {clientId : String} (hs : Seats s)
    (hsession : (s.sessions[clientId]?).isSome = true) (freshToken : String)
    (command : ServerSetCommand) (next : Option ServerSetCommand) :
    Succeeds (Commanded clientId freshToken) s
      (applySetCommand clientId freshToken command next) := by
  by_cases hroom : ∃ name, command = .room name
  · obtain ⟨name, rfl⟩ := hroom
    obtain ⟨session, hsession⟩ := Option.isSome_iff_exists.mp hsession
    refine succeeds_get_bind ?_
    rw [hsession]
    exact succeeds_pair (setRoom_commanded hs hsession name freshToken)
  · have hstays : ∀ name, command ≠ .room name := fun name hname => hroom ⟨name, hname⟩
    exact (applySetCommand_seated hs hsession freshToken command next hstays).mono
      fun _ => .stays

/-- The commands are applied in turn, each to the state that the one before it left.
    A playlist change may take the command after it along. -/
inductive Applied (clientId : String) :
    List (ServerSetCommand × String) → ServerRuntime → Outbound → ServerRuntime → Prop
  | nothing (s : ServerRuntime) : Applied clientId [] s [] s
  | last {s t : ServerRuntime} {command : ServerSetCommand} {freshToken : String}
      {outbound : Outbound} {consumed : Bool}
      (hrun : applySetCommand clientId freshToken command none s = (.ok (outbound, consumed), t)) :
      Applied clientId [(command, freshToken)] s outbound t
  | cons {s t u : ServerRuntime} {command : ServerSetCommand} {freshToken : String}
      {next : ServerSetCommand × String} {rest : List (ServerSetCommand × String)}
      {outbound following : Outbound}
      (hrun : applySetCommand clientId freshToken command (some next.1) s =
        (.ok (outbound, false), t))
      (hrest : Applied clientId (next :: rest) t following u) :
      Applied clientId ((command, freshToken) :: next :: rest) s (outbound ++ following) u
  | consumed {s t u : ServerRuntime} {command : ServerSetCommand} {freshToken : String}
      {next : ServerSetCommand × String} {rest : List (ServerSetCommand × String)}
      {outbound following : Outbound}
      (hrun : applySetCommand clientId freshToken command (some next.1) s =
        (.ok (outbound, true), t))
      (hrest : Applied clientId rest t following u) :
      Applied clientId ((command, freshToken) :: next :: rest) s (outbound ++ following) u

/-- **A batch runs to its end**, and every command of it succeeds. -/
theorem runSetCommands_applied {clientId : String} (commands : List (ServerSetCommand × String))
    (hs : Seats s) (hsession : (s.sessions[clientId]?).isSome = true) :
    ∃ out s', runSetCommands clientId commands s = (.ok out, s')
      ∧ Applied clientId commands s out s' := by
  induction commands using runSetCommands.induct generalizing s with
  | case1 => exact ⟨[], s, rfl, .nothing s⟩
  | case2 command freshToken =>
    obtain ⟨⟨out, consumed⟩, t, hrun, -⟩ :=
      applySetCommand_commanded hs hsession freshToken command none
    refine ⟨out, t, ?_, .last hrun⟩
    rw [runSetCommands, bind_of_ok hrun]
    rfl
  | case3 command freshToken next rest ihconsumed ih =>
    obtain ⟨⟨out, consumed⟩, t, hrun, hcommanded⟩ :=
      applySetCommand_commanded hs hsession freshToken command (some next.1)
    -- the seats and the session are still there for the commands that follow
    have ht := hcommanded.seats hs
    have hstays := hcommanded.sessionsStay hs clientId hsession
    cases consumed with
    | true =>
      obtain ⟨following, u, hrest, happlied⟩ := ihconsumed ht hstays
      refine ⟨out ++ following, u, ?_, .consumed hrun happlied⟩
      rw [runSetCommands, bind_of_ok hrun, cond_true, bind_of_ok hrest]
      rfl
    | false =>
      obtain ⟨following, u, hrest, happlied⟩ := ih ht hstays
      refine ⟨out ++ following, u, ?_, .cons hrun happlied⟩
      rw [runSetCommands, bind_of_ok hrun, cond_false, bind_of_ok hrest]
      rfl

end Sorotte.Server
