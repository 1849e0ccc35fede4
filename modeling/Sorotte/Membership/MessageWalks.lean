import Sorotte.Membership.Names
import Sorotte.Membership.SetWalks

/-! # Messages, disconnects and ticks as walks

  What every action does to memberships.  An action that fails has changed
  nothing.
-/

namespace Sorotte.Server

open Sorotte.Framework Sorotte.Framework.Prog

variable {s s' : ServerRuntime}

/-! ### Leaving -/

theorem Walk.of_edits_plain (h : Walk Move.edits s s') : Walk Move.plain s s' :=
  h.mono fun _ hedits => hedits.stationary.plain

theorem succeeds_plain {α : Type} {m : ServerM α} (h : Succeeds (Walk Move.edits) s m) :
    Succeeds (Walk Move.plain) s m :=
  h.mono fun _ => Walk.of_edits_plain

theorem Move.detaches.plain {clientId : String} {move : Move} (h : move.detaches clientId) :
    move.plain := h.stationary.plain

/-- The sessions without one of them. -/
def Forgotten (clientId : String) (s s' : ServerRuntime) : Prop :=
  ∀ (c : String) session, s'.sessions[c]? = some session ↔
    c ≠ clientId ∧ s.sessions[c]? = some session

theorem forgotten_erase {clientId : String} (h : s'.sessions = s.sessions.erase clientId) :
    Forgotten clientId s s' := by
  intro c session
  rw [h, Std.ExtTreeMap.getElem?_erase]
  by_cases hc : c = clientId
  · rw [if_pos (by simp [hc])]
    exact ⟨fun hnone => absurd hnone (by simp), fun hne => absurd hc hne.1⟩
  · rw [if_neg (by simpa using Ne.symm hc)]
    exact ⟨fun hother => ⟨hc, hother⟩, And.right⟩

theorem replaceSession_run (hs : Seats s) (clientId : String) :
    ∃ out t, replaceSession clientId s = (.ok out, t) ∧ Walk Move.plain s t
      ∧ Forgotten clientId s t := by
  unfold replaceSession
  rw [get_bind_run]
  cases hsession : s.sessions[clientId]? with
  | none =>
    refine ⟨[], s, rfl, .refl, fun c session => ⟨fun h => ⟨?_, h⟩, And.right⟩⟩
    rintro rfl
    rw [hsession] at h
    cases h
  | some previous =>
    dsimp only
    obtain ⟨detached, t₁, hdetached, hwalk, hunattached⟩ :=
      detachReadinessMembership_run hs clientId true
    have hkept₁ := hwalk.sessions fun _ => Move.detaches.keepsSessions
    have hs₁ := hwalk.seats hs
    -- the rate window is set aside while the session is taken down
    set t₂ : ServerRuntime := { t₁ with
      playbackBarrierNewIdentityRateByClient :=
        t₁.playbackBarrierNewIdentityRateByClient.erase clientId }
    have h₂ : Quiet t₁ t₂ := Quiet.of_fields rfl rfl rfl rfl rfl rfl rfl rfl rfl
    obtain ⟨barrier, t₃, hbarrier, h₃⟩ :=
      markPlaybackBarrierParticipantDisconnected_quiet t₂ clientId previous.room
    obtain ⟨buffering, t₄, hbuffering, h₄⟩ :=
      markRoomBufferingParticipantDisconnected_quiet t₃ clientId previous.room
    have hquiet : Quiet t₁ t₄ := (h₂.trans h₃).trans h₄
    have hs₄ := hs₁.quiet hquiet
    have hheld : t₄.sessions[clientId]? = some previous := by
      rw [hquiet.same.sessions, hkept₁]
      exact hsession
    have hunattached₄ : Unattached clientId t₄ := by
      intro a b p hp
      rw [hquiet.same.participant] at hp
      exact hunattached a b p hp
    have hleave : Moves (.leave clientId) t₄ (t₄.removeSessionTracking clientId previous) :=
      .leave hheld hunattached₄
    set t₅ := t₄.removeSessionTracking clientId previous
    set t₆ : ServerRuntime := (t₁.playbackBarrierNewIdentityRateByClient[clientId]?).elim t₅
      fun history => { t₅ with
        playbackBarrierNewIdentityRateByClient :=
          t₅.playbackBarrierNewIdentityRateByClient.insert clientId history } with ht₆
    have h₆ : Quiet t₅ t₆ := by
      rw [ht₆]
      cases t₁.playbackBarrierNewIdentityRateByClient[clientId]? with
      | none => exact .refl t₅
      | some history => exact Quiet.of_fields rfl rfl rfl rfl rfl rfl rfl rfl rfl
    have hs₆ : Seats t₆ := (hleave.seats hs₄).quiet h₆
    obtain ⟨cohort, t₇, hcohort, h₇⟩ := refreshMixedReadinessCohort_walk hs₆ previous.room
    have h₈ := cleanupRoom_walk t₇ previous.room
    have hedits : Walk Move.edits t₆ (t₇.cleanupRoomIfEmpty previous.room) := h₇.trans h₈
    refine ⟨detached ++ barrier ++ buffering ++ cohort, t₇.cleanupRoomIfEmpty previous.room,
      ?_, ?_, ?_⟩
    · rw [bind_of_ok hdetached, gets_bind_run, modify_bind_run, bind_of_ok hbarrier,
        bind_of_ok hbuffering, modify_bind_run, modify_bind_run]
      rw [ht₆] at hcohort
      revert hcohort
      cases t₁.playbackBarrierNewIdentityRateByClient[clientId]? with
      | none => exact fun hcohort => (bind_of_ok hcohort).trans rfl
      | some history => exact fun hcohort => (bind_of_ok hcohort).trans rfl
    · have hbefore : Walk Move.plain s t₄ :=
        (hwalk.mono fun _ => Move.detaches.plain).trans (Walk.quiet hquiet)
      exact ((hbefore.trans (Walk.move (by trivial) hleave)).trans
        (Walk.quiet h₆)).trans hedits.of_edits_plain
    · refine forgotten_erase ?_
      have hfinal : (t₇.cleanupRoomIfEmpty previous.room).sessions = t₆.sessions :=
        hedits.sessions fun move hedits => by
          cases move <;> first | exact hedits | exact hedits.elim
      rw [hfinal, h₆.same.sessions]
      show t₄.sessions.erase clientId = _
      rw [hquiet.same.sessions, hkept₁]

/-! ### Hello -/

theorem admitHello_seated {clientId : String} {session : ServerSession} (hs : Seats s)
    (hnonempty : session.username ≠ "")
    (hbounded : session.username.length ≤ s.maxUsernameLength)
    (hfree : ¬ s.NameTaken (some clientId) session.username) (hello : ServerHelloCommand) (freshToken : String) :
    Succeeds (Seated clientId freshToken Move.plain) s
      (admitHello clientId session hello freshToken) := by
  obtain ⟨replacement, t, hreplaced, hwalk, hforgotten⟩ := replaceSession_run hs clientId
  have ht := hwalk.seats hs
  set placed := t.setPeerIp clientId hello.peerIp
  have hplaced : Quiet t placed :=
    Quiet.of_fields rfl rfl rfl rfl rfl rfl rfl rfl rfl
  have hnew : placed.sessions[clientId]? = none := by
    cases hheld : placed.sessions[clientId]? with
    | none => rfl
    | some other => exact absurd rfl ((hforgotten clientId other).mp hheld).1
  have henter : Moves (.enter clientId) placed
      (placed.joinSession clientId session placed.currentTimeSeconds) := by
    refine .enter _ hnew ⟨hnonempty, ?_, ?_⟩
    · rw [hplaced.same.nameLimit, hwalk.nameLimit]
      exact hbounded
    · rintro ⟨c, other, hother, -, hsame⟩
      obtain ⟨hne, hbefore⟩ := (hforgotten c other).mp hother
      exact hfree ⟨c, other, hbefore, fun hc => hne (Option.some.inj hc).symm, hsame⟩
  set joined := placed.joinSession clientId session placed.currentTimeSeconds
  have hjoined : Seats joined := henter.seats (ht.quiet hplaced)
  have hput : joined.sessions[clientId]? = some session := by
    rw [(joinSession_joined placed clientId session _).sessions]
    exact Std.ExtTreeMap.getElem?_insert_self
  have hentered : Walk Move.plain s joined :=
    (hwalk.trans (Walk.quiet hplaced)).trans (Walk.move (by trivial) henter)
  refine seated_arrive (k := ?k) hentered ?run ?rest
  case run =>
    unfold admitHello
    rw [bind_of_ok hreplaced, modify_bind_run, get_bind_run, modify_bind_run]
  case rest =>
    refine succeeds_get_bind ?_
    extract_lets usesReadiness arrival unready lists playlist
    have hattached : Succeeds (Seated clientId freshToken Move.plain) joined
        (Prog.when usesReadiness (attachReadinessMembership clientId
          hello.readinessReconnectToken freshToken true false)) := by
      cases usesReadiness with
      | true =>
        exact (attachReadinessMembership_seated hjoined hput _ _ _).mono fun _ h =>
          h.mono fun _ hedits => hedits.stationary.plain
      | false => exact seated_walk (succeeds_pure _ _)
    refine seated_bind_right hjoined hattached fun attached u _ hu => succeeds_get_bind ?_
    refine walk_bind hu (succeeds_plain (refreshMixedReadinessCohort_walk hu session.room))
      fun _ v _ hv => ?_
    exact walk_quiet_bind hv (refreshRoomBufferingParticipant_quiet v clientId)
      fun _ w _ _ => succeeds_pure w _

/-- A Hello that is refused changes no membership; one that is admitted succeeds. -/
theorem handleHello_seated (hs : Seats s) (clientId : String) (hello : ServerHelloCommand)
    (framesFit : Bool) (freshToken : String) :
    Atomic (Seated clientId freshToken Move.plain) s
      (handleHelloForPeer clientId hello framesFit freshToken) := by
  refine atomic_get_bind ?_
  extract_lets requested room version
  split
  · exact atomic_throw s _
  · next hrequested =>
    split
    · refine .inl (seated_walk (succeeds_walk ?_))
      exact succeeds_modify_bind
        (Quiet.of_fields rfl rfl rfl rfl rfl rfl rfl rfl rfl) (succeeds_pure _ _)
    · split
      · exact atomic_throw s _
      · next username husername =>
        split
        · exact atomic_throw s _
        · obtain ⟨hfree, hchosen⟩ := findFreeUsername_some husername
          have hfits : username ≠ "" ∧ username.length ≤ s.maxUsernameLength := by
            rcases hchosen with rfl | hcandidate
            · refine ⟨fun hempty => ?_, truncate_length _ _⟩
              exact hrequested (by simp [hempty])
            · exact candidate_fits hcandidate
          exact .inl (admitHello_seated hs hfits.1 hfits.2 hfree hello freshToken)

/-! ### State messages -/

theorem handleState_walk (hs : Seats s) (clientId : String) (state : ServerStateCommand)
    (forwardDelay : Seconds) :
    Atomic (Walk Move.edits) s (handleState clientId state forwardDelay) := by
  refine atomic_get_bind ?_
  split
  · exact atomic_throw s _
  · next session hsession =>
    refine .inl (walk_quiet_modify_bind hs (s.quiet_acknowledgeState clientId _ state)
      fun hs => ?_)
    have hacknowledged := (s.quiet_acknowledgeState clientId session.room state).session clientId
    rw [hsession] at hacknowledged
    refine walk_bind hs (handleReadinessState_walk hs hacknowledged _) fun technical t hwalk ht => ?_
    have hheld := hwalk.session hacknowledged
    refine walk_quiet_bind ht (succeeds_onSome fun extension _ =>
      handlePlaybackBarrierState_quiet hheld extension) fun barrier u hquiet hu => ?_
    extract_lets acknowledged
    refine succeeds_get_bind ?_
    extract_lets
    split
    · exact succeeds_pure _ _
    · next playstate _ =>
      split
      · exact succeeds_pure _ _
      · have hheld' : u.sessions[clientId]? = some session := by
          rw [hquiet.session, hheld]
        exact walk_quiet_bind hu (handlePlaystate_quiet hheld' playstate forwardDelay)
          fun _ v _ _ => succeeds_pure v _

/-! ### Disconnects and ticks -/

theorem timeoutDisconnectMessages_walk (hs : Seats s) (clientId : String) :
    Succeeds (Walk Move.plain) s (timeoutDisconnectMessages clientId) := by
  refine succeeds_get_bind ?_
  split
  · exact succeeds_pure _ _
  · next session hsession =>
    refine walk_quiet_bind hs (markPlaybackBarrierParticipantDisconnected_quiet s _ _)
      fun barrier t htquiet ht => ?_
    refine walk_quiet_bind ht (markRoomBufferingParticipantDisconnected_quiet t _ _)
      fun buffering u huquiet hu => ?_
    obtain ⟨detached, v, hdetached, hwalk, hunattached⟩ :=
      detachReadinessMembership_run hu clientId true
    have hheld : v.sessions[clientId]? = some session := by
      rw [hwalk.sessions fun _ => Move.detaches.keepsSessions, huquiet.session, htquiet.session,
        hsession]
    have hleave : Moves (.leave clientId) v (v.removeSessionTracking clientId session) :=
      .leave hheld hunattached
    refine walk_travel (hwalk.mono fun _ => Move.detaches.plain) (bind_of_ok hdetached) ?_
    refine walk_modify_bind (hwalk.seats hu) (by trivial) hleave fun hs => ?_
    refine walk_bind hs (succeeds_plain (refreshMixedReadinessCohort_walk hs session.room))
      fun _ w _ _ => ?_
    exact succeeds_modify_bind (cleanupRoom_walk w session.room).of_edits_plain
      (succeeds_get_bind (succeeds_pure _ _))

theorem rejectFenced_plain (s : ServerRuntime) (clientId : String) :
    Succeeds (Walk Move.plain) s (rejectFencedPlaybackBarrierTransport clientId) :=
  succeeds_walk (rejectFencedPlaybackBarrierTransport_quiet s clientId)

theorem quiet_requestClose (s : ServerRuntime) (clientId : String) :
    Quiet s (s.requestClose clientId) :=
  Quiet.of_fields rfl rfl rfl rfl rfl rfl rfl rfl rfl

theorem timeoutDueClient_walk (hs : Seats s) (clientId : String) :
    Succeeds (Walk Move.plain) s (timeoutDueClient clientId) := by
  refine succeeds_get_bind ?_
  split
  · refine walk_bind hs (rejectFenced_plain s clientId) fun fenced t _ ht => succeeds_get_bind ?_
    split
    · exact walk_quiet_modify_bind ht (quiet_requestClose t clientId)
        fun ht => timeoutDisconnectMessages_walk ht clientId
    · exact succeeds_pure _ _
  · exact succeeds_pure _ _

theorem collectPeriodicTick_walk (hs : Seats s) (clientId : String) (now : Seconds) :
    Succeeds (Walk Move.plain) s (collectPeriodicTickForClientAt clientId now) := by
  refine succeeds_get_bind ?_
  split
  · exact succeeds_pure _ _
  · next session _ =>
    refine walk_bind hs (rejectFenced_plain s clientId) fun fenced t _ ht => ?_
    split
    · exact succeeds_pure _ _
    · refine walk_quiet_modify_bind ht (t.quiet_ensureRoomState session.room) fun ht => ?_
      refine walk_quiet_modify_bind ht (ServerRuntime.quiet_fillRoomSetBy _ session.room)
        fun ht => succeeds_get_bind ?_
      extract_lets room
      refine walk_quiet_modify_bind ht (ServerRuntime.quiet_refreshRoomPlayback _ session.room now)
        fun ht => ?_
      refine walk_quiet_bind ht (periodicStateSync_quiet _ _ _ _ _ _) fun state u _ hu => ?_
      refine succeeds_get_bind ?_
      split
      · exact walk_quiet_modify_bind hu (quiet_requestClose u clientId) fun hu =>
          walk_bind hu (timeoutDisconnectMessages_walk hu clientId) fun _ v _ _ => succeeds_pure v _
      · exact succeeds_pure _ _

theorem tickDueClient_walk (hs : Seats s) (now : Seconds) (clientId : String) :
    Succeeds (Walk Move.plain) s (tickDueClient now clientId) := by
  refine succeeds_get_bind ?_
  split
  · exact walk_quiet_modify_bind hs
      (Quiet.of_fields rfl rfl rfl rfl rfl rfl rfl rfl rfl)
      fun hs => collectPeriodicTick_walk hs clientId now
  · exact succeeds_pure _ _

/-! ### Actions -/

theorem atomic_silently {α : Type} {r : ServerRuntime → ServerRuntime → Prop} {m : ServerM α}
    (h : Atomic r s m) : Atomic r s (silently m) := by
  rcases h with ⟨a, t, hrun, hr⟩ | ⟨e, hrun⟩
  · exact .inl ⟨(), t, by unfold silently; rw [bind_of_ok hrun]; rfl, hr⟩
  · exact .inr ⟨e, by unfold silently; rw [bind_run, hrun]⟩

/-- What an action does to memberships. -/
def Action.Changes : Action → ServerRuntime → ServerRuntime → Prop
  | .hello clientId _ _ freshToken => Seated clientId freshToken Move.plain
  | .setCommand clientId freshToken _ _ => Commanded clientId freshToken
  | _ => Walk Move.plain

theorem Walk.plain_of_quiet {α : Type} {m : ServerM α} (h : Succeeds Quiet s m) :
    Atomic (Walk Move.plain) s m := .inl (succeeds_walk h)

theorem handleChat_quiet (s : ServerRuntime) (clientId message : String) (framesFit : Bool) :
    Atomic (Walk Move.plain) s (handleChat clientId message framesFit) := by
  refine atomic_get_bind ?_
  split
  · exact .inl (succeeds_pure _ _)
  · split
    · exact atomic_throw s _
    · split
      · exact atomic_throw s _
      · exact .inl (succeeds_pure _ _)

theorem handleList_quiet (s : ServerRuntime) (clientId : String) :
    Atomic (Walk Move.plain) s (handleList clientId) := by
  refine atomic_get_bind ?_
  split
  · exact .inl (succeeds_pure _ _)
  · exact atomic_throw s _

theorem handleTls_quiet (s : ServerRuntime) (clientId startTlsRequest : String)
    (contextAvailable : Bool) :
    Succeeds Quiet s (handleTls clientId startTlsRequest contextAvailable) := by
  refine succeeds_get_bind ?_
  split
  · exact succeeds_pure _ _
  · extract_lets accepted
    refine succeeds_modify_bind ?_ (succeeds_pure _ _)
    split
    · exact Quiet.of_fields rfl rfl rfl rfl rfl rfl rfl rfl rfl
    · exact .refl s

/-- **Every action is its walk**, or fails before it has changed anything. -/
theorem Action.atomic (action : Action) (hs : Seats s) :
    Atomic (action.Changes) s action.run := by
  cases action with
  | hello clientId command framesFit freshToken =>
    exact atomic_silently (handleHello_seated hs clientId command framesFit freshToken)
  | setCommand clientId freshToken command next =>
    refine atomic_silently ?_
    by_cases hsession : (s.sessions[clientId]?).isSome = true
    · exact .inl (applySetCommand_commanded hs hsession freshToken command next)
    · refine .inr ⟨.missingSession clientId, ?_⟩
      unfold applySetCommand
      rw [get_bind_run, Option.not_isSome_iff_eq_none.mp hsession]
      rfl
  | state clientId command forwardDelay =>
    refine atomic_silently ?_
    exact (handleState_walk hs clientId command forwardDelay).imp succeeds_plain id
  | chat clientId message framesFit => exact atomic_silently (handleChat_quiet s _ _ _)
  | list clientId => exact atomic_silently (handleList_quiet s _)
  | tls clientId startTls contextAvailable =>
    exact atomic_silently (Walk.plain_of_quiet (handleTls_quiet s _ _ _))
  | fencedInput clientId =>
    exact atomic_silently (Walk.plain_of_quiet (rejectFencedPlaybackBarrierTransport_quiet s _))
  | disconnect clientId => exact atomic_silently (.inl (timeoutDisconnectMessages_walk hs clientId))
  | pruneMemberships => exact .inl (succeeds_modify (Walk.move (by trivial) .prune))
  | pruneTombstones => exact .inl (succeeds_modify (Walk.quiet s.quiet_pruneTombstones))
  | persistActivity => exact .inl (succeeds_modify (Walk.quiet (s.quiet_persistActivity _)))
  | expireRoom roomName =>
    refine .inl (succeeds_modify ?_)
    unfold ServerRuntime.discardRoom
    split
    · next hempty =>
      exact Walk.move (by trivial) (.discard (List.isEmpty_iff.mp hempty))
    · exact .refl
  | duePrepare roomName =>
    exact atomic_get_bind (atomic_silently (Walk.plain_of_quiet (finishDuePrepare_quiet s _ _)))
  | dueStarted roomName => exact atomic_silently (Walk.plain_of_quiet (finishDueStarted_quiet s _))
  | dueBuffering roomName =>
    exact atomic_get_bind
      (atomic_silently (Walk.plain_of_quiet (evaluateRoomBufferingAt_quiet s _ _ _)))
  | dueTimeout clientId => exact atomic_silently (.inl (timeoutDueClient_walk hs clientId))
  | dueTick clientId =>
    exact atomic_get_bind (atomic_silently (.inl (tickDueClient_walk hs _ clientId)))

theorem Action.changes (action : Action) (hs : Seats s) :
    action.Changes s (after action.run s) := by
  rcases action.atomic hs with hsucceeds | ⟨e, hrun⟩
  · obtain ⟨a, t, hrun, hchanges⟩ := hsucceeds
    rw [after, hrun]
    exact hchanges
  · rw [after, hrun]
    cases action <;> first | exact Or.inl .refl | exact .stays (.inl .refl) | exact .refl

theorem Action.Changes.seats {action : Action} (h : action.Changes s s') (hs : Seats s) :
    Seats s' := by
  cases action with
  | hello clientId command framesFit freshToken => exact Seated.seats h hs
  | setCommand clientId freshToken command next => exact Commanded.seats h hs
  | _ => exact Walk.seats h hs

/-- Whatever an action does, it does by moves. -/
theorem Action.Changes.walk {action : Action} (h : action.Changes s s') :
    Walk (fun _ => True) s s' := by
  have hany : ∀ {ok : Move → Prop} {t t' : ServerRuntime}, Walk ok t t' →
      Walk (fun _ => True) t t' := fun hwalk => hwalk.mono fun _ _ => trivial
  have hseated : ∀ {clientId freshToken : String} {ok : Move → Prop} {t t' : ServerRuntime},
      Seated clientId freshToken ok t t' → Walk (fun _ => True) t t' := by
    rintro clientId freshToken ok t t' (hwalk | ⟨u, u', presented, hbefore, hattach, hafter⟩)
    · exact hany hwalk
    · exact ((hany hbefore).trans (Walk.move trivial hattach)).trans (hany hafter)
  cases action with
  | hello clientId command framesFit freshToken => exact hseated h
  | setCommand clientId freshToken command next =>
    cases h with
    | stays h => exact hseated h
    | moves hbefore hmove hafter =>
      exact ((hany hbefore).trans (Walk.move trivial hmove)).trans (hseated hafter)
  | _ => exact hany h

/-! ### Reachable states -/

/-- Only the clock moves between two actions. -/
theorem quiet_clock (s : ServerRuntime) (clock : Clock) : Quiet s { s with clock } :=
  Quiet.of_fields rfl rfl rfl rfl rfl rfl rfl rfl rfl

theorem Initial.participant (h : Initial s) (room username : String) :
    s.readinessParticipant room username = none := by
  unfold ServerRuntime.readinessParticipant
  rw [h.noReadiness, Std.ExtTreeMap.getElem?_empty]
  rfl

theorem Initial.seats (h : Initial s) : Seats s where
  enabled room k hk := by
    rw [h.noReadiness, Std.ExtTreeMap.getElem?_empty] at hk
    cases hk
  seated room username p hp := by
    rw [h.participant] at hp
    cases hp
  derived room username p hp := by
    rw [h.participant] at hp
    cases hp
  projected room username p hp := by
    rw [h.participant] at hp
    cases hp
  named c c' session session' hsession := by
    rw [h.noSessions, Std.ExtTreeMap.getElem?_empty] at hsession
    cases hsession
  rostered room username := by
    unfold ServerRuntime.rosterFlag
    rw [h.noRoster, Std.ExtTreeMap.getElem?_empty]
    refine ⟨fun hnone => by simp at hnone, ?_⟩
    rintro ⟨c, session, hsession, -⟩
    rw [h.noSessions, Std.ExtTreeMap.getElem?_empty] at hsession
    cases hsession

theorem Step.seats (h : Step s s') (hs : Seats s) : Seats s' := by
  cases h with
  | act action clock _ =>
    have hclock : Seats { s with clock } := hs.quiet (quiet_clock s clock)
    exact (action.changes hclock).seats hclock

/-- **Seats are coherent in every reachable state.** -/
theorem Reachable.seats (h : Reachable s) : Seats s := by
  obtain ⟨s₀, hinitial, hrun⟩ := h
  induction hrun with
  | refl => exact hinitial.seats
  | tail _ hstep ih => exact hstep.seats ih

/-- **Names are distinct and bounded in every reachable state.** -/
theorem Reachable.names (h : Reachable s) : NamesSound s := by
  obtain ⟨s₀, hinitial, hrun⟩ := h
  induction hrun with
  | refl =>
    have hnone : ∀ c : String, s₀.sessions[c]? = none := by
      intro c
      rw [hinitial.noSessions, Std.ExtTreeMap.getElem?_empty]
    constructor
    · intro c c' session session' hsession
      cases (hnone c).symm.trans hsession
    · intro c session hsession
      cases (hnone c).symm.trans hsession
    · intro c session hsession
      cases (hnone c).symm.trans hsession
  | @tail t t' hbefore hstep ih =>
    have hseats : Seats t := Reachable.seats ⟨s₀, hinitial, hbefore⟩
    cases hstep with
    | act action clock _ =>
      have hclock := quiet_clock t clock
      have hheld : NamesSound { t with clock } :=
        ih.kept (.of_eq hclock.same.nameLimit hclock.same.sessions)
      exact (action.changes (hseats.quiet hclock)).walk.names (hseats.quiet hclock) hheld

end Sorotte.Server
