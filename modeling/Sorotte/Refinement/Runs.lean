import Sorotte.Ideal.Runs
import Sorotte.Refinement.Playstate

/-! # Refinement: runs

  Every action of the server is a sequence of moves of the ideal server, and
  its kind says which moves those can be.  So every run of the server reads as
  a run of the ideal server from its initial state.
-/

namespace Sorotte.Server

open Sorotte.Framework Sorotte.Framework.Prog Sorotte.Ideal ServerRuntime

variable {s t : ServerRuntime} {clientId : String} {allowed : Label → Prop}

/-! ### Messages without a label -/

theorem rejectFencedPlaybackBarrierTransport_invisible (s : ServerRuntime) (clientId : String) :
    Invisible s (rejectFencedPlaybackBarrierTransport clientId) := by
  unfold rejectFencedPlaybackBarrierTransport
  apply follows_get_bind
  split
  · exact follows_quiet_bind (ideal_fenceAndClose s clientId) (follows_pure _ _)
  · exact follows_pure _ _

theorem handleChat_invisible (s : ServerRuntime) (clientId message : String) (framesFit : Bool) :
    Invisible s (handleChat clientId message framesFit) := by
  unfold handleChat
  apply follows_get_bind
  split
  · exact follows_pure _ _
  · split
    · exact follows_throw _ _
    · split
      · exact follows_throw _ _
      · exact follows_pure _ _

theorem handleList_invisible (s : ServerRuntime) (clientId : String) :
    Invisible s (handleList clientId) := by
  unfold handleList
  apply follows_get_bind
  split
  · exact follows_pure _ _
  · exact follows_throw _ _

theorem handleTls_invisible (s : ServerRuntime) (clientId startTls : String)
    (contextAvailable : Bool) : Invisible s (handleTls clientId startTls contextAvailable) := by
  unfold handleTls
  apply follows_get_bind
  split
  · exact follows_pure _ _
  · extract_lets accepted
    have hquiet : (if accepted then
        { s with pendingTransportActions := s.pendingTransportActions ++ [(clientId, .startTls)] }
      else s : ServerRuntime).ideal = s.ideal := by split <;> rfl
    exact follows_quiet_bind hquiet (follows_pure _ _)

/-! ### Ticks -/

theorem ideal_persistOccupiedRoomActivityIfDueAtForAllRooms (s : ServerRuntime) (now : Seconds) :
    (s.persistOccupiedRoomActivityIfDueAtForAllRooms now).ideal = s.ideal := by
  unfold persistOccupiedRoomActivityIfDueAtForAllRooms
  extract_lets occupiedRooms
  generalize occupiedRooms.toList = rooms
  induction rooms generalizing s with
  | nil => rfl
  | cons room rooms ih =>
    rw [List.foldl_cons, ih, ideal_persistOccupiedRoomActivityIfDueAt]

theorem ideal_fillRoomSetBy (s : ServerRuntime) (room : String) :
    (s.fillRoomSetBy room).ideal = s.ideal := by
  unfold fillRoomSetBy
  dsimp only
  split
  · exact ideal_setRoomPlaybackState_quiet s room _ rfl rfl
  · rfl

/-- The client is not heard of any more, and no newer connection has its place. -/
def ServerRuntime.TimesOut (s : ServerRuntime) (clientId : String) : Prop :=
  s.playbackBarrierFencedClients.contains clientId = false ∧ s.clientTimedOut clientId = true

/-- What a tick of a client may do: its room's position follows its members,
    and a client that timed out leaves. -/
def tickLabel (leaves : Prop) (clientId : String) (l : Label) : Prop :=
  ∃ room, refreshLabel room l ∨ leaves ∧ leaveLabel clientId room l

/-- A bind whose first half leaves every seat where it is. -/
theorem evolves_quiet_bind {α β : Type} {m : ServerM α} {k : α → ServerM β} (hs : Seats s)
    (hquiet : Succeeds Quiet s m) (hm : Evolves allowed s m)
    (hk : ∀ a t, m s = (.ok a, t) → Seats t → Evolves allowed t (k a)) :
    Evolves allowed s (m >>= k) := by
  apply follows_bind hm
  intro a t hrun
  obtain ⟨a', t', hrun', hkept⟩ := hquiet
  obtain ⟨-, rfl⟩ := Prod.mk.inj (hrun.symm.trans hrun')
  exact hk a t hrun (hs.quiet hkept)

theorem fenced_of_run {fenced : Bool}
    (h : rejectFencedPlaybackBarrierTransport clientId s = (.ok fenced, t)) :
    s.playbackBarrierFencedClients.contains clientId = fenced ∧ (fenced = false → t = s) := by
  unfold rejectFencedPlaybackBarrierTransport at h
  rw [get_bind_run] at h
  split at h
  · next hfenced =>
    cases h
    exact ⟨hfenced, fun hfree => Bool.noConfusion hfree⟩
  · next hfree =>
    cases h
    exact ⟨Bool.not_eq_true _ ▸ hfree, fun _ => rfl⟩

theorem timeoutDisconnect_ticks (hs : Seats s) {leaves : Prop} (hleaves : leaves) :
    Evolves (tickLabel leaves clientId) s (timeoutDisconnectMessages clientId) := by
  apply Evolves.weaken (timeoutDisconnectMessages_evolves hs clientId)
  rintro l ⟨room, hl⟩
  exact ⟨room, .inr ⟨hleaves, hl⟩⟩

theorem timeoutDueClient_evolves (hs : Seats s) (clientId : String) :
    Evolves (tickLabel (s.TimesOut clientId) clientId) s (timeoutDueClient clientId) := by
  unfold timeoutDueClient
  apply follows_get_bind
  split
  · apply evolves_quiet_bind hs (rejectFencedPlaybackBarrierTransport_quiet s clientId)
      (rejectFencedPlaybackBarrierTransport_invisible s clientId).evolves
    intro fenced t hrun ht
    obtain ⟨hfenced, hsame⟩ := fenced_of_run hrun
    apply follows_get_bind
    split
    · next hdue =>
      rw [Bool.and_eq_true, Bool.not_eq_true'] at hdue
      have htimed := hsame hdue.1 ▸ hdue.2
      apply follows_quiet_bind rfl
      exact timeoutDisconnect_ticks (ht.quiet (quiet_requestClose t clientId))
        ⟨hfenced.trans hdue.1, htimed⟩
    · exact follows_pure _ _
  · exact follows_pure _ _

theorem clientTimedOut_fillRoomSetBy (s : ServerRuntime) (room : String) :
    (s.fillRoomSetBy room).clientTimedOut clientId = s.clientTimedOut clientId := by
  unfold fillRoomSetBy
  dsimp only
  split <;> rfl

theorem clientTimedOut_refreshRoomPlayback (s : ServerRuntime) (room : String) (now : Seconds) :
    (s.refreshRoomPlaybackStateFromClientsAt room now).2.clientTimedOut clientId =
      s.clientTimedOut clientId := by
  unfold refreshRoomPlaybackStateFromClientsAt
  dsimp only
  split
  · rfl
  · split <;> rfl

theorem clientTimedOut_periodicStateSync {position now : Seconds} {paused : Bool}
    {setBy : Option String} {state : Option ProtocolMessage}
    (h : periodicStateSyncMessageForClientAt clientId position paused setBy now s = (.ok state, t)) :
    t.clientTimedOut clientId = s.clientTimedOut clientId := by
  unfold periodicStateSyncMessageForClientAt at h
  rw [get_bind_run] at h
  cases hsession : s.sessions[clientId]? with
  | none =>
    rw [hsession] at h
    cases h
    rfl
  | some session =>
    rw [hsession] at h
    dsimp only at h
    rw [modify_bind_run] at h
    split at h <;> cases h <;> rfl

theorem collectPeriodicTick_evolves (hs : Seats s) (clientId : String) (now : Seconds) :
    Evolves (tickLabel (s.TimesOut clientId) clientId) s
      (collectPeriodicTickForClientAt clientId now) := by
  unfold collectPeriodicTickForClientAt
  apply follows_get_bind
  split
  · exact follows_pure _ _
  · next session hsession =>
    apply evolves_quiet_bind hs (rejectFencedPlaybackBarrierTransport_quiet s clientId)
      (rejectFencedPlaybackBarrierTransport_invisible s clientId).evolves
    intro fenced t hrun ht
    obtain ⟨hfenced, hsame⟩ := fenced_of_run hrun
    split
    · exact follows_pure _ _
    · next hfree =>
      rw [Bool.not_eq_true] at hfree
      have htimed : t.clientTimedOut clientId = s.clientTimedOut clientId := by rw [hsame hfree]
      apply follows_quiet_bind (ideal_ensureRoomState t session.room)
      have hensured := ht.quiet (t.quiet_ensureRoomState session.room)
      apply follows_quiet_bind (ideal_fillRoomSetBy _ session.room)
      have hfilled := hensured.quiet (quiet_fillRoomSetBy _ session.room)
      have hstill : ((t.ensureRoomState session.room).fillRoomSetBy session.room).clientTimedOut
          clientId = s.clientTimedOut clientId :=
        (clientTimedOut_fillRoomSetBy _ session.room).trans htimed
      generalize (t.ensureRoomState session.room).fillRoomSetBy session.room = u
        at hfilled hstill ⊢
      apply follows_get_bind
      extract_lets room
      have hrefreshed : EvolvesTo (tickLabel (s.TimesOut clientId) clientId) u
          (u.refreshRoomPlaybackStateFromClientsAt session.room now).2 := by
        apply moves_of_steps _ (refresh_steps u session.room now)
        intro l hl
        apply And.intro ⟨session.room, .inl hl⟩
        cases l <;> first | exact id | exact hl.elim
      apply follows_modify_bind hrefreshed
      apply evolves_quiet_bind (hfilled.quiet (quiet_refreshRoomPlayback u session.room now))
        (periodicStateSync_quiet _ _ _ _ _ _)
        (periodicStateSyncMessageForClientAt_invisible _ _ _ _ _ _).evolves
      intro state v hsync hv
      -- nothing the tick did so far is heard from the client
      have hlast := (clientTimedOut_periodicStateSync hsync).trans
        ((clientTimedOut_refreshRoomPlayback u session.room now).trans hstill)
      apply follows_get_bind
      split
      · next hdue =>
        apply follows_quiet_bind rfl
        apply follows_bind (timeoutDisconnect_ticks (hv.quiet (quiet_requestClose v clientId))
          ⟨hfenced.trans hfree, hlast ▸ hdue⟩)
        intro left w _
        exact follows_pure _ _
      · exact follows_pure _ _

theorem tickDueClient_evolves (hs : Seats s) (now : Seconds) (clientId : String) :
    Evolves (tickLabel (s.TimesOut clientId) clientId) s (tickDueClient now clientId) := by
  unfold tickDueClient
  apply follows_get_bind
  split
  · have hmarked : Quiet s { s with
        clientNextPeriodicStateAt := s.clientNextPeriodicStateAt.insert clientId
          (s.localTimeSeconds + serverStateIntervalSeconds) } :=
      Quiet.of_fields rfl rfl rfl rfl rfl rfl rfl rfl rfl
    have hticks := collectPeriodicTick_evolves (hs.quiet hmarked) clientId now
    exact follows_quiet_bind rfl hticks
  · exact follows_pure _ _

/-! ### Actions -/

/-- What an action may do in the state it starts from. -/
def actionLabel (s : ServerRuntime) : Action → Label → Prop
  | .hello clientId hello framesFit _, l =>
      presenceLabel (s.AdmitsHello clientId hello framesFit) clientId l
  | .setCommand clientId _ command _, l =>
      ∃ session, s.sessions[clientId]? = some session ∧ commandLabel s clientId session command l
  | .state clientId command _, l =>
      ∃ session, s.sessions[clientId]? = some session ∧ stateLabel s clientId session command l
  | .disconnect clientId, l => ∃ room, leaveLabel clientId room l
  | .pruneTombstones, l => l = .prune
  | .expireRoom room, l => discardLabel room l
  | .duePrepare room, l => settleLabel room l ∨ commitLabel room l
  | .dueStarted room, l => settleLabel room l ∨ l = .release room
  | .dueBuffering room, l => policyLabel room l
  | .dueTimeout clientId, l | .dueTick clientId, l => tickLabel (s.TimesOut clientId) clientId l
  | .chat _ _ _, _ | .list _, _ | .tls _ _ _, _ | .fencedInput _, _ | .pruneMemberships, _
  | .persistActivity, _ => False

/-- What an action may do, the new reading of the clock included. -/
def stepLabel (s : ServerRuntime) (action : Action) (clock : Clock) (l : Label) : Prop :=
  l = .clock clock.request ∨ actionLabel { s with clock } action l

theorem evolves_silently {α : Type} {m : ServerM α} (h : Evolves allowed s m) :
    Evolves allowed s (silently m) := by
  unfold silently
  exact follows_bind h fun _ _ _ => follows_pure _ _

theorem Action.run_evolves (hs : Seats s) (action : Action) :
    Evolves (actionLabel s action) s action.run := by
  cases action with
  | hello clientId command framesFit freshToken =>
    exact evolves_silently (handleHelloForPeer_evolves hs clientId command framesFit freshToken)
  | setCommand clientId freshToken command next =>
    exact evolves_silently (applySetCommand_evolves hs command next)
  | state clientId command forwardDelay =>
    apply evolves_silently
    cases hsession : s.sessions[clientId]? with
    | none =>
      unfold handleState
      apply follows_get_bind
      rw [hsession]
      exact follows_throw _ _
    | some session =>
      apply (handleState_refines hsession command forwardDelay).evolves
      intro l hl
      exact ⟨⟨session, hsession, hl⟩, stays_of_state l hl⟩
  | chat clientId message framesFit =>
    exact evolves_silently (handleChat_invisible s clientId message framesFit).evolves
  | list clientId => exact evolves_silently (handleList_invisible s clientId).evolves
  | tls clientId startTls contextAvailable =>
    exact evolves_silently (handleTls_invisible s clientId startTls contextAvailable).evolves
  | fencedInput clientId =>
    exact evolves_silently (rejectFencedPlaybackBarrierTransport_invisible s clientId).evolves
  | disconnect clientId =>
    exact evolves_silently (timeoutDisconnectMessages_evolves hs clientId)
  | pruneMemberships => exact follows_quiet rfl
  | pruneTombstones =>
    have hprune : Relation.ReflTransGen (Steps (· = .prune)) s.ideal
        s.prunePlaybackBarrierRequestTombstones.ideal := .single ⟨.prune, rfl, prune_step s⟩
    apply follows_modify (moves_of_steps _ hprune)
    rintro l rfl
    exact ⟨rfl, id⟩
  | persistActivity =>
    exact follows_quiet (ideal_persistOccupiedRoomActivityIfDueAtForAllRooms s _)
  | expireRoom room =>
    apply follows_modify (moves_of_steps _ (discardRoom_steps s room))
    intro l hl
    apply And.intro hl
    cases l <;> first | exact id | exact hl.elim
  | duePrepare room =>
    apply follows_get_bind
    apply evolves_silently
    apply (finishDuePrepare_refines s room s.currentTimeSeconds).evolves
    intro l hl
    apply And.intro hl
    rcases hl with hl | hl <;> cases l <;> first | exact id | exact hl.elim
  | dueStarted room =>
    apply evolves_silently
    apply (finishDueStarted_refines s room).evolves
    intro l hl
    apply And.intro hl
    rcases hl with hl | rfl
    · cases l <;> first | exact id | exact hl.elim
    · exact id
  | dueBuffering room =>
    apply follows_get_bind
    apply evolves_silently
    apply (evaluateRoomBufferingAt_refines s room s.currentTimeSeconds false).evolves
    intro l hl
    apply And.intro hl
    cases l <;> first | exact id | exact hl.elim
  | dueTimeout clientId => exact evolves_silently (timeoutDueClient_evolves hs clientId)
  | dueTick clientId =>
    apply follows_get_bind
    exact evolves_silently (tickDueClient_evolves hs s.currentTimeSeconds clientId)

theorem ideal_clock (s : ServerRuntime) (clock : Clock) :
    { s with clock }.ideal = effect s.ideal (.clock clock.request) := by
  -- a room nobody wrote to is paused at its start, whatever the clock says
  have hpaused : ∀ room, ({ s with clock }.roomPlaybackState room).paused =
      (s.roomPlaybackState room).paused := by
    intro room
    simp only [roomPlaybackState, Std.ExtTreeMap.getD_eq_getD_getElem?]
    cases s.roomPlaybackStates[room]? <;> rfl
  have hposition : ∀ room, ({ s with clock }.roomPlaybackState room).position =
      (s.roomPlaybackState room).position := by
    intro room
    simp only [roomPlaybackState, Std.ExtTreeMap.getD_eq_getD_getElem?]
    cases s.roomPlaybackStates[room]? <;> rfl
  unfold ideal
  simp only [hpaused, hposition]
  rfl

/-- One action at a new clock reading. -/
theorem Action.next_evolves (hs : Seats s) (action : Action) {clock : Clock}
    (hclock : s.clock.le clock) :
    EvolvesTo (stepLabel s action clock) s (action.next clock s) := by
  have hread : EvolvesTo (stepLabel s action clock) s { s with clock } :=
    .single (.step (.clock clock.request) (.inl rfl) id ⟨hclock.2, ideal_clock s clock⟩)
  have hrun : EvolvesTo (actionLabel { s with clock } action) { s with clock }
      (action.next clock s) := action.run_evolves (hs.quiet (quiet_clock s clock))
  exact hread.trans (Relation.ReflTransGen.mono (moveMono fun l hl => .inr hl) _ _ hrun)

/-! ### Runs -/

theorem Initial.ideal (h : Initial s) : Ideal.Initial s.ideal where
  sessions clientId := by
    show s.sessions[clientId]? = none
    simp [h.noSessions]
  controllers room username := h.noControllers username room
  paused := h.restoredPaused
  sample clientId := by
    show s.clientPlaybackStates[clientId]?.bind _ = none
    simp [h.noSamples]
  barrier room := by
    show s.roomPlaybackBarriers[room]? = none
    simp [h.noBarriers]
  policy room := by
    show s.roomBufferingControls[room]?.map _ = none
    simp [h.noControls]
  gate room := by
    show s.roomReadiness[room]?.map _ = none
    simp [h.noReadiness]
  tombstone room requestId := by
    show (s.requestTombstone room requestId).map _ = none
    simp [requestTombstone, h.noTombstones]
  generation := h.noGeneration
  revision := h.noRevision
  history := h.noHistory

theorem evolvesTo_any (h : EvolvesTo allowed s t) : EvolvesTo (fun _ => True) s t :=
  Relation.ReflTransGen.mono (moveMono fun _ _ => trivial) _ _ h

/-- **Every reachable state of the server reads as one of the ideal server.** -/
theorem Reachable.ideal (h : Reachable s) : Ideal.Reachable s.ideal := by
  obtain ⟨s₀, hinitial, hrun⟩ := h
  refine ⟨s₀.ideal, hinitial.ideal, ?_⟩
  induction hrun with
  | refl => exact .refl
  | @tail t u hbefore hstep ih =>
    have ht : Seats t := Reachable.seats ⟨s₀, hinitial, hbefore⟩
    cases hstep with
    | act action clock hclock =>
      exact ih.trans (evolvesTo_any (action.next_evolves ht hclock))

/-- What every step of the ideal server preserves holds in every reachable state. -/
theorem Reachable.ideal_invariant {I : State → Prop} (hinitial : ∀ x, Ideal.Initial x → I x)
    (hstep : ∀ x l, guard x l → I x → I (effect x l)) (h : Reachable s) : I s.ideal :=
  h.ideal.invariant hinitial hstep

end Sorotte.Server
