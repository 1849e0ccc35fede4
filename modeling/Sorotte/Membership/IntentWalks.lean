import Sorotte.Membership.Commands

/-! # Intents, reports and Ready messages as walks

  Each changes one seat and writes its flag to the roster at once.
-/

namespace Sorotte.Server

open Sorotte.Framework Sorotte.Framework.Prog

variable {ok : Move → Prop} {s s' : ServerRuntime}

/-- A program that comes to the move it makes, and goes on. -/
theorem walk_arrive {α : Type} {t : ServerRuntime} {move : Move} {m k : ServerM α} (hok : ok move)
    (hmove : Moves move s t) (hrun : m s = k t) (hk : Succeeds (Walk ok) t k) :
    Succeeds (Walk ok) s m := by
  obtain ⟨b, u, hrest, hafter⟩ := hk
  exact ⟨b, u, hrun.trans hrest, (Walk.move hok hmove).trans hafter⟩

/-- A program that comes to the end of a walk, and goes on. -/
theorem walk_travel {α : Type} {t : ServerRuntime} {m k : ServerM α} (hwalk : Walk ok s t)
    (hrun : m s = k t) (hk : Succeeds (Walk ok) t k) : Succeeds (Walk ok) s m := by
  obtain ⟨b, u, hrest, hafter⟩ := hk
  exact ⟨b, u, hrun.trans hrest, hwalk.trans hafter⟩

/-! ### Intents -/

theorem readinessRecord_updateParticipant (s : ServerRuntime) (room username : String)
    {f : ServerReadinessParticipant → ServerReadinessParticipant}
    (hf : ∀ p, (f p).record = p.record) (a b : String) :
    (s.updateParticipant room username f).readinessRecord a b = s.readinessRecord a b := by
  have hedits := editsCoordinator_updateReadiness s room fun k =>
    { k with participants := k.participants.modify username f }
  unfold ServerRuntime.readinessRecord ServerRuntime.updateParticipant
  rw [hedits.participant]
  by_cases ha : a = room
  · subst ha
    rw [if_pos rfl]
    unfold ServerRuntime.readinessParticipant
    cases s.roomReadiness[a]? with
    | none => rfl
    | some k =>
      rw [Option.bind_some, Option.bind_some]
      show ((k.participants.modify username f)[b]?).map _ = _
      rw [Std.ExtTreeMap.getElem?_modify]
      by_cases hb : compare username b = .eq
      · rw [if_pos hb, Std.LawfulEqOrd.eq_of_compare hb, Option.map_map]
        congr 1
        funext p
        exact hf p
      · rw [if_neg hb]
  · rw [if_neg ha]

theorem readinessRecord_recordAccepted (s : ServerRuntime) (session : ServerSession)
    (request : ReadinessIntentRequest) (acceptedRevision acceptedUserIntentRevision : Nat)
    (a b : String) :
    (s.recordAcceptedOperation session request acceptedRevision acceptedUserIntentRevision
      ).readinessRecord a b = s.readinessRecord a b := by
  unfold ServerRuntime.recordAcceptedOperation
  apply readinessRecord_updateParticipant
  exact fun _ => rfl

theorem acceptReadinessIntent_walk {clientId : String} {session : ServerSession}
    {request : ReadinessIntentRequest} (hs : Seats s)
    (hsession : s.sessions[clientId]? = some session)
    (hseat : (s.readinessParticipant session.room
      (request.targetUsername.getD session.username)).isSome = true) :
    Succeeds (Walk Move.edits) s (acceptReadinessIntent clientId session request) := by
  refine succeeds_get_bind ?_
  extract_lets room target targetIsSelf mayControl staged source
  refine walk_quiet_modify_bind hs (s.quiet_clearPendingUserTransport clientId) fun hs => ?_
  set cleared := s.clearPendingUserTransport clientId
  have haccept : Moves (.accept clientId request) cleared
      (cleared.acceptSeat session request source) := .accept source hsession hseat
  have hflag : (cleared.rosterFlag room target).isSome = true := by
    obtain ⟨p, hp⟩ := Option.isSome_iff_exists.mp hseat
    exact hs.flag (p := p) hp
  -- the record of an accepted operation leaves the flag that was read before it
  have hseated : cleared.acceptSeat session request source =
      let mutated := cleared.mutateReadinessIntent room target request.desired source
        session.username (some request.operationId)
      let recorded := mutated.recordAcceptedOperation session request
        ((mutated.roomReadiness[room]?.map (·.revision)).getD 0)
        (((mutated.readinessRecord room target).map (·.userIntentRevision)).getD 0)
      { recorded with
        roomRoster := Roster.joinRoomWithReady recorded.roomRoster target room
          (some ((mutated.readinessRecord room target).any (·.roomReady))) } := by
    unfold ServerRuntime.acceptSeat ServerRuntime.projectReady
    dsimp only
    rw [readinessRecord_recordAccepted]
  refine walk_arrive (k := ?k) (by trivial) haccept ?run ?rest
  case run =>
    rw [modify_bind_run, get_bind_run, modify_bind_run, bind_of_ok (setRosterReady_run ?flag _),
      hseated]
    case flag => exact hflag
  case rest =>
    refine succeeds_get_bind ?_
    have ht := haccept.seats hs
    refine walk_quiet_bind ht (succeeds_onSome fun desiredPaused _ => succeeds_when fun _ =>
      applyIndirectPlayerTransport_quiet _ _ _ _ _) fun _ t _ ht => ?_
    have hrearmed : Quiet t (if request.desired = .ready ∧
        (cleared.acceptSeat session request source).barrierPhase room = some .preparing then
          t.rearmStartGate room else t) := by
      split
      · exact t.quiet_rearmStartGate room
      · exact .refl t
    refine walk_quiet_modify_bind ht hrearmed fun ht => ?_
    refine walk_quiet_modify_bind ht (ServerRuntime.quiet_refreshReadinessGatePhase _ room)
      fun ht => succeeds_get_bind ?_
    exact walk_quiet_bind ht (maybeCommitReadinessGate_quiet _ room) fun _ u _ _ =>
      succeeds_pure u _

theorem rejectReadinessIntent_quiet (s : ServerRuntime) (clientId : String)
    (session : ServerSession) (request : ReadinessIntentRequest)
    (status : ReadinessRequestResultStatus) :
    Succeeds Quiet s (rejectReadinessIntent clientId session request status) := by
  have hcleared : Quiet s
      (if status = .duplicate then s else s.clearPendingUserTransport clientId) := by
    split
    · exact .refl s
    · exact s.quiet_clearPendingUserTransport clientId
  exact succeeds_modify_bind hcleared (succeeds_get_bind (succeeds_pure _ _))

theorem applyReadinessIntent_walk {clientId : String} {session : ServerSession} (hs : Seats s)
    (hsession : s.sessions[clientId]? = some session) (request : ReadinessIntentRequest) :
    Succeeds (Walk Move.edits) s (applyReadinessIntent clientId request) := by
  refine succeeds_get_bind ?_
  rw [hsession]
  dsimp only
  split
  · exact walk_quiet_modify_bind hs (s.quiet_clearPendingUserTransport clientId)
      fun _ => succeeds_pure _ _
  · split
    · exact succeeds_walk (rejectReadinessIntent_quiet s _ _ _ _)
    · have hspend : Moves .spend s (s.updateParticipant session.room session.username
          fun participant => { participant with highestRequestNonce := request.requestNonce }) :=
        .spend session.room session.username request.requestNonce
      refine walk_modify_bind hs (by trivial) hspend fun ht => ?_
      split
      · exact succeeds_walk (rejectReadinessIntent_quiet _ _ _ _ _)
      · next targetRevision hrevision =>
        split
        · exact succeeds_walk (rejectReadinessIntent_quiet _ _ _ _ _)
        · refine acceptReadinessIntent_walk ht hsession ?_
          -- the target had a record before the nonce was spent
          obtain ⟨record, hrecord, -⟩ := Option.map_eq_some_iff.mp hrevision
          have hkept := readinessRecord_updateParticipant s session.room session.username
            (f := fun participant =>
              { participant with highestRequestNonce := request.requestNonce })
            (fun _ => rfl) session.room (request.targetUsername.getD session.username)
          rw [hrecord] at hkept
          obtain ⟨p, hp, -⟩ := Option.map_eq_some_iff.mp hkept
          exact Option.isSome_iff_exists.mpr ⟨p, hp⟩

theorem handleReadinessSet_walk {clientId : String} {session : ServerSession} (hs : Seats s)
    (hsession : s.sessions[clientId]? = some session) (intent : Option ReadinessIntentRequest) :
    Succeeds (Walk Move.edits) s (handleReadinessSet clientId intent) := by
  refine succeeds_get_bind ?_
  split
  · exact applyReadinessIntent_walk hs hsession _
  · exact succeeds_pure _ _

/-! ### Technical reports -/

theorem applyTechnicalReadinessReport_walk {clientId : String} {session : ServerSession}
    (hs : Seats s) (hsession : s.sessions[clientId]? = some session)
    (report : TechnicalReadinessReport) :
    Succeeds (Walk Move.edits) s (applyTechnicalReadinessReport clientId report) := by
  refine succeeds_get_bind ?_
  rw [hsession]
  dsimp only
  split
  · next generation hcurrent hgeneration =>
    have hseat : (s.readinessParticipant session.room session.username).isSome = true := by
      unfold ServerRuntime.technicalReadinessReportIsCurrent at hcurrent
      rw [hsession] at hcurrent
      simp only [Bool.and_eq_true] at hcurrent
      obtain ⟨⟨-, hheld⟩, -⟩ := hcurrent
      cases hp : s.readinessParticipant session.room session.username with
      | none => rw [hp] at hheld; cases hheld
      | some p => rfl
    have hreport : Moves .report s ((s.storeTechnicalReport session report generation
        ).projectReady session.room session.username) := .report report hgeneration hseat
    have hflag : ((s.storeTechnicalReport session report generation).rosterFlag session.room
        session.username).isSome = true := by
      obtain ⟨p, hp⟩ := Option.isSome_iff_exists.mp hseat
      exact hs.flag (p := p) hp
    refine walk_arrive (k := ?k) (by trivial) hreport ?run ?rest
    case run =>
      rw [modify_bind_run, get_bind_run, bind_of_ok (setRosterReady_run hflag _)]
      exact rfl
    case rest =>
      refine walk_quiet_modify_bind (hreport.seats hs)
        (ServerRuntime.quiet_applyReportedOwner _ _ report) fun ht => ?_
      refine walk_quiet_modify_bind ht (ServerRuntime.quiet_refreshReadinessGatePhase _ _)
        fun ht => succeeds_get_bind ?_
      exact walk_quiet_bind ht (maybeCommitReadinessGate_quiet _ _) fun _ u _ _ =>
        succeeds_pure u _
  · exact succeeds_pure _ _

theorem handleReadinessState_walk {clientId : String} {session : ServerSession} (hs : Seats s)
    (hsession : s.sessions[clientId]? = some session)
    (technical : Option TechnicalReadinessReport) :
    Succeeds (Walk Move.edits) s (handleReadinessState clientId technical) := by
  refine succeeds_get_bind ?_
  split
  · split
    · exact applyTechnicalReadinessReport_walk hs hsession _
    · exact succeeds_pure _ _
  · exact succeeds_pure _ _

/-! ### Ready messages -/

/-- Bridging a plain Ready succeeds, and hands it back only for a target
    without a seat. -/
theorem applySyncplayReady_run {clientId : String} {session : ServerSession} (hs : Seats s)
    (hsession : s.sessions[clientId]? = some session) (target : String)
    (desired manuallyInitiated : Bool) :
    ∃ bridged t, applySyncplayReadyToReadinessV2 clientId target desired manuallyInitiated s =
        (.ok bridged, t) ∧ Walk Move.edits s t
      ∧ (bridged = none → t = s ∧ s.readinessParticipant session.room target = none) := by
  unfold applySyncplayReadyToReadinessV2
  rw [get_bind_run]
  by_cases henabled : s.readinessEnabled = true
  · rw [if_neg (by simp [henabled]), hsession]
    dsimp only
    cases hrecord : s.readinessRecord session.room target with
    | none =>
      refine ⟨none, s, rfl, .refl, fun _ => ⟨rfl, ?_⟩⟩
      exact Option.map_eq_none_iff.mp hrecord
    | some record =>
      rw [if_neg (by simp)]
      split
      · exact ⟨some [], s, rfl, .refl, fun hnone => by cases hnone⟩
      · obtain ⟨p, hp, -⟩ := Option.map_eq_some_iff.mp hrecord
        have hseat : (s.readinessParticipant session.room target).isSome = true := by
          rw [hp]
          rfl
        generalize (if target = session.username then
          if manuallyInitiated = true then
            ReadinessMutationSource.directUser .remoteControlSurface else .initialization
          else .controllerOverride session.username) = source
        generalize (if desired = true then UserReadinessIntent.ready else .notReady) = intent
        have hintend := @Moves.intend s session.room target intent
          source session.username hseat
        have hflag : ((s.mutateReadinessIntent session.room target intent source
            session.username none).rosterFlag session.room target).isSome = true := hs.flag hp
        have ht := hintend.seats hs
        rw [modify_bind_run, get_bind_run, bind_of_ok (setRosterReady_run hflag _),
          modify_bind_run, get_bind_run]
        obtain ⟨out, t, hrun, hquiet⟩ := maybeCommitReadinessGate_quiet
          (((s.mutateReadinessIntent session.room target intent source session.username none
            ).projectReady session.room target).refreshReadinessGatePhase session.room) session.room
        have hrefreshed := ServerRuntime.quiet_refreshReadinessGatePhase
          ((s.mutateReadinessIntent session.room target intent source session.username none
            ).projectReady session.room target) session.room
        exact ⟨some _, t, (bind_of_ok hrun).trans rfl,
          (Walk.move (by trivial) hintend).trans
            (Walk.quiet (hrefreshed.trans hquiet)),
          fun hnone => by cases hnone⟩
  · refine ⟨none, s, ?_, .refl, fun _ => ⟨rfl, ?_⟩⟩
    · rw [if_pos (by simpa using henabled)]
      rfl
    · cases hp : s.readinessParticipant session.room target with
      | none => rfl
      | some p =>
        obtain ⟨k, hk, -⟩ := Option.bind_eq_some_iff.mp hp
        exact absurd (hs.enabled session.room k hk) henabled

/-- The roster only takes a flag for a user who is on it. -/
theorem flag_of_setReady {roster roster' : BTreeMap String (BTreeMap String (Option Bool))}
    {username room : String} {ready : Bool}
    (h : Roster.setReady roster username room ready = .ok roster') :
    (flagIn roster room username).isSome = true := by
  unfold Roster.setReady at h
  unfold flagIn
  cases hroom : roster[room]? with
  | none => rw [hroom] at h; cases h
  | some users =>
    rw [hroom] at h
    dsimp only at h
    rw [Option.bind_some]
    split at h
    · next hmem => exact Std.ExtTreeMap.mem_iff_isSome_getElem?.mp hmem
    · cases h

theorem setReady_walk {clientId : String} {session : ServerSession} (hs : Seats s)
    (hsession : s.sessions[clientId]? = some session) (isReady manuallyInitiated : Bool)
    (username : Option String) :
    Succeeds (Walk Move.edits) s (setReady clientId session isReady manuallyInitiated username) := by
  unfold setReady
  extract_lets requested
  obtain ⟨bridged, t, hrun, hwalk, hunbridged⟩ :=
    applySyncplayReady_run hs hsession requested isReady manuallyInitiated
  cases bridged with
  | some outbound => exact ⟨outbound, t, by rw [bind_of_ok hrun]; rfl, hwalk⟩
  | none =>
    obtain ⟨rfl, hseat⟩ := hunbridged rfl
    -- nobody's record is behind this flag
    have hflagged : ∀ roster, Roster.setReady t.roomRoster requested session.room isReady =
        .ok roster → Moves .flag t { t with roomRoster := roster } := by
      intro roster hset
      have hflag : (t.rosterFlag session.room requested).isSome = true := flag_of_setReady hset
      cases (Roster.setReady_of_flag hflag isReady).symm.trans hset
      exact .flag isReady hflag hseat
    refine walk_travel .refl (bind_of_ok hrun) ?_
    refine succeeds_get_bind ?_
    extract_lets published ready
    split
    · split
      · next roster _ hset =>
        exact walk_modify_bind hs (by trivial) (hflagged roster hset)
          fun _ => succeeds_pure _ _
      · exact succeeds_pure _ _
    · next hself =>
      have hname : session.username = requested := (not_not.mp hself).symm
      have hflag : (t.rosterFlag session.room session.username).isSome = true :=
        (hs.rostered _ _).mpr ⟨clientId, session, hsession, rfl, rfl⟩
      have hset := Roster.setReady_of_flag hflag isReady
      refine ⟨_, _, (bind_of_ok (setRosterReady_run hflag isReady)).trans rfl, ?_⟩
      exact .move (by trivial) (hflagged _ (hname ▸ hset))

end Sorotte.Server
