import Sorotte.Membership.Tracking

/-! # Moves keep the invariants

  Every move preserves `Seats`.  Most moves are edits of the seats there are; the
  others add a seat, take one away or change a session.
-/

namespace Sorotte.Server

open Sorotte.Framework Sorotte.Framework.Prog

variable {stale : String → String → Prop} {excused : String → Prop} {s s' : ServerRuntime}

/-! ### Generations -/

/-- Replacing a generation: seats restart and the roster owes the room's
    projections. -/
theorem replaceGeneration_spec (s : ServerRuntime) (room : String) (generation : Option Nat)
    (ownsStartPause : Bool) :
    SeatsKept s (s.replaceReadinessGeneration room generation ownsStartPause)
      ∧ (Members stale excused s →
        Members (fun a b => stale a b ∨ (a = room ∧ True)) excused
          (s.replaceReadinessGeneration room generation ownsStartPause)) := by
  unfold ServerRuntime.replaceReadinessGeneration
  extract_lets cleared
  have hcleared : Quiet s cleared := s.quiet_clearPendingUserTransportInRoom room
  split
  · refine ⟨hcleared.same.seatsKept, fun hs => (hs.quiet hcleared).weaken ?_⟩
    exact fun _ _ _ _ hstale => .inl hstale
  · have hedits := editsCoordinator_updateReadiness cleared room fun k =>
      ServerRuntime.replacedGeneration k generation ownsStartPause
    have hf : ∀ k, cleared.roomReadiness[room]? = some k → EditsSeats (fun _ => True) k
        (ServerRuntime.replacedGeneration k generation ownsStartPause) :=
      fun k _ => editsSeats_replaced k generation ownsStartPause
    have hrefreshed := (cleared.updateReadiness room fun k =>
      ServerRuntime.replacedGeneration k generation ownsStartPause
      ).quiet_refreshReadinessGatePhase room
    exact ⟨(hcleared.same.seatsKept.trans (hedits.seatsKept hf)).trans hrefreshed.same.seatsKept,
      fun hs => (hedits.members hf (hs.quiet hcleared)).quiet hrefreshed⟩

/-! ### Intents and reports -/

/-- An edit of one seat whose projection is written back at once. -/
theorem editSeat_project {room username : String}
    {f : RoomReadinessCoordinator → RoomReadinessCoordinator}
    (hf : ∀ k, s.roomReadiness[room]? = some k → EditsSeats (· = username) k (f k))
    (hseat : (s.readinessParticipant room username).isSome = true) :
    SeatsKept s ((s.updateReadiness room f).projectReady room username)
      ∧ (Members stale excused s →
        Members stale excused ((s.updateReadiness room f).projectReady room username)) := by
  have hedits := editsCoordinator_updateReadiness s room f
  refine ⟨(hedits.seatsKept hf).trans (onlyRoster_project _ _ _).seatsKept,
    fun hs => ?_⟩
  obtain ⟨p, hp⟩ := Option.isSome_iff_exists.mp hseat
  have hedited := hedits.members hf hs
  refine (hedited.project ?_).weaken fun a b _ _ hstale => ?_
  · rw [hedited.rostered, hedits.sessions, ← hs.rostered]
    exact hs.flag hp
  · rcases hstale.1 with hstale' | hab
    · exact hstale'
    · exact absurd hab hstale.2

/-- Recording an operation keeps the record. -/
theorem editsSeats_operation (session : ServerSession) (request : ReadinessIntentRequest)
    (acceptedRevision acceptedUserIntentRevision : Nat) (k : RoomReadinessCoordinator) :
    EditsSeats (fun _ => False) k
      { k with
        participants := k.participants.modify session.username fun participant =>
          { participant with
            initializationOpen := false
            acceptedOperations := trimReadinessOperations <|
              participant.acceptedOperations.insert request.operationId
                { membershipEpoch := request.membershipEpoch
                  desired := request.desired
                  source := request.source
                  targetUsername := request.targetUsername
                  acceptedRevision
                  acceptedUserIntentRevision } } } :=
  editsSeats_modify session.username _ rfl rfl fun _ =>
    ⟨rfl, fun hderived => ⟨hderived, fun _ => rfl⟩⟩

theorem acceptSeat_spec {session : ServerSession} {request : ReadinessIntentRequest}
    (source : ReadinessMutationSource)
    (hseat : (s.readinessParticipant session.room
      (request.targetUsername.getD session.username)).isSome = true) :
    SeatsKept s (s.acceptSeat session request source)
      ∧ (Members stale excused s →
        Members stale excused (s.acceptSeat session request source)) := by
  unfold ServerRuntime.acceptSeat
  extract_lets target mutated
  have hmutates : EditsCoordinator session.room _ s mutated :=
    editsCoordinator_updateReadiness s session.room _
  have hmutated : ∀ k, s.roomReadiness[session.room]? = some k → EditsSeats (· = target) k _ :=
    fun k _ => editsSeats_mutated k target request.desired source session.username
      (some request.operationId)
  generalize (mutated.roomReadiness[session.room]?.map (·.revision)).getD 0 = revision
  generalize ((mutated.readinessRecord session.room target).map
    (·.userIntentRevision)).getD 0 = intentRevision
  set recorded := mutated.recordAcceptedOperation session request revision intentRevision
  have hrecords : EditsCoordinator session.room _ mutated recorded :=
    editsCoordinator_updateReadiness mutated session.room _
  have hrecorded : ∀ k, mutated.roomReadiness[session.room]? = some k →
      EditsSeats (fun _ => False) k _ :=
    fun k _ => editsSeats_operation session request revision intentRevision k
  refine ⟨((hmutates.seatsKept hmutated).trans (hrecords.seatsKept hrecorded)).trans
    (onlyRoster_project _ _ _).seatsKept, fun hs => ?_⟩
  obtain ⟨p, hp⟩ := Option.isSome_iff_exists.mp hseat
  have hedited := hrecords.seats hrecorded (hmutates.members hmutated hs)
  refine (hedited.project ?_).weaken fun a b _ _ hstale => ?_
  · rw [hedited.rostered, hrecords.sessions, hmutates.sessions, ← hs.rostered]
    exact hs.flag hp
  · rcases hstale.1 with hstale' | hab
    · exact hstale'
    · exact absurd hab hstale.2

/-! ### Rooms -/

theorem sameMembers_discard (s : ServerRuntime) (room : String) :
    SameMembers s ((s.removeRoomRuntimeState room).deletePersistedRoomIfNeeded room) := by
  have hremoved : SameMembers s (s.removeRoomRuntimeState room) :=
    (s.quiet_clearReadinessGate room).same.trans
      (.of_fields rfl rfl rfl rfl rfl)
  refine hremoved.trans ?_
  unfold ServerRuntime.deletePersistedRoomIfNeeded
  split
  · exact .refl _
  · split
    · exact .refl _
    · exact .of_fields rfl rfl rfl rfl rfl

theorem dissolve_spec (s : ServerRuntime) (room : String) :
    SeatsKept s (s.discardEmptyCoordinator room)
      ∧ (Members stale excused s → Members stale excused (s.discardEmptyCoordinator room)) := by
  unfold ServerRuntime.discardEmptyCoordinator
  split
  · set dissolved : ServerRuntime := { s with
      roomReadiness := s.roomReadiness.erase room
      history := .coordinatorRemoved room :: s.history }
    have hbefore : ∀ (a : String) k', dissolved.roomReadiness[a]? = some k' →
        s.roomReadiness[a]? = some k' := by
      intro a k' hk'
      have herased : (s.roomReadiness.erase room)[a]? = some k' := hk'
      rw [Std.ExtTreeMap.getElem?_erase] at herased
      split at herased
      · cases herased
      · exact herased
    have hseats : ∀ a b p', dissolved.readinessParticipant a b = some p' →
        s.readinessParticipant a b = some p' := by
      intro a b p' hp'
      obtain ⟨k', hk', hp⟩ := Option.bind_eq_some_iff.mp hp'
      exact Option.bind_eq_some_iff.mpr ⟨k', hbefore a k' hk', hp⟩
    have hedit : SeatsKept s dissolved :=
      ⟨rfl, rfl, fun a k' hk' => ⟨k', hbefore a k' hk'⟩,
        fun a b p' hp' => ⟨p', hseats a b p' hp', rfl⟩⟩
    refine ⟨hedit, fun hs => hs.edit hedit rfl (fun a b p p' hp hp' => ?_)
      fun a b p p' hp hp' hstale => ⟨?_, hstale⟩⟩
    · obtain ⟨k', hk', -⟩ := Option.bind_eq_some_iff.mp hp'
      have hgeneration : dissolved.readinessMediaGeneration a = s.readinessMediaGeneration a := by
        unfold ServerRuntime.readinessMediaGeneration
        rw [hk', hbefore a k' hk']
      rw [hgeneration]
      exact hs.derived a b p' (hseats a b p' hp')
    · have hp'' := hseats a b p' hp'
      rw [hp] at hp''
      cases hp''
      rfl
  · exact ⟨.refl s, id⟩

/-! ### The moves that edit seats -/

/-- Moves that give nobody a seat, take none away by name and change no
    session. -/
def Move.edits : Move → Prop
  | .quiet | .prune | .reconcile | .regenerate | .dissolve | .spend | .intend | .accept _ _
  | .report | .discard _ | .flag => True
  | _ => False

theorem Moves.edit {move : Move} (h : Moves move s s') (hedits : move.edits) :
    SeatsKept s s' ∧ (Members stale excused s → Members stale excused s') := by
  cases h with
  | quiet h => exact ⟨h.same.seatsKept, fun hs => hs.quiet h⟩
  | prune =>
    have htokens := prune_onlyTokens s
    exact ⟨htokens.seatsKept, fun hs => hs.tokens htokens⟩
  | reconcile room => exact ⟨seatsKept_reconcile s room, fun hs => hs.reconcile room⟩
  | @regenerate _ t room generation ownsStartPause hquiet =>
    obtain ⟨hedit, hmembers⟩ :=
      @replaceGeneration_spec stale excused s room generation ownsStartPause
    refine ⟨(hedit.trans hquiet.same.seatsKept).trans (onlyRoster_projectAll _ _ _).seatsKept,
      fun hs => ?_⟩
    exact ((hmembers hs).quiet hquiet).settle
  | dissolve room => exact dissolve_spec s room
  | spend room username nonce =>
    have hspends := editsCoordinator_updateReadiness s room fun k =>
      { k with participants := k.participants.modify username fun participant =>
        { participant with highestRequestNonce := nonce } }
    have hf : ∀ k, s.roomReadiness[room]? = some k → EditsSeats (fun _ => False) k
        { k with participants := k.participants.modify username fun participant =>
          { participant with highestRequestNonce := nonce } } := fun k _ =>
      editsSeats_modify username _ rfl rfl fun _ =>
        ⟨rfl, fun hderived => ⟨hderived, fun _ => rfl⟩⟩
    exact ⟨hspends.seatsKept hf, fun hs => hspends.seats hf hs⟩
  | @intend _ room username desired source actor hseat =>
    exact editSeat_project (fun k _ => editsSeats_mutated k username desired source actor none)
      hseat
  | accept source hsession hseat => exact acceptSeat_spec source hseat
  | @report _ session report generation hgeneration hseat =>
    refine editSeat_project (fun k hk => editsSeats_reported session.username report ?_) hseat
    unfold ServerRuntime.readinessMediaGeneration at hgeneration
    rw [hk] at hgeneration
    exact hgeneration
  | @discard _ room hempty =>
    have hsame := sameMembers_discard s room
    refine ⟨hsame.seatsKept, fun hs => hs.edit hsame.seatsKept hsame.roster
      (fun a b p p' hp hp' => ?_) fun a b p p' hp hp' hstale => ⟨?_, hstale⟩⟩
    · rw [hsame.generation]
      rw [hsame.participant] at hp'
      exact hs.derived a b p' hp'
    · rw [hsame.participant, hp] at hp'
      cases hp'
      rfl
  | @flag _ room username ready hflag hseat =>
    refine ⟨OnlyRoster.seatsKept ⟨rfl, rfl, rfl, rfl, rfl, rfl, rfl⟩, fun hs => ?_⟩
    have hflags : ∀ a b, ServerRuntime.rosterFlag { s with
        roomRoster := Roster.joinRoomWithReady s.roomRoster username room (some ready) } a b =
        if a = room ∧ b = username then some (some ready) else s.rosterFlag a b :=
      flagIn_joinRoomWithReady s.roomRoster username room _
    refine hs.resession (.of_eq rfl rfl)
      (fun a b p session _ hsession hroom hname hcapable =>
        ⟨session, hsession, hroom, hname, hcapable⟩) (fun a b p hp => ?_) hs.named fun a b => ?_
    · rw [hflags, if_neg]
      rintro ⟨rfl, rfl⟩
      rw [hseat] at hp
      cases hp
    · rw [hflags]
      by_cases hab : a = room ∧ b = username
      · obtain ⟨rfl, rfl⟩ := hab
        rw [if_pos ⟨rfl, rfl⟩]
        exact ⟨fun _ => (hs.rostered a b).mp hflag, fun _ => rfl⟩
      · rw [if_neg hab]
        exact hs.rostered a b
  | _ => exact hedits.elim

/-! ### All moves -/

theorem demote_members {t : ServerRuntime} {clientId : String} {session : ServerSession}
    {participant : ServerReadinessParticipant} {capabilities : ServerClientCapabilities}
    (hs : Seats s)
    (hquiet : Quiet (s.updateSession clientId fun session => { session with capabilities }) t)
    (hsession : t.sessions[clientId]? = some session) :
    Seats (t.detachSeat clientId session participant true) := by
  have hupdated := (hs.updateSession clientId
    (f := fun session => { session with capabilities }) fun _ => ⟨rfl, rfl⟩).quiet hquiet
  have hdetached := detachSeat_members hupdated clientId session participant true
  exact hdetached.unexcuse (.inl
    ((detachSeat_detached t clientId session participant true).unattached hupdated hsession))

/-- A session that keeps what its seat needs. -/
theorem publish_members {clientId : String} {f : ServerSession → ServerSession} (hs : Seats s)
    (hf : ∀ session, (f session).username = session.username
      ∧ (f session).room = session.room)
    (hcapable : (∀ session, s.sessions[clientId]? = some session →
        session.capabilities.readinessV2 = true → (f session).capabilities.readinessV2 = true)
      ∨ Unattached clientId s) : Seats (s.updateSession clientId f) := by
  refine (hs.updateSession clientId hf).unexcuse ?_
  rcases hcapable with hkept | hunattached
  · by_cases hunattached : Unattached clientId s
    · exact .inl hunattached
    · refine .inr fun session' hsession' => ?_
      rw [updateSession_lookup, if_pos rfl] at hsession'
      obtain ⟨session, hsession, rfl⟩ := Option.map_eq_some_iff.mp hsession'
      refine hkept session hsession ?_
      unfold Unattached at hunattached
      push Not at hunattached
      obtain ⟨a, b, p, hp, rfl⟩ := hunattached
      obtain ⟨session₀, hsession₀, -, -, hseat⟩ := hs.seated a b p hp
      cases hsession.symm.trans hsession₀
      exact hseat.resolve_right id
  · exact .inl hunattached

/-- **Moves keep seats coherent.** -/
theorem Moves.seats {move : Move} (h : Moves move s s') (hs : Seats s) : Seats s' := by
  by_cases hedits : move.edits
  · exact (h.edit hedits).2 hs
  · cases h with
    | attach presentedToken freshToken seed hsession henabled hcapable =>
      exact hs.attachSeat presentedToken freshToken seed hsession henabled hcapable
    | detach retain hsession hseat hclient => exact detachSeat_members hs _ _ _ _
    | demote capabilities hquiet hsession hseat hclient => exact demote_members hs hquiet hsession
    | enter now hnew hname => exact (joinSession_joined s _ _ now).members hs hnew hname.other
    | leave hsession hunattached =>
      exact (removeSessionTracking_forgotten hs hsession).members hs hsession hunattached
    | relocate now hsession hunattached hroom hleft =>
      exact (moveSession_moved hs hsession hleft now).members hs hsession hunattached hroom
    | publish f hf hcapable => exact publish_members hs hf hcapable
    | _ => exact absurd trivial hedits

end Sorotte.Server
