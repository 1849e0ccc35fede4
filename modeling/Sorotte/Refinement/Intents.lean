import Sorotte.Refinement.Cohort

/-! # Refinement: intents, staged transport and technical reports

  User intents and technical reports edit records; an accepted player action
  may also pause or play the room.  Each ends by asking whether the room's
  start can commit now.
-/

namespace Sorotte.Server

open Sorotte.Framework Sorotte.Framework.Prog Sorotte.Ideal

/-! ### Record edits -/

def recordsLabel (room : String) : Label → Prop
  | .records r _ _ => r = room
  | _ => False

theorem lookup_modify_ideal (participants : BTreeMap String ServerReadinessParticipant)
    (username other : String) (f : ServerReadinessParticipant → ServerReadinessParticipant) :
    (participants.modify username f)[other]? =
      if other = username then participants[username]?.map f else participants[other]? := by
  rw [congrFun (lookup_modify participants username f) other, Function.update_apply]

/-- An edit of one participant that keeps its client and recomputes its record. -/
theorem keepsMembers_modify {room room' : RoomReadinessCoordinator} (username : String)
    (f : ServerReadinessParticipant → ServerReadinessParticipant)
    (hgeneration : room'.mediaGeneration = room.mediaGeneration)
    (howner : room'.pauseOwner = room.pauseOwner)
    (hparticipants : room'.participants = room.participants.modify username f)
    (hf : ∀ p, (f p).clientId = p.clientId ∧
      ∃ record, (f p).record = recomputeParticipantReadiness record room.mediaGeneration) :
    KeepsMembers room.ideal room'.ideal := by
  refine keepsMembers_of_records hgeneration howner fun other => ?_
  simp only [RoomReadinessCoordinator.ideal, hparticipants, lookup_modify_ideal]
  split
  · next hother =>
    subst hother
    cases room.participants[other]? with
    | none => exact .inl rfl
    | some p =>
      obtain ⟨hclient, record, hrecord⟩ := hf p
      refine .inr ⟨p.ideal, record, rfl, ?_⟩
      simp only [Option.map_some, ServerReadinessParticipant.ideal, hclient, hrecord]
  · exact .inl rfl

namespace ServerRuntime

theorem updateReadiness_records (s : ServerRuntime) (room : String)
    (f : RoomReadinessCoordinator → RoomReadinessCoordinator)
    (h : ∀ coordinator, s.roomReadiness[room]? = some coordinator →
      KeepsMembers coordinator.ideal (f coordinator).ideal) :
    Relation.ReflTransGen (Steps (recordsLabel room)) s.ideal (s.updateReadiness room f).ideal := by
  cases hroom : s.roomReadiness[room]? with
  | none =>
    rw [ideal_updateReadiness_quiet s room f fun coordinator hc => by simp [hroom] at hc]
  | some coordinator =>
    have hgate : s.ideal.gate room = some coordinator.ideal := by simp [ideal, hroom]
    refine one_step (l := .records room coordinator.ideal (f coordinator).ideal) rfl
      ⟨hgate, h coordinator hroom⟩ ?_
    rw [ideal_updateReadiness, hroom]
    rfl

/-- Edits of what the ideal server does not see of a participant. -/
theorem ideal_updateParticipant (s : ServerRuntime) (room username : String)
    (f : ServerReadinessParticipant → ServerReadinessParticipant)
    (h : ∀ p, (f p).ideal = p.ideal) : (s.updateParticipant room username f).ideal = s.ideal := by
  refine ideal_updateReadiness_quiet s room _ fun coordinator _ => ?_
  simp only [RoomReadinessCoordinator.ideal, Gate.mk.injEq, true_and]
  funext other
  rw [lookup_modify_ideal]
  split
  · next hother =>
    subst hother
    rw [Option.map_map]
    congr 1
    funext p
    exact h p
  · rfl

theorem mutateReadinessIntent_steps (s : ServerRuntime) (room target : String)
    (desired : UserReadinessIntent) (source : ReadinessMutationSource) (actor : String)
    (operationId : Option String) :
    Relation.ReflTransGen (Steps (recordsLabel room)) s.ideal
      (s.mutateReadinessIntent room target desired source actor operationId).ideal :=
  s.updateReadiness_records room _ fun _ _ =>
    keepsMembers_modify target _ rfl rfl rfl fun _ => ⟨rfl, _, rfl⟩

@[simp] theorem ideal_recordAcceptedOperation (s : ServerRuntime) (session : ServerSession)
    (request : ReadinessIntentRequest) (acceptedRevision acceptedUserIntentRevision : Nat) :
    (s.recordAcceptedOperation session request acceptedRevision
      acceptedUserIntentRevision).ideal = s.ideal :=
  ideal_updateParticipant s session.room session.username _ fun _ => rfl

theorem storeTechnicalReport_steps (s : ServerRuntime) (session : ServerSession)
    (report : TechnicalReadinessReport) (generation : Nat)
    (hgeneration : s.readinessMediaGeneration session.room = some generation) :
    Relation.ReflTransGen (Steps (recordsLabel session.room)) s.ideal
      (s.storeTechnicalReport session report generation).ideal := by
  refine s.updateReadiness_records session.room _ fun coordinator hroom =>
    keepsMembers_modify session.username _ rfl rfl rfl fun p => ⟨rfl, ?_⟩
  rw [readinessMediaGeneration, hroom, Option.bind_some] at hgeneration
  rw [hgeneration]
  exact ⟨_, rfl⟩

end ServerRuntime

/-! ### Staged transport -/

/-- What a pause of `actor` does to a room that plays. -/
def pauseLabel (room actor : String) : Label → Prop
  | .place r _ _ | .settle r _ _ | .relax r => r = room
  | .pause r a _ => r = room ∧ a = actor
  | _ => False

/-- What an accepted player action of `actor` does to its room: it `desires` a pause or not. -/
def transportLabel (room actor : String) (desires : Bool → Prop) : Label → Prop
  | .play r _ => r = room ∧ desires false
  | .claim r a => r = room ∧ a = actor ∧ desires true
  | .disown r => r = room
  | l => pauseLabel room actor l

theorem transportLabel_of_pause {room actor : String} {desires : Bool → Prop} (l : Label)
    (h : pauseLabel room actor l) : transportLabel room actor desires l := by
  cases l <;> first | exact h | exact h.elim

theorem transportLabel_of_claim {room actor : String} {desires : Bool → Prop}
    (hpauses : desires true) (l : Label) (h : claimLabel room actor l) :
    transportLabel room actor desires l := by
  cases l <;> first | exact ⟨h.1, h.2, hpauses⟩ | exact h | exact h.elim

theorem transportLabel_of_settle {room actor : String} {desires : Bool → Prop} (l : Label)
    (h : settleLabel room l) : transportLabel room actor desires l := by
  cases l <;> first | exact h | exact h.elim

/-- A user pauses a playing room. -/
theorem pauseAndClaim_steps (t : State) (room actor : String) (position : Seconds)
    (h : t.paused room = false) :
    Relation.ReflTransGen (Steps (pauseLabel room actor)) t
      ((claimedState t room actor).setTransport room true position) := by
  have hinterrupted : Relation.ReflTransGen (Steps (pauseLabel room actor)) t
      (interruptedState t room) := by
    apply Relation.ReflTransGen.mono (Steps.mono _) _ _ (interruptedState_steps t room)
    intro l hl
    cases l <;> first | exact hl | exact hl.elim
  exact hinterrupted.trans (one_step (l := .pause room actor position) ⟨rfl, rfl⟩ h rfl)

/-- Owners and canonical playstates are written independently. -/
theorem setOwner_setTransport (t : State) (room : String) (owner : RoomPauseOwner) (paused : Bool)
    (position : Seconds) :
    (t.setOwner room owner).setTransport room paused position =
      (t.setTransport room paused position).setOwner room owner := rfl

theorem roomPlaybackStateAt_paused (s : ServerRuntime) (room : String) (now : Seconds) :
    (s.roomPlaybackStateAt room now).paused = (s.roomPlaybackState room).paused := rfl

/-- Ending a start never prepares one. -/
theorem not_preparing_of_settles {t t' : State} {room : String}
    (hsteps : Relation.ReflTransGen (Steps (settleLabel room)) t t') (h : ¬ t.preparing room) :
    ¬ t'.preparing room := by
  induction hsteps with
  | refl => exact h
  | tail _ hstep ih =>
    obtain ⟨l, hl, hguard, rfl⟩ := hstep
    cases l with
    | settle r b b' =>
      obtain rfl : r = room := hl
      rintro ⟨b₁, hb₁, hpreparing⟩
      rw [effect, State.setBarrier_self] at hb₁
      obtain rfl := Option.some.inj hb₁
      rcases hguard.2.phase with hphase | ⟨-, hphase⟩
      · rw [hphase] at hpreparing
        cases hpreparing
      · rw [hphase] at hpreparing
        cases hpreparing
    | _ => exact hl.elim

theorem applyStagedTransition_steps (s : ServerRuntime) (clientId room actor : String)
    (desiredPaused : Bool) (now : Seconds)
    (h : desiredPaused = false → ¬ s.ideal.preparing room) :
    Relation.ReflTransGen (Steps (transportLabel room actor (desiredPaused = ·))) s.ideal
      (s.applyStagedTransition clientId room actor desiredPaused now).ideal := by
  unfold ServerRuntime.applyStagedTransition ServerRuntime.ownStagedTransition
  dsimp only
  rw [roomPlaybackStateAt_paused]
  cases desiredPaused with
  | true =>
    simp only [if_true]
    by_cases hpaused : (s.roomPlaybackState room).paused = true
    · rw [if_pos hpaused, ideal_claimUserPauseOwnership]
      exact Relation.ReflTransGen.mono (Steps.mono (transportLabel_of_claim rfl)) _ _
        (claimedState_steps _ room actor hpaused)
    · rw [if_neg hpaused, ServerRuntime.ideal_establishRoomTransport,
        ideal_claimUserPauseOwnership]
      exact Relation.ReflTransGen.mono (Steps.mono transportLabel_of_pause) _ _
        (pauseAndClaim_steps _ room actor _ (Bool.eq_false_iff.mpr hpaused))
  | false =>
    simp only [Bool.false_eq_true, if_false]
    by_cases hpaused : (s.roomPlaybackState room).paused = false
    · rw [if_pos hpaused, ServerRuntime.ideal_setReadinessPauseOwner]
      exact one_step (l := .disown room) rfl hpaused rfl
    · rw [if_neg hpaused, ServerRuntime.ideal_establishRoomTransport,
        ServerRuntime.ideal_setReadinessPauseOwner, setOwner_setTransport]
      exact one_step (l := .play room _) ⟨rfl, rfl⟩ (h rfl) rfl

theorem applyStagedUserTransportTransition_refines (s : ServerRuntime)
    (clientId room actor : String) (desiredPaused : Bool)
    (h : desiredPaused = false → ¬ s.ideal.preparing room) :
    Refines (transportLabel room actor (desiredPaused = ·)) s
      (applyStagedUserTransportTransition clientId room actor desiredPaused) := by
  have hretire := retireAwaitingPlaybackBarrierDecision_refines s clientId room
  refine follows_bind (hretire.weaken transportLabel_of_settle) fun _ t hrun =>
    follows_get_bind ?_
  have ht : desiredPaused = false → ¬ t.ideal.preparing room := by
    intro hplay
    exact not_preparing_of_settles (steps_of_run hretire hrun) (h hplay)
  extract_lets now owned ownership
  refine follows_modify_bind (applyStagedTransition_steps t clientId room actor desiredPaused now ht)
    ?_
  split
  · exact follows_pure _ _
  · refine follows_get_bind (refines_bind (Invisible.refines (forcedStateFanout_invisible ..))
      fun _ _ => follows_pure _ _)

theorem settleLabel_keepsPaused (room : String) (l : Label) (h : settleLabel room l) :
    ¬ l.writesPaused := by
  cases l <;> first | exact id | exact h.elim

theorem ideal_storePendingUserTransport (s : ServerRuntime) (clientId room actor : String)
    (desiredPaused : Bool) (evidence : PendingUserTransportEvidence) :
    (s.storePendingUserTransport clientId room actor desiredPaused evidence).ideal = s.ideal := by
  unfold ServerRuntime.storePendingUserTransport
  split <;> rfl

theorem applyIndirectPlayerTransport_refines (s : ServerRuntime) (clientId : String)
    (session : ServerSession) (desiredPaused stagedObservationMatches : Bool) :
    Refines (transportLabel session.room session.username (desiredPaused = ·)) s
      (applyIndirectPlayerTransport clientId session desiredPaused stagedObservationMatches) := by
  refine follows_get_bind ?_
  extract_lets gateHoldsPlay
  have hpreparing : ¬ gateHoldsPlay → desiredPaused = false → ¬ s.ideal.preparing session.room := by
    rintro hfree rfl ⟨b, hb, hphase⟩
    refine hfree ⟨rfl, ?_⟩
    rw [ServerRuntime.barrierPhase, show s.roomPlaybackBarriers[session.room]? = some b from hb,
      Option.map_some, hphase]
  split
  · next hstaged =>
    exact applyStagedUserTransportTransition_refines s clientId session.room session.username
      desiredPaused (hpreparing hstaged.2)
  · split
    · next hpaused =>
      have hretire := retireAwaitingPlaybackBarrierDecision_refines s clientId session.room
      refine follows_bind (hretire.weaken transportLabel_of_settle) fun _ t hrun => ?_
      refine refines_bind (follows_when fun hdesired => ?_) fun _ _ => follows_pure _ _
      have ht : t.ideal.paused = s.ideal.paused :=
        frame_of_steps (fun l hl _ => effect_paused (settleLabel_keepsPaused session.room l hl))
          (steps_of_run hretire hrun)
      refine Refines.weaken (claimUserPauseOwnership_refines t session.room session.username ?_)
        (transportLabel_of_claim hdesired)
      refine (congrFun ht session.room).trans ?_
      exact hpaused.trans hdesired
    · split
      · exact follows_quiet_bind (ideal_storePendingUserTransport ..) (follows_pure _ _)
      · exact follows_pure _ _

/-! ### Intents -/

/-- What an accepted intent of `actor` does to its room: it plays for a player's Play, and a Ready
    hands the pause back to a preparing start. -/
def intentLabel (room actor : String) (request : ReadinessIntentRequest) : Label → Prop
  | .records r _ _ | .commit r _ _ => r = room
  | .rearm r _ => r = room ∧ request.desired = .ready
  | l => transportLabel room actor (indirectPlayerDesiredPaused request.source = some ·) l

theorem intentLabel_keepsGate {room actor : String} {request : ReadinessIntentRequest} (l : Label)
    (h : intentLabel room actor request l) : l ≠ .dissolve room := by
  rintro rfl
  exact h

theorem rearmStartGate_steps (s : ServerRuntime) (room actor : String)
    {request : ReadinessIntentRequest} (hready : request.desired = .ready) :
    Relation.ReflTransGen (Steps (intentLabel room actor request)) s.ideal
      (s.rearmStartGate room).ideal := by
  unfold ServerRuntime.rearmStartGate
  split
  · next b hb =>
    split
    · next hphase =>
      exact one_step (l := .rearm room b) ⟨rfl, hready⟩ ⟨hb, hphase⟩ (s.ideal_setReadinessPauseOwner room _)
    · exact .refl
  · exact .refl

/-- The end of every record edit: the gate phase follows, and the start commits
    if nothing else holds it. -/
theorem refreshAndCommit_refines {allowed : Label → Prop} {β : Type} (s : ServerRuntime)
    (room : String) (hcommit : ∀ l, commitLabel room l → allowed l)
    (hgate : (s.ideal.gate room).isSome = true) (k : ServerRuntime → Outbound → β) :
    Refines allowed s (do
      Prog.modify (·.refreshReadinessGatePhase room)
      let s ← Prog.get
      let committed ← maybeCommitReadinessGate room
      pure (k s committed)) := by
  have hquiet := s.ideal_refreshReadinessGatePhase room
  refine follows_quiet_bind hquiet (follows_get_bind ?_)
  rw [← hquiet] at hgate
  obtain ⟨coordinator, hroom⟩ := coordinator_of_gate hgate
  exact refines_bind ((maybeCommitReadinessGate_refines _ room coordinator hroom).weaken hcommit)
    fun _ _ => follows_pure _ _

theorem acceptReadinessIntent_refines (s : ServerRuntime) (clientId : String)
    (session : ServerSession) (request : ReadinessIntentRequest)
    (hgate : (s.ideal.gate session.room).isSome = true) :
    Refines (intentLabel session.room session.username request) s
      (acceptReadinessIntent clientId session request) := by
  have hkeeps : ∀ l, intentLabel session.room session.username request l →
      l ≠ .dissolve session.room := fun l hl => intentLabel_keepsGate l hl
  have hrecords : ∀ l, recordsLabel session.room l →
      intentLabel session.room session.username request l := fun l hl => by
    cases l <;> first | exact hl | exact hl.elim
  refine follows_get_bind ?_
  extract_lets roomName target targetIsSelf mayControl staged source
  refine follows_quiet_bind rfl ?_
  set cleared := s.clearPendingUserTransport clientId
  have hmutate := Relation.ReflTransGen.mono (Steps.mono hrecords) _ _
    (cleared.mutateReadinessIntent_steps session.room target request.desired source
      session.username (some request.operationId))
  refine follows_modify_bind hmutate (follows_get_bind ?_)
  have hmutated := gate_of_steps hkeeps hmutate hgate
  set mutated := cleared.mutateReadinessIntent session.room target request.desired source
    session.username (some request.operationId)
  extract_lets acceptedRevision record roomReady
  have hrecorded := mutated.ideal_recordAcceptedOperation session request acceptedRevision
    ((record.map (·.userIntentRevision)).getD 0)
  refine follows_quiet_bind hrecorded ?_
  refine refines_invisible_bind (setRosterReady_invisible ..) fun _ u hu => follows_get_bind ?_
  rw [← hrecorded, ← hu] at hmutated
  extract_lets gateIsPreparing
  have htransport : Refines (intentLabel session.room session.username request) u
      (Prog.onSome (fun desiredPaused => Prog.when mayControl
        (applyIndirectPlayerTransport clientId session desiredPaused staged))
        (indirectPlayerDesiredPaused request.source)) := by
    refine follows_onSome fun desiredPaused hdesired => follows_when fun _ => ?_
    refine (applyIndirectPlayerTransport_refines u clientId session desiredPaused staged).weaken
      fun l hl => ?_
    cases l with
    | play r position => exact ⟨hl.1, hdesired.trans (congrArg some hl.2)⟩
    | claim r actor => exact ⟨hl.1, hl.2.1, hdesired.trans (congrArg some hl.2.2)⟩
    | _ => first | exact hl | exact hl.elim
  refine follows_bind htransport fun transport v hrun => ?_
  have hv := gate_of_steps hkeeps (steps_of_run htransport hrun) hmutated
  set rearmed := if request.desired = .ready ∧ gateIsPreparing then v.rearmStartGate roomName else v
    with hrearmed
  have hrearm : Relation.ReflTransGen (Steps (intentLabel session.room session.username request))
      v.ideal rearmed.ideal := by
    rw [hrearmed]
    split
    · next hready => exact rearmStartGate_steps v session.room session.username hready.1
    · exact .refl
  refine follows_modify_bind hrearm ?_
  exact refreshAndCommit_refines rearmed session.room
    (fun l hl => by cases l <;> first | exact hl | exact hl.elim)
    (gate_of_steps hkeeps hrearm hv) _

theorem rejectReadinessIntent_invisible (s : ServerRuntime) (clientId : String)
    (session : ServerSession) (request : ReadinessIntentRequest)
    (status : ReadinessRequestResultStatus) :
    Invisible s (rejectReadinessIntent clientId session request status) := by
  refine follows_quiet_bind ?_ (follows_get_bind (follows_pure _ _))
  split <;> rfl

/-- The intent passes every check of the code. -/
def ServerRuntime.acceptsReadinessIntent (s : ServerRuntime) (clientId : String)
    (request : ReadinessIntentRequest) : Bool :=
  s.sessions[clientId]?.any fun session =>
    s.readinessEnabled && session.capabilities.readinessV2
      && (s.intentDisposition session request).isNone
      && (s.readinessRecord session.room (request.targetUsername.getD session.username)).any
        fun record => request.expectedUserIntentRevision.all (· == record.userIntentRevision)

theorem gate_of_record (s : ServerRuntime) (room username : String)
    (h : (s.readinessRecord room username).isSome = true) :
    (s.ideal.gate room).isSome = true := by
  show (s.roomReadiness[room]?.map _).isSome = true
  cases hroom : s.roomReadiness[room]? with
  | some coordinator => rfl
  | none => simp [ServerRuntime.readinessRecord, ServerRuntime.readinessParticipant, hroom] at h

/-- Only an accepted intent is visible. -/
theorem applyReadinessIntent_refines (s : ServerRuntime) (clientId : String)
    (session : ServerSession) (request : ReadinessIntentRequest)
    (hsession : s.sessions[clientId]? = some session) :
    Refines (fun l => s.acceptsReadinessIntent clientId request = true ∧
        intentLabel session.room session.username request l) s
      (applyReadinessIntent clientId request) := by
  refine follows_get_bind ?_
  rw [hsession]
  dsimp only
  split
  · exact follows_quiet_bind rfl (follows_pure _ _)
  · next hmember =>
    split
    · exact Invisible.refines (rejectReadinessIntent_invisible ..)
    · next hdisposition =>
      generalize htarget : request.targetUsername.getD session.username = target
      refine follows_quiet_bind (s.ideal_updateParticipant session.room session.username _
        fun _ => rfl) ?_
      set charged := s.updateParticipant session.room session.username fun participant =>
        { participant with highestRequestNonce := request.requestNonce }
      have hideal : charged.ideal = s.ideal :=
        s.ideal_updateParticipant session.room session.username _ fun _ => rfl
      split
      · exact Invisible.refines (rejectReadinessIntent_invisible ..)
      · next targetRevision hrevision =>
        obtain ⟨record, hrecord, rfl⟩ := Option.map_eq_some_iff.mp hrevision
        split
        · exact Invisible.refines (rejectReadinessIntent_invisible ..)
        · next hexpected =>
          have haccepts : s.acceptsReadinessIntent clientId request = true := by
            have hexpected' : request.expectedUserIntentRevision.all
                (· == record.userIntentRevision) = true := by
              cases h : request.expectedUserIntentRevision with
              | none => rfl
              | some revision => simpa [h] using hexpected
            rw [ServerRuntime.acceptsReadinessIntent, hsession, Option.any_some, htarget, hrecord,
              Option.any_some, hexpected', hdisposition]
            simpa using hmember
          have hgate : (charged.ideal.gate session.room).isSome = true := by
            rw [hideal]
            exact gate_of_record s session.room target (by rw [hrecord]; rfl)
          exact (acceptReadinessIntent_refines charged clientId session request hgate).weaken
            fun l hl => ⟨haccepts, hl⟩

/-! ### Technical reports -/

/-- What a technical report or a plain Ready message does to its room. -/
def reportedLabel (room : String) : Label → Prop
  | .records r _ _ | .automatic r _ | .disown r | .commit r _ _ => r = room
  | _ => False

theorem reportedLabel_keepsGate (room : String) (l : Label) (h : reportedLabel room l) :
    l ≠ .dissolve room := by
  rintro rfl
  exact h

theorem applyReportedOwner_steps (s : ServerRuntime) (room : String)
    (report : TechnicalReadinessReport) :
    Relation.ReflTransGen (Steps (reportedLabel room)) s.ideal
      (s.applyReportedOwner room report).ideal := by
  unfold ServerRuntime.applyReportedOwner
  split
  · next owner howner =>
    rw [ServerRuntime.ideal_setReadinessPauseOwner]
    unfold ServerRuntime.ownerAfterReport at howner
    dsimp only at howner
    split at howner
    · next hpaused =>
      obtain ⟨-, hcurrent⟩ := Option.filter_eq_some_iff.mp howner
      refine one_step (l := .automatic room owner) rfl ⟨hpaused, fun g hg => ?_⟩ rfl
      obtain ⟨coordinator, hroom, rfl⟩ := Option.map_eq_some_iff.mp
        (show s.roomReadiness[room]?.map RoomReadinessCoordinator.ideal = some g from hg)
      simpa [hroom, RoomReadinessCoordinator.ideal] using hcurrent
    · next hplaying =>
      split at howner
      · obtain rfl := Option.some.inj howner
        exact one_step (l := .disown room) rfl (Bool.eq_false_iff.mpr hplaying) rfl
      · cases howner
  · exact .refl

theorem applyTechnicalReadinessReport_refines (s : ServerRuntime) (clientId : String)
    (session : ServerSession) (report : TechnicalReadinessReport)
    (hsession : s.sessions[clientId]? = some session) :
    Refines (reportedLabel session.room) s (applyTechnicalReadinessReport clientId report) := by
  have hkeeps := reportedLabel_keepsGate session.room
  have hrecords : ∀ l, recordsLabel session.room l → reportedLabel session.room l :=
    fun l hl => by cases l <;> first | exact hl | exact hl.elim
  refine follows_get_bind ?_
  rw [hsession]
  dsimp only
  split
  · next generation hcurrent hgeneration =>
    have hgate : (s.ideal.gate session.room).isSome = true := by
      show (s.roomReadiness[session.room]?.map _).isSome = true
      cases hroom : s.roomReadiness[session.room]? with
      | some coordinator => rfl
      | none => simp [ServerRuntime.readinessMediaGeneration, hroom] at hgeneration
    have hstore := Relation.ReflTransGen.mono (Steps.mono hrecords) _ _
      (s.storeTechnicalReport_steps session report generation hgeneration)
    refine follows_modify_bind hstore (follows_get_bind ?_)
    have hstored := gate_of_steps hkeeps hstore hgate
    refine refines_invisible_bind (setRosterReady_invisible ..) fun _ u hu => ?_
    rw [← hu] at hstored
    have howner := applyReportedOwner_steps u session.room report
    refine follows_modify_bind howner ?_
    exact refreshAndCommit_refines _ session.room
      (fun l hl => by cases l <;> first | exact hl | exact hl.elim)
      (gate_of_steps hkeeps howner hstored) _
  · exact follows_pure _ _

/-! ### Plain Ready messages -/

theorem applySyncplayReadyToReadinessV2_refines (s : ServerRuntime) (clientId : String)
    (session : ServerSession) (target : String) (desired manuallyInitiated : Bool)
    (hsession : s.sessions[clientId]? = some session) :
    Refines (reportedLabel session.room) s
      (applySyncplayReadyToReadinessV2 clientId target desired manuallyInitiated) := by
  have hrecords : ∀ l, recordsLabel session.room l → reportedLabel session.room l :=
    fun l hl => by cases l <;> first | exact hl | exact hl.elim
  refine follows_get_bind ?_
  split
  · exact follows_pure _ _
  · rw [hsession]
    dsimp only
    split
    · exact follows_pure _ _
    · next hrecord =>
      split
      · exact follows_pure _ _
      · have hgate := gate_of_record s session.room target
          (by simpa [Option.isSome_iff_ne_none] using hrecord)
        generalize (if target = session.username then _ else _ : ReadinessMutationSource) = source
        have hmutate := Relation.ReflTransGen.mono (Steps.mono hrecords) _ _
          (s.mutateReadinessIntent_steps session.room target
            (if desired = true then .ready else .notReady) source session.username none)
        refine follows_modify_bind hmutate (follows_get_bind ?_)
        have hmutated := gate_of_steps (reportedLabel_keepsGate session.room) hmutate hgate
        refine refines_invisible_bind (setRosterReady_invisible ..) fun _ u hu => ?_
        rw [← hu] at hmutated
        exact refreshAndCommit_refines u session.room
          (fun l hl => by cases l <;> first | exact hl | exact hl.elim) hmutated _

/-! ### Entry points -/

theorem handleReadinessSet_refines (s : ServerRuntime) (clientId : String)
    (session : ServerSession) (intent : Option ReadinessIntentRequest)
    (hsession : s.sessions[clientId]? = some session) :
    Refines (fun l => ∃ request, intent = some request ∧
        s.acceptsReadinessIntent clientId request = true ∧
        intentLabel session.room session.username request l) s
      (handleReadinessSet clientId intent) := by
  refine follows_get_bind ?_
  split
  · next request _ =>
    exact (applyReadinessIntent_refines s clientId session request hsession).weaken
      fun l hl => ⟨request, rfl, hl⟩
  · exact follows_pure _ _

theorem handleReadinessState_refines (s : ServerRuntime) (clientId : String)
    (session : ServerSession) (technical : Option TechnicalReadinessReport)
    (hsession : s.sessions[clientId]? = some session) :
    Refines (reportedLabel session.room) s (handleReadinessState clientId technical) := by
  refine follows_get_bind ?_
  split
  · next report =>
    split
    · exact applyTechnicalReadinessReport_refines s clientId session report hsession
    · exact follows_pure _ _
  · exact follows_pure _ _

end Sorotte.Server
