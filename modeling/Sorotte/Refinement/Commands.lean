import Sorotte.Refinement.Selections

/-! # Refinement: Set commands

  Each Set command makes the steps of its kind: a room command moves its sender,
  a password grants authority, playlist commands change playlists, and the rest
  describes a session, its readiness or its start.
-/

namespace Sorotte.Server

open Sorotte.Framework Sorotte.Framework.Prog Sorotte.Ideal ServerRuntime

variable {s t : ServerRuntime} {clientId freshToken : String} {session : ServerSession}
variable {allowed : Label → Prop}

/-! ### Files -/

theorem describe_steps (hsession : s.sessions[clientId]? = some session)
    (f : ServerSession → ServerSession) (hname : (f session).username = session.username)
    (hroom : (f session).room = session.room)
    (hlabel : allowed (.describe clientId session (f session))) :
    Relation.ReflTransGen (Steps allowed) s.ideal (s.updateSession clientId f).ideal := by
  apply one_step hlabel ⟨hsession, hname, hroom⟩
  have hsessions : (fun c => (s.sessions.modify clientId f)[c]?) =
      Function.update (fun c => s.sessions[c]?) clientId (some (f session)) := by
    rw [lookup_modify, hsession]
    rfl
  show State.mk (fun c => (s.sessions.modify clientId f)[c]?) _ _ _ _ _ _ _ _ _ _ _ _ _ _ _ _ _ = _
  rw [hsessions]
  rfl

def describeLabel (clientId : String) : Label → Prop
  | .describe c _ _ => c = clientId
  | _ => False

theorem setFile_refines (hsession : s.sessions[clientId]? = some session)
    (file : Option ServerSharedFile) :
    Refines (describeLabel clientId) s (setFile clientId session file) := by
  unfold setFile
  apply follows_modify_bind
  · exact describe_steps hsession (fun session => { session with file }) rfl rfl rfl
  · apply follows_get_bind
    split <;> exact follows_pure _ _

/-! ### Authority -/

theorem ideal_grantController (s : ServerRuntime) (clientId room password : String)
    (session : ServerSession) : (s.grantController clientId session.username room password).ideal =
      effect s.ideal (.grant clientId session room password) := by
  have hcontrollers : (s.addRoomController session.username room).ideal.controllers =
      Function.update s.ideal.controllers room
        (Function.update (s.ideal.controllers room) session.username true) := by
    rw [update_update]
    funext a username
    exact userIsRoomController_add s session.username room username a
  have hrest : (s.grantController clientId session.username room password).ideal =
      { (s.ensureRoomState room).ideal with
        controllers := (s.addRoomController session.username room).ideal.controllers
        history := .controllerAuthenticated clientId room password :: s.history } := rfl
  rw [hrest, hcontrollers, ideal_ensureRoomState]
  rfl

theorem setControllerAuth_refines (hsession : s.sessions[clientId]? = some session)
    (room : Option String) (password : String) :
    Refines (fun l => l = .grant clientId session (room.getD session.room) password) s
      (setControllerAuth clientId session room password) := by
  unfold setControllerAuth
  apply follows_get_bind
  dsimp only
  split
  · next hcheck =>
    apply follows_modify_bind
    · exact one_step rfl ⟨hsession, hcheck⟩ (ideal_grantController s clientId _ password session)
    · exact follows_pure _ _
  · exact follows_pure _ _
  · exact follows_pure _ _
  · exact follows_pure _ _

/-! ### Ready -/

theorem setReady_refines (hsession : s.sessions[clientId]? = some session)
    (isReady manuallyInitiated : Bool) (username : Option String) :
    Refines (reportedLabel session.room) s
      (setReady clientId session isReady manuallyInitiated username) := by
  unfold setReady
  dsimp only
  apply follows_bind (applySyncplayReadyToReadinessV2_refines s clientId session _ _ _ hsession)
  intro bridged t _
  split
  · exact follows_pure _ _
  · apply follows_get_bind
    split
    · split
      · next hready =>
        apply follows_quiet_bind
        · exact ideal_setRoster (setReady_enrolled hready)
        · exact follows_pure _ _
      · exact follows_pure _ _
    · apply follows_bind (Invisible.refines (setRosterReady_invisible t _ _ _))
      intro _ u _
      exact follows_pure _ _

/-! ### Features -/

/-- What a session's new features do. -/
def featuresLabel (clientId room : String) : Label → Prop
  | .hold _ _ _ | .resume _ _ | .relax _ => True
  | .describe c _ _ => c = clientId
  | .enroll r _ member _ => r = room ∧ member.clientId = clientId
  | .withdraw r _ | .release r | .dissolve r | .arm r _ | .reconcile r _ _ _ | .commit r _ _ =>
      r = room
  | _ => False

theorem attached_features (clientId room : String) (l : Label) (h : attachLabel clientId room l) :
    featuresLabel clientId room l := by
  cases l <;> first | exact h | exact h.elim

theorem attached_keepsSessions (clientId room : String) (l : Label)
    (h : attachLabel clientId room l) : ¬ l.movesSessions := by
  cases l <;> first | exact id | exact h.elim

theorem detached_features (clientId room : String) (l : Label) (h : detachLabel room l) :
    featuresLabel clientId room l := by
  cases l <;> first | exact h | exact h.elim

theorem cohort_features (clientId room : String) (l : Label) (h : cohortLabel room l) :
    featuresLabel clientId room l := by
  cases l <;> first | exact h | exact h.elim

theorem setFeatures_refines (hsession : s.sessions[clientId]? = some session)
    (capabilities : ServerClientCapabilities) (freshToken : String) :
    Refines (featuresLabel clientId session.room) s
      (setFeatures clientId session capabilities freshToken) := by
  unfold setFeatures
  split
  · exact follows_pure _ _
  · apply follows_get_bind
    extract_lets hadBarrier hasBarrier hadReadiness hasReadiness
    set described := { session with capabilities } with hdescribed
    have hdescribe : Relation.ReflTransGen (Steps (featuresLabel clientId session.room)) s.ideal
        (s.updateSession clientId fun session => { session with capabilities }).ideal :=
      describe_steps hsession (fun session => { session with capabilities }) rfl rfl rfl
    apply follows_modify_bind hdescribe
    have hput : (s.updateSession clientId fun session =>
        { session with capabilities }).sessions[clientId]? = some described := by
      show (s.sessions.modify clientId _)[clientId]? = _
      rw [Std.ExtTreeMap.getElem?_modify_self, hsession]
      rfl
    generalize (s.updateSession clientId fun session =>
      { session with capabilities }) = t at hput ⊢
    apply follows_get_bind
    extract_lets recipients announced
    -- the policy learns of the barrier capability, the coordinator of the readiness one
    have hpolicy : ∀ r l, policyLabel r l → featuresLabel clientId session.room l := by
      intro r l hl
      cases l <;> trivial
    have hkeeps : ∀ r l, policyLabel r l → ¬ l.movesSessions := by
      intro r l hl
      cases l <;> first | exact id | exact hl.elim
    have hgained : Refines (fun l => ∃ r, policyLabel r l) t
        (Prog.when (!hadBarrier && hasBarrier) (refreshRoomBufferingParticipant clientId)) :=
      follows_when fun _ => refreshRoomBufferingParticipant_refines t clientId
    apply follows_bind (hgained.weaken fun l ⟨r, hl⟩ => hpolicy r l hl)
    intro gained t₁ hrun₁
    have hput₁ := session_after (fun l ⟨r, hl⟩ => hkeeps r l hl) hgained hrun₁ hput
    have hlost : Refines (policyLabel session.room) t₁
        (Prog.when (hadBarrier && !hasBarrier)
          (markRoomBufferingParticipantDisconnected clientId session.room)) :=
      follows_when fun _ => markRoomBufferingParticipantDisconnected_refines t₁ clientId _
    apply follows_bind (hlost.weaken (hpolicy _))
    intro lost t₂ hrun₂
    have hput₂ := session_after (hkeeps _) hlost hrun₂ hput₁
    apply follows_get_bind
    have hattached : Refines (attachLabel clientId session.room) t₂
        (Prog.when (!hadReadiness && hasReadiness)
          (attachReadinessMembership clientId t₂.readinessReconnectIdentityByClient[clientId]?
            freshToken true true)) :=
      follows_when fun _ => attachReadinessMembership_refines t₂ clientId described _ _ _ _ hput₂
    apply follows_bind (hattached.weaken (attached_features clientId session.room))
    intro attached t₃ hrun₃
    have hput₃ := session_after (attached_keepsSessions clientId session.room) hattached hrun₃ hput₂
    have hdetached : Refines (detachLabel session.room) t₃
        (Prog.when (hadReadiness && !hasReadiness) (detachReadinessMembership clientId true)) :=
      follows_when fun _ => (detachReadinessMembership_spec t₃ clientId described true hput₃).1
    apply follows_bind (hdetached.weaken (detached_features clientId session.room))
    intro detached t₄ hrun₄
    apply follows_bind
    · apply follows_when
      intro _
      exact (refreshMixedReadinessCohort_refines t₄ session.room).weaken
        (cohort_features clientId session.room)
    · intro cohort t₅ _
      exact follows_pure _ _

/-! ### Set batches -/

/-- What one command of a Set batch does, sent from this session. -/
def commandLabel (s : ServerRuntime) (clientId : String) (session : ServerSession) :
    ServerSetCommand → Label → Prop
  | .playlistChange _, l => playlistLabel session.room l
  | .playlistIndex command, l => indexLabel session.room
      (s.acceptsPlaylistIndex session command = true ∧ s.selectsPlainly session command) l
  | .room _, l => presenceLabel False clientId l
  | .file _, l => describeLabel clientId l
  | .controllerAuth room password, l =>
      l = .grant clientId session (room.getD session.room) password
  | .ready _ _ _, l => reportedLabel session.room l
  | .features _, l => featuresLabel clientId session.room l
  | .playbackBarrier extension, l => requestLabel clientId session.room extension l
  | .readiness intent, l => ∃ request, intent = some request ∧
      s.acceptsReadinessIntent clientId request = true ∧
      intentLabel session.room session.username request l

theorem stays_of_playlist {room : String} (l : Label) (h : playlistLabel room l) : ¬ l.departs := by
  cases l <;> first | exact id | exact h.elim

theorem stays_of_index {room : String} {plain : Prop} (l : Label) (h : indexLabel room plain l) :
    ¬ l.departs := by
  cases l <;> first | exact id | exact h.elim

theorem stays_of_describe (l : Label) (h : describeLabel clientId l) : ¬ l.departs := by
  cases l <;> first | exact id | exact h.elim

theorem stays_of_reported {room : String} (l : Label) (h : reportedLabel room l) : ¬ l.departs := by
  cases l <;> first | exact id | exact h.elim

theorem stays_of_features {room : String} (l : Label) (h : featuresLabel clientId room l) :
    ¬ l.departs := by
  cases l <;> first | exact id | exact h.elim

theorem stays_of_intent {room actor : String} {request : ReadinessIntentRequest} (l : Label)
    (h : intentLabel room actor request l) : ¬ l.departs := by
  cases l <;> first | exact id | exact h.elim

theorem stays_of_request {room : String} {extension : PlaybackBarrierSetRequest} (l : Label)
    (h : requestLabel clientId room extension l) : ¬ l.departs := by
  rcases h with h | h | ⟨policy, hpolicy, h⟩ <;> cases l <;> first | exact id | exact h.elim

/-- A program with these labels, which returns with its output whether it took the next command. -/
theorem evolves_untaken {m : ServerM Outbound} (h : Evolves allowed s m) :
    Evolves allowed s (do let outbound ← m; pure (outbound, false)) :=
  follows_bind h fun _ _ _ => follows_pure _ _

theorem applySetCommand_evolves (hs : Seats s) (command : ServerSetCommand)
    (next : Option ServerSetCommand) :
    Evolves (fun l => ∃ session, s.sessions[clientId]? = some session ∧
        commandLabel s clientId session command l) s
      (applySetCommand clientId freshToken command next) := by
  unfold applySetCommand
  apply follows_get_bind
  split
  · exact follows_throw _ _
  · next session hsession =>
    have hsent : ∀ l, commandLabel s clientId session command l →
        ∃ session, s.sessions[clientId]? = some session ∧
          commandLabel s clientId session command l := fun l hl => ⟨session, hsession, hl⟩
    cases command with
    | playlistChange files =>
      exact (setPlaylistChange_refines hs session files next).evolves
        fun l hl => ⟨hsent l hl, stays_of_playlist l hl⟩
    | room name =>
      exact evolves_untaken ((setRoom_evolves hs hsession name freshToken).weaken hsent)
    | file file =>
      exact evolves_untaken ((setFile_refines hsession file).evolves
        fun l hl => ⟨hsent l hl, stays_of_describe l hl⟩)
    | controllerAuth room password =>
      apply evolves_untaken
      apply (setControllerAuth_refines hsession room password).evolves
      intro l hl
      apply And.intro (hsent l hl)
      rw [hl]
      exact id
    | ready isReady manuallyInitiated username =>
      exact evolves_untaken ((setReady_refines hsession isReady manuallyInitiated username).evolves
        fun l hl => ⟨hsent l hl, stays_of_reported l hl⟩)
    | playlistIndex command =>
      exact evolves_untaken ((setPlaylistIndex_refines hs session command).evolves
        fun l hl => ⟨hsent l hl, stays_of_index l hl⟩)
    | features capabilities =>
      exact evolves_untaken ((setFeatures_refines hsession capabilities freshToken).evolves
        fun l hl => ⟨hsent l hl, stays_of_features l hl⟩)
    | playbackBarrier extension =>
      exact evolves_untaken ((handlePlaybackBarrierSet_refines s clientId session extension
        hsession).evolves fun l hl => ⟨hsent l hl, stays_of_request l hl⟩)
    | readiness intent =>
      exact evolves_untaken ((handleReadinessSet_refines s clientId session intent
        hsession).evolves fun l hl => ⟨hsent l hl, by
          obtain ⟨request, -, -, hintent⟩ := hl
          exact stays_of_intent l hintent⟩)

end Sorotte.Server
