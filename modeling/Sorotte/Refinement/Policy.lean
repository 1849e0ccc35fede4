import Sorotte.Refinement.Gate

/-! # Refinement: the buffering policy

  An evaluation of the policy holds a playing room, resumes a room whose pause
  it still owns, or forgets a pause it no longer owns.
-/

namespace Sorotte.Server

open Sorotte.Framework Sorotte.Framework.Prog Sorotte.Ideal

/-- The changes a buffering policy makes in its room. -/
def policyLabel (room : String) : Label → Prop
  | .hold r _ _ | .resume r _ | .relax r => r = room
  | _ => False

/-! ### The state machine -/

/-- One evaluation moves the pause flag exactly with the transition it asks for. -/
theorem roomBufferingStep_ideal (control : RoomBufferingControl) (conditionActive : Bool)
    (elapsed : Seconds) :
    (roomBufferingStep control conditionActive elapsed).1.ideal =
      match (roomBufferingStep control conditionActive elapsed).2 with
      | none => control.ideal
      | some .resume => control.ideal.withPause false
      | some .pause => control.ideal.withPause true := by
  unfold roomBufferingStep
  grind [RoomBufferingControl.ideal, Policy.withPause]

/-- Only a policy that paused the room asks to resume it. -/
theorem roomBufferingStep_resume (control : RoomBufferingControl) (conditionActive : Bool)
    (elapsed : Seconds) (h : (roomBufferingStep control conditionActive elapsed).2 = some .resume) :
    control.pausedByPolicy = true := by
  unfold roomBufferingStep at h
  grind

/-- A policy that did not pause the room asks to pause it or for nothing. -/
theorem roomBufferingStep_pause (control : RoomBufferingControl) (conditionActive : Bool)
    (elapsed : Seconds) (h : (roomBufferingStep control conditionActive elapsed).2 = some .pause) :
    control.pausedByPolicy = false := by
  unfold roomBufferingStep at h
  grind

namespace ServerRuntime

/-- The control record an evaluation stores, by the transition it asks for. -/
theorem evaluatedControl_ideal (s : ServerRuntime) (room : String)
    (control : RoomBufferingControl) :
    (s.evaluatedControl room control).1.ideal =
      match (s.evaluatedControl room control).2 with
      | none => control.ideal
      | some .resume => control.ideal.withPause false
      | some .pause => control.ideal.withPause true := by
  unfold evaluatedControl
  extract_lets elapsed fresh stepped
  have hfresh : fresh.ideal = control.ideal := rfl
  have hideal := roomBufferingStep_ideal fresh (s.roomBufferingCondition room fresh) elapsed
  split
  · next hpause =>
    have hunpaused := roomBufferingStep_pause _ _ _ hpause.1
    have hconfig : stepped.1.ideal = control.ideal.withPause true := by
      rw [hideal, show (roomBufferingStep fresh _ elapsed).2 = some .pause from hpause.1]
      rfl
    show Policy.withPause stepped.1.ideal false = control.ideal
    rw [hconfig]
    show control.ideal.withPause false = control.ideal
    simp only [Policy.withPause, RoomBufferingControl.ideal]
    rw [show control.pausedByPolicy = false from hunpaused]
  · rw [hfresh] at hideal
    exact hideal

theorem evaluatedControl_resume (s : ServerRuntime) (room : String)
    (control : RoomBufferingControl)
    (h : (s.evaluatedControl room control).2 = some .resume) : control.pausedByPolicy = true := by
  unfold evaluatedControl at h
  extract_lets elapsed fresh stepped at h
  split at h
  · cases h
  · exact roomBufferingStep_resume fresh _ elapsed h

/-- The policy asks for a pause only in a room that plays. -/
theorem evaluatedControl_pause (s : ServerRuntime) (room : String)
    (control : RoomBufferingControl)
    (h : (s.evaluatedControl room control).2 = some .pause) :
    (s.roomPlaybackState room).paused = false := by
  unfold evaluatedControl at h
  extract_lets elapsed fresh stepped at h
  split at h
  · cases h
  · next hnot =>
    by_contra hpaused
    exact hnot ⟨h, by simpa using hpaused⟩

/-! ### Transitions -/

theorem setPolicy_policy (t : State) (room : String) : t.setPolicy room (t.policy room) = t := by
  rw [State.setPolicy, Function.update_eq_self]

/-- A transition that applies writes the playstate and the owner. -/
theorem ideal_applyRoomBufferingTransition (s : ServerRuntime) (room : String)
    (transition : RoomBufferingTransition) (setBy : String) (now : Seconds)
    (owner : RoomPauseOwner)
    (howner : s.roomBufferingTransitionOwner room transition = some owner)
    (happlies : s.roomBufferingTransitionApplies room transition = true) :
    (s.applyRoomBufferingTransition room transition setBy now).ideal =
      (s.ideal.setTransport room (transition == .pause)
        (s.roomPlaybackStateAt room now).position).setOwner room owner := by
  unfold applyRoomBufferingTransition
  rw [if_pos happlies]
  dsimp only
  rw [howner]
  dsimp only
  rw [ideal_setReadinessPauseOwner, ideal_establishRoomTransport]

theorem applyRoomBufferingTransition_of_not_applies (s : ServerRuntime) (room : String)
    (transition : RoomBufferingTransition) (setBy : String) (now : Seconds)
    (h : ¬ s.roomBufferingTransitionApplies room transition = true) :
    s.applyRoomBufferingTransition room transition setBy now = s := by
  unfold applyRoomBufferingTransition
  rw [if_neg h]

/-- A resume that applies finds the pause in the policy's hands. -/
theorem gate_of_resume_applies (s : ServerRuntime) (room : String)
    (control : RoomBufferingControl) (hcontrol : s.roomBufferingControls[room]? = some control)
    (h : s.roomBufferingTransitionApplies room .resume = true) (g : Gate)
    (hg : s.ideal.gate room = some g) :
    ∃ generation revision, g.pauseOwner = .roomBufferingPolicy generation revision := by
  have howned : s.readinessPauseOwnedByBufferingPolicy room control.config.mediaGeneration
      control.config.stateRevision = true := by
    simp [roomBufferingTransitionApplies, hcontrol] at h
    exact h.1
  have hg' : s.roomReadiness[room]?.map RoomReadinessCoordinator.ideal = some g := hg
  obtain ⟨coordinator, hroom, rfl⟩ := Option.map_eq_some_iff.mp hg'
  refine ⟨control.config.mediaGeneration, control.config.stateRevision, ?_⟩
  show coordinator.pauseOwner = _
  simpa [readinessPauseOwnedByBufferingPolicy, hroom] using howned

/-- The policy stores `control'` and gives up its pause. -/
theorem resume_steps (s : ServerRuntime) (room setBy : String) (now : Seconds)
    (control control' : RoomBufferingControl)
    (hcontrol : s.roomBufferingControls[room]? = some control)
    (hpaused : control.pausedByPolicy = true)
    (hcontrol' : control'.ideal = control.ideal.withPause false) :
    Relation.ReflTransGen (Steps (policyLabel room)) s.ideal
      ((s.installControl room control').applyRoomBufferingTransition room .resume setBy
        now).ideal := by
  have hpolicy : s.ideal.policy room = some control.ideal := by simp [ideal, hcontrol]
  have hrelax : (s.installControl room control').ideal = s.ideal.relax room := by
    rw [ideal_installControl, State.relax, hpolicy, hcontrol']
    rfl
  have hinstalled : (s.installControl room control').roomBufferingControls[room]? =
      some control' := by
    simp [installControl]
  by_cases h : (s.installControl room control').roomBufferingTransitionApplies room .resume = true
  · rw [ideal_applyRoomBufferingTransition _ _ _ _ _ .none
      (by simp [roomBufferingTransitionOwner, hinstalled]) h, hrelax]
    refine one_step (l := .resume room _) rfl ⟨⟨_, hpolicy, hpaused⟩, fun g hg => ?_⟩ rfl
    exact gate_of_resume_applies _ room control' hinstalled h g hg
  · rw [applyRoomBufferingTransition_of_not_applies _ _ _ _ _ h, hrelax]
    exact one_step (l := .relax room) rfl trivial rfl

/-- One evaluation of the room's policy. -/
theorem evaluateRoomBuffering_steps (s : ServerRuntime) (room : String) (now : Seconds) :
    Relation.ReflTransGen (Steps (policyLabel room)) s.ideal
      (s.evaluateRoomBuffering room now).ideal := by
  unfold evaluateRoomBuffering
  cases hcontrol : s.roomBufferingControls[room]? with
  | none => exact .refl
  | some control =>
    have hpolicy : s.ideal.policy room = some control.ideal := by simp [ideal, hcontrol]
    have hideal := s.evaluatedControl_ideal room control
    dsimp only
    cases htransition : (s.evaluatedControl room control).2 with
    | none =>
      rw [htransition] at hideal
      rw [ideal_installControl, hideal]
      show Relation.ReflTransGen _ _ (s.ideal.setPolicy room (some control.ideal))
      rw [← hpolicy, setPolicy_policy]
    | some transition =>
      rw [htransition] at hideal
      cases transition with
      | resume =>
        exact resume_steps s room _ now control _ hcontrol
          (s.evaluatedControl_resume room control htransition) hideal
      | pause =>
        have hplaying := s.evaluatedControl_pause room control htransition
        have hinstalled : (s.installControl room
            (s.evaluatedControl room control).1).roomBufferingControls[room]? =
            some (s.evaluatedControl room control).1 := by
          simp [installControl]
        have happlies : (s.installControl room
            (s.evaluatedControl room control).1).roomBufferingTransitionApplies room .pause =
            true := by
          have hplaying' : ((s.installControl room
              (s.evaluatedControl room control).1).roomPlaybackState room).paused = false :=
            hplaying
          simp [roomBufferingTransitionApplies, hplaying']
        rw [ideal_applyRoomBufferingTransition _ _ _ _ _ _
          (by rw [roomBufferingTransitionOwner, hinstalled]; rfl) happlies,
          ideal_installControl, hideal]
        refine one_step (l := .hold room
          ((s.installControl room (s.evaluatedControl room control).1).roomPlaybackStateAt room
            now).position
          (.roomBufferingPolicy (s.evaluatedControl room control).1.config.mediaGeneration
            (s.evaluatedControl room control).1.config.stateRevision))
          rfl ⟨hplaying, _, hpolicy⟩ ?_
        rw [effect, hpolicy]
        rfl

/-- The policy of an owner that went away is retired. -/
theorem retireOwnerlessPolicy_steps (s : ServerRuntime) (room clientId : String) (now : Seconds) :
    Relation.ReflTransGen (Steps (policyLabel room)) s.ideal
      (s.retireOwnerlessPolicy room clientId now).ideal := by
  unfold retireOwnerlessPolicy
  cases hcontrol : s.roomBufferingControls[room]? with
  | none => exact .refl
  | some control =>
    have hpolicy : s.ideal.policy room = some control.ideal := by simp [ideal, hcontrol]
    dsimp only
    split
    · next hpaused =>
      exact resume_steps s room _ now control _ hcontrol hpaused rfl
    · rw [ideal_installControl]
      refine one_step (l := .relax room) rfl trivial ?_
      show _ = s.ideal.setPolicy room _
      rw [hpolicy]
      rfl

end ServerRuntime

/-! ### Programs -/

theorem publishRoomBufferingTransition_invisible (s before after : ServerRuntime)
    (room : String) (transition : RoomBufferingTransition) (setBy : String) (now : Seconds) :
    Invisible s (publishRoomBufferingTransition before after room transition setBy now) := by
  unfold publishRoomBufferingTransition
  split
  · exact refines_bind (forcedStateFanout_invisible ..) fun _ _ => follows_pure _ _
  · exact follows_pure _ _

theorem evaluateRoomBufferingAt_refines (s : ServerRuntime) (room : String) (now : Seconds)
    (alwaysPublishStatus : Bool) :
    Refines (policyLabel room) s (evaluateRoomBufferingAt room now alwaysPublishStatus) := by
  refine follows_get_bind ?_
  split
  · exact follows_pure _ _
  · refine follows_modify_bind (s.evaluateRoomBuffering_steps room now) ?_
    extract_lets rest
    have hrest : ∀ out t, Refines (policyLabel room) t (rest out) := by
      intro out t
      refine follows_get_bind ?_
      dsimp only
      split <;> exact follows_pure _ _
    split
    · exact hrest _ _
    · exact refines_bind (Invisible.refines (publishRoomBufferingTransition_invisible ..)) hrest

theorem recordRoomBufferingReport_refines (s : ServerRuntime) (clientId : String)
    (session : ServerSession) (h : s.sessions[clientId]? = some session)
    (report : TransportBufferingReportPayload) :
    Refines (policyLabel session.room) s (recordRoomBufferingReport clientId report) := by
  refine follows_get_bind ?_
  simp only [h]
  split
  · exact follows_pure _ _
  · split
    · exact follows_pure _ _
    · refine follows_quiet_bind ?_ (evaluateRoomBufferingAt_refines ..)
      exact ServerRuntime.ideal_updateControl_quiet _ _ _ fun _ _ => rfl

theorem refreshRoomBufferingParticipant_refines (s : ServerRuntime) (clientId : String) :
    Refines (fun l => ∃ room, policyLabel room l) s (refreshRoomBufferingParticipant clientId) := by
  refine follows_get_bind ?_
  split
  · exact follows_pure _ _
  · next session _ =>
    split
    · exact follows_pure _ _
    · refine refines_bind ?_ fun _ _ => follows_get_bind (follows_pure _ _)
      exact (evaluateRoomBufferingAt_refines s session.room _ _).weaken fun l hl => ⟨_, hl⟩

theorem markRoomBufferingParticipantDisconnected_refines (s : ServerRuntime)
    (clientId room : String) :
    Refines (policyLabel room) s (markRoomBufferingParticipantDisconnected clientId room) := by
  refine follows_get_bind ?_
  split
  · exact follows_pure _ _
  · split
    · exact follows_pure _ _
    · split
      · refine follows_modify_bind (s.retireOwnerlessPolicy_steps room clientId _) ?_
        extract_lets rest
        have hrest : ∀ out t, Refines (policyLabel room) t (rest out) :=
          fun out t => follows_get_bind (follows_pure _ _)
        split
        · exact refines_bind (Invisible.refines (publishRoomBufferingTransition_invisible ..)) hrest
        · exact hrest _ _
      · refine follows_quiet_bind ?_ (evaluateRoomBufferingAt_refines ..)
        exact ServerRuntime.ideal_updateControl_quiet _ _ _ fun _ _ => rfl

end Sorotte.Server
