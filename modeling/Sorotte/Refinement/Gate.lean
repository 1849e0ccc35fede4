import Sorotte.Refinement.Mapping

/-! # Refinement: the coordinator and its messages

  What the ideal server sees of the updates in `Sorotte.Server.ReadinessGate`:
  gate phases, revisions and published messages are invisible, owners and
  generations are not.
-/

namespace Sorotte.Server

open Sorotte.Framework Sorotte.Framework.Prog Sorotte.Ideal

/-- Seen from the ideal server, the program makes steps whose labels `allowed`
    accepts. -/
abbrev Refines {α : Type} (allowed : Label → Prop) (s : ServerRuntime) (m : ServerM α) : Prop :=
  Follows ServerRuntime.ideal (Steps allowed) s m

/-- The program is invisible to the ideal server. -/
abbrev Invisible {α : Type} (s : ServerRuntime) (m : ServerM α) : Prop :=
  Refines (fun _ => False) s m

section rules

variable {α β : Type} {allowed allowed' : Label → Prop} {s s' : ServerRuntime} {m : ServerM α}
  {k : α → ServerM β}

theorem Refines.weaken (h : Refines allowed s m) (hl : ∀ l, allowed l → allowed' l) :
    Refines allowed' s m :=
  h.mono (Steps.mono hl)

theorem Invisible.refines (h : Invisible s m) : Refines allowed s m :=
  Refines.weaken h fun _ hl => hl.elim

theorem Invisible.ideal_eq (h : Invisible s m) : (after m s).ideal = s.ideal :=
  Follows.preserves (I := fun t => t = s.ideal) h (fun _ _ hs => by
    obtain ⟨_, hl, _⟩ := hs
    exact hl.elim) rfl

/-- A bind whose first half is invisible. -/
theorem refines_invisible_bind (hm : Invisible s m)
    (hk : ∀ a s', s'.ideal = s.ideal → Refines allowed s' (k a)) : Refines allowed s (m >>= k) := by
  refine follows_bind (Invisible.refines hm) fun a s' hrun => hk a s' ?_
  have h := Invisible.ideal_eq hm
  rwa [after, hrun] at h

/-- A bind when the rest does not care where the first half ended. -/
theorem refines_bind (hm : Refines allowed s m) (hk : ∀ a s', Refines allowed s' (k a)) :
    Refines allowed s (m >>= k) :=
  follows_bind hm fun a s' _ => hk a s'

/-- The steps behind a run. -/
theorem steps_of_run {a : Except ServerRuntimeError α} (h : Refines allowed s m)
    (hrun : m s = (a, s')) : Relation.ReflTransGen (Steps allowed) s.ideal s'.ideal := by
  unfold Refines Follows after at h
  rwa [hrun] at h

theorem one_step {l : Label} {t t' : State} (hl : allowed l) (hguard : guard t l)
    (heffect : t' = effect t l) : Relation.ReflTransGen (Steps allowed) t t' :=
  .single ⟨l, hl, hguard, heffect⟩

end rules

namespace ServerRuntime

/-! ### Pause owners -/

theorem setGate_gate (t : State) (room : String) : t.setGate room (t.gate room) = t := by
  rw [State.setGate, Function.update_eq_self]

theorem ideal_setReadinessPauseOwner (s : ServerRuntime) (room : String) (owner : RoomPauseOwner) :
    (s.setReadinessPauseOwner room owner).ideal = s.ideal.setOwner room owner := by
  unfold setReadinessPauseOwner
  split
  · rw [ideal_advanceTransportAuthorityRevision, ideal_updateReadiness, Option.map_map]
    show s.ideal.setGate room _ = s.ideal.setGate room (Option.map _ (Option.map _ _))
    rw [Option.map_map]
    rfl
  · next hsame =>
    have hgate : (s.ideal.gate room).map (·.withOwner owner) = s.ideal.gate room := by
      show Option.map _ (Option.map _ _) = _
      rw [Option.map_map]
      cases hroom : s.roomReadiness[room]? with
      | none => simp [ideal, hroom]
      | some coordinator =>
        have howner : coordinator.pauseOwner = owner := by
          simpa [readinessPauseOwnerDiffers, hroom] using hsame
        simp [ideal, hroom, RoomReadinessCoordinator.ideal, Gate.withOwner, howner]
    show s.ideal = s.ideal.setGate room _
    rw [hgate, setGate_gate]

/-! ### The gate phase -/

@[simp] theorem ideal_refreshReadinessGatePhase (s : ServerRuntime) (room : String) :
    (s.refreshReadinessGatePhase room).ideal = s.ideal := by
  refine ideal_updateReadiness_quiet s room _ fun coordinator _ => ?_
  cases h : coordinator.mediaGeneration <;> simp [RoomReadinessCoordinator.ideal, h]

@[simp] theorem ideal_markReadinessGateDegraded (s : ServerRuntime) (room : String)
    (reason : StartGateDegradedReason) :
    (s.markReadinessGateDegraded room reason).ideal = s.ideal := by
  refine ideal_updateReadiness_quiet s room _ fun coordinator _ => ?_
  cases h : coordinator.mediaGeneration <;> simp [RoomReadinessCoordinator.ideal, h]

theorem ideal_markReadinessGateCommitted (s : ServerRuntime) (room : String)
    (generation readinessRevision playbackRevision : Nat) :
    (s.markReadinessGateCommitted room generation readinessRevision playbackRevision).ideal =
      s.ideal.setOwner room .none := by
  rw [markReadinessGateCommitted, ideal_updateReadiness]
  show s.ideal.setGate room _ = s.ideal.setGate room (Option.map _ (Option.map _ _))
  rw [Option.map_map, Option.map_map]
  rfl

/-- Clearing a gate releases the pause of its start and nothing else. -/
theorem clearReadinessGate_steps (s : ServerRuntime) (room : String) :
    Relation.ReflTransGen (Steps fun l => l = .release room) s.ideal
      (s.clearReadinessGate room).ideal := by
  cases hroom : s.roomReadiness[room]? with
  | none =>
    rw [show (s.clearReadinessGate room).ideal = s.ideal from
      ideal_updateReadiness_quiet s room _ fun coordinator h => by simp [hroom] at h]
  | some coordinator =>
    by_cases hgate : coordinator.startGatePhase ≠ .inactive ∧
        ∃ generation, coordinator.pauseOwner = .readinessStartGate generation
    · obtain ⟨hactive, generation, howner⟩ := hgate
      refine one_step (l := .release room) rfl (fun g hg => ?_) ?_
      · have hgeq : coordinator.ideal = g := by simpa [ideal, hroom] using hg
        rw [← hgeq]
        show coordinator.pauseOwner.isUser = false
        rw [howner]
        rfl
      · rw [clearReadinessGate, ideal_updateReadiness, hroom]
        simp [hactive, howner, effect, State.setOwner, State.setGate, ideal, hroom, Gate.withOwner,
          RoomReadinessCoordinator.ideal]
    · rw [show (s.clearReadinessGate room).ideal = s.ideal from
        ideal_updateReadiness_quiet s room _ fun c hc => by
          obtain rfl : coordinator = c := by simpa [hroom] using hc
          by_cases hactive : coordinator.startGatePhase = .inactive
          · simp [hactive]
          · simp only [hactive, if_false, RoomReadinessCoordinator.ideal]
            cases howner : coordinator.pauseOwner with
            | readinessStartGate generation => exact (hgate ⟨hactive, generation, howner⟩).elim
            | _ => rfl]

/-! ### Generations -/

theorem ideal_replacedGeneration (room : RoomReadinessCoordinator) (generation : Option Nat)
    (owns : Bool) :
    (replacedGeneration room generation owns).ideal =
      (room.ideal.replaceGeneration generation).withOwner
        (replacedGeneration room generation owns).pauseOwner := by
  simp only [replacedGeneration, RoomReadinessCoordinator.ideal, Gate.replaceGeneration,
    Gate.withOwner]
  congr 1
  funext username
  rw [Std.ExtTreeMap.getElem?_map, Option.map_map, Option.map_map]
  rfl

theorem ideal_replaceReadinessGeneration (s : ServerRuntime) (room : String)
    (generation : Option Nat) (owns : Bool) (h : s.readinessEnabled = true) :
    (s.replaceReadinessGeneration room generation owns).ideal =
      s.ideal.setGate room ((s.roomReadiness[room]?.map fun coordinator =>
        replacedGeneration coordinator generation owns).map RoomReadinessCoordinator.ideal) := by
  simp only [replaceReadinessGeneration]
  rw [if_neg (by simp [clearPendingUserTransportInRoom, h]), ideal_refreshReadinessGatePhase,
    ideal_updateReadiness]
  rfl

theorem ideal_replaceReadinessGeneration_disabled (s : ServerRuntime) (room : String)
    (generation : Option Nat) (owns : Bool) (h : s.readinessEnabled = false) :
    (s.replaceReadinessGeneration room generation owns).ideal = s.ideal := by
  simp only [replaceReadinessGeneration]
  rw [if_pos (by simpa [clearPendingUserTransportInRoom] using h)]
  rfl

/-- A new start takes the coordinator along. -/
theorem ideal_replaceReadinessGeneration_owning (s : ServerRuntime) (room : String)
    (generation : Nat) :
    (s.replaceReadinessGeneration room (some generation) true).ideal =
      s.ideal.beginGeneration room generation := by
  by_cases h : s.ideal.readinessEnabled = true
  · rw [ideal_replaceReadinessGeneration s room _ _ h, State.beginGeneration, if_pos h]
    show s.ideal.setGate room _ = s.ideal.setGate room (Option.map _ (Option.map _ _))
    rw [Option.map_map, Option.map_map]
    congr 2
    funext coordinator
    simp only [Function.comp_apply]
    rw [ideal_replacedGeneration]
    congr 1
    by_cases huser : coordinator.pauseOwner.isUser <;>
      simp [replacedGeneration, RoomReadinessCoordinator.ideal, huser]
  · rw [State.beginGeneration, if_neg h]
    exact ideal_replaceReadinessGeneration_disabled s room _ _ (Bool.eq_false_iff.mpr h)

/-- A policy or a selection moves the generation but not the owner. -/
theorem ideal_replaceReadinessGeneration_free (s : ServerRuntime) (room : String)
    (generation : Option Nat) (h : s.readinessEnabled = true) :
    (s.replaceReadinessGeneration room generation false).ideal =
      s.ideal.setGate room ((s.ideal.gate room).map fun g => g.replaceGeneration generation) := by
  rw [ideal_replaceReadinessGeneration s room _ _ h]
  show s.ideal.setGate room _ = s.ideal.setGate room (Option.map _ (Option.map _ _))
  rw [Option.map_map, Option.map_map]
  congr 2
  funext coordinator
  simp only [Function.comp_apply]
  rw [ideal_replacedGeneration]
  cases generation <;> rfl

end ServerRuntime

/-! ### Roster -/

theorem setReady_enrolled {roster roster' : BTreeMap String (BTreeMap String (Option Bool))}
    {username room : String} {ready : Bool}
    (h : Roster.setReady roster username room ready = .ok roster') (a b : String) :
    roster'[a]?.any (·.contains b) = roster[a]?.any (·.contains b) := by
  unfold Roster.setReady at h
  cases hroom : roster[room]? with
  | none => simp [hroom] at h
  | some users =>
    simp only [hroom] at h
    split at h
    · next hmem =>
      obtain rfl : roster.insert room (users.insert username (some ready)) = roster' := by
        simpa using h
      rw [Std.ExtTreeMap.getElem?_insert]
      by_cases ha : room = a
      · subst ha
        by_cases hb : username = b
        · subst hb
          simpa [hroom] using hmem
        · simp [hroom, hb, Std.ExtTreeMap.contains_insert]
      · simp [ha]
    · cases h

theorem ideal_setRoster {s : ServerRuntime}
    {roster : BTreeMap String (BTreeMap String (Option Bool))}
    (h : ∀ a b : String, roster[a]?.any (·.contains b) = s.roomRoster[a]?.any (·.contains b)) :
    { s with roomRoster := roster }.ideal = s.ideal := by
  have henrolled : (fun a b : String => roster[a]?.any (·.contains b)) =
      fun a b : String => s.roomRoster[a]?.any (·.contains b) := by
    funext a b
    exact h a b
  simp only [ServerRuntime.ideal]
  rw [henrolled]
  rfl

theorem setRosterReady_invisible (s : ServerRuntime) (username room : String) (ready : Bool) :
    Invisible s (setRosterReady username room ready) := by
  refine follows_get_bind ?_
  split
  · next roster h => exact follows_quiet (ideal_setRoster (setReady_enrolled h))
  · exact follows_throw _ _

/-! ### Messages -/

theorem forcedStateSyncMessageForClient_invisible (s : ServerRuntime) (clientId : String)
    (position : Seconds) (paused : Bool) (doSeek : Option Bool) (setBy : Option String) :
    Invisible s (forcedStateSyncMessageForClient clientId position paused doSeek setBy) :=
  follows_get_bind (follows_quiet_bind rfl (follows_pure _ _))

theorem forcedStateFanout_invisible (s : ServerRuntime) (clients : List String)
    (position : Seconds) (paused : Bool) (doSeek : Option Bool) (setBy : Option String) :
    Invisible s (forcedStateFanout clients position paused doSeek setBy) := by
  refine follows_collect _ _ fun clientId _ t => ?_
  exact refines_bind (forcedStateSyncMessageForClient_invisible ..) fun _ _ => follows_pure _ _

theorem periodicStateSyncMessageForClientAt_invisible (s : ServerRuntime) (clientId : String)
    (position : Seconds) (paused : Bool) (setBy : Option String) (now : Seconds) :
    Invisible s (periodicStateSyncMessageForClientAt clientId position paused setBy now) := by
  refine follows_get_bind ?_
  split
  · exact follows_pure _ _
  · refine follows_quiet_bind rfl ?_
    split <;> exact follows_pure _ _

/-- Publishing never fails. -/
theorem updateAndPublish_run (s : ServerRuntime) (room : String)
    (changes : ServerRuntime → Bool) (update : ServerRuntime → ServerRuntime) :
    ∃ out, updateAndPublish room changes update s = (.ok out, update s) := by
  simp only [updateAndPublish, get_bind_run, modify_bind_run]
  split
  · exact ⟨_, rfl⟩
  · exact ⟨_, rfl⟩

theorem updateAndPublish_refines {allowed : Label → Prop} (s : ServerRuntime) (room : String)
    (changes : ServerRuntime → Bool) (update : ServerRuntime → ServerRuntime)
    (h : Relation.ReflTransGen (Steps allowed) s.ideal (update s).ideal) :
    Refines allowed s (updateAndPublish room changes update) := by
  refine follows_get_bind (follows_modify_bind h ?_)
  split
  · exact follows_gets _ _
  · exact follows_pure _ _

theorem markReadinessGateDegraded_invisible (s : ServerRuntime) (room : String)
    (reason : StartGateDegradedReason) : Invisible s (markReadinessGateDegraded room reason) := by
  refine updateAndPublish_refines s room _ _ ?_
  rw [ServerRuntime.ideal_markReadinessGateDegraded]

theorem clearReadinessGate_refines (s : ServerRuntime) (room : String) :
    Refines (fun l => l = .release room) s (clearReadinessGate room) :=
  updateAndPublish_refines s room _ _ (s.clearReadinessGate_steps room)

theorem projectReadinessParticipant_invisible (s : ServerRuntime) (room : String)
    (previous : BTreeMap String Bool) (username : String) :
    Invisible s (projectReadinessParticipant room previous username) := by
  refine follows_get_bind (refines_bind (setRosterReady_invisible ..) fun _ _ => ?_)
  exact follows_get_bind (follows_pure _ _)

theorem publishReplacedReadinessGeneration_invisible (s : ServerRuntime) (room : String)
    (previous : BTreeMap String Bool) :
    Invisible s (publishReplacedReadinessGeneration room previous) := by
  refine follows_get_bind ?_
  split
  · refine refines_bind (follows_collect _ _ fun username _ t => ?_) fun _ _ => ?_
    · exact projectReadinessParticipant_invisible t room previous username
    · exact follows_gets_bind (follows_pure _ _)
  · exact follows_pure _ _

end Sorotte.Server
