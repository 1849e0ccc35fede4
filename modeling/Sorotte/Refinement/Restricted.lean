import Sorotte.Ideal.Authority
import Sorotte.Ideal.Generations
import Sorotte.Ideal.Owners
import Sorotte.Refinement.Runs

/-! # Refinement: restricted runs

  Some properties hold only while clients leave something undone.  A restricted
  run is one in which every action meets a condition in the state it starts
  from; the steps it takes in the ideal server have labels to match.
-/

namespace Sorotte.Ideal

/-- A label that only a client's own message has. -/
def Label.fromClient : Label → Prop
  | .play _ _ | .rearm _ _ | .claim _ _ | .selectOwner _ | .configure _ _ _ | .grant _ _ _ _ => True
  | _ => False

/-- The labels that play a room, or take its pause for a start or a user. -/
def Label.plays : Label → Prop
  | .play _ _ | .rearm _ _ | .claim _ _ => True
  | _ => False

end Sorotte.Ideal

namespace Sorotte.Server

open Sorotte.Ideal

variable {ok : Action → ServerRuntime → Prop} {J : Label → Prop} {I : State → Prop}
variable {s t : ServerRuntime} {room clientId : String}

/-- States of a server all of whose actions met the condition. -/
def ReachableUnder (ok : Action → ServerRuntime → Prop) (s : ServerRuntime) : Prop :=
  ∃ s₀, Initial s₀ ∧ RunOf ok s₀ s

theorem RunOf.run (h : RunOf ok s t) : Relation.ReflTransGen Step s t := by
  induction h with
  | refl => exact .refl
  | step action clock _ hclock _ ih => exact ih.tail (.act _ action clock hclock)

/-- What an action under the condition does has labels in `J`. -/
structure Labels (ok : Action → ServerRuntime → Prop) (J : Label → Prop) : Prop where
  clock : ∀ now, J (.clock now)
  action : ∀ action s, ok action s → ∀ l, actionLabel s action l → J l

/-- **Simulation** of a restricted run. -/
theorem Labels.steps (hlabels : Labels ok J) (hs : Reachable s) (h : RunOf ok s t) :
    Relation.ReflTransGen (Steps J) s.ideal t.ideal := by
  induction h with
  | refl => exact .refl
  | @step t action clock hrun hclock hok ih =>
    obtain ⟨s₀, hinitial, hreached⟩ := hs
    have ht : Reachable t := ⟨s₀, hinitial, hreached.trans hrun.run⟩
    have hsteps := steps_of_moves (action.next_evolves ht.seats hclock)
    apply ih.trans
    apply Relation.ReflTransGen.mono (Steps.mono _) _ _ hsteps
    rintro l (rfl | hl)
    · exact hlabels.clock _
    · exact hlabels.action action _ hok l hl

/-- **Invariant rule** for restricted runs. -/
theorem Labels.invariant (hlabels : Labels ok J) (hinitial : ∀ x, Ideal.Initial x → I x)
    (hstep : ∀ x l, J l → guard x l → I x → I (effect x l)) (h : ReachableUnder ok s) :
    I s.ideal := by
  obtain ⟨s₀, hstart, hrun⟩ := h
  have hsteps := hlabels.steps ⟨s₀, hstart, .refl⟩ hrun
  exact invariant_of_steps hstep hsteps (hinitial _ hstart.ideal)

/-- **Invariant rule** for runs whose condition looks at the state an action starts from. -/
theorem RunOf.invariant (hs : Reachable s) (h : RunOf ok s t)
    (hclock : ∀ x now, guard x (.clock now) → I x → I (effect x (.clock now)))
    (haction : ∀ action s x, ok action s → I s.ideal →
      Relation.ReflTransGen (Steps (actionLabel s action)) s.ideal x → I x)
    (hi : I s.ideal) : I t.ideal := by
  induction h with
  | refl => exact hi
  | @step t action clock hrun hclocked hok ih =>
    obtain ⟨s₀, hinitial, hreached⟩ := hs
    have ht : Reachable t := ⟨s₀, hinitial, hreached.trans hrun.run⟩
    have hread : I ({ t with clock } : ServerRuntime).ideal := by
      rw [ideal_clock]
      exact hclock t.ideal clock.request hclocked.2 ih
    have hsteps := steps_of_moves (action.run_evolves (ht.seats.quiet (quiet_clock t clock)))
    exact haction action _ _ hok hread hsteps

/-! ### Labels of clients -/

/-- It comes with a Set command, or with the playstate of a State. -/
theorem message_of_label {action : Action} {l : Label} (hfrom : l.fromClient)
    (h : actionLabel s action l) :
    (∃ clientId freshToken command next session,
      action = .setCommand clientId freshToken command next ∧
      s.sessions[clientId]? = some session ∧ commandLabel s clientId session command l) ∨
    ∃ clientId command forwardDelay session playstate,
      action = .state clientId command forwardDelay ∧ s.sessions[clientId]? = some session ∧
      command.playstate = some playstate ∧ playstateLabel clientId session.room session.username
        (s.mayUnpause clientId session playstate) l := by
  cases action with
  | setCommand clientId freshToken command next =>
    obtain ⟨session, hsession, hl⟩ := h
    exact .inl ⟨clientId, freshToken, command, next, session, rfl, hsession, hl⟩
  | state clientId command forwardDelay =>
    obtain ⟨session, hsession, hl | hl | ⟨playstate, hplaystate, hl⟩⟩ := h
    · cases l <;> first | exact hl.elim | exact hfrom.elim
    · rcases hl with hl | hl | hl <;> cases l <;> first | exact hl.elim | exact hfrom.elim
    · exact .inr ⟨clientId, command, forwardDelay, session, playstate, rfl, hsession, hplaystate, hl⟩
  | disconnect clientId =>
    obtain ⟨r, hl⟩ := h
    cases l <;> first | exact hl.elim | exact hfrom.elim
  | pruneTombstones =>
    subst h
    exact hfrom.elim
  | duePrepare r => rcases h with hl | hl <;> cases l <;> first | exact hl.elim | exact hfrom.elim
  | dueStarted r =>
    rcases h with hl | rfl
    · cases l <;> first | exact hl.elim | exact hfrom.elim
    · exact hfrom.elim
  | dueTimeout clientId | dueTick clientId =>
    obtain ⟨r, hl | ⟨-, hl⟩⟩ := h <;> cases l <;> first | exact hl.elim | exact hfrom.elim
  | _ => cases l <;> first | exact h.elim | exact hfrom.elim

/-! ### Who plays a room -/

/-- Among the commands, only an accepted intent does. -/
theorem intent_of_plays {session : ServerSession} {command : ServerSetCommand} {l : Label}
    (hplays : l.plays) (h : commandLabel s clientId session command l) :
    ∃ request, command = .readiness (some request) ∧
      s.acceptsReadinessIntent clientId request = true ∧
      intentLabel session.room session.username request l := by
  cases command with
  | readiness intent =>
    obtain ⟨request, rfl, haccepts, hl⟩ := h
    exact ⟨request, rfl, haccepts, hl⟩
  | playbackBarrier extension =>
    rcases h with hl | hl | ⟨policy, -, hl⟩ <;> cases l <;> first | exact hl.elim | exact hplays.elim
  | controllerAuth r password =>
    subst h
    exact hplays.elim
  | _ => cases l <;> first | exact h.elim | exact hplays.elim

/-- The action plays no room of its own accord: the client's intent is no accepted Play or Ready
    in this room, and its State does not un-pause it. -/
def Action.spares (room : String) : Action → ServerRuntime → Prop
  | .setCommand clientId _ (.readiness (some request)) _, s => ∀ session,
      s.sessions[clientId]? = some session → session.room = room →
      s.acceptsReadinessIntent clientId request = true →
      request.desired ≠ .ready ∧ indirectPlayerDesiredPaused request.source ≠ some false
  | .state clientId command _, s => ∀ session playstate,
      s.sessions[clientId]? = some session → session.room = room →
      command.playstate = some playstate → ¬ s.mayUnpause clientId session playstate
  | _, _ => True

theorem sparing_labels (room : String) :
    Labels (Action.spares room) (·.spares (fun _ => True) room) where
  clock _ := trivial
  action action s hok l hl := by
    cases l with
    | play r position =>
      rintro rfl
      rcases message_of_label (by trivial) hl with
        ⟨clientId, token, command, next, session, rfl, hsession, hcommand⟩ |
        ⟨clientId, command, delay, session, playstate, rfl, hsession, hplaystate, hroom, hplays⟩
      · obtain ⟨request, rfl, haccepts, hroom, hplays⟩ := intent_of_plays (by trivial) hcommand
        exact (hok session hsession hroom.symm haccepts).2 hplays
      · exact hok session playstate hsession hroom.symm hplaystate hplays
    | rearm r b =>
      rintro rfl
      rcases message_of_label (by trivial) hl with
        ⟨clientId, token, command, next, session, rfl, hsession, hcommand⟩ |
        ⟨clientId, command, delay, session, playstate, rfl, hsession, hplaystate, hno⟩
      · obtain ⟨request, rfl, haccepts, hroom, hready⟩ := intent_of_plays (by trivial) hcommand
        exact (hok session hsession hroom.symm haccepts).1 hready
      · exact hno
    | claim r actor => exact fun _ => trivial
    | _ => trivial

/-- A Pause of this room that is accepted is one of these users'. -/
def Action.pausesOnlyBy (room : String) (users : String → Prop) : Action → ServerRuntime → Prop
  | .setCommand clientId _ (.readiness (some request)) _, s => ∀ session,
      s.sessions[clientId]? = some session → session.room = room →
      s.acceptsReadinessIntent clientId request = true →
      indirectPlayerDesiredPaused request.source = some true → users session.username
  | _, _ => True

/-- The owners that are one of these users. -/
def ownedBy (users : String → Prop) (owner : RoomPauseOwner) : Prop :=
  ∃ actor, owner = .user actor ∧ users actor

theorem yielding_labels (room : String) (users : String → Prop) :
    Labels (fun action s => action.spares room s ∧ action.pausesOnlyBy room users s)
      (·.spares (ownedBy users) room) where
  clock _ := trivial
  action action s hok l hl := by
    have hspares := (sparing_labels room).action action s hok.1 l hl
    cases l with
    | claim r actor =>
      rintro rfl
      rcases message_of_label (by trivial) hl with
        ⟨clientId, token, command, next, session, rfl, hsession, hcommand⟩ |
        ⟨clientId, command, delay, session, playstate, rfl, hsession, hplaystate, hno⟩
      · obtain ⟨request, rfl, haccepts, hroom, rfl, hpauses⟩ :=
          intent_of_plays (by trivial) hcommand
        exact ⟨_, rfl, hok.2 session hsession hroom.symm haccepts hpauses⟩
      · exact hno.elim
    | _ => exact hspares

/-! ### Plain selections -/

/-- The action selects no entry without a guard in a room that leaves its lifecycle alone. -/
def Action.claimsPaused : Action → ServerRuntime → Prop
  | .setCommand clientId _ (.playlistIndex command) _, s => ∀ session,
      s.sessions[clientId]? = some session → command.precondition.guard = none →
      s.roomUsesPlaybackLifecycleAuthority session.room = true
  | _, _ => True

/-- Only a plain selection claims a pause without looking. -/
theorem selection_of_claim {action : Action} (h : actionLabel s action (.selectOwner room)) :
    ∃ clientId freshToken command next session,
      action = .setCommand clientId freshToken (.playlistIndex command) next ∧
      s.sessions[clientId]? = some session ∧ session.room = room ∧
      s.acceptsPlaylistIndex session command = true ∧ s.selectsPlainly session command := by
  rcases message_of_label (by trivial) h with
    ⟨clientId, token, command, next, session, rfl, hsession, hcommand⟩ |
    ⟨clientId, command, delay, session, playstate, rfl, hsession, hplaystate, hno⟩
  · cases command with
    | playlistIndex command =>
      obtain ⟨rfl, haccepts, hplain⟩ := hcommand
      exact ⟨clientId, token, command, next, session, rfl, hsession, rfl, haccepts, hplain⟩
    | readiness intent =>
      obtain ⟨request, -, -, hno⟩ := hcommand
      exact hno.elim
    | playbackBarrier extension =>
      rcases hcommand with hno | hno | ⟨policy, -, hno⟩ <;> exact hno.elim
    | controllerAuth r password => cases hcommand
    | _ => exact hcommand.elim
  · exact hno.elim

theorem claiming_labels : Labels Action.claimsPaused fun l => ∀ r, l ≠ .selectOwner r where
  clock _ _ := Label.noConfusion
  action action s hok l hl r := by
    rintro rfl
    obtain ⟨clientId, token, command, next, session, rfl, hsession, -, -, hguard, hauthority, -⟩ :=
      selection_of_claim hl
    have hheld := hok session hsession hguard
    rw [hauthority] at hheld
    cases hheld

/-! ### Numbered policies -/

/-- The action leaves it to the server to number the policy it configures. -/
def Action.serverNumbered : Action → ServerRuntime → Prop
  | .setCommand _ _ (.playbackBarrier extension) _, _ => ∀ policy,
      extension.bufferingPolicy = some policy → policy.mediaGeneration = 0
  | _, _ => True

theorem numbered_labels : Labels Action.serverNumbered (·.serverNumbered) where
  clock _ := trivial
  action action s hok l hl := by
    cases l with
    | configure r generation source =>
      intro hexplicit
      rcases message_of_label (by trivial) hl with
        ⟨clientId, token, command, next, session, rfl, hsession, hcommand⟩ |
        ⟨clientId, command, delay, session, playstate, rfl, hsession, hplaystate, hno⟩
      · cases command with
        | playbackBarrier extension =>
          rcases hcommand with hno | hno | ⟨policy, hpolicy, -, hnamed⟩
          · exact hno.elim
          · exact hno.elim
          · rw [hnamed hexplicit, hok policy hpolicy]
        | readiness intent =>
          obtain ⟨request, -, -, hno⟩ := hcommand
          exact hno.elim
        | controllerAuth r password => cases hcommand
        | _ => exact hcommand.elim
      · exact hno.elim
    | _ => trivial

/-! ### Authentications -/

/-- The action authenticates for no room but the client's own. -/
def Action.authenticatesOwnRoom : Action → ServerRuntime → Prop
  | .setCommand clientId _ (.controllerAuth (some room) _) _, s => ∀ session,
      s.sessions[clientId]? = some session → room = session.room
  | _, _ => True

theorem granting_labels :
    Labels Action.authenticatesOwnRoom (·.respects fun _ r room => r = room) where
  clock _ := trivial
  action action s hok l hl := by
    cases l with
    | grant c granted r password =>
      rcases message_of_label (by trivial) hl with
        ⟨clientId, token, command, next, session, rfl, hsession, hcommand⟩ |
        ⟨clientId, command, delay, session, playstate, rfl, hsession, hplaystate, hno⟩
      · cases command with
        | controllerAuth named password =>
          obtain ⟨-, rfl, rfl, -⟩ := Label.grant.inj hcommand
          cases named with
          | none => rfl
          | some named => exact (hok _ hsession).symm
        | readiness intent =>
          obtain ⟨request, -, -, hno⟩ := hcommand
          exact hno.elim
        | playbackBarrier extension =>
          rcases hcommand with hno | hno | ⟨policy, -, hno⟩ <;> exact hno.elim
        | _ => exact hcommand.elim
      · exact hno.elim
    | leave c left => exact fun _ hroom => hroom
    | move c held newRoom position => exact fun _ hroom hother => absurd hroom hother
    | _ => trivial

/-! ### Ends of sessions -/

/-- The action ends the session of this client, if it has one. -/
def Action.endsSession : Action → ServerRuntime → String → Prop
  | .disconnect clientId, _, c => c = clientId
  | .hello clientId command framesFit _, s, c =>
    c = clientId ∧ s.AdmitsHello clientId command framesFit
  | .dueTimeout clientId, s, c | .dueTick clientId, s, c => c = clientId ∧ s.TimesOut clientId
  | _, _, _ => False

theorem ends_of_leave {action : Action} {session : ServerSession}
    (h : actionLabel s action (.leave clientId session)) : action.endsSession s clientId := by
  cases action with
  | hello => exact h
  | disconnect =>
    obtain ⟨_, hl⟩ := h
    exact hl.1
  | dueTimeout | dueTick =>
    obtain ⟨_, hl | ⟨hleaves, hl⟩⟩ := h
    · exact hl.elim
    · exact ⟨hl.1, hleaves⟩
  | setCommand _ _ command _ =>
    obtain ⟨_, -, hl⟩ := h
    cases command with
    | room => exact hl.2
    | readiness =>
      obtain ⟨_, -, -, hno⟩ := hl
      exact hno.elim
    | playbackBarrier => rcases hl with hno | hno | ⟨_, -, hno⟩ <;> exact hno.elim
    | controllerAuth => cases hl
    | _ => exact hl.elim
  | state =>
    obtain ⟨_, -, hl⟩ := h
    exact absurd trivial (stays_of_state _ hl)
  | duePrepare => rcases h with hno | hno <;> exact hno.elim
  | dueStarted =>
    rcases h with hno | hno
    · exact hno.elim
    · cases hno
  | pruneTombstones => cases h
  | _ => exact h.elim

/-- An action moves authority only where the sessions that it ends sit. -/
theorem respects_of_label {action : Action} {l : Label} (h : actionLabel s action l) :
    l.respects fun c r room => action.endsSession s c → r = room := by
  cases l with
  | grant =>
    rcases message_of_label (by trivial) h with ⟨_, _, _, _, _, rfl, -⟩ | ⟨_, _, _, _, _, rfl, -⟩ <;>
    · intro hends
      exact hends.elim
  | leave => exact fun _ hsits => hsits (ends_of_leave h)
  | move => exact fun _ hsits hother hends => absurd (hsits hends) hother
  | _ => trivial

end Sorotte.Server
