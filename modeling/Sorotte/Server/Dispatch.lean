import Sorotte.Framework.Frame
import Sorotte.Server.Runs

/-! # Whole messages are runs

  A message runs its handler, or for a Set its commands in turn, at one clock
  reading: what it does to the runtime, actions do.
-/

namespace Sorotte.Server

open Sorotte.Framework Sorotte.Framework.Prog

variable {s : ServerRuntime} {clientId : String}

/-! ### Actions and programs -/

theorem after_silently {α : Type} (m : ServerM α) (s : ServerRuntime) :
    after (silently m) s = after m s :=
  after_bind_pure

theorem step_run (action : Action) (s : ServerRuntime) : Step s (after action.run s) :=
  .act s action s.clock ⟨le_refl _, le_refl _⟩

/-- A program that an action runs is one step. -/
theorem follows_of_action {α : Type} {m : ServerM α} (action : Action)
    (h : after action.run s = after m s) : Follows id Step s m := by
  unfold Follows
  rw [← h]
  exact .single (step_run action s)

/-! ### Messages -/

theorem applySetCommand_runs (freshToken : String) (command : ServerSetCommand)
    (next : Option ServerSetCommand) :
    Follows id Step s (applySetCommand clientId freshToken command next) :=
  follows_of_action (.setCommand clientId freshToken command next) (after_silently _ s)

/-- A batch runs its commands in order, up to the first that fails. -/
theorem runSetCommands_runs (commands : List (ServerSetCommand × String)) (s : ServerRuntime) :
    Follows id Step s (runSetCommands clientId commands) := by
  induction commands using runSetCommands.induct generalizing s with
  | case1 => exact follows_pure _ _
  | case2 command freshToken =>
    unfold runSetCommands
    exact follows_bind (applySetCommand_runs freshToken command none) fun _ t _ => follows_pure t _
  | case3 command freshToken next rest ihconsumed ih =>
    unfold runSetCommands
    apply follows_bind (applySetCommand_runs freshToken command _)
    intro result t _
    -- a command that consumed the one after it skips it
    cases result.2 with
    | true => exact follows_bind (ihconsumed t) fun _ u _ => follows_pure u _
    | false => exact follows_bind (ih t) fun _ u _ => follows_pure u _

/-- **A message is a run**: the server reaches by actions whatever an inbound message leaves. -/
theorem message_runs (s : ServerRuntime) (clientId : String) (command : ServerInboundCommand)
    (framesFit : Bool) :
    Follows id Step s (handleProtocolMessageFanoutForPeer clientId command framesFit) := by
  unfold handleProtocolMessageFanoutForPeer
  apply follows_bind (follows_of_action (.fencedInput clientId) (after_silently _ s))
  intro fenced t _
  split
  · exact follows_pure t _
  · cases command with
    | hello hello freshToken =>
      exact follows_of_action (.hello clientId hello framesFit freshToken) (after_silently _ t)
    | set commands =>
      apply follows_get_bind
      split
      · exact follows_throw t _
      · split
        · exact follows_throw t _
        · exact runSetCommands_runs commands t
    | listRequest => exact follows_of_action (.list clientId) (after_silently _ t)
    | state state forwardDelay =>
      exact follows_of_action (.state clientId state forwardDelay) (after_silently _ t)
    | tls startTls contextAvailable =>
      exact follows_of_action (.tls clientId startTls contextAvailable) (after_silently _ t)
    | chat message =>
      exact follows_of_action (.chat clientId message framesFit) (after_silently _ t)
    | ignore => exact follows_pure t _

end Sorotte.Server
