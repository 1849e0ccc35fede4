import Sorotte.Ideal.Runs

/-! # History

  Labels append to the history, and nothing ever leaves it.  What an event
  records was therefore true in the state its label was taken in.
-/

namespace Sorotte.Ideal

open Server

variable {s : State} {l : Label} {event : Event}

/-- The events of a label, newest first. -/
def events (s : State) : Label → List Event
  | .leave clientId _ => [.sessionEnded clientId]
  | .move clientId session _ _ => [.leftRoom clientId session.room]
  | .grant clientId _ room password => [.controllerAuthenticated clientId room password]
  | .playlist room playlist expected => [.playlistAccepted room playlist.epoch expected]
  | .discard room => [.roomDiscarded room]
  | .dissolve room => [.coordinatorRemoved room]
  | .prepare room b =>
      [.prepareAccepted room b.prepare.requestId b.prepare.mediaGeneration s.now]
  | .commit room snapshot _ => [.committed room snapshot]
  | .started clientId room b started observedPosition =>
      (if (b.withStarted clientId observedPosition).phase = .complete then
          [.becameComplete room (b.withStarted clientId observedPosition)]
        else []) ++
        [.startedAcknowledged room started.mediaGeneration started.stateRevision clientId]
  | .rebind clientId session _ b =>
      [.ownerRebound session.room b.prepare.mediaGeneration b.initiatorClientId clientId]
  | .retain room requestIds => requestIds.map (Event.requestDisplaced room · s.now)
  | _ => []

theorem effect_history (s : State) (l : Label) :
    (effect s l).history = events s l ++ s.history := by
  cases l with
  | prepare room b => simp only [effect, State.beginGeneration]; split <;> rfl
  | commit room snapshot b' => simp only [effect]; split <;> rfl
  | _ => rfl

/-- An event of the history is new, or was there before. -/
theorem mem_effect_history :
    event ∈ (effect s l).history ↔ event ∈ events s l ∨ event ∈ s.history := by
  rw [effect_history, List.mem_append]

end Sorotte.Ideal
