import Sorotte.Framework.Frame
import Sorotte.Server.Handlers

/-! # Staged transport

  A V2 player's un-pause is only taken at its word if an accepted Play was
  staged for it.  Whatever a State message does before its playstate is read, it
  stages nothing.
-/

namespace Sorotte.Server

open Sorotte.Framework Sorotte.Framework.Prog

variable {clientId room : String} {before after : ServerRuntime}

namespace ServerRuntime

variable (s : ServerRuntime)

def staged : BTreeMap String PendingUserTransportTransition := s.pendingUserTransportByClient

/-- An accepted Play of the client is staged for its room. -/
def playStaged (clientId room : String) : Prop :=
  ∃ pending, s.staged[clientId]? = some pending ∧ pending.roomName = room ∧
    pending.desiredPaused = false ∧ pending.evidence = .acceptedIndirectAction

/-- The playstate may make the client's room play: it un-pauses a room that its sender controls, and
    comes from a client that speaks no readiness, from a room without a coordinator, or after an
    accepted Play. -/
def mayUnpause (clientId : String) (session : ServerSession) (playstate : ServerPlaystate) : Prop :=
  (playstate.paused = some false ∧
    s.userCanControlPlaylist session.username session.room = true) ∧
    (s.readinessGoverned session.room = false ∨ session.capabilities.readinessV2 = false ∨
      s.playStaged clientId session.room)

end ServerRuntime

/-! ### Forgetting -/

/-- Whatever is staged afterwards was staged before. -/
def Forgets (p q : BTreeMap String PendingUserTransportTransition) : Prop :=
  ∀ (clientId : String) pending, q[clientId]? = some pending → p[clientId]? = some pending

theorem Forgets.refl (p : BTreeMap String PendingUserTransportTransition) : Forgets p p :=
  fun _ _ h => h

theorem Forgets.trans {p q r : BTreeMap String PendingUserTransportTransition} (h : Forgets p q)
    (h' : Forgets q r) : Forgets p r :=
  fun clientId pending hr => h clientId pending (h' clientId pending hr)

theorem forgets_of_run {p q : BTreeMap String PendingUserTransportTransition}
    (h : Relation.ReflTransGen Forgets p q) : Forgets p q := by
  induction h with
  | refl => exact Forgets.refl p
  | tail _ hlast ih => exact ih.trans hlast

namespace ServerRuntime

variable (s : ServerRuntime)

theorem forgets_advanceTransportAuthorityRevision (room : String) :
    Forgets s.staged (s.advanceTransportAuthorityRevision room).staged := by
  intro clientId pending h
  have hfiltered : (s.pendingUserTransportByClient.filter
      fun _ pending => pending.roomName != room)[clientId]? = some pending := h
  rw [Std.ExtTreeMap.getElem?_filter] at hfiltered
  exact (Option.pfilter_eq_some_iff.mp hfiltered).1

theorem staged_seedClients (clients : List String) (position now : Seconds) :
    (clients.foldl (fun s clientId => s.seedClientPlaybackState clientId (some position) now)
      s).staged = s.staged := by
  induction clients generalizing s with
  | nil => rfl
  | cons clientId clients ih =>
    rw [List.foldl_cons, ih]
    rfl

theorem staged_persistRoomAtIfNeeded (room : String) (now : Seconds) :
    (s.persistRoomAtIfNeeded room now).staged = s.staged := by
  unfold persistRoomAtIfNeeded
  split
  · rfl
  · dsimp only
    split
    · rfl
    · split <;> rfl

theorem staged_persistOccupiedRoomActivityIfDueAt (room : String) (now : Seconds) :
    (s.persistOccupiedRoomActivityIfDueAt room now).staged = s.staged := by
  unfold persistOccupiedRoomActivityIfDueAt
  extract_lets recent
  split
  · rfl
  · exact s.staged_persistRoomAtIfNeeded room now

theorem staged_acknowledgeState (clientId room : String) (state : ServerStateCommand) :
    (s.acknowledgeState clientId room state).staged = s.staged := by
  unfold acknowledgeState
  extract_lets ignored queued measured
  have hignored : ignored.staged = s.staged := by
    dsimp only [ignored]
    split <;> rfl
  have hqueued : queued.staged = ignored.staged := by
    dsimp only [queued]
    split <;> rfl
  have hmeasured : measured.staged = queued.staged := by
    dsimp only [measured]
    split <;> rfl
  rw [staged_persistOccupiedRoomActivityIfDueAt]
  exact hmeasured.trans (hqueued.trans hignored)

theorem forgets_establishRoomTransport (room : String) (state : RoomPlaybackState) :
    Forgets s.staged (s.establishRoomTransport room state).staged := by
  unfold establishRoomTransport seedRoomClientPlaybackStates persistRoomIfNeeded
  rw [staged_persistRoomAtIfNeeded, staged_seedClients]
  exact (s.setRoomPlaybackState room state).forgets_advanceTransportAuthorityRevision room

theorem forgets_setReadinessPauseOwner (room : String) (owner : RoomPauseOwner) :
    Forgets s.staged (s.setReadinessPauseOwner room owner).staged := by
  unfold setReadinessPauseOwner
  split
  · exact forgets_advanceTransportAuthorityRevision _ room
  · exact Forgets.refl _

theorem forgets_applyRoomBufferingTransition (room : String)
    (transition : RoomBufferingTransition) (setBy : String) (now : Seconds) :
    Forgets s.staged (s.applyRoomBufferingTransition room transition setBy now).staged := by
  unfold applyRoomBufferingTransition
  extract_lets transported
  have htransported : Forgets s.staged transported.staged :=
    s.forgets_establishRoomTransport room _
  split
  · split
    · exact htransported.trans (transported.forgets_setReadinessPauseOwner room _)
    · exact htransported
  · exact Forgets.refl _

theorem forgets_evaluateRoomBuffering (room : String) (now : Seconds) :
    Forgets s.staged (s.evaluateRoomBuffering room now).staged := by
  unfold evaluateRoomBuffering
  split
  · exact Forgets.refl _
  · extract_lets evaluated installed
    split
    · exact Forgets.refl _
    · exact installed.forgets_applyRoomBufferingTransition room _ _ now

end ServerRuntime

/-! ### Programs -/

abbrev KeepsStaged {α : Type} (m : ServerM α) : Prop := Keeps ServerRuntime.staged m

/-- The program stages nothing. -/
abbrev StagesNothing {α : Type} (s : ServerRuntime) (m : ServerM α) : Prop :=
  Follows ServerRuntime.staged Forgets s m

instance {f : ClientStateCounters → ClientStateCounters} :
    Unseen ServerRuntime.staged (·.updateStateCounters clientId f) := ⟨fun _ => rfl⟩

instance {clients : List String} {position : Seconds} {paused : Bool} {doSeek : Option Bool}
    {setBy : Option String} :
    KeepsStaged (forcedStateFanout clients position paused doSeek setBy) := by
  unfold forcedStateFanout forcedStateSyncMessageForClient
  infer_instance

instance {transition : RoomBufferingTransition} {setBy : String} {now : Seconds} :
    KeepsStaged (publishRoomBufferingTransition before after room transition setBy now) := by
  unfold publishRoomBufferingTransition
  infer_instance

theorem evaluateRoomBufferingAt_stagesNothing (s : ServerRuntime) (room : String) (now : Seconds)
    (alwaysPublishStatus : Bool) :
    StagesNothing s (evaluateRoomBufferingAt room now alwaysPublishStatus) := by
  unfold evaluateRoomBufferingAt
  apply follows_get_bind
  split
  · exact follows_pure _ _
  · apply follows_modify_bind (.single (s.forgets_evaluateRoomBuffering room now))
    dsimp only
    split
    · exact Keeps.follows _ _
    · exact Keeps.follows _ _

theorem recordRoomBufferingReport_stagesNothing (s : ServerRuntime) (clientId : String)
    (report : TransportBufferingReportPayload) :
    StagesNothing s (recordRoomBufferingReport clientId report) := by
  unfold recordRoomBufferingReport
  apply follows_get_bind
  split
  · exact follows_throw _ _
  · split
    · exact follows_pure _ _
    · split
      · exact follows_pure _ _
      · apply follows_quiet_bind rfl
        exact evaluateRoomBufferingAt_stagesNothing _ _ _ true

/-- A barrier extension that acknowledges nothing stages nothing. -/
theorem handlePlaybackBarrierState_stagesNothing (s : ServerRuntime) (clientId : String)
    {extension : PlaybackBarrierStateExtension} (hready : extension.ready = none)
    (hstarted : extension.started = none) :
    StagesNothing s (handlePlaybackBarrierState clientId extension) := by
  unfold handlePlaybackBarrierState
  rw [hready, hstarted]
  apply follows_get_bind
  split
  · exact follows_pure _ _
  · apply follows_bind (follows_pure s [])
    rintro ready t hrun
    cases hrun
    apply follows_bind (follows_pure s [])
    rintro started t hrun
    cases hrun
    apply follows_bind
    · apply follows_onSome
      intro report _
      exact recordRoomBufferingReport_stagesNothing s clientId report
    · intro transport t _
      exact follows_pure _ _

end Sorotte.Server
