import Sorotte.Refinement.Commands
import Sorotte.Refinement.Staging

/-! # Refinement: State messages

  A State carries acknowledgements of a start, or a playstate.  A playstate of
  the current transport authority leaves its sender's sample behind and, when
  its sender may control the room, becomes the room's own.
-/

namespace Sorotte.Server

open Sorotte.Framework Sorotte.Framework.Prog Sorotte.Ideal ServerRuntime

variable {s t : ServerRuntime} {clientId : String} {session : ServerSession}
variable {observation : TransportObservation} {playstate : ServerPlaystate} {unpauses : Prop}

/-! ### Acknowledgements -/

@[simp] theorem ideal_persistOccupiedRoomActivityIfDueAt (s : ServerRuntime) (room : String)
    (now : Seconds) : (s.persistOccupiedRoomActivityIfDueAt room now).ideal = s.ideal := by
  unfold persistOccupiedRoomActivityIfDueAt
  extract_lets recent
  split
  · rfl
  · simp

@[simp] theorem ideal_acknowledgeState (s : ServerRuntime) (clientId room : String)
    (state : ServerStateCommand) : (s.acknowledgeState clientId room state).ideal = s.ideal := by
  unfold acknowledgeState
  extract_lets ignored queued measured
  have hignored : ignored.ideal = s.ideal := by
    dsimp only [ignored]
    split <;> rfl
  have hqueued : queued.ideal = ignored.ideal := by
    dsimp only [queued]
    split <;> rfl
  have hmeasured : measured.ideal = queued.ideal := by
    dsimp only [measured]
    split <;> rfl
  rw [ideal_persistOccupiedRoomActivityIfDueAt]
  exact hmeasured.trans (hqueued.trans hignored)

/-! ### Observations -/

/-- What an observed playstate of `actor` does to its room. -/
def playstateLabel (clientId room actor : String) (unpauses : Prop) : Label → Prop
  | .sample c _ _ => c = clientId
  | .automatic r _ | .recover r _ => r = room
  | .play r _ => r = room ∧ unpauses
  | l => pauseLabel room actor l

theorem playstate_of_pause {room actor : String} {unpauses : Prop} (l : Label)
    (h : pauseLabel room actor l) : playstateLabel clientId room actor unpauses l := by
  cases l <;> first | exact h | exact h.elim

theorem playstate_of_settle {room actor : String} {unpauses : Prop} (l : Label)
    (h : settleLabel room l) : playstateLabel clientId room actor unpauses l := by
  cases l <;> first | exact h | exact h.elim

theorem ideal_recordObservation (s : ServerRuntime) (clientId : String)
    (observation : TransportObservation) (playstate : ServerPlaystate)
    (forwardDelay now : Seconds) :
    ∃ position, (s.recordObservation clientId observation playstate forwardDelay now).ideal =
      s.ideal.setSample clientId position := by
  unfold recordObservation
  extract_lets consumed position
  have hconsumed : consumed.ideal = s.ideal := by
    dsimp only [consumed]
    split <;> rfl
  rw [← hconsumed]
  exact ⟨_, ideal_setSample consumed clientId _⟩

theorem recordObservation_steps (hsession : s.sessions[clientId]? = some session)
    (hpreparing : ¬ s.ideal.preparing session.room) (observation : TransportObservation)
    (playstate : ServerPlaystate) (forwardDelay now : Seconds) :
    Relation.ReflTransGen (Steps (playstateLabel clientId session.room session.username unpauses))
      s.ideal
      (s.recordObservation clientId observation playstate forwardDelay now).ideal := by
  obtain ⟨position, hrecorded⟩ :=
    ideal_recordObservation s clientId observation playstate forwardDelay now
  rw [hrecorded]
  have hlabel : playstateLabel clientId session.room session.username unpauses
    (.sample clientId session position) := rfl
  exact one_step hlabel ⟨hsession, hpreparing⟩ rfl

/-- The pause change of a V2 player is accounted for by a user or an automatic owner. -/
def TransportObservation.explained (observation : TransportObservation) : Bool :=
  !(observation.v2TransportChange && !observation.acceptedV2UserTransport &&
    observation.automaticOwner.isNone)

/-- What the decisions of an observation have in common: the pause only changes hands when it
    changes, and only a recovery un-pauses the room by itself. -/
structure Observes (t : State) (room : String) (unpauses : Prop)
    (observation : TransportObservation) : Prop where
  changed : observation.pauseChanged = (observation.observedPaused != t.paused room)
  user : (observation.acceptedV2UserTransport || observation.syncplayTransportChange) = true →
    observation.pauseChanged = true
  automatic : ∀ owner, observation.automaticOwner = some owner → observation.pauseChanged = true
  unpaused : observation.canControlRoom = true → observation.explained = true →
    observation.pauseChanged = true → observation.observedPaused = false →
    unpauses ∨ ∀ g, t.gate room = some g → g.pauseOwner = .recovery

theorem observeTransport_observes (s : ServerRuntime) (clientId : String)
    (session : ServerSession) (playstate : ServerPlaystate) :
    Observes s.ideal session.room (s.mayUnpause clientId session playstate)
      (s.observeTransport clientId session playstate) where
  changed := by
    show playstate.paused.any (· != (s.roomPlaybackState session.room).paused) =
      (playstate.paused.getD (s.roomPlaybackState session.room).paused !=
        (s.roomPlaybackState session.room).paused)
    cases playstate.paused with
    | none => simp
    | some paused => rfl
  user := by
    simp only [observeTransport, Bool.or_eq_true, Bool.and_eq_true]
    rintro (⟨⟨⟨-, hchanged⟩, -⟩, -⟩ | ⟨⟨⟨-, hchanged⟩, -⟩, -⟩) <;> exact hchanged
  automatic := by
    intro owner howner
    simp only [observeTransport] at howner ⊢
    split at howner
    · next hchange =>
      simp only [Bool.and_eq_true] at hchange
      exact hchange.1.2
    · cases howner
  unpaused := by
    intro hcontrols hexplained hchanged hplaying
    have hunpauses : playstate.paused = some false := by
      simp only [observeTransport] at hchanged hplaying
      cases hpaused : playstate.paused with
      | none =>
        rw [hpaused] at hchanged
        cases hchanged
      | some paused =>
        rw [hpaused] at hplaying
        exact congrArg some hplaying
    by_cases hgoverned : (s.readinessGoverned session.room && session.capabilities.readinessV2) = true
    · -- a V2 player: an accepted Play was staged, or the room recovers
      have hchange : (s.observeTransport clientId session playstate).v2TransportChange = true := by
        simp only [observeTransport] at hcontrols hchanged ⊢
        simp [hcontrols, hchanged, hgoverned]
      simp only [TransportObservation.explained, hchange, Bool.true_and, Bool.not_eq_true',
        Bool.and_eq_false_iff, Bool.not_eq_false'] at hexplained
      rcases hexplained with haccepted | hautomatic
      · left
        refine ⟨⟨hunpauses, hcontrols⟩, .inr (.inr ?_)⟩
        simp only [observeTransport, hunpauses, Bool.and_eq_true, pendingUserTransportMatches,
          Option.any_eq_true] at haccepted
        obtain ⟨-, pending, hpending, hmatches⟩ := haccepted
        simp only [Option.getD_some, beq_iff_eq] at hmatches
        obtain ⟨⟨⟨⟨⟨hroom, -⟩, hdesired⟩, hevidence⟩, -⟩, -⟩ := hmatches
        exact ⟨pending, hpending, hroom, hdesired, hevidence⟩
      · right
        have hv2 : (s.observeTransport clientId session playstate).automaticOwner =
            s.automaticTransportOwnerForObservation session.room session.username false := by
          have hif : (s.observeTransport clientId session playstate).automaticOwner =
              if (s.observeTransport clientId session playstate).v2TransportChange then
                s.automaticTransportOwnerForObservation session.room session.username
                  (s.observeTransport clientId session playstate).observedPaused
              else none := rfl
          rw [hif, if_pos hchange, hplaying]
        rw [hv2, automaticTransportOwnerForObservation] at hautomatic
        intro g hg
        obtain ⟨coordinator, hcoordinator, rfl⟩ := Option.map_eq_some_iff.mp
          (show s.roomReadiness[session.room]?.map RoomReadinessCoordinator.ideal = some g from hg)
        rw [hcoordinator] at hautomatic
        simp only [Option.bind_some, Bool.false_eq_true, if_false] at hautomatic
        split at hautomatic
        · next hrecovery =>
          simp only [Bool.and_eq_true, beq_iff_eq] at hrecovery
          exact hrecovery.1
        · cases hautomatic
    · left
      refine ⟨⟨hunpauses, hcontrols⟩, ?_⟩
      rw [Bool.and_eq_true, not_and_or] at hgoverned
      rcases hgoverned with hgoverned | hgoverned
      · exact .inl (Bool.eq_false_iff.mpr hgoverned)
      · exact .inr (.inl (Bool.eq_false_iff.mpr hgoverned))

/-- A changed pause that is observed paused was playing. -/
theorem Observes.playing {x : State} {room : String} (h : Observes x room unpauses observation)
    (hpaused : observation.observedPaused = true) (hchanged : observation.pauseChanged = true) :
    x.paused room = false := by
  have hdiffers := h.changed
  rw [hchanged, hpaused] at hdiffers
  simpa using hdiffers.symm

/-! ### Canonical observations -/

theorem commitObservation_steps (t : ServerRuntime) (clientId : String) (session : ServerSession)
    (hobserves : Observes t.ideal session.room unpauses observation)
    (hcontrols : observation.canControlRoom = true) (hexplained : observation.explained = true)
    (hpreparing : ¬ t.ideal.preparing session.room) (now : Seconds) :
    Relation.ReflTransGen (Steps (playstateLabel clientId session.room session.username unpauses))
      t.ideal (t.commitObservation clientId session observation now).ideal := by
  set room := session.room with hroom
  have hplace : ∀ paused position, (paused = false → t.ideal.paused room = false) →
      Relation.ReflTransGen (Steps (playstateLabel clientId room session.username unpauses)) t.ideal
        (t.ideal.setTransport room paused position) := by
    intro paused position hplays
    have hlabel : playstateLabel clientId room session.username unpauses
      (.place room paused position) := rfl
    exact one_step hlabel ⟨.inl hpreparing, hplays⟩ rfl
  unfold commitObservation
  extract_lets before owned transported
  by_cases hpaused : observation.observedPaused = true
  · -- the room pauses, and its pause may get an owner
    have hkeeps : (observation.pauseChanged && !observation.observedPaused) = false := by
      simp [hpaused]
    rw [if_neg (by simp [hkeeps])]
    have htransported : transported.ideal = owned.ideal.setTransport room true
        (owned.watcherPosition clientId true before.position now) := by
      dsimp only [transported]
      rw [ideal_establishRoomTransport, hpaused]
    rw [htransported]
    have howned : owned = t.ownObservedPause session observation := rfl
    unfold ownObservedPause at howned
    rw [hpaused] at howned
    split at howned
    · next huser =>
      have huser' : (observation.acceptedV2UserTransport ||
          observation.syncplayTransportChange) = true := by simpa using huser
      have hplaying := hobserves.playing hpaused (hobserves.user huser')
      generalize owned.watcherPosition clientId true before.position now = position
      rw [howned, ideal_claimUserPauseOwnership]
      exact Relation.ReflTransGen.mono (Steps.mono playstate_of_pause) _ _
        (pauseAndClaim_steps t.ideal room session.username position hplaying)
    · generalize owned.watcherPosition clientId true before.position now = position
      split at howned
      · next owner _ howner =>
        split at howned
        · next hfree =>
          rw [howned, ideal_setReadinessPauseOwner, setOwner_setTransport]
          apply (hplace true position (by simp)).trans
          have hlabel : playstateLabel clientId room session.username unpauses
            (.automatic room owner) := rfl
          apply one_step hlabel ⟨State.setTransport_paused_self .., ?_⟩ rfl
          intro g hg
          obtain ⟨coordinator, hcoordinator, rfl⟩ := Option.map_eq_some_iff.mp
            (show t.roomReadiness[room]?.map RoomReadinessCoordinator.ideal = some g from hg)
          rw [hcoordinator] at hfree
          simpa [RoomReadinessCoordinator.ideal] using hfree
        · rw [howned]
          exact hplace true position (by simp)
      · rw [howned]
        exact hplace true position (by simp)
  · -- the room plays on, or nobody owns its pause any longer
    have hplaying : observation.observedPaused = false := Bool.eq_false_iff.mpr hpaused
    have howned : owned = t := by
      show t.ownObservedPause session observation = t
      unfold ownObservedPause
      rw [hplaying, Bool.and_false, if_neg Bool.false_ne_true]
    have htransported : transported.ideal = t.ideal.setTransport room false
        (owned.watcherPosition clientId false before.position now) := by
      dsimp only [transported]
      rw [ideal_establishRoomTransport, howned, hplaying]
    split
    · next hreleases =>
      rw [ideal_setReadinessPauseOwner, htransported]
      simp only [Bool.and_eq_true] at hreleases
      generalize owned.watcherPosition clientId false before.position now = position
      rcases hobserves.unpaused hcontrols hexplained hreleases.1 hplaying with hunpauses | hrecovers
      · have hlabel : playstateLabel clientId room session.username unpauses
          (.play room position) := ⟨rfl, hunpauses⟩
        exact one_step hlabel hpreparing rfl
      · have hlabel : playstateLabel clientId room session.username unpauses
          (.recover room position) := rfl
        exact one_step hlabel ⟨hpreparing, hrecovers⟩ rfl
    · next hsame =>
      rw [htransported]
      apply hplace false
      intro _
      have hunchanged : observation.pauseChanged = false := by simpa [hplaying] using hsame
      have hdiffers := hobserves.changed
      rw [hunchanged, hplaying] at hdiffers
      simpa using hdiffers.symm

theorem publishObservation_refines (hobserves : Observes s.ideal session.room unpauses observation)
    (hcontrols : observation.canControlRoom = true) (hexplained : observation.explained = true)
    (hpreparing : ¬ s.ideal.preparing session.room) (doSeek : Option Bool) (now : Seconds) :
    Refines (playstateLabel clientId session.room session.username unpauses) s
      (publishObservation clientId session observation doSeek now) := by
  unfold publishObservation
  apply follows_get_bind
  extract_lets ownership
  apply follows_modify_bind (commitObservation_steps s clientId session hobserves hcontrols
    hexplained hpreparing now)
  apply follows_get_bind
  extract_lets released room
  exact refines_bind (Invisible.refines (forcedStateFanout_invisible ..)) fun _ _ =>
    follows_pure _ _

theorem forceCanonicalState_invisible (s : ServerRuntime) (clientId : String)
    (playback : RoomPlaybackState) (paused doSeek : Bool) :
    Invisible s (forceCanonicalState clientId playback paused doSeek) :=
  refines_bind (forcedStateSyncMessageForClient_invisible ..) fun _ _ => follows_pure _ _

/-- An observation is still what it was in a state with the same pauses and owners. -/
theorem Observes.congr {x y : State} {room : String} (h : Observes x room unpauses observation)
    (hpaused : y.paused = x.paused) (hgate : y.gate = x.gate) :
    Observes y room unpauses observation where
  changed := by rw [hpaused, h.changed]
  user := h.user
  automatic := h.automatic
  unpaused := by
    rw [hgate]
    exact h.unpaused

theorem settle_keepsGate {x : State} (room : String) (l : Label) (h : settleLabel room l) :
    (effect x l).gate = x.gate := by
  cases l <;> first | rfl | exact h.elim

theorem applyPlaystate_refines (hsession : s.sessions[clientId]? = some session)
    (hpreparing : ¬ s.ideal.preparing session.room) (playstate : ServerPlaystate)
    (forwardDelay : Seconds) :
    Refines (playstateLabel clientId session.room session.username
        (s.mayUnpause clientId session playstate)) s
      (applyPlaystate clientId session playstate forwardDelay) := by
  unfold applyPlaystate
  apply follows_get_bind
  extract_lets now before observation
  have hobserves : Observes s.ideal session.room (s.mayUnpause clientId session playstate)
    observation := observeTransport_observes s clientId session playstate
  apply follows_modify_bind (recordObservation_steps hsession hpreparing observation playstate _ _)
  obtain ⟨position, hrecorded⟩ :=
    ideal_recordObservation s clientId observation playstate forwardDelay now
  generalize s.recordObservation clientId observation playstate forwardDelay now = t at hrecorded ⊢
  have ht : Observes t.ideal session.room (s.mayUnpause clientId session playstate)
      observation := by
    rw [hrecorded]
    exact hobserves.congr rfl rfl
  have hstill : ¬ t.ideal.preparing session.room := by
    rw [hrecorded]
    exact hpreparing
  split
  · apply follows_quiet_bind (ideal_storePendingUserTransport ..)
    exact Invisible.refines (forceCanonicalState_invisible ..)
  · next hexplains =>
    have hexplained : observation.explained = true := by
      rw [TransportObservation.explained, Bool.not_eq_true']
      exact Bool.eq_false_iff.mpr hexplains
    have hretire : Refines (settleLabel session.room) t
        (Prog.when (observation.acceptedV2UserTransport || observation.syncplayTransportChange)
          (retireAwaitingPlaybackBarrierDecision clientId session.room)) :=
      follows_when fun _ => retireAwaitingPlaybackBarrierDecision_refines t clientId session.room
    apply follows_bind (hretire.weaken playstate_of_settle)
    intro retired u hrun
    have hsettled := steps_of_run hretire hrun
    have hpaused : u.ideal.paused = t.ideal.paused :=
      frame_of_steps (fun l hl _ => effect_paused (settleLabel_keepsPaused session.room l hl))
        hsettled
    have hgate : u.ideal.gate = t.ideal.gate :=
      frame_of_steps (fun l hl _ => settle_keepsGate session.room l hl) hsettled
    split
    · exact follows_pure _ _
    · split
      · next hcontrols =>
        apply follows_bind (publishObservation_refines (ht.congr hpaused hgate) hcontrols hexplained
          (not_preparing_of_settles hsettled hstill) _ _)
        intro published v _
        exact follows_pure _ _
      · apply refines_bind (Invisible.refines (forcedStateSyncMessageForClient_invisible ..))
        intro echoed v
        exact refines_bind (Invisible.refines (forceCanonicalState_invisible ..)) fun _ _ =>
          follows_pure _ _

/-- Control is read off the ideal server. -/
theorem control_congr (hcontrollers : t.ideal.controllers = s.ideal.controllers)
    (hpasswords : t.ideal.passwords = s.ideal.passwords) :
    t.userCanControlPlaylist = s.userCanControlPlaylist := by
  funext username room
  show (!t.ideal.passwords.isControlledRoomName room || t.ideal.controllers room username) = _
  rw [hcontrollers, hpasswords]
  rfl

theorem handlePlaystate_refines (hsession : s.sessions[clientId]? = some session)
    (hpreparing : ¬ s.ideal.preparing session.room) (playstate : ServerPlaystate)
    (forwardDelay : Seconds) :
    Refines (playstateLabel clientId session.room session.username
        (s.mayUnpause clientId session playstate)) s
      (handlePlaystate clientId session playstate forwardDelay) := by
  unfold handlePlaystate
  apply follows_quiet_bind (ideal_ensureRoomState s session.room)
  apply follows_get_bind
  split
  · exact Invisible.refines (forceCanonicalState_invisible ..)
  · have hensured : (s.ensureRoomState session.room).sessions[clientId]? = some session := hsession
    have happlied : ¬ (s.ensureRoomState session.room).ideal.preparing session.room := by
      rwa [ideal_ensureRoomState]
    have hcontrols : (s.ensureRoomState session.room).userCanControlPlaylist =
        s.userCanControlPlaylist :=
      control_congr (by rw [ideal_ensureRoomState]) (by rw [ideal_ensureRoomState])
    apply (applyPlaystate_refines hensured happlied playstate forwardDelay).weaken
    intro l hl
    cases l with
    | play room position =>
      obtain ⟨hroom, hunpauses, hfree⟩ := hl
      rw [hcontrols] at hunpauses
      exact ⟨hroom, hunpauses, hfree⟩
    | _ => exact hl

/-! ### State messages -/

/-- What a State message does to its sender's room. -/
def stateLabel (s : ServerRuntime) (clientId : String) (session : ServerSession)
    (state : ServerStateCommand) (l : Label) : Prop :=
  reportedLabel session.room l ∨ reportLabel clientId session.room l ∨ ∃ playstate,
    state.playstate = some playstate ∧
      playstateLabel clientId session.room session.username
        (s.mayUnpause clientId session playstate) l

theorem stays_of_state {state : ServerStateCommand} (l : Label)
    (h : stateLabel s clientId session state l) : ¬ l.departs := by
  rcases h with h | (h | h | h) | ⟨playstate, -, h⟩ <;> cases l <;> first | exact id | exact h.elim

theorem reportedLabel_keepsSessions (room : String) (l : Label) (h : reportedLabel room l) :
    ¬ l.movesSessions := by
  cases l <;> first | exact id | exact h.elim

theorem reportLabel_keepsSessions (clientId room : String) (l : Label)
    (h : reportLabel clientId room l) : ¬ l.movesSessions := by
  rcases h with h | h | h <;> cases l <;> first | exact id | exact h.elim

theorem reportLabel_keepsGate (clientId room : String) (l : Label) (h : reportLabel clientId room l) :
    l ≠ .dissolve room := by
  rintro rfl
  rcases h with h | h | h <;> exact h

theorem reportLabel_keepsControllers (clientId room : String) (l : Label)
    (h : reportLabel clientId room l) : ¬ l.writesControllers := by
  rcases h with h | h | h <;> cases l <;> first | exact id | exact h.elim

/-- A governed room stays governed as long as its coordinator stays. -/
theorem governed_congr {room : String} (henabled : t.readinessEnabled = s.readinessEnabled)
    (hgate : (s.ideal.gate room).isSome = true → (t.ideal.gate room).isSome = true)
    (h : s.readinessGoverned room = true) : t.readinessGoverned room = true := by
  have hcontains : ∀ (x : ServerRuntime), x.readinessGoverned room =
      (x.readinessEnabled && (x.ideal.gate room).isSome) := by
    intro x
    show (x.readinessEnabled && x.roomReadiness.contains room) =
      (x.readinessEnabled && (x.roomReadiness[room]?.map _).isSome)
    rw [Option.isSome_map, Std.ExtTreeMap.contains_eq_isSome_getElem?]
  rw [hcontains, Bool.and_eq_true] at h ⊢
  exact ⟨henabled.trans h.1, hgate h.2⟩

/-- What may make a room play after an acknowledgement could have before it. -/
theorem mayUnpause_of_later {playstate : ServerPlaystate} (hforgets : Forgets s.staged t.staged)
    (hcontrols : t.userCanControlPlaylist = s.userCanControlPlaylist)
    (hgoverned : s.readinessGoverned session.room = true →
      t.readinessGoverned session.room = true)
    (h : t.mayUnpause clientId session playstate) : s.mayUnpause clientId session playstate := by
  obtain ⟨hunpauses, hungoverned | hsyncplay | hstaged⟩ := h <;> rw [hcontrols] at hunpauses
  · refine ⟨hunpauses, .inl ?_⟩
    by_contra hgoverns
    rw [hgoverned (by simpa using hgoverns)] at hungoverned
    exact absurd hungoverned (by simp)
  · exact ⟨hunpauses, .inr (.inl hsyncplay)⟩
  · obtain ⟨pending, hpending, hplays⟩ := hstaged
    exact ⟨hunpauses, .inr (.inr ⟨pending, hforgets clientId pending hpending, hplays⟩)⟩

/-- Without an acknowledgement in it, a State stages nothing before its playstate is read. -/
theorem forgets_of_extension {extension : Option PlaybackBarrierStateExtension}
    (hfree : ∀ e, extension = some e → e.ready = none ∧ e.started = none)
    {a : Except ServerRuntimeError Outbound}
    (hrun : Prog.onSome (handlePlaybackBarrierState clientId) extension s = (a, t)) :
    Forgets s.staged t.staged := by
  have hnothing : StagesNothing s
      (Prog.onSome (handlePlaybackBarrierState clientId) extension) := by
    apply follows_onSome
    intro e he
    obtain ⟨hready, hstarted⟩ := hfree e he
    exact handlePlaybackBarrierState_stagesNothing s clientId hready hstarted
  unfold StagesNothing Follows after at hnothing
  rw [hrun] at hnothing
  exact forgets_of_run hnothing

theorem handleState_refines (hsession : s.sessions[clientId]? = some session)
    (state : ServerStateCommand) (forwardDelay : Seconds) :
    Refines (stateLabel s clientId session state) s
      (handleState clientId state forwardDelay) := by
  unfold handleState
  apply follows_get_bind
  rw [hsession]
  dsimp only
  have hacknowledged := ideal_acknowledgeState s clientId session.room state
  have hstaged := staged_acknowledgeState s clientId session.room state
  have hheld : (s.acknowledgeState clientId session.room state).sessions[clientId]? =
      some session := (congrFun (congrArg State.sessions hacknowledged) clientId).trans hsession
  apply follows_quiet_bind hacknowledged
  generalize s.acknowledgeState clientId session.room state = s₀ at hheld hacknowledged hstaged ⊢
  have htechnical := handleReadinessState_refines s₀ clientId session state.readiness hheld
  apply follows_bind (htechnical.weaken fun l hl => .inl hl)
  intro technical t hrun
  have ht := session_after (reportedLabel_keepsSessions session.room) htechnical hrun hheld
  have hbarrier : Refines (reportLabel clientId session.room) t
      (Prog.onSome (handlePlaybackBarrierState clientId) state.playbackBarrier) :=
    follows_onSome fun extension _ => handlePlaybackBarrierState_refines t clientId session
      extension ht
  apply follows_bind (hbarrier.weaken fun l hl => .inr (.inl hl))
  intro barrier u hrun'
  have hu := session_after (reportLabel_keepsSessions clientId session.room) hbarrier hrun' ht
  apply follows_get_bind
  split
  · exact follows_pure _ _
  · next playstate hplaystate =>
    split
    · exact follows_pure _ _
    · next hfree =>
      simp only [Bool.or_eq_true, not_or, Bool.not_eq_true] at hfree
      obtain ⟨⟨-, ⟨hreadiness, hextension⟩, -⟩, hphase⟩ := hfree
      have hpreparing : ¬ u.ideal.preparing session.room := by
        rintro ⟨b, hb, hphase'⟩
        have hpreparing : u.barrierPhase session.room = some .preparing := by
          rw [barrierPhase, show u.roomPlaybackBarriers[session.room]? = some b from hb,
            Option.map_some, hphase']
        simp [hpreparing] at hphase
      -- nothing was acknowledged, so no Play was staged on the way
      have hquiet : t = s₀ := by
        rw [Option.isSome_eq_false_iff, Option.isNone_iff_eq_none] at hreadiness
        rw [hreadiness] at hrun
        cases hrun
        rfl
      have hacknowledges : ∀ e, state.playbackBarrier = some e →
          e.ready = none ∧ e.started = none := by
        intro e he
        rw [he] at hextension
        simpa using hextension
      have hforgets : Forgets s.staged u.staged := by
        rw [← hstaged, ← hquiet]
        exact forgets_of_extension hacknowledges hrun'
      have hsteps : Relation.ReflTransGen (Steps (reportLabel clientId session.room))
          s.ideal u.ideal := by
        rw [← hacknowledged, ← hquiet]
        exact steps_of_run hbarrier hrun'
      have hgoverned : s.readinessGoverned session.room = true →
          u.readinessGoverned session.room = true := by
        have henabled : u.ideal.readinessEnabled = s.ideal.readinessEnabled :=
          frame_of_steps (fun l _ _ => effect_readinessEnabled _ l) hsteps
        exact governed_congr henabled
          (gate_of_steps (reportLabel_keepsGate clientId session.room) hsteps)
      have hcontrols : u.userCanControlPlaylist = s.userCanControlPlaylist := control_congr
        (frame_of_steps (fun l hl _ => effect_controllers
          (reportLabel_keepsControllers clientId session.room l hl)) hsteps)
        (frame_of_steps (fun l _ _ => effect_passwords _ l) hsteps)
      apply follows_bind ((handlePlaystate_refines hu hpreparing playstate forwardDelay).weaken ?_)
      · intro outbound v _
        exact follows_pure _ _
      · intro l hl
        refine .inr (.inr ⟨playstate, hplaystate, ?_⟩)
        cases l with
        | play room position => exact ⟨hl.1, mayUnpause_of_later hforgets hcontrols hgoverned hl.2⟩
        | _ => exact hl

end Sorotte.Server
