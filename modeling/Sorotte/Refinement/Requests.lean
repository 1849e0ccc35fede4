import Sorotte.Ideal.Frames
import Sorotte.Refinement.Start

/-! # Refinement: admission of requests

  Retries, owner rebinding, rates and replay capacity on the way to an accepted
  prepare, and the configuration of buffering policies.
-/

namespace Sorotte.Server

open Sorotte.Framework Sorotte.Framework.Prog Sorotte.Ideal

/-! ### Owner rebinding -/

/-- A newer connection takes over what its client owns in a room. -/
def rebindLabel (clientId room : String) : Label → Prop
  | .rebind c session _ _ => c = clientId ∧ session.room = room
  | .restorePolicy r => r = room
  | _ => False

namespace ServerRuntime

@[simp] theorem ideal_fenceAndClose (s : ServerRuntime) (clientId : String) :
    (s.fenceAndClosePlaybackBarrierTransport clientId).ideal = s.ideal := by
  unfold fenceAndClosePlaybackBarrierTransport requestTransportClose
  split <;> rfl

@[simp] theorem ideal_fenceIfConnected (s : ServerRuntime) (clientId : String) :
    (s.fenceIfConnected clientId).ideal = s.ideal := by
  unfold fenceIfConnected
  split
  · exact ideal_fenceAndClose s clientId
  · rfl

/-- A rebound policy keeps its configuration or returns to the requested one. -/
theorem updateControl_restores (s : ServerRuntime) (clientId room : String)
    (f : RoomBufferingControl → RoomBufferingControl)
    (h : ∀ control, (f control).ideal = control.ideal ∨
      (f control).ideal = { control.ideal with
        mediaGeneration := control.requestedConfig.mediaGeneration }) :
    Relation.ReflTransGen (Steps (rebindLabel clientId room)) s.ideal
      (s.updateControl room f).ideal := by
  rw [ideal_updateControl]
  cases hcontrol : s.roomBufferingControls[room]? with
  | none =>
    have hpolicy : s.ideal.policy room = none := by simp [ideal, hcontrol]
    rw [Option.map_none, Option.map_none, ← hpolicy, setPolicy_policy]
  | some control =>
    have hpolicy : s.ideal.policy room = some control.ideal := by simp [ideal, hcontrol]
    rw [Option.map_some, Option.map_some]
    rcases h control with hsame | hrestored
    · rw [hsame, ← hpolicy, setPolicy_policy]
    · refine one_step (l := .restorePolicy room) rfl trivial ?_
      rw [hrestored, effect, State.restorePolicy, hpolicy]
      rfl

theorem reboundControl_ideal (control : RoomBufferingControl)
    (oldClientId clientId username : String) :
    (reboundControl control oldClientId clientId username).ideal = control.ideal ∨
    (reboundControl control oldClientId clientId username).ideal = { control.ideal with
      mediaGeneration := control.requestedConfig.mediaGeneration } := by
  unfold reboundControl
  cases control.retiredForSelection with
  | true => exact .inl rfl
  | false => exact .inr rfl

theorem rebindPlaybackBarrierOwner_steps (s : ServerRuntime) (clientId : String)
    (session : ServerSession) (sequence : Nat) (b : RoomPlaybackBarrier)
    (hsession : s.sessions[clientId]? = some session)
    (hbarrier : s.roomPlaybackBarriers[session.room]? = some b) :
    Relation.ReflTransGen (Steps (rebindLabel clientId session.room)) s.ideal
      (s.rebindPlaybackBarrierOwner clientId session.username session.room sequence b).ideal := by
  unfold rebindPlaybackBarrierOwner
  extract_lets oldClientId rebound fenced
  have hrebound : rebound.ideal = (s.ideal.setBarrier session.room
      (some (reboundBarrier b clientId session.username sequence))).record
        [.ownerRebound session.room b.prepare.mediaGeneration b.initiatorClientId clientId] :=
    congrArg (State.record · [.ownerRebound session.room b.prepare.mediaGeneration
      b.initiatorClientId clientId]) (ideal_setBarriers s session.room
        (some (reboundBarrier b clientId session.username sequence)) _ (lookup_insert _ _ _))
  have hfenced : fenced.ideal = rebound.ideal := by
    show (if oldClientId != clientId then rebound.fenceIfConnected oldClientId
      else rebound).ideal = _
    split
    · exact ideal_fenceIfConnected _ _
    · rfl
  have hrebind : Relation.ReflTransGen (Steps (rebindLabel clientId session.room)) s.ideal
      fenced.ideal :=
    one_step (l := .rebind clientId session sequence b) ⟨rfl, rfl⟩ ⟨hsession, hbarrier⟩
      (hfenced.trans hrebound)
  refine hrebind.trans (updateControl_restores fenced clientId session.room _ fun control => ?_)
  split
  · exact reboundControl_ideal control oldClientId clientId session.username
  · exact .inl rfl

end ServerRuntime

theorem rebindPlaybackBarrierOwnerIfNewer_refines (s : ServerRuntime) (clientId : String)
    (session : ServerSession) (h : s.sessions[clientId]? = some session) :
    Refines (rebindLabel clientId session.room) s
      (rebindPlaybackBarrierOwnerIfNewer clientId session.room) := by
  refine follows_get_bind ?_
  split
  · next sequence session' b _ hsession hbarrier =>
    obtain rfl : session = session' := Option.some.inj (h.symm.trans hsession)
    split
    · exact follows_pure _ _
    · exact follows_modify_bind (s.rebindPlaybackBarrierOwner_steps clientId session sequence b h
        hbarrier) (follows_pure _ _)
  · exact follows_pure _ _

theorem rebindRoomBufferingOwnerIfNewer_refines (s : ServerRuntime) (clientId room : String) :
    Refines (rebindLabel clientId room) s (rebindRoomBufferingOwnerIfNewer clientId room) := by
  refine follows_get_bind ?_
  split
  · next session _ control _ _ _ =>
    dsimp only
    split
    · exact follows_pure _ _
    · refine follows_modify ?_
      rw [ServerRuntime.rebindRoomBufferingOwner, ServerRuntime.ideal_fenceIfConnected]
      exact s.updateControl_restores clientId room _ fun control =>
        ServerRuntime.reboundControl_ideal control _ _ _
  · exact follows_pure _ _

/-! ### Admission of a prepare -/

/-- What a start request does to the sender's room. -/
def startLabel (clientId room : String) : Label → Prop
  | .prune => True
  | .settle r _ _ | .retain r _ | .prepare r _ => r = room
  | l => rebindLabel clientId room l

/-- Asking for a new identity touches only the rate windows. -/
theorem newIdentityRetryAfterMillis_run (s : ServerRuntime) (clientId room : String)
    (requestId : Option String) (nonce : Nat) :
    ∃ out byClient byRoom,
      playbackBarrierNewIdentityRetryAfterMillis clientId room requestId nonce s =
        (.ok out, { s with
          playbackBarrierNewIdentityRateByClient := byClient
          playbackBarrierNewIdentityRateByRoom := byRoom }) := by
  simp only [playbackBarrierNewIdentityRetryAfterMillis, modify_bind_run, get_bind_run]
  cases s.prunePlaybackBarrierNewIdentityRateHistory.newIdentityRetryAfterMillis clientId room
      requestId nonce with
  | some retryAfter => exact ⟨_, _, _, rfl⟩
  | none =>
    simp only [modify_bind_run, ServerRuntime.chargeNewIdentity]
    split
    · exact ⟨_, _, _, rfl⟩
    · split
      · exact ⟨_, _, _, rfl⟩
      · exact ⟨_, _, _, rfl⟩

theorem follows_newIdentity {allowed : Label → Prop} {β : Type} (s : ServerRuntime)
    (clientId room : String) (requestId : Option String) (nonce : Nat)
    {k : Option Nat → ServerM β}
    (h : ∀ out byClient byRoom, Refines allowed { s with
      playbackBarrierNewIdentityRateByClient := byClient
      playbackBarrierNewIdentityRateByRoom := byRoom } (k out)) :
    Refines allowed s
      (playbackBarrierNewIdentityRetryAfterMillis clientId room requestId nonce >>= k) := by
  obtain ⟨out, byClient, byRoom, hrun⟩ :=
    newIdentityRetryAfterMillis_run s clientId room requestId nonce
  refine follows_bind ?_ fun a t hrun' => ?_
  · unfold Follows after
    rw [hrun]
    exact .refl
  · rw [hrun] at hrun'
    obtain ⟨hout, rfl⟩ := Prod.mk.inj hrun'
    obtain rfl := Except.ok.inj hout
    exact h out byClient byRoom

theorem prune_refines_bind {allowed : Label → Prop} {β : Type} {s : ServerRuntime}
    {k : Unit → ServerM β} (hprune : allowed .prune)
    (h : Refines allowed s.prunePlaybackBarrierRequestTombstones (k ())) :
    Refines allowed s (Prog.modify (·.prunePlaybackBarrierRequestTombstones) >>= k) :=
  follows_modify_bind (one_step hprune s.prune_step.1 s.prune_step.2) h

/-- An accepted decision replaces no running start but the sender's own. -/
theorem prepareDecision_idle (barrier : Option RoomPlaybackBarrier) (clientId : String)
    (sequence : Nat) (prepare : PrepareMediaRequest) (logicalMediaId : String)
    (loadIntent : MediaLoadIntent)
    (h : prepareDecision barrier clientId sequence prepare logicalMediaId =
      .accept false loadIntent) (b : RoomPlaybackBarrier) (hb : barrier = some b) :
    ¬ active b := by
  subst hb
  intro hactive
  unfold prepareDecision at h
  dsimp only at h
  split at h
  · split at h <;> cases h
  · unfold active at hactive
    rw [if_pos hactive] at h
    generalize (b.initiatorClientId == clientId && b.initiatorSessionSequence == sequence && _) =
      own at h
    cases own <;> cases h

/-- A transport refresh is never accepted as a new start. -/
theorem prepareDecision_intent (barrier : Option RoomPlaybackBarrier) (clientId : String)
    (sequence : Nat) (prepare : PrepareMediaRequest) (logicalMediaId : String)
    (supersedes : Bool) (loadIntent : MediaLoadIntent)
    (h : prepareDecision barrier clientId sequence prepare logicalMediaId =
      .accept supersedes loadIntent) : prepare.loadIntent ≠ .transportRefresh := by
  intro hrefresh
  unfold prepareDecision at h
  rw [hrefresh] at h
  split at h
  · cases h
  · dsimp only at h
    rw [if_pos rfl] at h
    split at h <;> cases h

theorem prune_tombstone_none {s : ServerRuntime} {room id : String}
    (h : s.ideal.tombstone room id = none) :
    s.prunePlaybackBarrierRequestTombstones.ideal.tombstone room id = none := by
  rw [s.prune_step.2]
  show (s.ideal.tombstone room id).filter _ = none
  rw [h]
  rfl

theorem admitPrepare_refines (s : ServerRuntime) (clientId : String) (session : ServerSession)
    (sequence : Nat) (prepare : PrepareMediaRequest) (logicalMediaId : String) (target : Seconds)
    (hsession : s.sessions[clientId]? = some session)
    (hfenced : s.playbackBarrierFencedClients.contains clientId = false)
    (hauthorized : s.prepareIsAuthorized session prepare = true)
    (hcurrent : ∀ b id, s.ideal.barrier session.room = some b → b.prepare.requestId = some id →
      prepare.requestId ≠ some id)
    (hfresh : ∀ id, prepare.requestId = some id → s.ideal.tombstone session.room id = none) :
    Refines (startLabel clientId session.room) s
      (admitPrepare clientId session sequence prepare logicalMediaId target) := by
  refine follows_newIdentity s clientId session.room _ _ fun out byClient byRoom => ?_
  split
  · exact follows_pure _ _
  · refine follows_get_bind (prune_refines_bind trivial (follows_get_bind ?_))
    generalize hdisplaced : (if prepare.loadIntent = .transportRefresh then _ else _) = displaced
    split
    · exact follows_pure _ _
    · refine follows_quiet_bind rfl ?_
      split
      · exact follows_pure _ _
      · exact follows_gets _ _
      · next supersedes loadIntent hdecision =>
        have hintent := prepareDecision_intent _ _ _ _ _ _ _ hdecision
        refine Refines.weaken (acceptPrepare_refines _ clientId session sequence prepare
          logicalMediaId target _ supersedes loadIntent ?_) fun l hl => ?_
        · simp only [ServerRuntime.prepareIsAuthorized, Bool.and_eq_true, Bool.or_eq_true,
            Bool.not_eq_true'] at hauthorized
          rw [if_neg hintent] at hdisplaced
          subst hdisplaced
          refine ⟨hsession, hfenced, hauthorized.1.1.1.1.1.1, fun hgoverned => ?_, ?_, ?_, ?_⟩
          · rcases hauthorized.1.1.1.1.1.2 with hfree | hready
            · have hgoverned' : s.readinessGoverned session.room = true := hgoverned
              rw [hfree] at hgoverned'
              cases hgoverned'
            · exact hready
          · intro b id hb hid
            exact ⟨s.mem_displaced_of_barrier session.room prepare.requestId true b id hb hid
              (hcurrent b id hb hid), hcurrent b id hb hid⟩
          · intro id hid
            refine ⟨prune_tombstone_none (hfresh id hid), ?_⟩
            rw [hid]
            exact s.not_mem_displaced session.room true true id
          · rintro rfl b hb
            exact prepareDecision_idle _ _ _ _ _ _ hdecision b hb
        · cases l <;> first | exact hl | exact hl.elim

theorem startPlaybackBarrier_refines (s : ServerRuntime) (clientId : String)
    (session : ServerSession) (prepare : PrepareMediaRequest)
    (hsession : s.sessions[clientId]? = some session)
    (hfenced : s.playbackBarrierFencedClients.contains clientId = false) :
    Refines (startLabel clientId session.room) s (startPlaybackBarrier clientId prepare) := by
  refine follows_get_bind ?_
  rw [hsession]
  dsimp only
  split
  · next target sequence _ _ =>
    split
    · exact follows_pure _ _
    · next hauthorized =>
      split
      · next b hcurrent =>
        unfold retryCurrentPrepare
        split
        · refine follows_quiet_bind rfl (refines_bind ?_ fun _ _ => ?_)
          · exact Refines.weaken (rebindPlaybackBarrierOwnerIfNewer_refines _ clientId session
              hsession) fun l hl => by cases l <;> first | exact hl | exact hl.elim
          · exact follows_get_bind (follows_pure _ _)
        · exact follows_pure _ _
      · next hcurrent =>
        split
        · exact follows_pure _ _
        · refine prune_refines_bind trivial (follows_get_bind ?_)
          split
          · exact follows_pure _ _
          · next hretained =>
            split
            · split <;> exact follows_pure _ _
            · refine admitPrepare_refines _ clientId session sequence prepare _ target hsession
                hfenced (show s.prepareIsAuthorized session prepare = true by
                  simpa using hauthorized) (fun b id hb hid hsame => ?_) fun id hid => ?_
              · have hb' : s.roomPlaybackBarriers[session.room]? = some b := hb
                rw [hb', hsame] at hcurrent
                simp [Option.filter, hid] at hcurrent
              · rw [hid] at hretained
                have hnone : s.prunePlaybackBarrierRequestTombstones.requestTombstone session.room
                    id = none := by
                  simpa using hretained
                show Option.map _ _ = none
                rw [hnone]
                rfl
  · exact follows_pure _ _

/-! ### Configuration of a policy -/

/-- What a policy request does to the sender's room.  Only an unpaired policy
    moves the coordinator, and a client-chosen generation is the `named` one. -/
def configureLabel (clientId room : String) (named : Nat) (paired : Bool) : Label → Prop
  | .prune | .allocate => True
  | .configure r generation source => r = room ∧ (source = .explicit → generation = named)
  | .follow r generation source =>
      paired = false ∧ r = room ∧ (source = .explicit → generation = named)
  | .retain r _ | .drop r | .release r | .hold r _ _ | .resume r _ | .relax r => r = room
  | l => rebindLabel clientId room l

theorem allows_congr {source : PolicySource} {t t' : State} {room : String}
    {generation : Nat} (h : source.Allows t room generation)
    (hbarrier : t'.barrier room = t.barrier room) (hgeneration : t'.generation = t.generation)
    (hpolicy : (t'.policy room).map Policy.mediaGeneration =
      (t.policy room).map Policy.mediaGeneration) : source.Allows t' room generation := by
  cases source with
  | explicit =>
    refine ⟨h.1, fun b hb => h.2 b ?_⟩
    rw [← hbarrier]
    exact hb
  | paired =>
    obtain ⟨b, hb, heq⟩ := h
    exact ⟨b, hbarrier.trans hb, heq⟩
  | inherited =>
    obtain ⟨hnone, k, hk, heq⟩ := h
    rw [hk] at hpolicy
    obtain ⟨k', hk', hsame⟩ := Option.map_eq_some_iff.mp hpolicy
    exact ⟨hbarrier.trans hnone, k', hk', heq.trans hsame.symm⟩
  | allocated =>
    refine ⟨h.1, h.2.1.trans hgeneration.symm, fun b hb => h.2.2 b ?_⟩
    rw [← hbarrier]
    exact hb

namespace ServerRuntime

section configure

variable {clientId : String} {named : Nat} {paired : Bool}

/-- A policy-only lifecycle retains what it displaces, then drops the ended
    start it replaces. -/
theorem clearedForPolicy_steps (s : ServerRuntime) (room : String)
    (config : RoomBufferingPolicyPayload)
    (displaced : BTreeMap String DisplacedPlaybackBarrierRequest) (replace : Bool)
    (hended : replace = true → ∀ b, s.ideal.barrier room = some b → ¬ active b ∧
      ∀ id, b.prepare.requestId = some id → id ∈ displaced) :
    Relation.ReflTransGen (Steps (configureLabel clientId room named paired)) s.ideal
      (s.clearedForPolicy room config displaced replace).ideal := by
  have hretain := s.retainDisplaced_steps room displaced
  set retained := s.retainDisplacedPlaybackBarrierRequests room displaced with hretained
  have hretains : Relation.ReflTransGen (Steps (configureLabel clientId room named paired)) s.ideal
      retained.ideal := one_step (l := .retain room displaced.keys) rfl hretain.1 hretain.2
  unfold clearedForPolicy
  rw [← hretained]
  cases replace with
  | false => exact hretains
  | true =>
    dsimp only
    rw [if_pos rfl, replaceRoomBarrierParticipantStatusScope]
    have hdropped := ideal_setBarriers
      (retained.advanceParticipantStatusMediaGeneration room (some config.mediaGeneration)) room
      none _ (lookup_erase _ _)
    rw [ideal_advanceParticipantStatusMediaGeneration] at hdropped
    have hdrop : Relation.ReflTransGen (Steps (configureLabel clientId room named paired))
        retained.ideal (retained.ideal.setBarrier room none) := by
      refine one_step (l := .drop room) rfl (fun b hb => ?_) rfl
      have hb' : s.ideal.barrier room = some b := by
        rw [hretain.2] at hb
        exact hb
      obtain ⟨hidle, hcovered⟩ := hended rfl b hb'
      refine ⟨hidle, fun id hid => ?_⟩
      rw [hretain.2]
      show requestStatus room id (displaced.keys.map (Event.requestDisplaced room · s.ideal.now) ++
        s.ideal.history) ≠ _
      rw [requestStatus_displaced room id _ _ _ (Std.ExtTreeMap.mem_keys.mpr (hcovered id hid))]
      exact fun h => by cases h
    rw [← hdropped] at hdrop
    refine (hretains.trans hdrop).trans ?_
    refine Relation.ReflTransGen.mono (Steps.mono fun l hl => ?_) _ _ (clearReadinessGate_steps _ _)
    obtain rfl := hl
    exact rfl

theorem clearedForPolicy_barrier (s : ServerRuntime) (room : String)
    (config : RoomBufferingPolicyPayload)
    (displaced : BTreeMap String DisplacedPlaybackBarrierRequest) (replace : Bool) :
    (s.clearedForPolicy room config displaced replace).ideal.barrier room =
      if replace then none else s.ideal.barrier room := by
  unfold clearedForPolicy
  cases replace with
  | false =>
    show (s.retainDisplacedPlaybackBarrierRequests room displaced).roomPlaybackBarriers[room]? = _
    rw [retainDisplaced_barriers]
    rfl
  | true =>
    show (Std.ExtTreeMap.erase _ room)[room]? = none
    exact Std.ExtTreeMap.getElem?_erase_self

theorem clearedForPolicy_controls (s : ServerRuntime) (room : String)
    (config : RoomBufferingPolicyPayload)
    (displaced : BTreeMap String DisplacedPlaybackBarrierRequest) (replace : Bool) :
    (s.clearedForPolicy room config displaced replace).roomBufferingControls =
      s.roomBufferingControls := by
  unfold clearedForPolicy
  cases replace with
  | false => exact retainDisplaced_controls s room displaced
  | true => exact retainDisplaced_controls s room displaced

theorem clearedForPolicy_generation (s : ServerRuntime) (room : String)
    (config : RoomBufferingPolicyPayload)
    (displaced : BTreeMap String DisplacedPlaybackBarrierRequest) (replace : Bool) :
    (s.clearedForPolicy room config displaced replace).nextPlaybackBarrierGeneration =
      s.nextPlaybackBarrierGeneration := by
  have hretained : (s.retainDisplacedPlaybackBarrierRequests room displaced
      ).nextPlaybackBarrierGeneration = s.nextPlaybackBarrierGeneration := by
    unfold retainDisplacedPlaybackBarrierRequests
    split <;> rfl
  unfold clearedForPolicy
  cases replace with
  | false => exact hretained
  | true => exact hretained

/-- A policy that held the room's pause releases it before the new one is
    stored. -/
theorem storePolicy_steps (s : ServerRuntime) (room username : String) (now : Seconds)
    (control : RoomBufferingControl) (generation : Nat) (source : PolicySource)
    (hcontrol : control.ideal = ⟨generation, generation, false⟩)
    (hallows : source.Allows s.ideal room generation)
    (hnamed : source = .explicit → generation = named) :
    Relation.ReflTransGen (Steps (configureLabel clientId room named paired)) s.ideal
      ((s.releasePolicyPause room username now).installControl room control).ideal := by
  have hstore : ∀ t : State, source.Allows t room generation →
      Relation.ReflTransGen (Steps (configureLabel clientId room named paired)) t
        (t.setPolicy room (some control.ideal)) := fun t ht =>
    one_step (l := .configure room generation source) ⟨rfl, hnamed⟩ ht (by rw [hcontrol]; rfl)
  rw [ideal_installControl]
  unfold releasePolicyPause
  split
  · next hpaused =>
    obtain ⟨held, hheld, hpaused⟩ : ∃ held, s.roomBufferingControls[room]? = some held ∧
        held.pausedByPolicy = true := by
      cases hcontrols : s.roomBufferingControls[room]? with
      | none => simp [hcontrols] at hpaused
      | some held => exact ⟨held, rfl, by simpa [hcontrols] using hpaused⟩
    have hpolicy : s.ideal.policy room = some held.ideal := by simp [ideal, hheld]
    by_cases happlies : s.roomBufferingTransitionApplies room .resume = true
    · rw [ideal_applyRoomBufferingTransition s room .resume username now .none
        (by simp [roomBufferingTransitionOwner, hheld]) happlies]
      generalize (s.roomPlaybackStateAt room now).position = position
      set resumed := effect s.ideal (.resume room position) with hresumed
      have hresume : Relation.ReflTransGen (Steps (configureLabel clientId room named paired))
          s.ideal resumed :=
        one_step (l := .resume room position) rfl ⟨⟨_, hpolicy, hpaused⟩, fun g hg =>
          gate_of_resume_applies s room held hheld happlies g hg⟩ rfl
      have hallows' : source.Allows resumed room generation := by
        refine allows_congr hallows rfl rfl ?_
        show Option.map _ (Function.update s.ideal.policy room _ room) = _
        rw [Function.update_self, hpolicy]
        rfl
      have hsame : resumed.setPolicy room (some control.ideal) =
          ((s.ideal.setTransport room false position).setOwner room .none).setPolicy room
            (some control.ideal) := by
        rw [hresumed]
        simp only [effect, State.relax, State.setTransport, State.setPlayback, State.seed,
          State.setOwner, State.setPolicy, Function.update_idem]
        rfl
      exact hsame ▸ hresume.trans (hstore resumed hallows')
    · rw [applyRoomBufferingTransition_of_not_applies s room .resume username now happlies]
      exact hstore s.ideal hallows
  · exact hstore s.ideal hallows

theorem releasePolicyPause_barrier (s : ServerRuntime) (room username : String) (now : Seconds) :
    (s.releasePolicyPause room username now).ideal.barrier = s.ideal.barrier := by
  unfold releasePolicyPause
  split
  · next hpaused =>
    by_cases happlies : s.roomBufferingTransitionApplies room .resume = true
    · cases hcontrols : s.roomBufferingControls[room]? with
      | none => simp [hcontrols] at hpaused
      | some held =>
        rw [ideal_applyRoomBufferingTransition s room .resume username now .none
          (by simp [roomBufferingTransitionOwner, hcontrols]) happlies]
        rfl
    · rw [applyRoomBufferingTransition_of_not_applies s room .resume username now happlies]
  · rfl

/-- The coordinator follows an unpaired policy. -/
theorem followTechnicalGeneration_steps (s : ServerRuntime) (room : String) (generation : Nat)
    (source : PolicySource) (hpaired : paired = false)
    (hpolicy : ∃ k, s.ideal.policy room = some k ∧ generation = k.mediaGeneration)
    (hexplicit : source = .explicit → ∀ b, s.ideal.barrier room = some b →
      b.prepare.mediaGeneration ≤ generation)
    (hidle : source ≠ .explicit → ∀ b, s.ideal.barrier room = some b → ¬ active b)
    (hnamed : source = .explicit → generation = named) :
    Relation.ReflTransGen (Steps (configureLabel clientId room named paired)) s.ideal
      (s.followTechnicalGeneration room generation).ideal := by
  unfold followTechnicalGeneration
  split
  · exact .refl
  · cases henabled : s.readinessEnabled with
    | false =>
      rw [ideal_replaceReadinessGeneration_disabled s room (some generation) false henabled]
    | true =>
      exact one_step (l := .follow room generation source) ⟨hpaired, rfl, hnamed⟩
        ⟨hpolicy, hexplicit, hidle⟩
        (ideal_replaceReadinessGeneration_free s room (some generation) henabled)

theorem installPolicy_steps (s : ServerRuntime) (username room : String)
    (config : RoomBufferingPolicyPayload)
    (displaced : BTreeMap String DisplacedPlaybackBarrierRequest) (replace : Bool) (now : Seconds)
    (source : PolicySource) (hallows : source.Allows s.ideal room config.mediaGeneration)
    (hnamed : source = .explicit → config.mediaGeneration = named)
    (hpaired : paired = false → source ≠ .paired)
    (hended : replace = true → source = .allocated ∧ ∀ b, s.ideal.barrier room = some b →
      ∀ id, b.prepare.requestId = some id → id ∈ displaced) :
    Relation.ReflTransGen (Steps (configureLabel clientId room named paired)) s.ideal
      (s.installPolicy clientId username room config displaced replace paired now).ideal := by
  unfold installPolicy
  set cleared := s.clearedForPolicy room config displaced replace with hcleared
  have hclear : Relation.ReflTransGen (Steps (configureLabel clientId room named paired)) s.ideal
      cleared.ideal := by
    refine s.clearedForPolicy_steps room config displaced replace fun hreplace b hb => ?_
    obtain ⟨rfl, hcovered⟩ := hended hreplace
    exact ⟨hallows.2.2 b hb, hcovered b hb⟩
  have hallows' : source.Allows cleared.ideal room config.mediaGeneration := by
    have hbarrier := s.clearedForPolicy_barrier room config displaced replace
    have hgeneration := s.clearedForPolicy_generation room config displaced replace
    cases replace with
    | false =>
      refine allows_congr hallows hbarrier hgeneration ?_
      show Option.map _ (Option.map _ (s.clearedForPolicy room config displaced
        false).roomBufferingControls[room]?) = _
      rw [s.clearedForPolicy_controls]
      rfl
    | true =>
      obtain ⟨rfl, -⟩ := hended rfl
      refine ⟨hallows.1, hallows.2.1.trans hgeneration.symm, fun b hb => ?_⟩
      rw [hbarrier] at hb
      cases hb
  set released := cleared.releasePolicyPause room username now with hreleased
  have hstore : Relation.ReflTransGen (Steps (configureLabel clientId room named paired))
      cleared.ideal (released.installControl room (newControl clientId username config)).ideal :=
    storePolicy_steps cleared room username now (newControl clientId username config)
      config.mediaGeneration source rfl hallows' hnamed
  dsimp only
  cases paired with
  | true => exact hclear.trans hstore
  | false =>
    refine (hclear.trans hstore).trans ?_
    have hbarrier : (released.installControl room (newControl clientId username config)
        ).ideal.barrier room = cleared.ideal.barrier room :=
      congrFun (releasePolicyPause_barrier cleared room username now) room
    refine followTechnicalGeneration_steps _ room config.mediaGeneration source rfl ?_ ?_ ?_ hnamed
    · refine ⟨(newControl clientId username config).ideal, ?_, rfl⟩
      rw [ideal_installControl]
      exact Function.update_self ..
    · rintro rfl b hb
      exact hallows'.2 b (hbarrier ▸ hb)
    · intro hsource b hb
      have hb' : cleared.ideal.barrier room = some b := hbarrier ▸ hb
      cases source with
      | explicit => exact (hsource rfl).elim
      | paired => exact (hpaired rfl rfl).elim
      | inherited =>
        rw [hallows'.1] at hb'
        cases hb'
      | allocated => exact hallows'.2.2 b hb'

end configure

end ServerRuntime

section configure

variable {named : Nat}

theorem publishTechnicalGeneration_invisible (s : ServerRuntime) (room : String) (moved : Bool)
    (previous : BTreeMap String Bool) :
    Invisible s (publishTechnicalGeneration room moved previous) := by
  unfold publishTechnicalGeneration
  split
  · exact publishReplacedReadinessGeneration_invisible ..
  · exact follows_pure _ _

theorem installRoomBufferingPolicy_refines (s : ServerRuntime) (clientId : String)
    (session : ServerSession) (requested : RoomBufferingPolicyPayload)
    (displaced : BTreeMap String DisplacedPlaybackBarrierRequest) (replace targeted paired : Bool)
    (source : PolicySource)
    (hallows : s.acceptsPolicyGeneration session.room requested = true →
      source.Allows s.ideal session.room requested.mediaGeneration)
    (hnamed : source = .explicit → requested.mediaGeneration = named)
    (hpaired : paired = false → source ≠ .paired)
    (hended : replace = true → source = .allocated ∧
      ∀ b, s.ideal.barrier session.room = some b →
        ∀ id, b.prepare.requestId = some id → id ∈ displaced) :
    Refines (configureLabel clientId session.room named paired) s
      (installRoomBufferingPolicy clientId session requested displaced replace targeted paired) := by
  refine follows_get_bind ?_
  dsimp only
  split
  · exact follows_pure _ _
  · next haccepted =>
    refine follows_modify_bind (s.installPolicy_steps session.username session.room
      (normalizedPolicyConfig requested) displaced replace s.currentTimeSeconds source
      (hallows (by simpa using haccepted)) hnamed hpaired hended) ?_
    split
    · refine refines_bind (Invisible.refines (publishRoomBufferingTransition_invisible ..))
        fun _ _ => ?_
      exact refines_bind (Invisible.refines (publishTechnicalGeneration_invisible ..))
        fun _ _ => follows_get_bind (follows_pure _ _)
    · refine follows_pure_bind ?_
      exact refines_bind (Invisible.refines (publishTechnicalGeneration_invisible ..))
        fun _ _ => follows_get_bind (follows_pure _ _)

/-- A retained identity is that of the room's policy, and the room has no start. -/
theorem transportRefreshIdentity_allows {s : ServerRuntime} {session : ServerSession}
    {generation : Nat} {revision : Option Nat}
    (h : s.transportRefreshIdentity session = some (generation, revision)) :
    PolicySource.inherited.Allows s.ideal session.room generation := by
  unfold ServerRuntime.transportRefreshIdentity at h
  split at h
  · cases h
  · next hbarrier =>
    have hnone : s.ideal.barrier session.room = none := by
      rw [Std.ExtTreeMap.contains_iff_mem] at hbarrier
      exact Std.ExtTreeMap.getElem?_eq_none hbarrier
    split at h
    · cases h
    · next control hcontrol =>
      split at h
      · cases h
      · refine ⟨hnone, control.ideal, ?_, ?_⟩
        · show s.roomBufferingControls[session.room]?.map _ = _
          rw [hcontrol]
          rfl
        · exact (Prod.mk.inj (Option.some.inj h)).1.symm

theorem publicIndependentIdentity_allows {s : ServerRuntime} {room : String} {generation : Nat}
    {revision : Option Nat} (hbarrier : s.roomPlaybackBarriers.contains room = false)
    (h : s.publicIndependentIdentity room = some (generation, revision)) :
    PolicySource.inherited.Allows s.ideal room generation := by
  obtain ⟨control, hcontrol, heq⟩ := Option.map_eq_some_iff.mp h
  have hheld : s.roomBufferingControls[room]? = some control :=
    (Option.filter_eq_some_iff.mp hcontrol).1
  refine ⟨?_, control.ideal, ?_, (Prod.mk.inj heq).1.symm⟩
  · rw [Bool.eq_false_iff, Ne, Std.ExtTreeMap.contains_iff_mem] at hbarrier
    exact Std.ExtTreeMap.getElem?_eq_none hbarrier
  · show s.roomBufferingControls[room]?.map _ = _
    rw [hheld]
    rfl

/-- The identity an unpaired policy takes over belongs to a room without a
    start. -/
theorem policyIdentity_allows {s : ServerRuntime} {session : ServerSession}
    {refresh targeted : Bool} {identity : Option (Nat × Option Nat)} {generation : Nat}
    {revision : Option Nat}
    (hidentity : (if refresh then s.transportRefreshIdentity session else none) = identity)
    (htargeted : targeted = true →
      refresh = true ∨ s.roomPlaybackBarriers.contains session.room = false)
    (hrefresh : ¬ (refresh && identity.isNone) = true)
    (h : identity.or (if targeted then s.publicIndependentIdentity session.room else none) =
      some (generation, revision)) :
    PolicySource.inherited.Allows s.ideal session.room generation := by
  cases refresh with
  | true =>
    rw [if_pos rfl] at hidentity
    cases identity with
    | none => exact (hrefresh rfl).elim
    | some held =>
      rw [Option.some_or] at h
      obtain rfl := Option.some.inj h
      exact transportRefreshIdentity_allows hidentity
  | false =>
    obtain rfl : none = identity := hidentity
    rw [Option.none_or] at h
    cases targeted with
    | false => cases h
    | true => exact publicIndependentIdentity_allows ((htargeted rfl).resolve_left (by decide)) h

theorem ideal_allocate (s : ServerRuntime) (generation : Nat)
    (h : s.nextAllocatedGeneration = some generation) :
    s.allocatePlaybackBarrierGeneration.ideal = effect s.ideal .allocate := by
  have hnext := nextAllocatedGeneration_eq h
  unfold ServerRuntime.allocatePlaybackBarrierGeneration
  rw [h, hnext]
  rfl

theorem not_active_of_phase {s : ServerRuntime} {room : String} {b : RoomPlaybackBarrier}
    (h : ¬ (s.barrierPhase room = some .preparing ∨ s.barrierPhase room = some .committed))
    (hb : s.ideal.barrier room = some b) : ¬ active b := by
  have hb' : s.roomPlaybackBarriers[room]? = some b := hb
  have hphase : s.barrierPhase room = some b.phase := by
    rw [ServerRuntime.barrierPhase, hb']
    rfl
  rw [hphase] at h
  rintro (hpreparing | hcommitted)
  · exact h (.inl (congrArg some hpreparing))
  · exact h (.inr (congrArg some hcommitted))

theorem allocatedPolicy_refines (s : ServerRuntime) (clientId : String) (session : ServerSession)
    (config : RoomBufferingPolicyPayload)
    (displaced : BTreeMap String DisplacedPlaybackBarrierRequest) (targeted : Bool)
    (generation : Nat) (hnext : s.nextAllocatedGeneration = some generation)
    (hidle : ∀ b, s.ideal.barrier session.room = some b → ¬ active b)
    (hcovered : targeted = false → ∀ b, s.ideal.barrier session.room = some b →
      ∀ id, b.prepare.requestId = some id → id ∈ displaced) :
    Refines (configureLabel clientId session.room named false) s (do
      Prog.modify (·.allocatePlaybackBarrierGeneration)
      installRoomBufferingPolicy clientId session
        { config with mediaGeneration := generation, stateRevision := none } displaced (!targeted)
        targeted false) := by
  have hallocate := ideal_allocate s generation hnext
  have hgeneration := nextAllocatedGeneration_eq hnext
  refine follows_modify_bind (one_step (l := .allocate) trivial trivial hallocate) ?_
  refine installRoomBufferingPolicy_refines _ clientId session _ displaced (!targeted) targeted
    false .allocated (fun _ => ?_) (by simp) (by simp) fun hreplace => ⟨rfl, fun b hb => ?_⟩
  · rw [hallocate]
    exact ⟨by dsimp only; omega, hgeneration, hidle⟩
  · rw [hallocate] at hb
    exact hcovered (by simpa using hreplace) b hb

theorem admitPolicy_refines (s : ServerRuntime) (clientId : String) (session : ServerSession)
    (config : RoomBufferingPolicyPayload)
    (hcurrent : ∀ b id, s.ideal.barrier session.room = some b → b.prepare.requestId = some id →
      config.requestId ≠ some id) :
    Refines (configureLabel clientId session.room named false) s
      (admitPolicy clientId session config) := by
  refine follows_get_bind ?_
  dsimp only
  generalize (config.loadIntent == MediaLoadIntent.transportRefresh) = refresh
  generalize htargeted : (!s.roomPasswordProvider.isControlledRoomName session.room &&
    config.policy == .independent && (refresh ||
      !s.roomPlaybackBarriers.contains session.room)) = targeted
  generalize hidentity : (if refresh = true then s.transportRefreshIdentity session else none) =
    identity
  generalize hdisplaced : (if targeted = true then (∅ : BTreeMap String _)
    else s.displacedPlaybackBarrierRequests session.room config.requestId identity.isNone true) =
      displaced
  split
  · split <;> exact follows_pure _ _
  · split
    · exact follows_pure _ _
    · next hrefresh =>
      refine follows_newIdentity s clientId session.room _ _ fun out byClient byRoom => ?_
      split
      · exact follows_pure _ _
      · refine prune_refines_bind trivial (follows_get_bind ?_)
        split
        · exact follows_pure _ _
        · refine follows_quiet_bind rfl ?_
          split
          · next generation revision hheld =>
            have hallows := policyIdentity_allows hidentity (by
              rintro rfl
              simp only [Bool.and_eq_true, Bool.or_eq_true, Bool.not_eq_true'] at htargeted
              exact htargeted.2) hrefresh hheld
            refine installRoomBufferingPolicy_refines _ clientId session _ displaced false targeted
              false .inherited (fun _ => ?_) (by simp) (by simp) (by simp)
            exact hallows
          · next hnone =>
            split
            · exact follows_pure _ _
            · next hphase =>
              split
              · exact follows_pure _ _
              · next generation hnext =>
                refine allocatedPolicy_refines _ clientId session config displaced targeted
                  generation hnext (fun b hb => not_active_of_phase hphase hb) ?_
                intro hfree b hb id hid
                have hunknown : identity = none := (Option.or_eq_none_iff.mp hnone).1
                rw [← hdisplaced, hfree, hunknown]
                exact s.mem_displaced_of_barrier session.room config.requestId true b id hb hid
                  (hcurrent b id hb hid)

theorem configureUnpairedPolicy_refines (s : ServerRuntime) (clientId : String)
    (session : ServerSession) (config : RoomBufferingPolicyPayload) :
    Refines (configureLabel clientId session.room named false) s
      (configureUnpairedPolicy clientId session config) := by
  refine follows_get_bind ?_
  split
  · next hid =>
    exact admitPolicy_refines s clientId session config fun b id _ _ => by simp [hid]
  · next requestId hid =>
    dsimp only
    split
    · unfold retryCurrentPolicy
      refine follows_get_bind ?_
      split
      · split <;> exact follows_pure _ _
      · refine refines_bind ?_ fun _ _ => follows_gets _ _
        exact Refines.weaken (rebindRoomBufferingOwnerIfNewer_refines s clientId session.room)
          fun l hl => by cases l <;> first | exact hl | exact hl.elim
    · split
      · exact follows_pure _ _
      · next hunused =>
        refine admitPolicy_refines s clientId session config fun b id hb hbid hsame => hunused ?_
        have hb' : s.roomPlaybackBarriers[session.room]? = some b := hb
        rw [hid] at hsame
        simp [hb', hbid, Option.some.inj hsame]

theorem configurePairedPolicy_refines (s : ServerRuntime) (clientId : String)
    (session : ServerSession) (config : RoomBufferingPolicyPayload) :
    Refines (configureLabel clientId session.room named true) s
      (configurePairedPolicy clientId session config) := by
  refine follows_get_bind ?_
  split
  · exact follows_pure _ _
  · next b hb =>
    split
    · exact installRoomBufferingPolicy_refines s clientId session _ ∅ false false true .paired
        (fun _ => ⟨b, hb, rfl⟩) (by simp) (by simp) (by simp)
    · exact follows_pure _ _

/-- Policies never fall below the generation of the room's start. -/
theorem explicit_allows {s : ServerRuntime} {room : String} {config : RoomBufferingPolicyPayload}
    (hnonzero : config.mediaGeneration ≠ 0) (h : s.acceptsPolicyGeneration room config = true) :
    PolicySource.explicit.Allows s.ideal room config.mediaGeneration := by
  refine ⟨Nat.one_le_iff_ne_zero.mpr hnonzero, fun b hb => ?_⟩
  have hb' : s.roomPlaybackBarriers[room]? = some b := hb
  simp only [ServerRuntime.acceptsPolicyGeneration, hb', Option.all_some, Bool.and_eq_true,
    Bool.not_eq_true', Bool.or_eq_false_iff, decide_eq_false_iff_not] at h
  exact Nat.le_of_not_lt h.1.1

theorem configureRoomBufferingPolicy_refines (s : ServerRuntime) (clientId : String)
    (session : ServerSession) (config : RoomBufferingPolicyPayload) (paired : Bool)
    (hsession : s.sessions[clientId]? = some session) :
    Refines (configureLabel clientId session.room config.mediaGeneration paired) s
      (configureRoomBufferingPolicy clientId config paired) := by
  refine follows_get_bind ?_
  rw [hsession]
  dsimp only
  split
  · exact follows_pure _ _
  · split
    · next hnonzero =>
      exact installRoomBufferingPolicy_refines s clientId session config ∅ false false paired
        .explicit (explicit_allows hnonzero) (fun _ => rfl) (by simp) (by simp)
    · split
      · exact follows_pure _ _
      · refine prune_refines_bind trivial ?_
        split
        · next hpaired =>
          subst hpaired
          exact configurePairedPolicy_refines _ clientId session config
        · next hpaired =>
          obtain rfl : paired = false := by simpa using hpaired
          exact configureUnpairedPolicy_refines _ clientId session config

end configure

/-! ### Recovery -/

/-- What a recovery query does to the sender's room. -/
def recoveryLabel (clientId room : String) : Label → Prop
  | .prune => True
  | .hold r _ _ | .resume r _ | .relax r => r = room
  | l => rebindLabel clientId room l

theorem recoverBarrier_refines (s : ServerRuntime) (clientId : String) (session : ServerSession)
    (query : PlaybackBarrierRecoveryPayload) (b : RoomPlaybackBarrier)
    (hsession : s.sessions[clientId]? = some session) :
    Refines (recoveryLabel clientId session.room) s
      (recoverBarrier clientId session.room query b) := by
  have hrebind : Refines (recoveryLabel clientId session.room) s
      (rebindPlaybackBarrierOwnerIfNewer clientId session.room) :=
    Refines.weaken (rebindPlaybackBarrierOwnerIfNewer_refines s clientId session hsession)
      fun l hl => by cases l <;> first | exact hl | exact hl.elim
  have hevaluate : ∀ t : ServerRuntime, Refines (recoveryLabel clientId session.room) t
      (evaluateRoomBufferingAt session.room t.currentTimeSeconds true) := fun t =>
    Refines.weaken (evaluateRoomBufferingAt_refines t session.room _ true)
      fun l hl => by cases l <;> first | exact hl | exact hl.elim
  have hreply : ∀ (t : ServerRuntime) (rebinding : Outbound) (exact_ : Bool),
      Refines (recoveryLabel clientId session.room) t (do
        let s ← Prog.get
        pure (rebinding ++ s.playbackBarrierSnapshotForClientWithRecovery session.room clientId
          (some (playbackBarrierRecoveryResult query (if exact_ then .recovered else .existing)
            (some b.prepare.mediaGeneration))))) :=
    fun t rebinding exact_ => follows_get_bind (follows_pure _ _)
  unfold recoverBarrier
  dsimp only
  generalize (b.prepare.logicalMediaId == query.logicalMediaId &&
    b.prepare.requestNonce == query.originalRequestNonce &&
      b.prepare.requestId == some query.requestId) = exactRequest
  split
  · cases exactRequest with
    | false => exact follows_pure_bind (hreply _ _ _)
    | true =>
      refine refines_bind hrebind fun rebound t => ?_
      cases rebound with
      | false => exact hreply _ _ _
      | true =>
        refine follows_get_bind (refines_bind (hevaluate t) fun out t' => ?_)
        exact hreply _ _ _
  · split <;> exact follows_pure _ _

theorem handlePlaybackBarrierRecovery_refines (s : ServerRuntime) (clientId : String)
    (session : ServerSession) (query : PlaybackBarrierRecoveryPayload)
    (hsession : s.sessions[clientId]? = some session) :
    Refines (recoveryLabel clientId session.room) s
      (handlePlaybackBarrierRecovery clientId query) := by
  refine follows_get_bind ?_
  rw [hsession]
  dsimp only
  split
  · exact follows_pure _ _
  · split
    · exact follows_pure _ _
    · refine prune_refines_bind trivial (follows_get_bind ?_)
      split
      · split
        · exact recoverBarrier_refines _ clientId session query _ hsession
        · exact follows_pure _ _
      · split
        · unfold recoverPolicy
          split
          · exact follows_pure _ _
          · refine refines_bind ?_ fun _ _ => follows_get_bind (follows_pure _ _)
            exact Refines.weaken (rebindRoomBufferingOwnerIfNewer_refines _ clientId session.room)
              fun l hl => by cases l <;> first | exact hl | exact hl.elim
        · split
          · exact follows_pure _ _
          · split
            · exact follows_pure _ _
            · exact recoverBarrier_refines _ clientId session query _ hsession

/-! ### Entry points -/

/-- What a playback-barrier `Set` does to the sender's room. -/
def requestLabel (clientId room : String) (extension : PlaybackBarrierSetRequest) (l : Label) :
    Prop :=
  recoveryLabel clientId room l ∨ startLabel clientId room l ∨
    ∃ policy, extension.bufferingPolicy = some policy ∧
      configureLabel clientId room policy.mediaGeneration extension.prepare.isSome l

/-- A program that moves no sessions leaves the client where it was. -/
theorem session_after {α : Type} {allowed : Label → Prop} {s t : ServerRuntime} {m : ServerM α}
    {a : Except ServerRuntimeError α} {clientId : String} {session : ServerSession}
    (hkeeps : ∀ l, allowed l → ¬ l.movesSessions) (h : Refines allowed s m) (hrun : m s = (a, t))
    (hsession : s.sessions[clientId]? = some session) : t.sessions[clientId]? = some session := by
  have hsessions := sessions_of_steps hkeeps (steps_of_run h hrun)
  exact (congrFun hsessions clientId).trans hsession

theorem startLabel_keepsSessions (clientId room : String) (l : Label)
    (h : startLabel clientId room l) : ¬ l.movesSessions := by
  cases l <;> first | exact id | exact h.elim

theorem handlePlaybackBarrierSet_refines (s : ServerRuntime) (clientId : String)
    (session : ServerSession) (extension : PlaybackBarrierSetRequest)
    (hsession : s.sessions[clientId]? = some session) :
    Refines (requestLabel clientId session.room extension) s
      (handlePlaybackBarrierSet clientId extension) := by
  unfold handlePlaybackBarrierSet
  split
  · exact (handlePlaybackBarrierRecovery_refines s clientId session _ hsession).weaken
      fun l hl => .inl hl
  · refine follows_get_bind ?_
    split
    · exact follows_pure _ _
    · next hfenced =>
      split
      · next hprepare =>
        split
        · exact follows_pure _ _
        · next policy hpolicy =>
          refine (configureRoomBufferingPolicy_refines s clientId session policy false
            hsession).weaken fun l hl => .inr (.inr ⟨policy, hpolicy, ?_⟩)
          rw [hprepare]
          exact hl
      · next prepare hprepare =>
        have hstart := startPlaybackBarrier_refines s clientId session prepare hsession
          (by simpa only [Bool.not_eq_true] using hfenced)
        refine follows_bind (hstart.weaken fun l hl => .inr (.inl hl)) fun started t hrun => ?_
        have hsession' := session_after (startLabel_keepsSessions clientId session.room) hstart
          hrun hsession
        refine follows_get_bind ?_
        split
        · next policy hpolicy =>
          split
          · refine refines_bind ((configureRoomBufferingPolicy_refines t clientId session policy true
              hsession').weaken fun l hl => .inr (.inr ⟨policy, hpolicy, ?_⟩)) fun _ _ =>
                follows_pure _ _
            rw [hprepare]
            exact hl
          · exact follows_pure _ _
        · exact follows_pure _ _

/-- What a playback-barrier `State` does to the sender's room. -/
def reportLabel (clientId room : String) (l : Label) : Prop :=
  readyLabel clientId room l ∨ startedLabel clientId room l ∨ policyLabel room l

theorem readyLabel_keepsSessions (clientId room : String) (l : Label)
    (h : readyLabel clientId room l) : ¬ l.movesSessions := by
  cases l <;> first | exact id | exact h.elim

theorem startedLabel_keepsSessions (clientId room : String) (l : Label)
    (h : startedLabel clientId room l) : ¬ l.movesSessions := by
  cases l <;> first | exact id | exact h.elim

theorem handlePlaybackBarrierState_refines (s : ServerRuntime) (clientId : String)
    (session : ServerSession) (extension : PlaybackBarrierStateExtension)
    (hsession : s.sessions[clientId]? = some session) :
    Refines (reportLabel clientId session.room) s
      (handlePlaybackBarrierState clientId extension) := by
  refine follows_get_bind ?_
  split
  · exact follows_pure _ _
  · have hready : Refines (readyLabel clientId session.room) s
        (Prog.onSome (recordPlaybackBarrierReady clientId) extension.ready) :=
      follows_onSome fun ready _ => recordPlaybackBarrierReady_refines s clientId session hsession _
    refine follows_bind (hready.weaken fun l hl => .inl hl) fun _ t hrun => ?_
    have ht := session_after (readyLabel_keepsSessions clientId session.room) hready hrun hsession
    have hstarted : Refines (startedLabel clientId session.room) t
        (Prog.onSome (recordPlaybackBarrierStarted clientId) extension.started) :=
      follows_onSome fun started _ =>
        recordPlaybackBarrierStarted_refines t clientId session ht started
    refine follows_bind (hstarted.weaken fun l hl => .inr (.inl hl)) fun _ u hrun' => ?_
    have hu := session_after (startedLabel_keepsSessions clientId session.room) hstarted hrun' ht
    refine refines_bind (follows_onSome fun report _ => ?_) fun _ _ => follows_pure _ _
    exact (recordRoomBufferingReport_refines u clientId session hu report).weaken
      fun l hl => .inr (.inr hl)

end Sorotte.Server
