import Sorotte.Refinement.Barrier

/-! # Refinement: starts and policies

  Prepares with their retained identities, owner rebinding, and the
  configuration of buffering policies.
-/

namespace Sorotte.Server

open Sorotte.Framework Sorotte.Framework.Prog Sorotte.Ideal

namespace ServerRuntime

/-! ### Tombstones -/

theorem tombstone_foldl_insert (until_ : Seconds)
    (f : DisplacedPlaybackBarrierRequest → PlaybackBarrierRequestTombstone)
    (hf : ∀ request, (f request).retainUntilSeconds = until_) (id : String) :
    ∀ (entries : List (String × DisplacedPlaybackBarrierRequest))
      (m : BTreeMap String PlaybackBarrierRequestTombstone),
      ((entries.foldl (fun m entry => m.insert entry.1 (f entry.2)) m)[id]?).map
          (·.retainUntilSeconds) =
        if id ∈ entries.map Prod.fst then some until_
        else m[id]?.map (·.retainUntilSeconds) := by
  intro entries
  induction entries with
  | nil => intro m; simp
  | cons entry entries ih =>
    intro m
    rw [List.foldl_cons, ih]
    by_cases hrest : id ∈ entries.map Prod.fst
    · rw [if_pos hrest, if_pos (by simp only [List.map_cons, List.mem_cons]; exact .inr hrest)]
    · rw [if_neg hrest, Std.ExtTreeMap.getElem?_insert]
      by_cases hkey : entry.1 = id
      · simp [hkey, hf]
      · have hid : id ∉ (entry :: entries).map Prod.fst := by
          simp only [List.map_cons, List.mem_cons, not_or]
          exact ⟨fun h => hkey h.symm, hrest⟩
        rw [if_neg hid]
        simp [hkey]

/-- Displaced identities are retained from now on. -/
theorem retainDisplaced_steps (s : ServerRuntime) (room : String)
    (displaced : BTreeMap String DisplacedPlaybackBarrierRequest) :
    step s.ideal (.retain room displaced.keys)
      (s.retainDisplacedPlaybackBarrierRequests room displaced).ideal := by
  refine ⟨trivial, ?_⟩
  unfold retainDisplacedPlaybackBarrierRequests
  by_cases hempty : displaced.isEmpty = true
  · have hkeys : displaced.keys = [] := by
      simpa using hempty
    rw [if_pos hempty, hkeys]
    simp only [effect, List.not_mem_nil, if_false, Function.update_eq_self, State.record,
      List.map_nil, List.nil_append]
  · rw [if_neg hempty]
    have htombstone : (fun r id => ((s.playbackBarrierRequestTombstones.insert room
        (displaced.toList.foldl (fun tombstones entry => tombstones.insert entry.1
          { requestNonce := entry.2.requestNonce
            logicalMediaIdDigest := entry.2.logicalMediaIdDigest
            mediaGeneration := entry.2.mediaGeneration
            retainUntilSeconds := s.playbackBarrierRequestClockSeconds
              + s.playbackBarrierRequestTombstonePolicy.ttlSeconds })
          (s.playbackBarrierRequestTombstones.getD room ∅)))[r]?.bind
            fun tombstones => tombstones[id]?).map (·.retainUntilSeconds)) =
        Function.update s.ideal.tombstone room fun id =>
          if id ∈ displaced.keys then some (s.ideal.now + s.ideal.ttl)
          else s.ideal.tombstone room id := by
      funext r id
      rw [Std.ExtTreeMap.getElem?_insert, Function.update_apply]
      by_cases hr : r = room
      · subst hr
        simp only [Std.ReflCmp.compare_self, if_true, Option.bind_some]
        have hinsert := tombstone_foldl_insert (s.ideal.now + s.ideal.ttl)
          (fun request => {
            requestNonce := request.requestNonce
            logicalMediaIdDigest := request.logicalMediaIdDigest
            mediaGeneration := request.mediaGeneration
            retainUntilSeconds := s.ideal.now + s.ideal.ttl }) (fun _ => rfl) id displaced.toList
          (s.playbackBarrierRequestTombstones.getD r ∅)
        rw [Std.ExtTreeMap.map_fst_toList_eq_keys] at hinsert
        refine Eq.trans hinsert ?_
        congr 1
        show _ = (s.requestTombstone r id).map _
        rw [requestTombstone, Std.ExtTreeMap.getD_eq_getD_getElem?]
        cases s.playbackBarrierRequestTombstones[r]? <;> simp
      · have hne : compare room r ≠ .eq := by
          simpa using Ne.symm hr
        rw [if_neg hne, if_neg hr]
        rfl
    simp only [ideal, requestTombstone] at htombstone ⊢
    rw [htombstone]
    rfl

theorem prune_step (s : ServerRuntime) :
    step s.ideal .prune s.prunePlaybackBarrierRequestTombstones.ideal := by
  refine ⟨trivial, ?_⟩
  have htombstone : (fun room id => (s.prunePlaybackBarrierRequestTombstones.requestTombstone room
      id).map (·.retainUntilSeconds)) =
      fun room id => (s.ideal.tombstone room id).filter fun until_ => s.ideal.now < until_ := by
    funext room id
    show ((Std.ExtTreeMap.map _ _)[room]?.bind _).map _ =
      ((s.requestTombstone room id).map _).filter _
    rw [requestTombstone, Std.ExtTreeMap.getElem?_map]
    cases s.playbackBarrierRequestTombstones[room]? with
    | none => rfl
    | some tombstones =>
      simp only [Option.map_some, Option.bind_some, Std.ExtTreeMap.getElem?_filter']
      cases tombstones[id]? with
      | none => rfl
      | some tombstone =>
        by_cases h : s.playbackBarrierRequestClockSeconds < tombstone.retainUntilSeconds
        · have h' : s.ideal.now < tombstone.retainUntilSeconds := h
          simp [Option.filter, h, h']
        · have h' : ¬ s.ideal.now < tombstone.retainUntilSeconds := h
          simp [Option.filter, h, h']
  unfold ideal
  rw [htombstone]
  rfl

/-- Identities a replacement displaces: the start's, unless it is a retry. -/
theorem mem_displaced_of_barrier (s : ServerRuntime) (room : String)
    (requestId : Option String) (includeControl : Bool) (b : RoomPlaybackBarrier) (id : String)
    (hb : s.roomPlaybackBarriers[room]? = some b) (hid : b.prepare.requestId = some id)
    (hne : requestId ≠ some id) :
    id ∈ s.displacedPlaybackBarrierRequests room requestId true includeControl := by
  unfold displacedPlaybackBarrierRequests
  simp only [hb, hid, bne_iff_ne, ne_eq, hne, not_false_eq_true, if_true]
  split
  · split
    · split
      · simp [Std.ExtTreeMap.mem_insertIfNew]
      · simp
    · simp
  · simp

/-- No replacement displaces its own identity. -/
theorem not_mem_displaced (s : ServerRuntime) (room : String) (includeBarrier
    includeControl : Bool) (id : String) :
    id ∉ s.displacedPlaybackBarrierRequests room (some id) includeBarrier includeControl := by
  unfold displacedPlaybackBarrierRequests
  extract_lets displaced
  have hnot : id ∉ displaced := by
    dsimp only [displaced]
    split
    · split
      · split
        · next requestId _ hne =>
          have hne' : requestId ≠ id := fun h => by simp [h] at hne
          simp [hne']
        · simp
      · simp
    · simp
  split
  · split
    · split
      · next requestId _ hne =>
        have hne' : requestId ≠ id := fun h => by simp [h] at hne
        rw [Std.ExtTreeMap.mem_insertIfNew, not_or]
        exact ⟨by simpa using hne', hnot⟩
      · exact hnot
    · exact hnot
  · exact hnot

@[simp] theorem retainDisplaced_barriers (s : ServerRuntime) (room : String)
    (displaced : BTreeMap String DisplacedPlaybackBarrierRequest) :
    (s.retainDisplacedPlaybackBarrierRequests room displaced).roomPlaybackBarriers =
      s.roomPlaybackBarriers := by
  unfold retainDisplacedPlaybackBarrierRequests
  split <;> rfl

@[simp] theorem retainDisplaced_controls (s : ServerRuntime) (room : String)
    (displaced : BTreeMap String DisplacedPlaybackBarrierRequest) :
    (s.retainDisplacedPlaybackBarrierRequests room displaced).roomBufferingControls =
      s.roomBufferingControls := by
  unfold retainDisplacedPlaybackBarrierRequests
  split <;> rfl

/-! ### Prepare -/

theorem ideal_controlsForNewStart (s : ServerRuntime) (room : String) (generation : Nat) :
    { s with roomBufferingControls := s.controlsForNewStart room generation }.ideal =
      s.ideal.setPolicy room (s.ideal.policyForStart room generation) := by
  unfold controlsForNewStart State.policyForStart
  cases hcontrol : s.roomBufferingControls[room]? with
  | none =>
    have hpolicy : s.ideal.policy room = none := by simp [ideal, hcontrol]
    rw [hpolicy]
    show s.ideal = s.ideal.setPolicy room none
    rw [← hpolicy, setPolicy_policy]
  | some control =>
    have hpolicy : s.ideal.policy room = some control.ideal := by simp [ideal, hcontrol]
    rw [hpolicy]
    dsimp only
    by_cases hgeneration : control.config.mediaGeneration = generation
    · rw [if_neg (by simpa using hgeneration),
        if_pos (show control.ideal.mediaGeneration = generation from hgeneration)]
      exact ideal_setControls s room (some { control with
        reports := ∅
        conditionActiveSince := none
        conditionClearSince := none
        pausedByPolicy := false
        pauseDeadline := none
        failOpenLatched := false }) _ (lookup_insert _ _ _)
    · rw [if_pos hgeneration,
        if_neg (show ¬ control.ideal.mediaGeneration = generation from hgeneration)]
      exact ideal_setControls s room none _ (lookup_erase _ _)

/-- Installing a start, once the identities it displaces are retained. -/
theorem installBarrier_step (s : ServerRuntime) (room : String) (b : RoomPlaybackBarrier)
    (displaced : BTreeMap String DisplacedPlaybackBarrierRequest) (now : Seconds)
    (h : Prepares (s.retainDisplacedPlaybackBarrierRequests room displaced).ideal room b) :
    step (s.retainDisplacedPlaybackBarrierRequests room displaced).ideal (.prepare room b)
      (s.installBarrier room b displaced now).ideal := by
  refine ⟨h, ?_⟩
  set retained := s.retainDisplacedPlaybackBarrierRequests room displaced with hretained
  set allocated := retained.allocateForPrepare room b.prepare.requestId b.prepare.mediaGeneration
  have hallocated : allocated.ideal = { retained.ideal with
      generation := b.prepare.mediaGeneration
    }.record [.prepareAccepted room b.prepare.requestId b.prepare.mediaGeneration
      retained.ideal.now] := rfl
  have hpolicy : { allocated with
        roomBufferingControls := s.controlsForNewStart room b.prepare.mediaGeneration }.ideal =
      allocated.ideal.setPolicy room
        (retained.ideal.policyForStart room b.prepare.mediaGeneration) := by
    have hcontrols : s.controlsForNewStart room b.prepare.mediaGeneration =
        allocated.controlsForNewStart room b.prepare.mediaGeneration := by
      unfold controlsForNewStart
      rw [show allocated.roomBufferingControls = s.roomBufferingControls from
        retainDisplaced_controls s room displaced]
    rw [hcontrols]
    exact ideal_controlsForNewStart allocated room _
  have hbarrier := ideal_setBarriers { allocated with
      roomBufferingControls := s.controlsForNewStart room b.prepare.mediaGeneration } room (some b)
    (s.roomPlaybackBarriers.insert room b) (by
      rw [lookup_insert]
      show _ = Function.update (fun a => retained.roomPlaybackBarriers[a]?) room (some b)
      rw [hretained, retainDisplaced_barriers])
  rw [hpolicy, hallocated] at hbarrier
  unfold installBarrier
  rw [ideal_replaceReadinessGeneration_owning, ideal_establishRoomTransport,
    ideal_advanceParticipantStatusMediaGeneration]
  exact congrArg (fun t => (State.setTransport t room true b.prepare.targetPosition).beginGeneration
    room b.prepare.mediaGeneration) hbarrier

/-- The members a new start waits for are in the room. -/
theorem barrierCohort_lookup (s : ServerRuntime) (room clientId : String)
    (p : RoomPlaybackBarrierParticipant) (h : (s.barrierCohort room)[clientId]? = some p) :
    p.status = .pending ∧ s.ideal.inRoom clientId room := by
  simp only [barrierCohort, Std.ExtTreeMap.getElem?_map, Std.ExtTreeMap.getElem?_filter',
    Option.map_eq_some_iff, Option.filter_eq_some_iff] at h
  obtain ⟨session, ⟨hsession, hguard⟩, rfl⟩ := h
  simp only [Bool.and_eq_true, beq_iff_eq] at hguard
  exact ⟨rfl, session, hsession, hguard.1.1.1⟩

/-- The sender of an authorized prepare takes part in it. -/
theorem mem_barrierCohort (s : ServerRuntime) (clientId : String) (session : ServerSession)
    (hsession : s.sessions[clientId]? = some session)
    (hfenced : s.playbackBarrierFencedClients.contains clientId = false)
    (hcapable : session.capabilities.playbackBarrierV1 = true)
    (hready : s.readinessGoverned session.room = true →
      session.capabilities.readinessV2 = true) :
    clientId ∈ s.barrierCohort session.room := by
  rw [Std.ExtTreeMap.mem_iff_isSome_getElem?]
  simp only [barrierCohort, Std.ExtTreeMap.getElem?_map, Std.ExtTreeMap.getElem?_filter',
    Option.isSome_map, hsession]
  have hgoverned : (!s.readinessGoverned session.room || session.capabilities.readinessV2) =
      true := by
    cases hg : s.readinessGoverned session.room with
    | false => rfl
    | true => exact hready hg
  simp only [Option.filter, hfenced, hcapable, hgoverned, beq_self_eq_true, Bool.not_false,
    Bool.and_self, if_true, Option.isSome_some]

end ServerRuntime

theorem roomBufferingQuorumRequired_pos (eligible percent : Nat) (h : 0 < eligible) :
    1 ≤ roomBufferingQuorumRequired eligible percent := by
  unfold roomBufferingQuorumRequired
  rw [if_neg (by omega)]
  have hproduct : 1 ≤ eligible * max 1 (min percent 100) :=
    Nat.mul_pos h (by omega)
  have hmax : 1 ≤ u32Max := by decide
  have hmax' : 100 ≤ u32Max := by decide
  omega

/-- A stored quorum is never zero. -/
theorem acceptedQuorum_pos (prepare : PrepareMediaRequest) (eligible : Nat) (h : 0 < eligible)
    (hpolicy : prepare.policy = .quorum) :
    ∃ q, (acceptedQuorum prepare eligible).1 = some q ∧ 1 ≤ q := by
  unfold acceptedQuorum
  rw [hpolicy]
  dsimp only
  split
  · exact ⟨_, rfl, roomBufferingQuorumRequired_pos eligible _ h⟩
  · exact ⟨_, rfl, by omega⟩

/-- What an accepted prepare does to its room. -/
def prepareLabel (room : String) : Label → Prop
  | .settle r _ _ | .retain r _ | .prepare r _ => r = room
  | _ => False

namespace ServerRuntime

/-- The runtime after an active start gave way to a new prepare of its owner. -/
def superseded (s : ServerRuntime) (room : String) : ServerRuntime :=
  let ended := s.updateBarrier room fun barrier =>
    { barrier.mapStatus supersededStatus with phase := .degraded }
  if s.barrierPhase room = some .preparing then ended.markReadinessGateDegraded room .cancelled
  else ended

theorem ideal_superseded (s : ServerRuntime) (room : String) :
    (s.superseded room).ideal = s.ideal.setBarrier room (s.roomPlaybackBarriers[room]?.map
      fun barrier => { barrier.mapStatus supersededStatus with phase := .degraded }) := by
  unfold superseded
  dsimp only
  split
  · rw [ideal_markReadinessGateDegraded, ideal_updateBarrier]
  · rw [ideal_updateBarrier]

theorem superseded_steps (s : ServerRuntime) (room : String) :
    Relation.ReflTransGen (Steps (settleLabel room)) s.ideal (s.superseded room).ideal := by
  rw [ideal_superseded, ← ideal_updateBarrier]
  exact updateBarrier_settles s room _ fun b _ =>
    settles_mapStatus b _ _ supersededStatus_started rfl rfl rfl rfl (.inl rfl)

theorem superseded_fenced (s : ServerRuntime) (room : String) :
    (s.superseded room).playbackBarrierFencedClients = s.playbackBarrierFencedClients := by
  unfold superseded
  dsimp only
  split <;> rfl

theorem superseded_governed (s : ServerRuntime) (room : String) :
    (s.superseded room).readinessGoverned room = s.readinessGoverned room := by
  unfold superseded
  dsimp only
  split
  · simp only [readinessGoverned, markReadinessGateDegraded, updateReadiness, updateBarrier]
    rw [Std.ExtTreeMap.contains_modify]
  · rfl

end ServerRuntime

theorem supersedeActiveBarrier_run (s : ServerRuntime) (room : String) :
    ∃ out, supersedeActiveBarrier room s = (.ok out, s.superseded room) := by
  simp only [supersedeActiveBarrier, ServerRuntime.superseded, get_bind_run, modify_bind_run,
    gets_bind_run]
  by_cases h : s.barrierPhase room = some .preparing
  · rw [if_pos h, if_pos h]
    obtain ⟨out, hrun⟩ := updateAndPublish_run _ room _ _
    exact ⟨_, bind_of_ok hrun⟩
  · rw [if_neg h, if_neg h]
    exact ⟨_, rfl⟩

theorem requestStatus_displaced (room id : String) (now : Seconds) (history : List Event) :
    ∀ ids : List String, id ∈ ids →
      requestStatus room id (ids.map (Event.requestDisplaced room · now) ++ history) =
        .displaced now := by
  intro ids
  induction ids with
  | nil => intro h; cases h
  | cons first rest ih =>
    intro h
    simp only [List.map_cons, List.cons_append, requestStatus, true_and]
    by_cases hfirst : first = id
    · rw [if_pos hfirst]
    · rw [if_neg hfirst]
      exact ih ((List.mem_cons.mp h).resolve_left fun heq => hfirst heq.symm)

/-- Retaining what a start displaces leaves its own identity fresh. -/
theorem freshIdentity_retained {t t' : State} {room : String} {ids : List String}
    {requestId : Option String}
    (hcovers : ∀ b id, t.barrier room = some b → b.prepare.requestId = some id →
      id ∈ ids ∧ requestId ≠ some id)
    (hfresh : ∀ id, requestId = some id → t.tombstone room id = none ∧ id ∉ ids)
    (hstep : step t (.retain room ids) t') : FreshIdentity t' room requestId := by
  obtain ⟨-, rfl⟩ := hstep
  refine ⟨fun b id hb hid => ?_, fun id hid => ?_⟩
  · obtain ⟨hmem, hne⟩ := hcovers b id hb hid
    refine ⟨?_, hne⟩
    show requestStatus room id (ids.map (Event.requestDisplaced room · t.now) ++ t.history) ≠ _
    rw [requestStatus_displaced room id t.now t.history ids hmem]
    exact fun h => by cases h
  · obtain ⟨hnone, hnot⟩ := hfresh id hid
    show Function.update t.tombstone room _ room id = none
    rw [Function.update_self, if_neg hnot]
    exact hnone

/-- What the code has checked about a prepare when it installs it. -/
structure AdmittedPrepare (s : ServerRuntime) (clientId : String) (session : ServerSession)
    (requestId : Option String) (displaced : BTreeMap String DisplacedPlaybackBarrierRequest)
    (supersedesActive : Bool) : Prop where
  known : s.sessions[clientId]? = some session
  unfenced : s.playbackBarrierFencedClients.contains clientId = false
  capable : session.capabilities.playbackBarrierV1 = true
  ready : s.readinessGoverned session.room = true → session.capabilities.readinessV2 = true
  covered : ∀ b id, s.ideal.barrier session.room = some b → b.prepare.requestId = some id →
    id ∈ displaced ∧ requestId ≠ some id
  fresh : ∀ id, requestId = some id →
    s.ideal.tombstone session.room id = none ∧ id ∉ displaced
  idle : supersedesActive = false → ∀ b, s.ideal.barrier session.room = some b → ¬ active b

theorem AdmittedPrepare.superseded {s : ServerRuntime} {clientId : String}
    {session : ServerSession} {requestId : Option String}
    {displaced : BTreeMap String DisplacedPlaybackBarrierRequest} {supersedesActive : Bool}
    (h : AdmittedPrepare s clientId session requestId displaced supersedesActive) :
    AdmittedPrepare (s.superseded session.room) clientId session requestId displaced false := by
  have hideal := s.ideal_superseded session.room
  have hbarrier : ∀ b', (s.superseded session.room).ideal.barrier session.room = some b' →
      b'.phase = .degraded ∧ ∃ b, s.ideal.barrier session.room = some b ∧
        b'.prepare = b.prepare := by
    intro b' hb'
    rw [hideal] at hb'
    have hmap : s.roomPlaybackBarriers[session.room]?.map (fun barrier =>
        { barrier.mapStatus supersededStatus with phase := .degraded }) = some b' := by
      simpa [State.setBarrier] using hb'
    obtain ⟨b, hb, rfl⟩ := Option.map_eq_some_iff.mp hmap
    exact ⟨rfl, b, hb, rfl⟩
  refine ⟨?_, ?_, h.capable, ?_, ?_, ?_, ?_⟩
  · have hsessions := congrArg (fun t => t.sessions clientId) hideal
    exact hsessions.trans h.known
  · rw [ServerRuntime.superseded_fenced]
    exact h.unfenced
  · rw [ServerRuntime.superseded_governed]
    exact h.ready
  · intro b' id hb' hid
    obtain ⟨_, b, hb, hprepare⟩ := hbarrier b' hb'
    exact h.covered b id hb (by rw [← hprepare]; exact hid)
  · intro id hid
    have htombstone := congrArg (fun t => t.tombstone session.room id) hideal
    exact ⟨htombstone.trans (h.fresh id hid).1, (h.fresh id hid).2⟩
  · intro _ b' hb' hactive
    have hphase := (hbarrier b' hb').1
    rcases hactive with hpreparing | hcommitted
    · rw [hphase] at hpreparing
      cases hpreparing
    · rw [hphase] at hcommitted
      cases hcommitted

theorem nextAllocatedGeneration_eq {s : ServerRuntime} {generation : Nat}
    (h : s.nextAllocatedGeneration = some generation) :
    generation = s.nextPlaybackBarrierGeneration + 1 := by
  unfold ServerRuntime.nextAllocatedGeneration at h
  split at h
  · exact (Option.some.inj h).symm
  · cases h

/-- The stored barrier of an admitted prepare is one the ideal server accepts. -/
theorem AdmittedPrepare.prepares {s : ServerRuntime} {clientId : String}
    {session : ServerSession} {prepare : PrepareMediaRequest}
    {displaced : BTreeMap String DisplacedPlaybackBarrierRequest}
    (h : AdmittedPrepare s clientId session prepare.requestId displaced false)
    {b : RoomPlaybackBarrier} {logicalMediaId : String} {target now : Seconds}
    {loadIntent : MediaLoadIntent} {generation : Nat}
    (hgeneration : generation = s.nextPlaybackBarrierGeneration + 1)
    (hprepare : b.prepare = acceptedPrepare prepare logicalMediaId target loadIntent generation
      (s.barrierCohort session.room).size now)
    (hcohort : b.participants = s.barrierCohort session.room)
    (hphase : b.phase = .preparing) (hcommit : b.commit = none)
    (hrevision : b.stateRevision = none) {t : State}
    (hretain : step s.ideal (.retain session.room displaced.keys) t) :
    Prepares t session.room b := by
  have hmem := s.mem_barrierCohort clientId session h.known h.unfenced h.capable h.ready
  have hsize : 0 < (s.barrierCohort session.room).size := by
    rw [Nat.pos_iff_ne_zero]
    intro hzero
    have hempty := Std.ExtTreeMap.eq_empty_iff_size_eq_zero.mpr hzero
    rw [hempty] at hmem
    exact Std.ExtTreeMap.not_mem_empty hmem
  have hfresh : FreshIdentity t session.room b.prepare.requestId := by
    rw [hprepare]
    refine freshIdentity_retained (fun b id hb hid => ?_) (fun id hid => ?_) hretain
    · obtain ⟨hdisplaced, hne⟩ := h.covered b id hb hid
      exact ⟨Std.ExtTreeMap.mem_keys.mpr hdisplaced, hne⟩
    · obtain ⟨hnone, hnot⟩ := h.fresh id hid
      exact ⟨hnone, fun hkeys => hnot (Std.ExtTreeMap.mem_keys.mp hkeys)⟩
  obtain ⟨-, rfl⟩ := hretain
  refine ⟨hphase, hcommit, hrevision, ?_, ?_, ?_, ?_, ?_, ?_, hfresh⟩
  · rw [hprepare]
    exact hgeneration
  · rw [hprepare]
    exact le_max_right _ _
  · intro c p hp
    rw [hcohort] at hp
    exact s.barrierCohort_lookup session.room c p hp
  · rw [hcohort]
    exact ⟨clientId, hmem⟩
  · rw [hprepare]
    exact fun hpolicy => acceptedQuorum_pos prepare _ hsize hpolicy
  · exact h.idle rfl

theorem installPrepare_refines (s : ServerRuntime) (clientId : String) (session : ServerSession)
    (sessionSequence : Nat) (prepare : PrepareMediaRequest) (logicalMediaId : String)
    (target : Seconds) (displaced : BTreeMap String DisplacedPlaybackBarrierRequest)
    (loadIntent : MediaLoadIntent) (generation : Nat)
    (hgeneration : generation = s.nextPlaybackBarrierGeneration + 1)
    (h : AdmittedPrepare s clientId session prepare.requestId displaced false) :
    Refines (prepareLabel session.room) s (installPrepare clientId session sessionSequence prepare
      logicalMediaId target displaced loadIntent generation) := by
  have hmem := s.mem_barrierCohort clientId session h.known h.unfenced h.capable h.ready
  have hnonempty : (s.barrierCohort session.room).isEmpty = false := by
    rw [Bool.eq_false_iff, Ne, Std.ExtTreeMap.isEmpty_iff]
    intro hempty
    rw [hempty] at hmem
    exact Std.ExtTreeMap.not_mem_empty hmem
  refine follows_get_bind ?_
  dsimp only
  rw [if_neg (by simp [hnonempty])]
  have hretain := s.retainDisplaced_steps session.room displaced
  have hinstall := s.installBarrier_step session.room _ displaced s.currentTimeSeconds
    (h.prepares (b := {
      prepare := acceptedPrepare prepare logicalMediaId target loadIntent generation
        (s.barrierCohort session.room).size s.currentTimeSeconds
      commit := none
      initiatorClientId := clientId
      initiatorSessionSequence := sessionSequence
      initiatorUsername := session.username
      participants := s.barrierCohort session.room
      excludedUnsupportedClients := s.barrierExcluded session.room
      phase := .preparing
      stateRevision := none
      readinessRevision := none
      deadline := s.localTimeSeconds + barrierTimeoutSeconds prepare.timeoutMs
      startedDeadline := none }) hgeneration rfl rfl rfl rfl rfl hretain)
  have hretained : Relation.ReflTransGen (Steps (prepareLabel session.room)) s.ideal _ :=
    one_step (l := .retain session.room displaced.keys) rfl hretain.1 hretain.2
  have hlabel : ∀ {b}, prepareLabel session.room (.prepare session.room b) := rfl
  refine follows_modify_bind (hretained.trans (one_step hlabel hinstall.1 hinstall.2)) ?_
  refine refines_bind (Invisible.refines (publishReplacedReadinessGeneration_invisible ..))
    fun _ _ => follows_get_bind ?_
  refine refines_bind (Invisible.refines (forcedStateFanout_invisible ..)) fun _ _ => ?_
  exact follows_get_bind (follows_pure _ _)

theorem acceptPrepare_refines (s : ServerRuntime) (clientId : String) (session : ServerSession)
    (sessionSequence : Nat) (prepare : PrepareMediaRequest) (logicalMediaId : String)
    (target : Seconds) (displaced : BTreeMap String DisplacedPlaybackBarrierRequest)
    (supersedesActive : Bool) (loadIntent : MediaLoadIntent)
    (h : AdmittedPrepare s clientId session prepare.requestId displaced supersedesActive) :
    Refines (prepareLabel session.room) s (acceptPrepare clientId session sessionSequence prepare
      logicalMediaId target displaced supersedesActive loadIntent) := by
  refine follows_get_bind ?_
  split
  · exact follows_pure _ _
  · next generation hallocated =>
    have hgeneration := nextAllocatedGeneration_eq hallocated
    cases supersedesActive with
    | false => exact installPrepare_refines _ _ _ _ _ _ _ _ _ _ hgeneration h
    | true =>
      obtain ⟨out, hrun⟩ := supersedeActiveBarrier_run s session.room
      have hsteps : Refines (prepareLabel session.room) s (supersedeActiveBarrier session.room) := by
        unfold Refines Follows after
        rw [hrun]
        refine Relation.ReflTransGen.mono (Steps.mono fun l hl => ?_) _ _
          (s.superseded_steps session.room)
        cases l <;> first | exact hl | exact hl.elim
      refine follows_bind hsteps fun a t hrun' => ?_
      rw [hrun] at hrun'
      obtain rfl : s.superseded session.room = t := congrArg Prod.snd hrun'
      have hnext : (s.superseded session.room).nextPlaybackBarrierGeneration =
          s.nextPlaybackBarrierGeneration :=
        congrArg State.generation (s.ideal_superseded session.room)
      refine refines_bind ?_ fun _ _ => follows_pure _ _
      exact installPrepare_refines _ _ _ _ _ _ _ _ _ _ (by rw [hgeneration, hnext]) h.superseded

end Sorotte.Server
