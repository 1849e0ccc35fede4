import Sorotte.Lifecycle.Moves

/-! # Every input is a walk

  One lemma for each function of the reducer: what it does is a walk of moves.
-/

namespace Sorotte.Lifecycle

open Framework

namespace Reduction

section helpers

variable {submits : List PlayerCommandId} {announces observes : Prop} (r : Reduction)

/-! ### Binding and starting -/

theorem walk_bindAttempt (attemptId : LoadAttemptId) (playlistEntryId : PlaylistEntryId) :
    Walk submits announces observes r (r.bindAttempt attemptId playlistEntryId).2 := by
  unfold bindAttempt
  split
  · exact walk_requestReconciliation r
  · split
    · exact Walk.refl r
    · split
      · exact Walk.refl r
      · extract_lets bound mapped
        have hedit : Walk submits announces observes r bound := by
          refine walk_updateAttempt r attemptId fun a _ =>
            ⟨rfl, rfl, rfl, rfl, rfl, rfl, fun h => h, ?_, ?_, .inr rfl⟩
          · intro h
            dsimp only
            split
            · next hstate =>
              rcases Bool.or_eq_true_iff.mp hstate with hs | hs <;>
                rw [eq_of_beq hs] at h <;> exact h
            · exact h
          · intro h
            dsimp only
            split
            · exact nofun
            · exact h
        have hmap : Walk submits announces observes bound mapped :=
          Quiet.walk (by constructor <;> rfl)
        split
        · exact (hedit.trans hmap).trans (walk_queueEvent _ _)
        · exact hedit.trans hmap

theorem walk_takeTransport (attemptId : LoadAttemptId) :
    Walk submits announces observes r (r.takeTransport attemptId) :=
  Quiet.walk (by constructor <;> rfl)

theorem demotedState_live (a : LoadAttempt) :
    (demotedState a).isTerminal = false ∧ demotedState a ≠ .submitting := by
  unfold demotedState
  split <;> simp [LoadAttemptState.isTerminal]

/-- A demotion that only touches live states. -/
theorem walk_demoteActive (attemptId : LoadAttemptId) {held : LoadAttemptState → Bool}
    (hheld : ∀ state, held state = true → state.isTerminal = false) :
    Walk submits announces observes r (r.demoteActive attemptId held) := by
  unfold demoteActive
  split
  · exact Walk.refl r
  · split
    · exact Walk.refl r
    · refine walk_updateAttempt r _ fun a _ => ?_
      split
      · next h =>
        refine ⟨rfl, rfl, rfl, rfl, rfl, rfl, fun h => h, fun hterminal => ?_,
          fun _ => (demotedState_live a).2, .inr rfl⟩
        rw [hheld _ h] at hterminal
        exact absurd hterminal (by decide)
      · exact SameLoad.refl a

theorem walk_startBoundAttempt (attemptId : LoadAttemptId) (playlistEntryId : PlaylistEntryId)
    (startFileObserved : Bool) :
    Walk submits announces observes r
      (r.startBoundAttempt attemptId playlistEntryId startFileObserved) := by
  unfold startBoundAttempt
  split
  · exact Walk.refl r
  · next attempt hattempt =>
    split
    · exact Walk.refl r
    · next hlive =>
      extract_lets quiescent firstStart marked demoted started
      have hmark : Walk submits announces observes r marked := by
        dsimp only [marked]
        split
        · exact walk_updateAttempt r _ fun a _ =>
            ⟨rfl, rfl, rfl, rfl, rfl, rfl, fun h => h, fun h => h, fun h => h, .inr rfl⟩
        · exact Walk.refl r
      split
      · exact hmark
      · split
        · exact hmark.trans (walk_takeTransport _ _)
        · have hdemote : Walk submits announces observes marked demoted :=
            walk_demoteActive marked attemptId fun state h => by
              rcases Bool.or_eq_true_iff.mp h with hs | hs <;> rw [eq_of_beq hs] <;> rfl
          have hself : ∀ a, demoted.loadAttempts[attemptId]? = some a →
              a.state.isTerminal = false := by
            intro a ha
            rw [getElem?_demoteActive_self] at ha
            dsimp only [marked] at ha
            split at ha
            · rw [getElem?_updateAttempt, if_pos rfl, hattempt] at ha
              cases ha
              simpa using hlive
            · rw [hattempt] at ha
              cases ha
              simpa using hlive
          have hstart : Walk submits announces observes demoted started := by
            dsimp only [started]
            split
            · exact Walk.refl _
            · refine Walk.trans ?_ (walk_takeTransport _ _)
              refine walk_updateAttempt _ _ fun a ha =>
                ⟨rfl, rfl, rfl, rfl, rfl, rfl, fun h => h, fun h => ?_, fun _ => nofun, .inr rfl⟩
              rw [hself a ha] at h
              exact absurd h (by decide)
          have hall := (hmark.trans hdemote).trans hstart
          split
          · exact hall.trans (walk_queueEvent _ _)
          · exact hall

theorem walk_startAttempt (attemptId : LoadAttemptId) (playlistEntryId : PlaylistEntryId)
    (startFileObserved : Bool) :
    Walk submits announces observes r (r.startAttempt attemptId playlistEntryId startFileObserved) := by
  unfold startAttempt
  split
  next bound r' hbind =>
  have hwalk : Walk submits announces observes r r' := by
    have h := @walk_bindAttempt submits announces observes r attemptId playlistEntryId
    rw [hbind] at h
    exact h
  split
  · exact hwalk
  · exact hwalk.trans (walk_startBoundAttempt _ _ _ _)

theorem walk_tryDeferredStarts : Walk submits announces observes r r.tryDeferredStarts :=
  tryDeferredStarts_preserves (P := Walk submits announces observes r)
    (fun _ _ h => h.trans (Quiet.walk (by constructor <;> rfl)))
    (fun _ _ _ _ h => h.trans (walk_startAttempt _ _ _ _))
    (fun r' h => h.trans (walk_requestReconciliation r')) (Walk.refl r)

theorem walk_clearReconciliation : Walk submits announces observes r r.clearReconciliation :=
  Quiet.walk (by constructor <;> rfl)

theorem walk_stopReconciliation :
    Walk submits announces observes r r.stopReconciliationWithoutProactiveWork := by
  unfold stopReconciliationWithoutProactiveWork
  split
  · exact Walk.refl r
  · exact walk_clearReconciliation r

/-! ### Physical termination -/

theorem walk_endAttempt (before : LoadAttempt) (attemptId : LoadAttemptId)
    (outcome : PlayerPhysicalLoadOutcome) :
    Walk submits announces observes r (r.endAttempt before attemptId outcome) := by
  unfold endAttempt
  extract_lets unmapped provisional ended
  have hmap : Walk submits announces observes r unmapped := by
    dsimp only [unmapped]
    split
    · exact Quiet.walk (by constructor <;> rfl)
    · exact Walk.refl r
  have heof : Walk submits announces observes unmapped provisional := by
    dsimp only [provisional]
    split
    · exact Quiet.walk (by constructor <;> rfl)
    · exact Walk.refl _
  have hend : Walk submits announces observes provisional ended :=
    walk_updateAttempt _ _ fun a _ =>
      ⟨rfl, rfl, rfl, rfl, rfl, rfl, fun h => h, fun _ => rfl, fun _ => nofun, .inl rfl⟩
  have hall := (hmap.trans heof).trans hend
  split
  · exact hall.trans (Quiet.walk (by constructor <;> rfl))
  · exact hall

/-- Committing an end announces at most the end of logical playback. -/
theorem walk_commit (h : announces) (attemptId : LoadAttemptId)
    (outcome : PlayerPhysicalLoadOutcome) :
    Walk submits announces observes r (r.commitPhysicalAttemptTerminal attemptId outcome) := by
  unfold commitPhysicalAttemptTerminal
  split
  · exact Walk.refl r
  · next before hbefore =>
    split
    · exact Walk.refl r
    · extract_lets allowed ended
      split
      next terminalOrder queued hqueue =>
      extract_lets sequenced resolved settled announced
      have hend : Walk submits announces observes r ended := walk_endAttempt r before attemptId outcome
      have hqueued : Walk submits announces observes ended queued := by
        have hq := @walk_queueEvent submits announces observes ended
          (.loadAttemptTerminal attemptId before.mediaGeneration outcome)
        rw [hqueue] at hq
        exact hq
      have hsequence : Walk submits announces observes queued sequenced :=
        walk_updateAttempt _ _ fun a _ =>
          ⟨rfl, rfl, rfl, rfl, rfl, rfl, fun h => h, fun h => h, fun h => h, .inr rfl⟩
      have hresolve : Walk submits announces observes sequenced resolved := by
        dsimp only [resolved]
        split
        · exact walk_emitLoadOutcome _ _ _ _
        · exact Walk.refl _
      have hsettle : Walk submits announces observes resolved settled := by
        dsimp only [settled]
        split
        · exact Walk.refl _
        · split
          · exact walk_commandTerminal _ _ _
          · exact Walk.refl _
      have hall := (((hend.trans hqueued).trans hsequence).trans hresolve).trans hsettle
      split
      · exact hall
      · have hset : Walk submits announces observes settled announced :=
          Quiet.walk (by constructor <;> rfl)
        split
        · exact (hall.trans hset).trans (walk_announceLogicalTerminal _ h _ _ _)
        · exact hall.trans hset

theorem walk_commitAll (h : announces) (attemptIds : List LoadAttemptId)
    (outcome : PlayerPhysicalLoadOutcome) :
    Walk submits announces observes r (r.commitAll attemptIds outcome) :=
  Walk.foldl (fun r attemptId => walk_commit r h attemptId outcome) attemptIds r

/-! ### Playlist reconciliation -/

theorem walk_reconcileEmptyPlaylist (h : announces) (currentPath : Option String) :
    Walk submits announces observes r (r.reconcileEmptyPlaylist currentPath) := by
  unfold reconcileEmptyPlaylist
  split
  · refine Walk.trans ?_ (walk_requestReconciliation _)
    exact Quiet.walk (by constructor <;> rfl)
  · split
    · refine Walk.trans ?_ (walk_requestReconciliation _)
      exact Quiet.walk (by constructor <;> rfl)
    · extract_lets terminalAttempts committed
      refine (walk_commitAll r h terminalAttempts .stopped).trans ?_
      exact Quiet.walk (by constructor <;> rfl)

theorem walk_bindCandidate (edges : List (LoadAttemptId × List PlaylistEntryId))
    (edge : LoadAttemptId × List PlaylistEntryId) :
    Walk submits announces observes r (r.bindCandidate edges edge) := by
  unfold bindCandidate
  split
  · split
    · exact walk_bindAttempt _ _ _
    · exact Walk.refl r
  · exact Walk.refl r

theorem walk_startCurrentEntry (entries : List AuthoritativePlaylistEntry) :
    Walk submits announces observes r (r.startCurrentEntry entries) := by
  unfold startCurrentEntry
  split
  · exact Walk.refl r
  · split
    · exact Walk.refl r
    · exact walk_startAttempt _ _ _ _

theorem walk_reconcilePlaylist (h : announces) (entries : List AuthoritativePlaylistEntry)
    (currentPath : Option String) :
    Walk submits announces observes r (r.reconcilePlaylist entries currentPath) := by
  unfold reconcilePlaylist
  split
  · exact walk_reconcileEmptyPlaylist r h currentPath
  · extract_lets committed edges bound started
    have hcommit : Walk submits announces observes r committed := walk_commitAll r h _ _
    have hbind : Walk submits announces observes committed bound :=
      Walk.foldl (fun r edge => walk_bindCandidate r edges edge) edges committed
    have hstart : Walk submits announces observes bound started :=
      (walk_startCurrentEntry bound entries).trans (walk_tryDeferredStarts _)
    have hall := (hcommit.trans hbind).trans hstart
    split
    · refine (hall.trans ?_).trans (walk_requestReconciliation _)
      exact Quiet.walk (by constructor <;> rfl)
    · refine hall.trans ?_
      exact Quiet.walk (by constructor <;> rfl)

/-! ### Superseding -/

theorem walk_revokeOwnership {predecessor : LoadAttempt} {predecessorId : LoadAttemptId}
    (successorId : LoadAttemptId) (hpredecessor : r.loadAttempts[predecessorId]? = some predecessor)
    (hlive : predecessor.state.isTerminal = false) :
    Walk submits announces observes r (r.revokeOwnership predecessor predecessorId successorId) := by
  refine (walk_retainOnly r predecessorId successorId).trans (Walk.trans ?_ (walk_queueEvent _ _))
  refine walk_updateAttempt _ _ fun a ha =>
    ⟨rfl, rfl, rfl, rfl, rfl, rfl, fun _ => rfl, fun hterminal => ?_, fun _ => nofun, .inl rfl⟩
  rw [retainOnlySelectedSuccessorClaim, Std.ExtTreeMap.getElem?_map, hpredecessor] at ha
  cases ha
  dsimp only at hterminal
  split at hterminal <;> simp [hlive] at hterminal

theorem walk_endSuperseded (predecessorCommand : Option PlayerCommandId)
    (predecessorId : LoadAttemptId) :
    Walk submits announces observes r (r.endSuperseded predecessorCommand predecessorId) := by
  unfold endSuperseded
  extract_lets ended
  have hend : Walk submits announces observes r ended := by
    dsimp only [ended]
    split
    · exact walk_commandTerminal _ _ _
    · exact Walk.refl r
  exact hend.trans (walk_emitLoadOutcome _ _ _ _)

theorem walk_supersedeActive (successorId : LoadAttemptId) (predecessorId : Option LoadAttemptId) :
    Walk submits announces observes r (r.supersedeActive successorId predecessorId) := by
  unfold supersedeActive
  split
  · exact Walk.refl r
  · split
    · exact Walk.refl r
    · next predecessor hpredecessor =>
      split
      · exact Walk.refl r
      · next hlive =>
        exact (walk_revokeOwnership r successorId hpredecessor (by simpa using hlive)).trans
          (walk_endSuperseded _ _ _)

theorem walk_supersedeReplaced (successorId : LoadAttemptId)
    (predecessorId : Option LoadAttemptId) :
    Walk submits announces observes r (r.supersedeReplaced successorId predecessorId) := by
  unfold supersedeReplaced
  split
  · exact Walk.refl r
  · split
    · exact Walk.refl r
    · next predecessor hpredecessor =>
      extract_lets revoked
      have hrevoke : Walk submits announces observes r revoked := by
        dsimp only [revoked]
        split
        · exact Walk.refl r
        · next hlive =>
          exact walk_revokeOwnership r successorId hpredecessor (by simpa using hlive)
      exact hrevoke.trans (walk_endSuperseded _ _ _)

/-! ### Commands -/

theorem walk_acceptCommand (commandId : PlayerCommandId) :
    Walk submits announces observes r (r.acceptCommand commandId) := by
  refine (Move.editCommand r commandId _ fun command _ => ?_).walk
  split
  · next h =>
    have hstate := eq_of_beq (Bool.and_eq_true_iff.mp h).2
    exact ⟨rfl, rfl, rfl, by rw [hstate]; rfl⟩
  · exact ⟨rfl, rfl, rfl, rfl⟩

theorem walk_endSeekCommand (commandId : PlayerCommandId) (terminal : CommandSemanticState)
    (edit : SystemSeekOwnershipState → SystemSeekOwnershipState) :
    Walk submits announces observes r (r.endSeekCommand commandId terminal edit) :=
  (walk_commandTerminal r commandId terminal).trans (walk_updateSeek _ _ _)

theorem walk_expireAttempt (attemptId : LoadAttemptId) (ownsTransport : Bool)
    (hlive : ∀ a, r.loadAttempts[attemptId]? = some a → a.state.isTerminal = false) :
    Walk submits announces observes r (r.expireAttempt attemptId ownsTransport) := by
  unfold expireAttempt
  extract_lets retireAfterTick expired
  have hedit : Walk submits announces observes r expired := by
    refine walk_updateAttempt r _ fun a ha => ?_
    split
    · exact ⟨rfl, rfl, rfl, rfl, rfl, rfl, fun h => h, fun h => h, fun h => h, .inl rfl⟩
    · refine ⟨rfl, rfl, rfl, rfl, rfl, rfl, fun h => h, fun h => ?_, fun _ => nofun, .inl rfl⟩
      rw [hlive a ha] at h
      exact absurd h (by decide)
  split
  · exact hedit.trans (Quiet.walk (by constructor <;> rfl))
  · exact hedit

theorem walk_expireCommandAttempt (attemptId : LoadAttemptId) :
    Walk submits announces observes r (r.expireCommandAttempt attemptId) := by
  unfold expireCommandAttempt
  extract_lets ownsTransport
  split
  · exact Walk.refl r
  · next attempt hattempt =>
    split
    · exact Walk.refl r
    · next hstate =>
      have hlive : ∀ a, r.loadAttempts[attemptId]? = some a → a.state.isTerminal = false := by
        intro a ha
        rw [hattempt] at ha
        cases ha
        simp only [Bool.or_eq_true, not_or, Bool.not_eq_true] at hstate
        exact hstate.1.1
      have hall : Walk submits announces observes r ((r.expireAttempt attemptId ownsTransport).emitLoadOutcome
          attemptId .indeterminate none) :=
        (walk_expireAttempt r _ _ hlive).trans (walk_emitLoadOutcome _ _ _ _)
      split
      · exact hall
      · exact hall.trans (walk_stopReconciliation _)

/-- Observing a loaded file: the record, the transport and the verdicts. -/
theorem walk_observeFileLoaded {before : LoadAttempt} {attemptId : LoadAttemptId}
    (loadedTarget : Option String) (hbefore : r.loadAttempts[attemptId]? = some before)
    (hlive : before.state.isTerminal = false) :
    Walk submits announces observes r (r.observeFileLoaded before attemptId loadedTarget) := by
  unfold observeFileLoaded
  extract_lets owns observed activated queued pushed resolved
  have hobserve : Walk submits announces observes r observed := by
    refine walk_updateAttempt r _ fun a ha =>
      ⟨rfl, rfl, rfl, rfl, rfl, rfl, fun h => h, fun h => ?_, fun h => ?_, .inl rfl⟩
    · rw [hbefore] at ha
      cases ha
      rw [hlive] at h
      exact absurd h (by decide)
    · dsimp only
      split
      · exact nofun
      · exact h
  have hactivate : Walk submits announces observes observed activated := by
    dsimp only [activated]
    split
    · refine (walk_demoteActive observed attemptId fun state h => ?_).trans
        (Quiet.walk (by constructor <;> rfl))
      rw [eq_of_beq h]
      rfl
    · exact Walk.refl _
  have hqueue : Walk submits announces observes activated queued := by
    dsimp only [queued]
    split
    · split
      · exact walk_queueEvent _ _
      · exact Walk.refl _
    · exact Walk.refl _
  have hpush : Walk submits announces observes queued pushed := walk_push _ trivial
  have hall := ((hobserve.trans hactivate).trans hqueue).trans hpush
  split
  · exact hall
  · have hresolve : Walk submits announces observes pushed resolved := walk_emitLoadOutcome _ _ _ _
    split
    · exact (hall.trans hresolve).trans (walk_commandTerminal _ _ _)
    · exact hall.trans hresolve

/-! ### Time -/

theorem walk_expireLoad (attemptId : LoadAttemptId)
    (hlive : ∀ a, r.loadAttempts[attemptId]? = some a → a.state.isTerminal = false) :
    Walk submits announces observes r (r.expireLoad attemptId) := by
  unfold expireLoad
  extract_lets commandId expired resolved
  have hall : Walk submits announces observes r resolved :=
    (walk_expireAttempt r attemptId _ hlive).trans (walk_emitLoadOutcome _ _ _ _)
  clear_value commandId
  cases commandId with
  | none => exact hall
  | some commandId => exact hall.trans (walk_commandTerminal _ _ _)

/-- A round of the expiry loop ends no attempt. -/
theorem expireLoad_live (attemptId k : LoadAttemptId)
    (hlive : ∀ a, r.loadAttempts[k]? = some a → a.state.isTerminal = false) :
    ∀ a, (r.expireLoad attemptId).loadAttempts[k]? = some a → a.state.isTerminal = false := by
  intro a ha
  rw [getElem?_expireLoad] at ha
  split at ha
  · obtain ⟨a₀, ha₀, rfl⟩ := Option.map_eq_some_iff.mp ha
    simp only [resolved_eq]
    unfold expired
    split
    · exact hlive a₀ ha₀
    · rfl
  · exact hlive a ha

/-- The expiry loop, over attempts that are live when it starts. -/
theorem walk_expireLoads (attemptIds : List LoadAttemptId)
    (hlive : ∀ k ∈ attemptIds, ∀ a, r.loadAttempts[k]? = some a → a.state.isTerminal = false) :
    Walk submits announces observes r (attemptIds.foldl expireLoad r) := by
  induction attemptIds generalizing r with
  | nil => exact Walk.refl r
  | cons attemptId rest ih =>
    refine (walk_expireLoad r attemptId (hlive attemptId List.mem_cons_self)).trans (ih _ ?_)
    intro k hk
    exact expireLoad_live r attemptId k (hlive k (List.mem_cons_of_mem attemptId hk))

theorem walk_requestDueReconciliation : Walk submits announces observes r r.requestDueReconciliation := by
  unfold requestDueReconciliation
  split
  · exact (walk_push r (show IsRequest .requestLifecycleReconciliation from trivial)).trans
      (walk_scheduleReconciliation _)
  · exact Walk.refl r

theorem walk_disconnectAll (h : announces) : Walk submits announces observes r r.disconnectAll := by
  unfold disconnectAll
  extract_lets ended
  have hend : Walk submits announces observes r ended :=
    Walk.foldl (fun r commandId => walk_commandTerminal r commandId _) _ r
  exact hend.trans (walk_commitAll _ h _ _)

/-! ### Inputs -/

/-- Recording a new attempt under the identity it was allocated. -/
theorem walk_allocate (attempt : LoadAttempt) (hid : attempt.id = max r.nextLoadAttemptId 1)
    (hepoch : attempt.attachmentEpoch = r.attachmentEpoch)
    (hcommand : ∀ c ∈ attempt.commandId, c ∈ submits)
    (hresult : attempt.semanticLoadResult = none)
    (hsequence : attempt.semanticOutcomeSequence = none)
    (hdeadline : ∀ d ∈ attempt.fileLoadedDeadlineTick,
      d ≤ r.nowTick + acceptedLoadCompletionTicks ∧ attempt.state ≠ .submitting) :
    Walk submits announces observes r
      { r with
        nextLoadAttemptId := max r.nextLoadAttemptId 1 + 1
        loadAttempts := r.loadAttempts.insert (max r.nextLoadAttemptId 1) attempt } :=
  (Move.allocate r attempt hid hepoch hcommand hresult hsequence hdeadline).walk

theorem walk_loadAttemptSubmitted (commandId : Option PlayerCommandId)
    (mediaGeneration : PlayerMediaGeneration) (requestedTarget : String)
    (baseline : BTreeSet PlaylistEntryId) (hsubmits : ∀ c ∈ commandId, c ∈ submits) :
    Walk submits announces observes r
      (r.loadAttemptSubmitted commandId mediaGeneration requestedTarget baseline) := by
  unfold loadAttemptSubmitted
  split
  · exact Walk.refl r
  · next hnew =>
    split
    next attemptId allocated hallocate =>
    cases hallocate
    extract_lets inserted recorded
    have hinsert : Walk submits announces observes r inserted :=
      walk_allocate r _ rfl rfl hsubmits rfl rfl nofun
    have hrecord : Walk submits announces observes inserted recorded := by
      cases commandId with
      | none => exact Walk.refl _
      | some c =>
        simp only [Option.any_some, Bool.or_eq_true, not_or, Bool.not_eq_true] at hnew
        have hmove := @Move.submit _ announces observes inserted c
          (hsubmits c rfl) (some mediaGeneration) (.load (max r.nextLoadAttemptId 1))
        rw [insertIfNew_eq_insert hnew.1] at hmove
        exact hmove.walk
    exact (hinsert.trans hrecord).trans (walk_push _ trivial)

theorem walk_externalLoadObserved (attachmentEpoch : PlayerAttachmentEpoch)
    (mediaGeneration : PlayerMediaGeneration) (playlistEntryId : PlaylistEntryId)
    (observedTarget : String) (fileLoaded : Bool) :
    Walk submits announces observes r (r.externalLoadObserved attachmentEpoch mediaGeneration
      playlistEntryId observedTarget fileLoaded) := by
  unfold externalLoadObserved
  split
  · exact Walk.refl r
  · extract_lets predecessorId
    split
    next attemptId allocated hallocate =>
    cases hallocate
    extract_lets inserted superseded mapped owned bound started activated
    have hinsert : Walk submits announces observes r inserted := by
      refine walk_allocate r _ rfl rfl nofun rfl rfl fun d hd => ?_
      dsimp only [externalAttempt] at hd ⊢
      cases fileLoaded with
      | true => exact absurd hd nofun
      | false =>
        obtain rfl := Option.some.inj hd
        have hbound := Nat.min_le_left (r.nowTick + acceptedLoadCompletionTicks) u64Max
        exact ⟨hbound, nofun⟩
    have hsupersede : Walk submits announces observes inserted superseded := walk_supersedeActive _ _ _
    have hmap : Walk submits announces observes superseded mapped :=
      Quiet.walk (by constructor <;> rfl)
    have hown : Walk submits announces observes mapped owned := walk_takeTransport _ _
    have hqueue : Walk submits announces observes owned started :=
      (walk_queueEvent _ _).trans (walk_queueEvent _ _)
    have hall := (((hinsert.trans hsupersede).trans hmap).trans hown).trans hqueue
    split
    · exact (hall.trans (walk_queueEvent _ _)).trans (walk_emitLoadOutcome _ _ _ _)
    · exact hall

theorem walk_loadAttemptAccepted (attachmentEpoch : PlayerAttachmentEpoch)
    (attemptId : LoadAttemptId) :
    Walk submits announces observes r (r.loadAttemptAccepted attachmentEpoch attemptId) := by
  unfold loadAttemptAccepted
  split
  · exact Walk.refl r
  · split
    · exact Walk.refl r
    · next attempt hattempt =>
      split
      · exact Walk.refl r
      · next hstate =>
        simp only [bne_iff_ne, ne_eq, Bool.or_eq_true, not_or, Decidable.not_not] at hstate
        extract_lets commanded accepted superseded cleared deferred
        have hcommand : Walk submits announces observes r commanded
            ∧ commanded.loadAttempts = r.loadAttempts := by
          dsimp only [commanded]
          split
          · exact ⟨walk_acceptCommand _ _, rfl⟩
          · exact ⟨Walk.refl r, rfl⟩
        have haccept : Walk submits announces observes commanded accepted :=
          (Move.accept commanded attemptId attempt (by rw [hcommand.2]; exact hattempt)
            hstate.2).walk
        have hsupersede : Walk submits announces observes accepted superseded :=
          walk_supersedeReplaced _ _ _
        have hclear : Walk submits announces observes superseded cleared :=
          Quiet.walk (by constructor <;> rfl)
        have hdefer : Walk submits announces observes cleared deferred := walk_tryDeferredStarts _
        exact ((((hcommand.1.trans haccept).trans hsupersede).trans hclear).trans hdefer).trans
          (walk_requestReconciliation _)

theorem walk_loadAttemptRejected (h : announces) (attachmentEpoch : PlayerAttachmentEpoch)
    (attemptId : LoadAttemptId) (failure : PlayerCommandFailureKind) :
    Walk submits announces observes r (r.loadAttemptRejected attachmentEpoch attemptId failure) := by
  unfold loadAttemptRejected
  split
  · exact Walk.refl r
  · split
    · exact Walk.refl r
    · next attempt hattempt =>
      split
      · exact Walk.refl r
      · extract_lets ended resolved
        have hend : Walk submits announces observes r ended := by
          dsimp only [ended]
          split
          · exact walk_commandTerminal _ _ _
          · exact Walk.refl r
        exact (hend.trans (walk_emitLoadOutcome _ _ _ _)).trans (walk_commit _ h _ _)

theorem walk_commandSubmitted (commandId : PlayerCommandId)
    (mediaGeneration : Option PlayerMediaGeneration) (kind : LifecycleCommandKind)
    (hsubmits : commandId ∈ submits) :
    Walk submits announces observes r (r.commandSubmitted commandId mediaGeneration kind) := by
  unfold commandSubmitted
  split
  · exact Walk.refl r
  · exact (Move.submit r commandId hsubmits mediaGeneration kind).walk

/-- Ending other commands leaves a command's record alone. -/
theorem getElem?_supersedeCommands {commandId : PlayerCommandId} {superseded : List PlayerCommandId}
    (h : commandId ∉ superseded) :
    (r.supersedeCommands superseded).commands[commandId]? = r.commands[commandId]? := by
  unfold supersedeCommands
  induction superseded generalizing r with
  | nil => rfl
  | cons c rest ih =>
    rw [List.mem_cons, not_or] at h
    rw [List.foldl_cons, ih _ h.2, commandTerminal_own r c rfl]
    exact (getElem?_modify_if _ _ _ _).trans (if_neg h.1)

theorem walk_commandAccepted (attachmentEpoch : PlayerAttachmentEpoch)
    (commandId : PlayerCommandId) :
    Walk submits announces observes r (r.commandAccepted attachmentEpoch commandId) := by
  unfold commandAccepted
  split
  · exact Walk.refl r
  · split
    · exact Walk.refl r
    · next accepted haccepted =>
      split
      · exact Walk.refl r
      · next hstate =>
        extract_lets superseded
        simp only [bne_iff_ne, ne_eq, Bool.or_eq_true, not_or, Decidable.not_not] at hstate
        have hend : Walk submits announces observes r (r.supersedeCommands superseded) :=
          Walk.foldl (fun r c => walk_commandTerminal r c _) superseded r
        have hother : commandId ∉ superseded := by
          intro hmem
          obtain ⟨command, hcommand, hid⟩ := List.mem_map.mp hmem
          have hne := (List.mem_filter.mp hcommand).2
          simp only [hid, bne_self_eq_false, Bool.false_and] at hne
          exact absurd hne (by decide)
        refine hend.trans (Move.editCommand _ _ _ fun command hcommand => ?_).walk
        rw [getElem?_supersedeCommands r hother, haccepted] at hcommand
        cases hcommand
        exact ⟨rfl, rfl, rfl, by rw [hstate.2]; rfl⟩

theorem walk_commandRejected (attachmentEpoch : PlayerAttachmentEpoch)
    (commandId : PlayerCommandId) (failure : PlayerCommandFailureKind) :
    Walk submits announces observes r (r.commandRejected attachmentEpoch commandId failure) := by
  unfold commandRejected
  split
  · exact Walk.refl r
  · exact walk_endSeekCommand _ _ _ _

theorem walk_commandSuperseded (attachmentEpoch : PlayerAttachmentEpoch)
    (commandId : PlayerCommandId) :
    Walk submits announces observes r (r.commandSuperseded attachmentEpoch commandId) := by
  unfold commandSuperseded
  split
  · exact Walk.refl r
  · exact walk_endSeekCommand _ _ _ _

theorem walk_commandTransportDisconnected (attachmentEpoch : PlayerAttachmentEpoch)
    (commandId : PlayerCommandId) :
    Walk submits announces observes r (r.commandTransportDisconnected attachmentEpoch commandId) := by
  unfold commandTransportDisconnected
  split
  · exact Walk.refl r
  · exact walk_endSeekCommand _ _ _ _

theorem walk_commandCompleted (attachmentEpoch : PlayerAttachmentEpoch)
    (commandId : PlayerCommandId) :
    Walk submits announces observes r (r.commandCompleted attachmentEpoch commandId) := by
  unfold commandCompleted
  split
  · exact Walk.refl r
  · exact (walk_updateSeek _ _ _).trans (walk_commandTerminal _ _ _)

theorem walk_commandCompletionNotObserved (attachmentEpoch : PlayerAttachmentEpoch)
    (commandId : PlayerCommandId) :
    Walk submits announces observes r (r.commandCompletionNotObserved attachmentEpoch commandId) := by
  unfold commandCompletionNotObserved
  split
  · exact Walk.refl r
  · extract_lets ended
    have hend : Walk submits announces observes r ended := walk_endSeekCommand _ _ _ _
    split
    · exact hend
    · exact hend.trans (walk_expireCommandAttempt _ _)

theorem walk_startFile (attachmentEpoch : PlayerAttachmentEpoch)
    (playlistEntryId : PlaylistEntryId) :
    Walk submits announces observes r (r.startFile attachmentEpoch playlistEntryId) := by
  unfold startFile
  split
  · exact Walk.refl r
  · split
    · exact walk_startAttempt _ _ _ _
    · extract_lets deferred
      have hdefer : Walk submits announces observes r deferred := by
        dsimp only [deferred]
        split
        · exact Walk.refl r
        · exact Quiet.walk (by constructor <;> rfl)
      exact hdefer.trans (walk_requestReconciliation _)

theorem walk_fileLoaded (attachmentEpoch : PlayerAttachmentEpoch)
    (playlistEntryId : Option PlaylistEntryId) (loadedTarget : Option String) :
    Walk submits announces observes r (r.fileLoaded attachmentEpoch playlistEntryId loadedTarget) := by
  unfold fileLoaded
  split
  · exact Walk.refl r
  · split
    · exact walk_requestReconciliation r
    · split
      · exact Walk.refl r
      · next before hbefore =>
        split
        · exact Walk.refl r
        · next hfirst =>
          simp only [Bool.or_eq_true, not_or, Bool.not_eq_true] at hfirst
          exact walk_observeFileLoaded r loadedTarget hbefore hfirst.1

theorem walk_endFile (h : announces) (attachmentEpoch : PlayerAttachmentEpoch)
    (playlistEntryId : PlaylistEntryId) (outcome : PlayerPhysicalLoadOutcome) :
    Walk submits announces observes r (r.endFile attachmentEpoch playlistEntryId outcome) := by
  unfold endFile
  split
  · exact Walk.refl r
  · split
    · exact walk_commit r h _ _
    · split
      · exact Walk.refl r
      · exact walk_requestReconciliation r

theorem walk_retainedEndOfFile (h : announces) (attachmentEpoch : PlayerAttachmentEpoch)
    (playlistEntryId : PlaylistEntryId) :
    Walk submits announces observes r (r.retainedEndOfFile attachmentEpoch playlistEntryId) := by
  unfold retainedEndOfFile
  split
  · exact Walk.refl r
  · split
    · exact Walk.refl r
    · split
      · refine Walk.trans ?_ (walk_announceLogicalTerminal _ h _ _ _)
        exact Quiet.walk (by constructor <;> rfl)
      · exact Walk.refl r

theorem walk_playlistSnapshot (h : announces) (attachmentEpoch : PlayerAttachmentEpoch)
    (entries : List AuthoritativePlaylistEntry) (currentPath : Option String) :
    Walk submits announces observes r (r.playlistSnapshot attachmentEpoch entries currentPath) := by
  unfold playlistSnapshot
  split
  · exact Walk.refl r
  · exact walk_reconcilePlaylist r h _ _

theorem walk_lifecycleReconciliationFailed (attachmentEpoch : PlayerAttachmentEpoch) :
    Walk submits announces observes r (r.lifecycleReconciliationFailed attachmentEpoch) := by
  unfold lifecycleReconciliationFailed
  split
  · exact Walk.refl r
  · exact Quiet.walk (by constructor <;> rfl)

theorem walk_eofObserved (attachmentEpoch : PlayerAttachmentEpoch)
    (playlistEntryId : Option PlaylistEntryId) (reached : Bool)
    (positionSeconds : Option Seconds) :
    Walk submits announces observes r
      (r.eofObserved attachmentEpoch playlistEntryId reached positionSeconds) := by
  unfold eofObserved
  split
  · exact Walk.refl r
  · extract_lets attemptId
    split
    · clear_value attemptId
      cases attemptId with
      | none => exact Walk.refl r
      | some attemptId => exact Quiet.walk (by constructor <;> rfl)
    · exact Quiet.walk (by constructor <;> rfl)

theorem walk_playbackRestart (attachmentEpoch : PlayerAttachmentEpoch)
    (playlistEntryId : Option PlaylistEntryId) :
    Walk submits announces observes r (r.playbackRestart attachmentEpoch playlistEntryId) := by
  unfold playbackRestart
  split
  · exact Walk.refl r
  · exact Quiet.walk (by constructor <;> rfl)

theorem walk_positionObserved (h : observes) (attachmentEpoch : PlayerAttachmentEpoch)
    (mediaGeneration : PlayerMediaGeneration) (observedSequence : Nat)
    (positionSeconds : Seconds) :
    Walk submits announces observes r
      (r.positionObserved attachmentEpoch mediaGeneration observedSequence positionSeconds) := by
  unfold positionObserved
  split
  · exact Walk.refl r
  · extract_lets passed reached
    have hpass : Walk submits announces observes r passed := by
      dsimp only [passed]
      split
      · exact Quiet.walk (by constructor <;> rfl)
      · exact Walk.refl r
    refine hpass.trans ?_
    split
    · next commandId _ _ =>
      have hobserve : Walk submits announces observes passed
          ((passed.updateSeek commandId fun _ => .observed).commandTerminal commandId .completed) :=
        (walk_updateSeek _ _ _).trans (walk_commandTerminal _ _ _)
      refine (hobserve.trans (Move.report _ h (.consumeSystemSeek commandId positionSeconds)
        rfl).walk).trans ?_
      exact Quiet.walk (by constructor <;> rfl)
    · split
      · refine Walk.trans ?_ (Move.report _ h _ rfl).walk
        exact Quiet.walk (by constructor <;> rfl)
      · split
        · exact Walk.refl _
        · have hnative : Walk submits announces observes passed
              { passed with pendingNativeSeekGeneration := none } :=
            Quiet.walk (by constructor <;> rfl)
          split
          · exact hnative
          · exact hnative.trans (Move.report _ h _ rfl).walk

theorem walk_seekingObserved (attachmentEpoch : PlayerAttachmentEpoch)
    (mediaGeneration : PlayerMediaGeneration) (observedSequence : Nat) (seeking : Bool) :
    Walk submits announces observes r
      (r.seekingObserved attachmentEpoch mediaGeneration observedSequence seeking) := by
  unfold seekingObserved
  split
  · exact Walk.refl r
  · exact Quiet.walk (by constructor <;> rfl)

theorem walk_phaseObserved (attachmentEpoch : PlayerAttachmentEpoch)
    (phase : PlayerTransportPhase) :
    Walk submits announces observes r (r.phaseObserved attachmentEpoch phase) := by
  unfold phaseObserved
  split
  · exact Walk.refl r
  · split
    all_goals exact Quiet.walk (by constructor <;> rfl)

theorem walk_transportDelta (attachmentEpoch : PlayerAttachmentEpoch) :
    Walk submits announces observes r (r.transportDelta attachmentEpoch) := by
  unfold transportDelta
  split
  · exact Walk.refl r
  · exact walk_queueEvent _ _

theorem walk_localFileChanged (attachmentEpoch : PlayerAttachmentEpoch)
    (attemptId : LoadAttemptId) (mediaGeneration : PlayerMediaGeneration) :
    Walk submits announces observes r (r.localFileChanged attachmentEpoch attemptId mediaGeneration) := by
  unfold localFileChanged
  split
  · exact walk_queueEvent _ _
  · exact Walk.refl r

theorem walk_seekCommandSubmitted (commandId : PlayerCommandId)
    (mediaGeneration : PlayerMediaGeneration) (rawTarget effectiveTarget : F64) (boundary : Nat)
    (hsubmits : commandId ∈ submits) :
    Walk submits announces observes r
      (r.seekCommandSubmitted commandId mediaGeneration rawTarget effectiveTarget boundary) := by
  unfold seekCommandSubmitted
  split
  · exact Walk.refl r
  · extract_lets superseded ended
    have hend : Walk submits announces observes r ended :=
      Walk.foldl (fun r c => walk_endSeekCommand r c _ _) superseded r
    refine hend.trans
      ((Move.submit ended commandId hsubmits (some mediaGeneration) .seek).walk.trans ?_)
    exact Quiet.walk (by constructor <;> rfl)

theorem walk_seekCommandAccepted (attachmentEpoch : PlayerAttachmentEpoch)
    (commandId : PlayerCommandId) :
    Walk submits announces observes r (r.seekCommandAccepted attachmentEpoch commandId) := by
  unfold seekCommandAccepted
  split
  · exact Walk.refl r
  · exact (walk_acceptCommand _ _).trans (walk_updateSeek _ _ _)

theorem walk_seekCommandCompletionNotObserved (attachmentEpoch : PlayerAttachmentEpoch)
    (commandId : PlayerCommandId) :
    Walk submits announces observes r (r.seekCommandCompletionNotObserved attachmentEpoch commandId) := by
  unfold seekCommandCompletionNotObserved
  split
  · exact Walk.refl r
  · exact walk_endSeekCommand _ _ _ _

theorem walk_eventGapDetected (attachmentEpoch : PlayerAttachmentEpoch) :
    Walk submits announces observes r (r.eventGapDetected attachmentEpoch) := by
  unfold eventGapDetected
  split
  · exact Walk.refl r
  · refine (Move.gap r).walk.trans ?_
    exact Quiet.walk (by constructor <;> rfl)

theorem walk_timerAdvanced (h : announces) (hkeyed : r.Keyed) (nowTick : Nat) :
    Walk submits announces observes r (r.timerAdvanced nowTick) := by
  unfold timerAdvanced
  extract_lets advanced expiredLoads expired expiredQuiescent committed
  have hadvance : Walk submits announces observes r advanced :=
    (Move.tick r nowTick).walk.trans (Quiet.walk (by constructor <;> rfl))
  have hexpire : Walk submits announces observes advanced expired := by
    refine walk_expireLoads advanced expiredLoads fun k hk a ha => ?_
    obtain ⟨listed, hlisted, rfl⟩ := List.mem_map.mp hk
    have hexpired := (List.mem_filter.mp hlisted).2
    have hfound : advanced.loadAttempts[listed.id]? = some listed :=
      @getElem?_of_mem_attempts advanced.toPlayerLifecycleState hkeyed listed
        (List.mem_filter.mp hlisted).1
    rw [hfound] at ha
    cases ha
    simp only [loadExpired, Bool.and_eq_true, Bool.not_eq_true'] at hexpired
    exact hexpired.1.1.1
  have hcommit : Walk submits announces observes expired committed := walk_commitAll _ h _ _
  have hall := (hadvance.trans hexpire).trans hcommit
  exact (hall.trans (walk_stopReconciliation _)).trans (walk_requestDueReconciliation _)

theorem walk_transportDisconnected (h : announces) (attachmentEpoch : PlayerAttachmentEpoch) :
    Walk submits announces observes r (r.transportDisconnected attachmentEpoch) := by
  unfold transportDisconnected
  split
  · exact Walk.refl r
  · extract_lets ended
    have hend : Walk submits announces observes r ended :=
      Walk.foldl (fun r c => walk_endSeekCommand r c _ _) _ r
    exact hend.trans (walk_commitAll _ h _ _)

end helpers

end Reduction

/-! ### The reducer -/

namespace PlayerLifecycleInput

/-- The commands an input submits. -/
def submits : PlayerLifecycleInput → List PlayerCommandId
  | .loadAttemptSubmitted commandId .. => commandId.toList
  | .commandSubmitted commandId .. | .seekCommandSubmitted commandId .. => [commandId]
  | _ => []

/-- The inputs that may end an attempt, and with it logical playback. -/
def announces : PlayerLifecycleInput → Prop
  | .loadAttemptRejected .. | .endFile .. | .retainedEndOfFile .. | .playlistSnapshot ..
  | .timerAdvanced _ | .transportDisconnected _ | .attachmentReplaced => True
  | _ => False

/-- The input that may report a seek. -/
def observes : PlayerLifecycleInput → Prop
  | .positionObserved .. => True
  | _ => False

/-- The inputs that rewrite the queues other than by emission. -/
def rewritesQueues : PlayerLifecycleInput → Prop
  | .authoritativeSnapshotApplied _ | .attachmentReplaced => True
  | _ => False

end PlayerLifecycleInput

open Reduction in
theorem walk_reduce {r : Reduction} (hkeyed : r.Keyed) {input : PlayerLifecycleInput}
    (hinput : ¬input.rewritesQueues) :
    Walk input.submits input.announces input.observes r (r.reduce input) := by
  cases input with
  | loadAttemptSubmitted =>
    exact walk_loadAttemptSubmitted r _ _ _ _ fun c hc => Option.mem_toList.mpr hc
  | externalLoadObserved => exact walk_externalLoadObserved r _ _ _ _ _
  | loadAttemptAccepted => exact walk_loadAttemptAccepted r _ _
  | loadAttemptRejected => exact walk_loadAttemptRejected r trivial _ _ _
  | commandSubmitted => exact walk_commandSubmitted r _ _ _ List.mem_cons_self
  | commandAccepted => exact walk_commandAccepted r _ _
  | commandRejected => exact walk_commandRejected r _ _ _
  | commandSuperseded => exact walk_commandSuperseded r _ _
  | commandTransportDisconnected => exact walk_commandTransportDisconnected r _ _
  | commandCompleted => exact walk_commandCompleted r _ _
  | commandCompletionNotObserved => exact walk_commandCompletionNotObserved r _ _
  | startFile => exact walk_startFile r _ _
  | fileLoaded => exact walk_fileLoaded r _ _ _
  | endFile => exact walk_endFile r trivial _ _ _
  | retainedEndOfFile => exact walk_retainedEndOfFile r trivial _ _
  | playlistSnapshot => exact walk_playlistSnapshot r trivial _ _ _
  | lifecycleReconciliationFailed => exact walk_lifecycleReconciliationFailed r _
  | eofObserved => exact walk_eofObserved r _ _ _ _
  | playbackRestart => exact walk_playbackRestart r _ _
  | positionObserved => exact walk_positionObserved r trivial _ _ _ _
  | seekingObserved => exact walk_seekingObserved r _ _ _ _
  | phaseObserved => exact walk_phaseObserved r _ _
  | transportDelta => exact walk_transportDelta r _
  | localFileChanged => exact walk_localFileChanged r _ _ _
  | seekCommandSubmitted => exact walk_seekCommandSubmitted r _ _ _ _ _ List.mem_cons_self
  | seekCommandAccepted => exact walk_seekCommandAccepted r _ _
  | seekCommandRejected => exact walk_commandRejected r _ _ _
  | seekCommandCompletionNotObserved => exact walk_seekCommandCompletionNotObserved r _ _
  | eventGapDetected => exact walk_eventGapDetected r _
  | timerAdvanced => exact walk_timerAdvanced r trivial hkeyed _
  | transportDisconnected => exact walk_transportDisconnected r trivial _
  | authoritativeSnapshotApplied => exact absurd trivial hinput
  | attachmentReplaced => exact absurd trivial hinput

end Sorotte.Lifecycle
