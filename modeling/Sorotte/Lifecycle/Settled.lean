import Sorotte.Lifecycle.Walks

/-! # Settled attempts

  What holds of every attempt record between two inputs: a load that is past
  `Submitting` and has no result has a deadline, a result comes with its
  sequence, and a playlist entry is mapped to the live attempt that names it.
-/

namespace Sorotte.Lifecycle

open Framework

/-! ### One record -/

/-- The fields of one record agree with each other. -/
structure AttemptSettled (a : LoadAttempt) : Prop where
  outcomeSequenced : a.semanticOutcomeSequence.isSome = a.semanticLoadResult.isSome
  terminalSequenced : a.physicalTerminalSequence.isSome = a.state.isTerminal
  reconciles : a.reconcileUntilTick.isSome = true ↔ a.state = .acceptedUnbound
  unbound : a.state = .submitting ∨ a.state = .acceptedUnbound → a.playlistEntryId = none
  deadline : a.fileLoadedDeadlineTick.isSome = true ↔
    a.semanticLoadResult = none ∧ a.state ≠ .submitting
  submitting : a.state = .submitting → a.semanticLoadResult = none
  loaded : a.fileLoadedObserved = true → a.semanticLoadResult.isSome = true
  active : a.state = .active → a.fileLoadedObserved = true
  revoked : a.logicalOwnershipRevoked = true → a.semanticLoadResult.isSome = true
  terminal : a.state.isTerminal = true → a.semanticLoadResult.isSome = true
  quiescent : a.state.isQuiescent = true → a.semanticLoadResult.isSome = true
  superseded : a.supersededBy.isSome = true → a.logicalOwnershipRevoked = true
  supersededState : ∀ successor, a.state = .supersededMayStillEmit successor →
    a.supersededBy = some successor

namespace AttemptSettled

variable {a : LoadAttempt}

/-- A bound record is past `Submitting` and past `AcceptedUnbound`. -/
theorem past_unbound (h : AttemptSettled a) (hbound : a.playlistEntryId.isSome = true) :
    a.state ≠ .submitting ∧ a.state ≠ .acceptedUnbound := by
  constructor
  · intro hs
    rw [h.unbound (.inl hs)] at hbound
    exact absurd hbound (by decide)
  · intro hs
    rw [h.unbound (.inr hs)] at hbound
    exact absurd hbound (by decide)

theorem not_reconciling (h : AttemptSettled a) (hstate : a.state ≠ .acceptedUnbound) :
    a.reconcileUntilTick = none := by
  cases hr : a.reconcileUntilTick with
  | none => rfl
  | some t => exact absurd (h.reconciles.mp (by rw [hr]; rfl)) hstate

/-- A record whose result stays only has to answer for its state and its links. -/
theorem of_some {a : LoadAttempt} (hresult : a.semanticLoadResult.isSome = true)
    (houtcome : a.semanticOutcomeSequence.isSome = true)
    (hterminal : a.physicalTerminalSequence.isSome = a.state.isTerminal)
    (hreconcile : a.reconcileUntilTick = none) (hdeadline : a.fileLoadedDeadlineTick = none)
    (hstate : a.state ≠ .submitting ∧ a.state ≠ .acceptedUnbound)
    (hactive : a.state = .active → a.fileLoadedObserved = true)
    (hsuperseded : a.supersededBy.isSome = true → a.logicalOwnershipRevoked = true)
    (hlink : ∀ successor, a.state = .supersededMayStillEmit successor →
      a.supersededBy = some successor) : AttemptSettled a where
  outcomeSequenced := by rw [houtcome, hresult]
  terminalSequenced := hterminal
  reconciles := by
    rw [hreconcile]
    exact ⟨fun h => absurd h (by decide), fun h => absurd h hstate.2⟩
  unbound := fun h => h.elim (fun h => absurd h hstate.1) fun h => absurd h hstate.2
  deadline := by
    rw [hdeadline]
    refine ⟨fun h => absurd h (by decide), fun h => ?_⟩
    rw [h.1] at hresult
    exact absurd hresult (by decide)
  submitting := fun h => absurd h hstate.1
  loaded := fun _ => hresult
  active := hactive
  revoked := fun _ => hresult
  terminal := fun _ => hresult
  quiescent := fun _ => hresult
  superseded := hsuperseded
  supersededState := hlink

end AttemptSettled

/-- The result part of a resolved record. -/
theorem resolved_result (result : PlayerLoadAttemptResult) (sequence : Nat) (a : LoadAttempt)
    (h : a.semanticOutcomeSequence.isSome = a.semanticLoadResult.isSome) :
    (a.resolved result sequence).semanticLoadResult.isSome = true
      ∧ (a.resolved result sequence).semanticOutcomeSequence.isSome = true := by
  unfold LoadAttempt.resolved
  split
  · next hsome => exact ⟨hsome, by rw [h, hsome]⟩
  · exact ⟨rfl, rfl⟩

/-! ### Edits of one record

  Each edit that the reducer makes, up to the outcome it emits with it.
-/

namespace AttemptSettled

variable {a : LoadAttempt}

/-- A bare change of state, between states that are neither a submission's, nor
    an unbound load's, nor an end. -/
theorem withState (h : AttemptSettled a) {state : LoadAttemptState}
    (hold : a.state ≠ .submitting ∧ a.state ≠ .acceptedUnbound)
    (hnew : state ≠ .submitting ∧ state ≠ .acceptedUnbound)
    (hterminal : state.isTerminal = a.state.isTerminal)
    (hquiescent : state.isQuiescent = true → a.state.isQuiescent = true)
    (hactive : state = .active → a.fileLoadedObserved = true)
    (hlink : ∀ successor, state = .supersededMayStillEmit successor →
      a.supersededBy = some successor) : AttemptSettled { a with state := state } where
  outcomeSequenced := h.outcomeSequenced
  terminalSequenced := by
    show a.physicalTerminalSequence.isSome = state.isTerminal
    rw [h.terminalSequenced, hterminal]
  reconciles := ⟨fun hs => absurd (h.reconciles.mp hs) hold.2, fun hs => absurd hs hnew.2⟩
  unbound := fun hs => hs.elim (fun hs => absurd hs hnew.1) fun hs => absurd hs hnew.2
  deadline := ⟨fun hs => ⟨(h.deadline.mp hs).1, hnew.1⟩, fun hs => h.deadline.mpr ⟨hs.1, hold.1⟩⟩
  submitting := fun hs => absurd hs hnew.1
  loaded := h.loaded
  active := hactive
  revoked := h.revoked
  terminal := fun hs => h.terminal (by rw [← hterminal]; exact hs)
  quiescent := fun hs => h.quiescent (hquiescent hs)
  superseded := h.superseded
  supersededState := hlink

theorem accepted (h : AttemptSettled a) (hstate : a.state = .submitting) (deadline : Nat) :
    AttemptSettled
      { a with
        state := .acceptedUnbound
        reconcileUntilTick := some deadline
        fileLoadedDeadlineTick := some deadline } where
  outcomeSequenced := h.outcomeSequenced
  terminalSequenced := by
    show a.physicalTerminalSequence.isSome = false
    rw [h.terminalSequenced, hstate]
    rfl
  reconciles := ⟨fun _ => rfl, fun _ => rfl⟩
  unbound := fun _ => h.unbound (.inl hstate)
  deadline := ⟨fun _ => ⟨h.submitting hstate, nofun⟩, fun _ => rfl⟩
  submitting := nofun
  loaded := h.loaded
  active := nofun
  revoked := h.revoked
  terminal := nofun
  quiescent := nofun
  superseded := h.superseded
  supersededState := nofun

/-- Binding a live attempt that is past `Submitting`. -/
theorem bound (h : AttemptSettled a) (hstate : a.state ≠ .submitting)
    (playlistEntryId : PlaylistEntryId) :
    AttemptSettled
      { a with
        playlistEntryId := some playlistEntryId
        reconcileUntilTick := none
        state :=
          if a.state == .acceptedUnbound || a.state == .mayStillEmit then .bound
          else a.state } := by
  have hkeep : ∀ state, state = (if a.state == .acceptedUnbound || a.state == .mayStillEmit
      then .bound else a.state) → state = .bound ∧ a.state.isTerminal = false
        ∧ a.state.isQuiescent = false ∨ state = a.state ∧ a.state ≠ .acceptedUnbound := by
    rintro state rfl
    split
    · next hs =>
      rcases Bool.or_eq_true_iff.mp hs with hs | hs <;>
        exact .inl ⟨rfl, by rw [eq_of_beq hs]; rfl, by rw [eq_of_beq hs]; rfl⟩
    · next hs =>
      refine .inr ⟨rfl, fun hs' => hs ?_⟩
      rw [hs']
      rfl
  generalize (if a.state == .acceptedUnbound || a.state == .mayStillEmit then
    LoadAttemptState.bound else a.state) = state at hkeep
  obtain ⟨rfl, hterminal, hquiescent⟩ | ⟨rfl, hunbound⟩ := hkeep state rfl
  · exact
      { outcomeSequenced := h.outcomeSequenced
        terminalSequenced := by
          show a.physicalTerminalSequence.isSome = false
          rw [h.terminalSequenced, hterminal]
        reconciles := ⟨nofun, nofun⟩
        unbound := fun hs => hs.elim nofun nofun
        deadline := ⟨fun hs => ⟨(h.deadline.mp hs).1, nofun⟩,
          fun hs => h.deadline.mpr ⟨hs.1, hstate⟩⟩
        submitting := nofun
        loaded := h.loaded
        active := nofun
        revoked := h.revoked
        terminal := nofun
        quiescent := nofun
        superseded := h.superseded
        supersededState := nofun }
  · exact
      { h with
        reconciles := ⟨nofun, fun hs => absurd hs hunbound⟩
        unbound := fun hs => hs.elim (fun hs => absurd hs hstate) fun hs => absurd hs hunbound }

/-- An expired claim, with the outcome that goes out with it. -/
theorem expired (h : AttemptSettled a) (hterminal : a.state.isTerminal = false)
    (retireAfterTick : Nat) (ownsTransport : Bool)
    (howns : ownsTransport = true → a.playlistEntryId.isSome = true)
    (result : PlayerLoadAttemptResult) (sequence : Nat) :
    AttemptSettled
      ((Reduction.expired retireAfterTick ownsTransport a).resolved result sequence) := by
  have hresult := resolved_result result sequence (Reduction.expired retireAfterTick ownsTransport a)
    (by unfold Reduction.expired; split <;> exact h.outcomeSequenced)
  unfold Reduction.expired at hresult ⊢
  cases ownsTransport with
  | true =>
    rw [if_pos rfl] at hresult ⊢
    have hstate := h.past_unbound (howns rfl)
    have hreconcile := h.not_reconciling hstate.2
    refine of_some hresult.1 hresult.2 ?_ ?_ ?_ ?_ ?_ ?_ ?_
    · simpa using h.terminalSequenced
    · simpa using hreconcile
    · simp
    · simpa using hstate
    · simpa using h.active
    · simpa using h.superseded
    · simpa using h.supersededState
  | false =>
    rw [if_neg (by decide)] at hresult ⊢
    refine of_some hresult.1 hresult.2 ?_ ?_ ?_ ?_ ?_ ?_ ?_
    · have := h.terminalSequenced
      rw [hterminal] at this
      simpa [LoadAttemptState.isTerminal] using this
    · simp
    · simp
    · simp
    · simp
    · simpa using h.superseded
    · simp

/-- A revoked claim, with the outcome that goes out with it. -/
theorem revokedBy (h : AttemptSettled a) (hterminal : a.state.isTerminal = false)
    (successorId : LoadAttemptId) (replacedAttempt : Option LoadAttemptId)
    (result : PlayerLoadAttemptResult) (sequence : Nat) :
    AttemptSettled
      (LoadAttempt.resolved result sequence
        { a with
          replacedAttempt := replacedAttempt
          supersededBy := some successorId
          logicalOwnershipRevoked := true
          state := .supersededMayStillEmit successorId
          reconcileUntilTick := none
          fileLoadedDeadlineTick := none }) := by
  have hresult := resolved_result result sequence
    { a with
      replacedAttempt := replacedAttempt
      supersededBy := some successorId
      logicalOwnershipRevoked := true
      state := .supersededMayStillEmit successorId
      reconcileUntilTick := none
      fileLoadedDeadlineTick := none } h.outcomeSequenced
  refine of_some hresult.1 hresult.2 ?_ ?_ ?_ ?_ ?_ ?_ ?_
  · have := h.terminalSequenced
    rw [hterminal] at this
    simpa [LoadAttemptState.isTerminal] using this
  all_goals simp

/-- A loaded file, with the outcome that goes out with it. -/
theorem observed (h : AttemptSettled a) (hbound : a.playlistEntryId.isSome = true)
    (hterminal : a.state.isTerminal = false) (result : PlayerLoadAttemptResult) (sequence : Nat) :
    AttemptSettled
      (LoadAttempt.resolved result sequence
        { a with
          fileLoadedObserved := true
          fileLoadedDeadlineTick := none
          state := if !a.logicalOwnershipRevoked then .active else a.state }) := by
  have hresult := resolved_result result sequence
    { a with
      fileLoadedObserved := true
      fileLoadedDeadlineTick := none
      state := if !a.logicalOwnershipRevoked then .active else a.state } h.outcomeSequenced
  have hstate := h.past_unbound hbound
  have hreconcile : a.reconcileUntilTick = none := h.not_reconciling hstate.2
  refine of_some hresult.1 hresult.2 ?_ ?_ ?_ ?_ ?_ ?_ ?_
  · have hsequenced := h.terminalSequenced
    rw [hterminal] at hsequenced
    rw [resolved_eq]
    dsimp only
    rw [hsequenced]
    split
    · rfl
    · exact hterminal.symm
  · simpa using hreconcile
  · simp
  · rw [resolved_eq]
    dsimp only
    split
    · exact ⟨nofun, nofun⟩
    · exact hstate
  · simp
  · simpa using h.superseded
  · intro successor hs
    rw [resolved_eq] at hs ⊢
    dsimp only at hs
    split at hs
    · exact absurd hs nofun
    · exact h.supersededState successor hs

/-- A physical end, with the outcome that goes out with it. -/
theorem terminated (h : AttemptSettled a) (outcome : PlayerPhysicalLoadOutcome)
    (terminalSequence : Nat) (result : PlayerLoadAttemptResult) (sequence : Nat) :
    AttemptSettled
      (LoadAttempt.resolved result sequence
        { a with
          state := .terminal outcome
          reconcileUntilTick := none
          fileLoadedDeadlineTick := none
          physicalTerminalSequence := some terminalSequence }) := by
  have hresult := resolved_result result sequence
    { a with
      state := .terminal outcome
      reconcileUntilTick := none
      fileLoadedDeadlineTick := none
      physicalTerminalSequence := some terminalSequence } h.outcomeSequenced
  refine of_some hresult.1 hresult.2 ?_ ?_ ?_ ?_ ?_ ?_ ?_
  · rw [resolved_eq]
    rfl
  · simp
  · simp
  · simp
  · simp
  · simpa using h.superseded
  · simp

end AttemptSettled

end Sorotte.Lifecycle
