import Sorotte.Lifecycle.SeekBudget

/-! # System seeks and the user's

  A seek that the program asked for is consumed at most once per submission, and
  while it is awaited a position report that it explains is not taken for a seek
  of the user's.
-/

namespace Sorotte.Lifecycle

open Framework PlayerLifecycleState

/-- After its submission the seek's acceptance was observed, every operation
    spared it, and if its command was compacted its retention is not over. -/
structure Awaited (s : PlayerLifecycleState) (owner : SystemSeekOwnership)
    (operations : List Operation) : Prop where
  accepted : .reduce (.seekCommandAccepted owner.attachmentEpoch owner.commandId) ∈ operations
  spared : Along step
    (Spares owner fun tick => (runFrom step s operations).nowTick < retentionEnd tick) s operations

namespace PlayerLifecycleState

variable {s : PlayerLifecycleState}

/-- The seek that a submission puts into the live map. -/
def submittedSeek (s : PlayerLifecycleState) (commandId : PlayerCommandId)
    (mediaGeneration : PlayerMediaGeneration) (rawTarget effectiveTarget : F64)
    (boundary : Nat) : SystemSeekOwnership where
  attachmentEpoch := s.attachmentEpoch
  mediaGeneration := mediaGeneration
  rawPlayerTargetSeconds := rawTarget
  effectiveRoomTargetSeconds := effectiveTarget
  commandId := commandId
  dispatchSequenceBoundary := boundary
  state := .submitted

/-- A new submission is live. -/
theorem seat_submitted {commandId : PlayerCommandId} (hnew : s.isRetiredCommand commandId = false)
    (mediaGeneration : PlayerMediaGeneration) (rawTarget effectiveTarget : F64) (boundary : Nat)
    (compacted : Nat → Prop) :
    Seat (s.submittedSeek commandId mediaGeneration rawTarget effectiveTarget boundary) False
      compacted (s.step (.reduce (.seekCommandSubmitted commandId mediaGeneration rawTarget
        effectiveTarget boundary))).seeks := by
  obtain ⟨superseded, heq⟩ := Reduction.seekCommandSubmitted_seeks (r := { s with effects := [] })
    hnew mediaGeneration rawTarget effectiveTarget boundary
  have hstep : (s.step (.reduce (.seekCommandSubmitted commandId mediaGeneration rawTarget
      effectiveTarget boundary))).seeks = _ := heq
  rw [hstep]
  refine .live .submitted ?_ rfl (fun h => h.elim) ?_
  · exact (getElem?_insert_if _ _ _ _).trans (if_pos rfl)
  · exact (Reduction.unobserved_attachmentEpoch superseded s.seeks).symm

/-- An awaited seek waits in a seat, with its acceptance observed. -/
theorem seat_awaited {owner : SystemSeekOwnership} {operations : List Operation}
    (h : Awaited s owner operations)
    (hseat : Seat owner False
      (fun tick => (runFrom step s operations).nowTick < retentionEnd tick) s.seeks) :
    Seat owner True (fun tick => (runFrom step s operations).nowTick < retentionEnd tick)
      (runFrom step s operations).seeks := by
  obtain ⟨past, future, hsplit⟩ := List.append_of_mem h.accepted
  have hspared := h.spared
  generalize (fun tick => (runFrom step s operations).nowTick < retentionEnd tick) = compacted
    at hseat hspared ⊢
  subst hsplit
  obtain ⟨hpast, haccept, hfuture⟩ := along_append.mp hspared
  rw [runFrom_append, runFrom_cons]
  have hbefore := seat_run hseat hpast
  exact seat_run (Reduction.seat_accepted
    (r := { runFrom step s past with effects := [] }) hbefore) hfuture

end PlayerLifecycleState

/-- **A system seek is never mistaken for a user seek.** -/
theorem system_seek_never_taken_for_native (firstEpoch : PlayerAttachmentEpoch)
    (before : List Operation) :
    (∀ commandId, (emitted step effectsOf (new firstEpoch) before).countP (IsConsumption commandId)
        ≤ before.countP (SubmitsSeek commandId))
      ∧ ∀ commandId mediaGeneration rawTarget effectiveTarget boundary between,
        let s := after firstEpoch before
        let owner := s.submittedSeek commandId mediaGeneration rawTarget effectiveTarget boundary
        let submitted := s.step (.reduce (.seekCommandSubmitted commandId mediaGeneration rawTarget
          effectiveTarget boundary))
        s.isRetiredCommand commandId = false → Awaited submitted owner between →
        ∀ observedSequence positionSeconds target, boundary < observedSequence →
          rawTarget.finite? = some target →
          Coordinator.distance target positionSeconds ≤ seekMatchToleranceSeconds →
          ∀ generation position, .nativeSeekCandidate generation position ∉
            (runFrom step submitted between).effectsOf
              (.reduce (.positionObserved s.attachmentEpoch mediaGeneration observedSequence
                positionSeconds)) := by
  refine ⟨fun c => consumptions_le_submissions firstEpoch before c, ?_⟩
  intro commandId mediaGeneration rawTarget effectiveTarget boundary between s owner submitted hnew
    hawaited observedSequence positionSeconds target hsequence htarget hdistance generation position
  have hseat := seat_awaited hawaited
    (seat_submitted hnew mediaGeneration rawTarget effectiveTarget boundary _)
  have hreached : owner.reachedBy owner.attachmentEpoch owner.mediaGeneration observedSequence
      positionSeconds = true := by
    show (owner.mayBe owner.attachmentEpoch owner.mediaGeneration observedSequence
      && rawTarget.finite?.any fun target =>
        Coordinator.distance target positionSeconds ≤ seekMatchToleranceSeconds) = true
    rw [htarget, Option.any_some]
    rw [Bool.and_eq_true, decide_eq_true hdistance]
    refine ⟨?_, rfl⟩
    have hlater : owner.dispatchSequenceBoundary < observedSequence := hsequence
    simp [SystemSeekOwnership.mayBe, hlater]
  exact seat_explains hseat (fun tick hlater => hlater) hreached generation position

/-- Counting is how a run's effects are checked for consumptions. -/
theorem not_consumed {commandId : PlayerCommandId} {effects : List PlayerLifecycleEffect}
    (h : effects.countP (IsConsumption commandId) = 0) (positionSeconds : Seconds) :
    .consumeSystemSeek commandId positionSeconds ∉ effects := by
  intro hmem
  have hnone := List.countP_eq_zero.mp h _ hmem
  simp [IsConsumption] at hnone

/-- A seek to second ten that is accepted, superseded and compacted: the report
    59999 ticks later is still its own. -/
theorem system_seek_never_taken_for_native_compacted :
    .nativeSeekCandidate 1 10 ∉ (after 1
      [.reduce (.seekCommandSubmitted 1 1 (.finite 10) (.finite 10) 1),
        .reduce (.seekCommandAccepted 1 1), .reduce (.commandSuperseded 1 1), .peekEventBatch,
        .acknowledgeEventBatch ⟨1, 1⟩, .reduce (.timerAdvanced 59999)]).effectsOf
      (.reduce (.positionObserved 1 1 2 10)) :=
  (system_seek_never_taken_for_native 1 []).2 1 1 (.finite 10) (.finite 10) 1
    [.reduce (.seekCommandAccepted 1 1), .reduce (.commandSuperseded 1 1), .peekEventBatch,
      .acknowledgeEventBatch ⟨1, 1⟩, .reduce (.timerAdvanced 59999)] (by decide +kernel)
    ⟨List.mem_cons_self,
      ⟨nofun, nofun, not_consumed (by decide +kernel), by decide +kernel, nofun⟩,
      ⟨nofun, nofun, not_consumed (by decide +kernel), by decide +kernel, nofun⟩,
      ⟨nofun, nofun, not_consumed rfl, by decide +kernel, nofun⟩,
      ⟨nofun, nofun, not_consumed rfl, by decide +kernel, fun _ _ _ _ => by decide +kernel⟩,
      ⟨nofun, nofun, not_consumed (by decide +kernel), by decide +kernel, nofun⟩, trivial⟩
    2 10 10 (by decide) rfl (by decide +kernel) 1 10

/-- A run that leaves its seek neither consumed nor invalidated, and takes the
    report at second ten for the user's. -/
def TakesForNative (run : List Operation) : Prop :=
  (emitted step effectsOf (new 1) run).countP (IsConsumption 1) = 0
    ∧ (∀ past ∈ run.inits,
      (after 1 past).seekOwnership[(1 : PlayerCommandId)]?.map (·.state) ≠ some .invalidated)
    ∧ .nativeSeekCandidate 1 10 ∈ (after 1 run).effectsOf (.reduce (.positionObserved 1 1 2 10))

instance : DecidablePred TakesForNative := fun _ => inferInstanceAs (Decidable (_ ∧ _ ∧ _))

/-- Four runs of an accepted seek to second ten: its command is completed without a
    position report, its identity is submitted again, the clock has no room for a
    retention, and its acceptance comes as an ordinary command's. -/
theorem system_seek_taken_for_native :
    List.Forall TakesForNative
      [[.reduce (.seekCommandSubmitted 1 1 (.finite 10) (.finite 10) 1),
          .reduce (.seekCommandAccepted 1 1), .reduce (.commandCompleted 1 1),
          .reduce (.seekingObserved 1 1 2 true)],
        [.reduce (.seekCommandSubmitted 1 1 (.finite 10) (.finite 10) 1),
          .reduce (.seekCommandAccepted 1 1),
          .reduce (.seekCommandSubmitted 1 1 (.finite 50) (.finite 50) 1),
          .reduce (.seekingObserved 1 1 2 true)],
        [.reduce (.timerAdvanced 18446744073709551615),
          .reduce (.seekCommandSubmitted 1 1 (.finite 10) (.finite 10) 1),
          .reduce (.seekCommandAccepted 1 1), .reduce (.commandSuperseded 1 1), .peekEventBatch,
          .acknowledgeEventBatch ⟨1, 1⟩, .reduce (.timerAdvanced 18446744073709551615),
          .reduce (.seekingObserved 1 1 2 true)],
        [.reduce (.seekCommandSubmitted 1 1 (.finite 10) (.finite 10) 1),
          .reduce (.commandAccepted 1 1), .reduce (.seekingObserved 1 1 2 true)]] := by
  decide +kernel

end Sorotte.Lifecycle
