import Sorotte.Status.Views

/-! # What the views keep

  The order of the scopes is the lexicographic one, an absent revision first.  A
  view that is exact after it aged still has its scope, or no evidence at all.
-/

namespace Sorotte.Status

/-! ### The order of scopes -/

namespace ParticipantPlaybackScope

/-- The place of a revision, an absent one first. -/
def rank (revision : Option Nat) : Nat := revision.elim 0 (· + 1)

theorem revisionBefore_iff (candidate current : Option Nat) :
    revisionBefore candidate current = true ↔ rank candidate < rank current := by
  cases candidate with
  | none =>
    cases current with
    | none => simp [revisionBefore, rank]
    | some current => simp [revisionBefore, rank]
  | some candidate =>
    cases current with
    | none => simp [revisionBefore, rank]
    | some current => simp [revisionBefore, rank]

/-- Scopes are compared by their transport revision, then by their media
    generation, and then by their state revision. -/
def Precedes (candidate current : ParticipantPlaybackScope) : Prop :=
  rank candidate.transportRevision < rank current.transportRevision
    ∨ rank candidate.transportRevision = rank current.transportRevision
      ∧ (candidate.mediaGeneration < current.mediaGeneration
        ∨ candidate.mediaGeneration = current.mediaGeneration
          ∧ rank candidate.stateRevision < rank current.stateRevision)

theorem mediaOlder_iff (candidate current : ParticipantPlaybackScope) :
    candidate.mediaOlder current = true ↔
      candidate.mediaGeneration < current.mediaGeneration
        ∨ candidate.mediaGeneration = current.mediaGeneration
          ∧ rank candidate.stateRevision < rank current.stateRevision := by
  rw [← revisionBefore_iff]
  unfold mediaOlder
  split
  · next h => simp [h]
  · next h =>
    split
    · next h' =>
      have hne : candidate.mediaGeneration ≠ current.mediaGeneration := by omega
      simp [h, hne]
    · next h' =>
      have heq : candidate.mediaGeneration = current.mediaGeneration := by omega
      simp [heq]

theorem isOlder_iff (candidate current : ParticipantPlaybackScope) :
    candidate.isOlder current = true ↔ candidate.Precedes current := by
  unfold Precedes
  rw [← mediaOlder_iff]
  unfold isOlder
  cases candidate.transportRevision with
  | none =>
    cases current.transportRevision with
    | none => simp [rank]
    | some currentRevision => simp [rank]
  | some candidateRevision =>
    cases current.transportRevision with
    | none => simp [rank]
    | some currentRevision =>
      dsimp only [rank, Option.elim]
      split
      · next h => simp [h]
      · next h =>
        split
        · next h' =>
          have hne : candidateRevision ≠ currentRevision := by omega
          simp [h, hne]
        · next h' =>
          have heq : candidateRevision = currentRevision := by omega
          simp [heq]

theorem isOlder_irrefl (scope : ParticipantPlaybackScope) : scope.isOlder scope = false := by
  rw [Bool.eq_false_iff, Ne, isOlder_iff]
  unfold Precedes
  omega

theorem isOlder_trans {first second third : ParticipantPlaybackScope}
    (h : first.isOlder second = true) (h' : second.isOlder third = true) :
    first.isOlder third = true := by
  rw [isOlder_iff] at h h' ⊢
  unfold Precedes at h h' ⊢
  omega

/-- Not becoming older is transitive too. -/
theorem not_isOlder_trans {first second third : ParticipantPlaybackScope}
    (h : second.isOlder first = false) (h' : third.isOlder second = false) :
    third.isOlder first = false := by
  rw [Bool.eq_false_iff, Ne, isOlder_iff] at h h' ⊢
  unfold Precedes at h h' ⊢
  omega

end ParticipantPlaybackScope

namespace ClientParticipantStatusView

/-! ### Views that are no observation -/

/-- A row that is no observation of a player is not correlated to a scope. -/
def Sound (v : ClientParticipantStatusView) : Prop :=
  v.status.availability.observed = false → v.status.correlation = none

theorem redactIneligible_same (v : ParticipantStatusView) :
    v.redactIneligibleMediaEvidence.availability = v.availability
      ∧ v.redactIneligibleMediaEvidence.correlation = v.correlation := by
  unfold ParticipantStatusView.redactIneligibleMediaEvidence
  split
  · exact ⟨rfl, rfl⟩
  · have hstages : v.redactOffset.redactPosition.redactBuffer.availability = v.availability
        ∧ v.redactOffset.redactPosition.redactBuffer.correlation = v.correlation := by
      unfold ParticipantStatusView.redactBuffer ParticipantStatusView.redactPosition
        ParticipantStatusView.redactOffset
      split <;> split <;> split <;> exact ⟨rfl, rfl⟩
    dsimp only
    split
    · exact hstages
    · exact hstages

theorem availabilityOf_observed {freshness : ClientParticipantStatusFreshness}
    {availability : ParticipantStatusAvailability} (h : availability.observed = true) :
    (availabilityOf freshness availability).observed = true := by
  cases freshness with
  | unknown => exact h
  | fresh => rfl
  | delayed => rfl
  | stale => rfl

theorem synchronizeAge_same (v : ClientParticipantStatusView) :
    v.synchronizeAgeDerivedAvailability.status.availability.observed =
        v.status.availability.observed
      ∧ v.synchronizeAgeDerivedAvailability.status.correlation = v.status.correlation := by
  unfold synchronizeAgeDerivedAvailability
  split
  · next hobserved =>
    have hafter : (availabilityOf v.freshness v.status.availability).observed = true :=
      availabilityOf_observed hobserved
    dsimp only
    split
    · split
      · exact ⟨hafter.trans hobserved.symm, rfl⟩
      · exact ⟨hafter.trans hobserved.symm, rfl⟩
    · split
      · exact ⟨hafter.trans hobserved.symm, rfl⟩
      · exact ⟨hafter.trans hobserved.symm, rfl⟩
  · exact ⟨rfl, rfl⟩

theorem synchronizeEvidence_same (v : ClientParticipantStatusView) (elapsed : Seconds) :
    (v.synchronizeEvidenceAge elapsed).status.availability = v.status.availability
      ∧ (v.synchronizeEvidenceAge elapsed).status.correlation = v.status.correlation
      ∧ (v.synchronizeEvidenceAge elapsed).status.playbackScope = v.status.playbackScope
      ∧ (v.synchronizeEvidenceAge elapsed).freshness = v.freshness := by
  unfold synchronizeEvidenceAge clearNonPositionMediaEvidence clearPositionEvidence
  dsimp only
  split <;> split <;> split <;> (try split) <;> exact ⟨rfl, rfl, rfl, rfl⟩

theorem redactPrecise_same (v : ClientParticipantStatusView) :
    v.redactPreciseScopeEvidence.status.availability = v.status.availability
      ∧ v.redactPreciseScopeEvidence.status.correlation ≠ some .exact
      ∧ (v.status.correlation = none → v.redactPreciseScopeEvidence.status.correlation = none) := by
  refine ⟨rfl, ?_, ?_⟩
  · show (if v.status.correlation = some .exact then some .superseded else v.status.correlation) ≠ _
    split
    · simp
    · next h => exact h
  · intro hnone
    show (if v.status.correlation = some .exact then some .superseded else v.status.correlation) = _
    rw [hnone]
    rfl

theorem redactPrecise_sound {v : ClientParticipantStatusView} (h : v.Sound) :
    v.redactPreciseScopeEvidence.Sound := by
  intro hunobserved
  have hsame := redactPrecise_same v
  rw [hsame.1] at hunobserved
  exact hsame.2.2 (h hunobserved)

theorem retainCompact_sound {v : ClientParticipantStatusView} (h : v.Sound) :
    v.retainCompactSnapshotFields.Sound := h

theorem fromWire_sound (value : ParticipantStatusView) : (fromWire value).Sound := by
  intro hunobserved
  unfold fromWire at hunobserved ⊢
  dsimp only at hunobserved ⊢
  generalize hentered : (if value.availability.observed = true then value
    else ({ availability := value.availability } : ParticipantStatusView)) = entered
    at hunobserved ⊢
  -- What came in is correlated only if it is an observation.
  have hbefore : entered.availability.observed = false → entered.correlation = none := by
    intro h
    subst hentered
    split at h
    · next hobserved =>
      rw [hobserved] at h
      cases h
    · next hother => rw [if_neg hother]
  have hredacted := redactIneligible_same entered
  generalize entered.redactIneligibleMediaEvidence = redacted at hunobserved hredacted ⊢
  rw [(synchronizeEvidence_same _ 0).1, (synchronizeAge_same _).1] at hunobserved
  rw [(synchronizeEvidence_same _ 0).2.1, (synchronizeAge_same _).2]
  split at hunobserved
  · next hmalformed =>
    rw [if_pos hmalformed]
    have hsame := redactPrecise_same ⟨redacted, redacted.reportAgeMs.map secondsOf,
      wireFreshness redacted.availability (redacted.reportAgeMs.map secondsOf)⟩
    rw [hsame.1] at hunobserved
    apply hsame.2.2
    show redacted.correlation = none
    rw [hredacted.2]
    apply hbefore
    rw [← hredacted.1]
    exact hunobserved
  · next hwell =>
    rw [if_neg hwell]
    show redacted.correlation = none
    rw [hredacted.2]
    apply hbefore
    rw [← hredacted.1]
    exact hunobserved

/-! ### Ageing -/

/-- A stale view with nothing left of a playback epoch. -/
def Stripped (v : ClientParticipantStatusView) : Prop :=
  v.freshness = .stale
    ∧ v.status = { v.status.withoutEpoch with phase := none }

theorem synchronizeAge_stripped {v : ClientParticipantStatusView}
    (hobserved : v.status.availability.observed = true) (hstale : v.freshness = .stale) :
    v.synchronizeAgeDerivedAvailability.Stripped := by
  unfold synchronizeAgeDerivedAvailability
  rw [if_pos hobserved]
  dsimp only
  rw [hstale, if_pos rfl]
  exact ⟨rfl, rfl⟩

theorem synchronizeEvidence_stripped {v : ClientParticipantStatusView} (h : v.Stripped)
    (elapsed : Seconds) : (v.synchronizeEvidenceAge elapsed).Stripped := by
  obtain ⟨hstale, hstatus⟩ := h
  unfold synchronizeEvidenceAge
  rw [hstatus]
  exact ⟨hstale, rfl⟩

theorem failClosed_exact {v : ClientParticipantStatusView} (hsound : v.Sound)
    (h : v.failClosedStale.status.correlation = some .exact) : v.failClosedStale.Stripped := by
  unfold failClosedStale at h ⊢
  split at h
  · next hobserved =>
    rw [if_pos hobserved]
    exact synchronizeAge_stripped hobserved rfl
  · next hother =>
    rw [hsound (Bool.eq_false_iff.mpr hother)] at h
    cases h

/-- A view that is exact after it aged has the scope it had, or nothing of it. -/
theorem agedBy_exact {v : ClientParticipantStatusView} (hsound : v.Sound) {elapsed : F64}
    (h : (v.agedBy elapsed).status.correlation = some .exact) :
    v.status.correlation = some .exact
      ∧ ((v.agedBy elapsed).status.playbackScope = v.status.playbackScope
        ∨ (v.agedBy elapsed).Stripped) := by
  have hclosed : v.failClosedStale.status.correlation = some .exact →
      v.status.correlation = some .exact := by
    intro hexact
    unfold failClosedStale at hexact
    split at hexact
    · rw [(synchronizeAge_same _).2] at hexact
      exact hexact
    · exact hexact
  unfold agedBy at h ⊢
  cases elapsed with
  | nonFinite => exact ⟨hclosed h, .inr (failClosed_exact hsound h)⟩
  | finite elapsed =>
    dsimp only at h ⊢
    split at h
    · next hearlier =>
      rw [if_pos hearlier]
      exact ⟨hclosed h, .inr (failClosed_exact hsound h)⟩
    · next hlater =>
      rw [if_neg hlater]
      split at h
      · next hobserved =>
        rw [if_pos hobserved]
        rw [(synchronizeEvidence_same _ elapsed).2.1, (synchronizeAge_same _).2] at h
        refine ⟨h, ?_⟩
        by_cases hstale : v.freshness.max
            (.fromReportAgeSeconds (v.reportAgeSeconds.map (· + elapsed))) = .stale
        · refine .inr (synchronizeEvidence_stripped ?_ elapsed)
          exact synchronizeAge_stripped hobserved hstale
        · refine .inl ?_
          rw [(synchronizeEvidence_same _ elapsed).2.2.1]
          unfold synchronizeAgeDerivedAvailability
          rw [if_pos hobserved]
          dsimp only
          rw [if_neg hstale]
          split <;> rfl
      · next hother =>
        rw [(synchronizeEvidence_same _ elapsed).2.1] at h
        rw [hsound (Bool.eq_false_iff.mpr hother)] at h
        cases h

end ClientParticipantStatusView

end Sorotte.Status
