import Sorotte.Lifecycle.SettledAttempts

/-! # Settled attempts along runs

  The remaining functions of the reducer, every input, and the acknowledgements
  that drop records: all of them leave the attempts settled.
-/

namespace Sorotte.Lifecycle

open Framework

namespace AttemptsSettled

variable {o o' : LoadOwnership}

/-- A new record under the next identity, bound or not, while the others are
    edited in place. -/
theorem insert (h : AttemptsSettled o) {b : LoadAttempt} {f : LoadAttemptId → LoadAttempt → LoadAttempt}
    (hepoch : o'.attachmentEpoch = o.attachmentEpoch)
    (hnext : o'.nextLoadAttemptId = o.nextLoadAttemptId + 1)
    (hlookup : ∀ k : LoadAttemptId, o'.loadAttempts[k]? =
      if k = o.nextLoadAttemptId then some b else o.loadAttempts[k]?.map (f k))
    (hkeep : ∀ (k : LoadAttemptId) (a : LoadAttempt), o.loadAttempts[k]? = some a →
      KeepsPlace a (f k a) ∧ AttemptSettled (f k a))
    (hid : b.id = o.nextLoadAttemptId) (hbepoch : b.attachmentEpoch = o.attachmentEpoch)
    (hblive : b.state.isTerminal = false) (hbsettled : AttemptSettled b)
    (hentries : ∀ e : PlaylistEntryId, o'.playlistEntryAttempts[e]? =
      if b.playlistEntryId = some e then some o.nextLoadAttemptId
      else o.playlistEntryAttempts[e]?)
    (hfree : ∀ e : PlaylistEntryId, b.playlistEntryId = some e →
      o.playlistEntryAttempts[e]? = none)
    (hactive : ∀ k : LoadAttemptId, o'.activeLoadAttempt = some k →
      (k = o.nextLoadAttemptId → b.state.isQuiescent = false ∧ b.playlistEntryId.isSome = true)
        ∧ (k ≠ o.nextLoadAttemptId → o.activeLoadAttempt = some k
          ∧ ∀ a, o.loadAttempts[k]? = some a → a.state.isQuiescent = false →
            (f k a).state.isQuiescent = false)) :
    AttemptsSettled o' := by
  have hfresh : ∀ (k : LoadAttemptId) (a : LoadAttempt), o.loadAttempts[k]? = some a →
      k ≠ o.nextLoadAttemptId := by
    intro k a ha heq
    have hissued := (h.issued k a ha).2
    rw [heq] at hissued
    exact absurd hissued (Nat.lt_irrefl _)
  have hself : o'.loadAttempts[o.nextLoadAttemptId]? = some b := by
    rw [hlookup, if_pos rfl]
  have hkept : ∀ (k : LoadAttemptId) (a : LoadAttempt), o.loadAttempts[k]? = some a →
      o'.loadAttempts[k]? = some (f k a) := by
    intro k a ha
    rw [hlookup, if_neg (hfresh k a ha), ha]
    rfl
  have hfound : ∀ (k : LoadAttemptId) (a' : LoadAttempt), o'.loadAttempts[k]? = some a' →
      (k = o.nextLoadAttemptId ∧ a' = b)
        ∨ ∃ a, o.loadAttempts[k]? = some a ∧ a' = f k a := by
    intro k a' ha'
    rw [hlookup] at ha'
    split at ha'
    · next hk =>
      cases ha'
      exact .inl ⟨hk, rfl⟩
    · obtain ⟨a, ha, rfl⟩ := Option.map_eq_some_iff.mp ha'
      exact .inr ⟨a, ha, rfl⟩
  constructor
  · intro i a' ha'
    rcases hfound i a' ha' with ⟨rfl, rfl⟩ | ⟨a, ha, rfl⟩
    · exact hid
    · rw [(hkeep i a ha).1.id]
      exact h.keyed i a ha
  · omega
  · intro i a' ha'
    have hpositive := h.positive
    rw [hnext]
    rcases hfound i a' ha' with ⟨rfl, rfl⟩ | ⟨a, ha, rfl⟩
    · exact ⟨hpositive, Nat.lt_succ_self _⟩
    · obtain ⟨hfirst, hissued⟩ := h.issued i a ha
      exact ⟨hfirst, Nat.lt_succ_of_lt hissued⟩
  · intro i a' ha'
    rw [hepoch]
    rcases hfound i a' ha' with ⟨rfl, rfl⟩ | ⟨a, ha, rfl⟩
    · exact hbepoch
    · rw [(hkeep i a ha).1.attachmentEpoch]
      exact h.epoch i a ha
  · intro i a' ha'
    rcases hfound i a' ha' with ⟨rfl, rfl⟩ | ⟨a, ha, rfl⟩
    · exact hbsettled
    · exact (hkeep i a ha).2
  · intro e i
    have hold : ∀ {a : LoadAttempt}, o.loadAttempts[i]? = some a →
        (BoundTo o' e i ↔ BoundTo o e i) := by
      intro a ha
      constructor
      · rintro ⟨a', ha', hlive, hentry⟩
        rw [hkept i a ha] at ha'
        cases ha'
        rw [(hkeep i a ha).1.terminal] at hlive
        rw [(hkeep i a ha).1.playlistEntryId] at hentry
        exact ⟨a, ha, hlive, hentry⟩
      · rintro ⟨a', ha', hlive, hentry⟩
        rw [ha] at ha'
        cases ha'
        refine ⟨f i a, hkept i a ha, ?_, ?_⟩
        · rw [(hkeep i a ha).1.terminal]
          exact hlive
        · rw [(hkeep i a ha).1.playlistEntryId]
          exact hentry
    rw [hentries]
    split
    · next hbound =>
      constructor
      · intro hi
        cases hi
        exact ⟨b, hself, hblive, hbound⟩
      · rintro ⟨a', ha', hlive, hentry⟩
        rcases hfound i a' ha' with ⟨rfl, rfl⟩ | ⟨a, ha, rfl⟩
        · rfl
        · have hmapped := (h.mapped e i).mpr ((hold ha).mp ⟨f i a, ha', hlive, hentry⟩)
          rw [hfree e hbound] at hmapped
          cases hmapped
    · next hunbound =>
      rw [h.mapped e i]
      constructor
      · rintro ⟨a, ha, hlive, hentry⟩
        exact (hold ha).mpr ⟨a, ha, hlive, hentry⟩
      · rintro ⟨a', ha', hlive, hentry⟩
        rcases hfound i a' ha' with ⟨rfl, rfl⟩ | ⟨a, ha, rfl⟩
        · exact absurd hentry hunbound
        · exact (hold ha).mp ⟨f i a, ha', hlive, hentry⟩
  · intro i hi
    by_cases hnew : i = o.nextLoadAttemptId
    · obtain ⟨hquiescent, hentry⟩ := (hactive i hi).1 hnew
      rw [hnew]
      exact ⟨b, hself, hblive, hquiescent, hentry⟩
    · obtain ⟨hbefore, hquiescent⟩ := (hactive i hi).2 hnew
      obtain ⟨a, ha, hlive, hq, hentry⟩ := h.active i hbefore
      refine ⟨f i a, hkept i a ha, ?_, hquiescent a ha hq, ?_⟩
      · rw [(hkeep i a ha).1.terminal]
        exact hlive
      · rw [(hkeep i a ha).1.playlistEntryId]
        exact hentry

/-- A live attempt ends: its record is terminal and its entry is free. -/
theorem terminate (h : AttemptsSettled o) {i : LoadAttemptId} {a b : LoadAttempt}
    (ha : o.loadAttempts[i]? = some a) (hlive : a.state.isTerminal = false)
    (hepoch : o'.attachmentEpoch = o.attachmentEpoch)
    (hnext : o'.nextLoadAttemptId = o.nextLoadAttemptId)
    (hlookup : ∀ k : LoadAttemptId, o'.loadAttempts[k]? =
      if k = i then some b else o.loadAttempts[k]?)
    (hid : b.id = a.id) (hbepoch : b.attachmentEpoch = a.attachmentEpoch)
    (hended : b.state.isTerminal = true) (hbsettled : AttemptSettled b)
    (hentries : ∀ e : PlaylistEntryId, o'.playlistEntryAttempts[e]? =
      if a.playlistEntryId = some e then none else o.playlistEntryAttempts[e]?)
    (hactive : ∀ k : LoadAttemptId, o'.activeLoadAttempt = some k →
      k ≠ i ∧ o.activeLoadAttempt = some k) : AttemptsSettled o' := by
  have hself : o'.loadAttempts[i]? = some b := by rw [hlookup, if_pos rfl]
  have hother : ∀ k : LoadAttemptId, k ≠ i → o'.loadAttempts[k]? = o.loadAttempts[k]? := by
    intro k hk
    rw [hlookup, if_neg hk]
  constructor
  · intro k c hc
    by_cases hk : k = i
    · rw [hk, hself] at hc
      cases hc
      rw [hid, hk]
      exact h.keyed i a ha
    · rw [hother k hk] at hc
      exact h.keyed k c hc
  · rw [hnext]
    exact h.positive
  · intro k c hc
    rw [hnext]
    by_cases hk : k = i
    · rw [hk]
      exact h.issued i a ha
    · rw [hother k hk] at hc
      exact h.issued k c hc
  · intro k c hc
    rw [hepoch]
    by_cases hk : k = i
    · rw [hk, hself] at hc
      cases hc
      rw [hbepoch]
      exact h.epoch i a ha
    · rw [hother k hk] at hc
      exact h.epoch k c hc
  · intro k c hc
    by_cases hk : k = i
    · rw [hk, hself] at hc
      cases hc
      exact hbsettled
    · rw [hother k hk] at hc
      exact h.settled k c hc
  · intro e k
    rw [hentries]
    constructor
    · intro hmapped
      split at hmapped
      · cases hmapped
      · next hne =>
        obtain ⟨c, hc, hclive, hcentry⟩ := (h.mapped e k).mp hmapped
        have hk : k ≠ i := by
          rintro rfl
          rw [ha] at hc
          cases hc
          exact hne hcentry
        exact ⟨c, by rw [hother k hk]; exact hc, hclive, hcentry⟩
    · rintro ⟨c, hc, hclive, hcentry⟩
      have hk : k ≠ i := by
        rintro rfl
        rw [hself] at hc
        cases hc
        rw [hended] at hclive
        exact absurd hclive (by decide)
      rw [hother k hk] at hc
      have hmapped := (h.mapped e k).mpr ⟨c, hc, hclive, hcentry⟩
      rw [if_neg, hmapped]
      intro hentry
      have hself' := (h.mapped e i).mpr ⟨a, ha, hlive, hentry⟩
      rw [hmapped] at hself'
      exact hk (Option.some.inj hself')
  · intro k hk
    obtain ⟨hne, hbefore⟩ := hactive k hk
    rw [hother k hne]
    exact h.active k hbefore

end AttemptsSettled

namespace Reduction

variable {r : Reduction}

/-! ### Ends -/

theorem commit_eq_self {attemptId : LoadAttemptId} (outcome : PlayerPhysicalLoadOutcome)
    (h : ∀ a, r.loadAttempts[attemptId]? = some a → a.state.isTerminal = true) :
    r.commitPhysicalAttemptTerminal attemptId outcome = r := by
  unfold commitPhysicalAttemptTerminal
  split
  · rfl
  · next before hbefore =>
    rw [if_pos]
    rw [h before hbefore, Bool.or_true]

/-- What ending an attempt does, whether it was live or not. -/
theorem commit_cases (h : AttemptsSettled r.toLoadOwnership) (attemptId : LoadAttemptId)
    (outcome : PlayerPhysicalLoadOutcome) :
    r.commitPhysicalAttemptTerminal attemptId outcome = r
      ∨ ∃ before, r.loadAttempts[attemptId]? = some before ∧ before.state.isTerminal = false
        ∧ Committed r (r.commitPhysicalAttemptTerminal attemptId outcome) attemptId outcome
          before := by
  by_cases hlive : ∃ a, r.loadAttempts[attemptId]? = some a ∧ a.state.isTerminal = false
  · obtain ⟨before, hbefore, hstate⟩ := hlive
    exact .inr ⟨before, hbefore, hstate,
      commit_spec r hbefore (h.epoch attemptId before hbefore) hstate outcome⟩
  · refine .inl (commit_eq_self outcome fun a ha => ?_)
    cases hstate : a.state.isTerminal with
    | true => rfl
    | false => exact absurd ⟨a, ha, hstate⟩ hlive

theorem settled_commit (h : AttemptsSettled r.toLoadOwnership) (attemptId : LoadAttemptId)
    (outcome : PlayerPhysicalLoadOutcome) :
    AttemptsSettled (r.commitPhysicalAttemptTerminal attemptId outcome).toLoadOwnership := by
  rcases commit_cases h attemptId outcome with hself | ⟨before, hbefore, hlive, hcommitted⟩
  · rw [hself]
    exact h
  · refine h.terminate hbefore hlive hcommitted.attachmentEpoch hcommitted.nextLoadAttemptId
      hcommitted.loadAttempts ?_ ?_ ?_ ?_ ?_ ?_
    · simp [endedRecord]
    · simp [endedRecord]
    · simp [endedRecord, LoadAttemptState.isTerminal]
    · exact (h.settled attemptId before hbefore).terminated outcome _ _ _
    · intro e
      rw [hcommitted.playlistEntryAttempts]
      cases hentry : before.playlistEntryId with
      | none => simp
      | some entryId =>
        dsimp only
        rw [getElem?_erase_if]
        by_cases he : e = entryId
        · rw [if_pos he, if_pos (by rw [he])]
        · rw [if_neg he, if_neg fun hsame => he (Option.some.inj hsame).symm]
    · intro k hk
      rw [hcommitted.activeLoadAttempt] at hk
      split at hk
      · cases hk
      · next hne =>
        refine ⟨?_, hk⟩
        rintro rfl
        exact hne (by rw [hk]; exact beq_self_eq_true _)

theorem settled_commitAll (attemptIds : List LoadAttemptId)
    (outcome : PlayerPhysicalLoadOutcome) (h : AttemptsSettled r.toLoadOwnership) :
    AttemptsSettled (r.commitAll attemptIds outcome).toLoadOwnership := by
  unfold commitAll
  induction attemptIds generalizing r with
  | nil => exact h
  | cons attemptId rest ih => exact ih (settled_commit h attemptId outcome)

/-! ### Commands -/

theorem settled_commandTerminal (h : AttemptsSettled r.toLoadOwnership)
    (commandId : PlayerCommandId) (terminal : CommandSemanticState) :
    AttemptsSettled (r.commandTerminal commandId terminal).toLoadOwnership := by
  unfold commandTerminal
  split
  · exact h
  · split
    · exact h
    · split
      · exact h
      · exact h.congr rfl rfl rfl rfl rfl

theorem settled_endSeekCommand (h : AttemptsSettled r.toLoadOwnership)
    (commandId : PlayerCommandId) (terminal : CommandSemanticState)
    (edit : SystemSeekOwnershipState → SystemSeekOwnershipState) :
    AttemptsSettled (r.endSeekCommand commandId terminal edit).toLoadOwnership :=
  (settled_commandTerminal h commandId terminal).congr rfl rfl rfl rfl rfl

theorem settled_foldl {α : Type} {round : Reduction → α → Reduction}
    (hround : ∀ (r : Reduction) a, AttemptsSettled r.toLoadOwnership →
      AttemptsSettled (round r a).toLoadOwnership)
    (items : List α) (h : AttemptsSettled r.toLoadOwnership) :
    AttemptsSettled (items.foldl round r).toLoadOwnership := by
  induction items generalizing r with
  | nil => exact h
  | cons a items ih => exact ih (hround r a h)

/-! ### Claims that expire -/

/-- Expiring a claim and telling so. -/
theorem settled_expire (h : AttemptsSettled r.toLoadOwnership) (attemptId : LoadAttemptId)
    (ownsTransport : Bool)
    (howns : ownsTransport = true → r.activeLoadAttempt = some attemptId)
    (hlive : ∀ a, r.loadAttempts[attemptId]? = some a → a.state.isTerminal = false)
    (result : PlayerLoadAttemptResult) (loadedTarget : Option String) :
    AttemptsSettled ((r.expireAttempt attemptId ownsTransport).emitLoadOutcome attemptId result
      loadedTarget).toLoadOwnership := by
  have hactiveAfter : (r.expireAttempt attemptId ownsTransport).activeLoadAttempt =
      if !ownsTransport && r.activeLoadAttempt == some attemptId then none
      else r.activeLoadAttempt := by
    unfold expireAttempt
    extract_lets retireAfterTick r'
    show (if (!ownsTransport && r.activeLoadAttempt == some attemptId) = true then _ else _ :
      Reduction).activeLoadAttempt = _
    split <;> rfl
  have hfields : (r.expireAttempt attemptId ownsTransport).attachmentEpoch = r.attachmentEpoch
      ∧ (r.expireAttempt attemptId ownsTransport).playlistEntryAttempts = r.playlistEntryAttempts
      ∧ (r.expireAttempt attemptId ownsTransport).nextLoadAttemptId = r.nextLoadAttemptId := by
    unfold expireAttempt
    extract_lets retireAfterTick r'
    split <;> exact ⟨rfl, rfl, rfl⟩
  have hown := emitLoadOutcome_own (r.expireAttempt attemptId ownsTransport) attemptId result
    loadedTarget
  generalize (r.expireAttempt attemptId ownsTransport).sequence = sequence at hown
  refine h.update (i := attemptId)
    (f := fun a => (expired r.retention ownsTransport a).resolved result sequence) ?_ ?_ ?_ ?_ ?_ ?_
  · rw [hown]
    exact hfields.1
  · rw [hown]
    exact hfields.2.1
  · rw [hown]
    exact hfields.2.2
  · intro k
    rw [hown]
    show ((r.expireAttempt attemptId ownsTransport).loadAttempts.modify attemptId _)[k]? = _
    rw [expireAttempt_loadAttempts, getElem?_modify_if, getElem?_modify_if]
    split
    · rw [Option.map_map]
      rfl
    · rfl
  · intro a ha
    have hstate := hlive a ha
    refine ⟨⟨?_, ?_, ?_, ?_⟩, (h.settled attemptId a ha).expired hstate _ _ ?_ _ _⟩
    · unfold expired
      split <;> simp
    · unfold expired
      split <;> simp
    · unfold expired
      split
      · simp
      · simp only [resolved_eq]
        rw [hstate]
        rfl
    · unfold expired
      split <;> simp
    · intro howned
      obtain ⟨b, hb, -, -, hentry⟩ := h.active attemptId (howns howned)
      rw [ha] at hb
      cases hb
      exact hentry
  · intro k hk
    rw [hown] at hk
    have hheld : (r.expireAttempt attemptId ownsTransport).activeLoadAttempt = some k := hk
    rw [hactiveAfter] at hheld
    split at hheld
    · cases hheld
    · next hkept =>
      refine ⟨fun _ => hheld, ?_⟩
      rintro rfl
      obtain ⟨a, ha, hstate, hquiescent, hentry⟩ := h.active k hheld
      refine ⟨a, ha, hstate, ?_, hentry⟩
      have howned : ownsTransport = true := by
        cases hvalue : ownsTransport with
        | true => rfl
        | false =>
          rw [hvalue, hheld] at hkept
          simp at hkept
      unfold expired
      rw [howned]
      simpa using hquiescent

/-! ### Superseding -/

/-- An attempt's record after another attempt was chosen to succeed one that it
    claimed to replace. -/
def withoutClaim (predecessorId selectedSuccessorId : LoadAttemptId) (attempt : LoadAttempt) :
    LoadAttempt :=
  if attempt.id != selectedSuccessorId && attempt.replacedAttempt == some predecessorId then
    { attempt with replacedAttempt := none }
  else attempt

theorem settled_withoutClaim {a : LoadAttempt} (h : AttemptSettled a)
    (predecessorId selectedSuccessorId : LoadAttemptId) :
    KeepsPlace a (withoutClaim predecessorId selectedSuccessorId a)
      ∧ AttemptSettled (withoutClaim predecessorId selectedSuccessorId a)
      ∧ (withoutClaim predecessorId selectedSuccessorId a).state = a.state := by
  unfold withoutClaim
  split
  · exact ⟨⟨rfl, rfl, rfl, rfl⟩, { h with }, rfl⟩
  · exact ⟨KeepsPlace.refl a, h, rfl⟩

/-- An attempt's record after its claim went to a successor. -/
def revokedRecord (successorId : LoadAttemptId) (sequence : Nat) (attempt : LoadAttempt) :
    LoadAttempt :=
  LoadAttempt.resolved .superseded sequence
    { attempt with
      supersededBy := some successorId
      logicalOwnershipRevoked := true
      state := .supersededMayStillEmit successorId
      reconcileUntilTick := none
      fileLoadedDeadlineTick := none }

/-- The records after a live attempt was superseded. -/
def supersededRecord (predecessorId successorId : LoadAttemptId) (sequence : Nat)
    (k : LoadAttemptId) (attempt : LoadAttempt) : LoadAttempt :=
  if k = predecessorId then
    revokedRecord successorId sequence (withoutClaim predecessorId successorId attempt)
  else withoutClaim predecessorId successorId attempt

/-- Only the records and the commands change when an attempt is superseded. -/
structure Superseded (r r' : Reduction) (f : LoadAttemptId → LoadAttempt → LoadAttempt) : Prop where
  attachmentEpoch : r'.attachmentEpoch = r.attachmentEpoch
  playlistEntryAttempts : r'.playlistEntryAttempts = r.playlistEntryAttempts
  activeLoadAttempt : r'.activeLoadAttempt = r.activeLoadAttempt
  nextLoadAttemptId : r'.nextLoadAttemptId = r.nextLoadAttemptId
  nowTick : r'.nowTick = r.nowTick
  loadAttempts : ∀ k : LoadAttemptId, r'.loadAttempts[k]? = r.loadAttempts[k]?.map (f k)

theorem endSuperseded_spec (predecessorCommand : Option PlayerCommandId)
    (predecessorId : LoadAttemptId) :
    ∃ sequence, Superseded r (r.endSuperseded predecessorCommand predecessorId) fun k a =>
      if k = predecessorId then a.resolved .superseded sequence else a := by
  have hended : ∃ ended : Reduction, r.endSuperseded predecessorCommand predecessorId =
        ended.emitLoadOutcome predecessorId .superseded none
      ∧ Superseded r ended fun _ a => a := by
    cases predecessorCommand with
    | none =>
      exact ⟨r, rfl, rfl, rfl, rfl, rfl, rfl, fun k => Option.map_id'.symm⟩
    | some commandId =>
      refine ⟨r.commandTerminal commandId .superseded, rfl, ?_⟩
      have hown := @commandTerminal_own r commandId .superseded rfl
      constructor
      case loadAttempts => exact fun k => by rw [commandTerminal_loadAttempts]; exact Option.map_id'.symm
      all_goals rw [hown]
  obtain ⟨ended, heq, hkept⟩ := hended
  have hown := emitLoadOutcome_own ended predecessorId .superseded none
  refine ⟨ended.sequence, ?_⟩
  rw [heq]
  constructor
  case loadAttempts =>
    intro k
    rw [getElem?_emitLoadOutcome, hkept.loadAttempts k]
    split
    · rw [Option.map_map]
      rfl
    · rfl
  case attachmentEpoch => rw [hown]; exact hkept.attachmentEpoch
  case playlistEntryAttempts => rw [hown]; exact hkept.playlistEntryAttempts
  case activeLoadAttempt => rw [hown]; exact hkept.activeLoadAttempt
  case nextLoadAttemptId => rw [hown]; exact hkept.nextLoadAttemptId
  case nowTick => rw [hown]; exact hkept.nowTick

theorem supersede_spec (predecessor : LoadAttempt) (predecessorCommand : Option PlayerCommandId)
    (predecessorId successorId : LoadAttemptId) :
    ∃ sequence, Superseded r
      ((r.revokeOwnership predecessor predecessorId successorId).endSuperseded predecessorCommand
        predecessorId) (supersededRecord predecessorId successorId sequence) := by
  obtain ⟨sequence, hended⟩ := @endSuperseded_spec
    (r.revokeOwnership predecessor predecessorId successorId) predecessorCommand predecessorId
  have hown : (r.revokeOwnership predecessor predecessorId successorId).toLoadOwnership =
      ((r.retainOnlySelectedSuccessorClaim predecessorId successorId).updateAttempt predecessorId
        fun predecessor =>
          { predecessor with
            supersededBy := some successorId
            logicalOwnershipRevoked := true
            state := .supersededMayStillEmit successorId
            reconcileUntilTick := none
            fileLoadedDeadlineTick := none }).toLoadOwnership := by
    unfold revokeOwnership
    exact queueEvent_own _ _
  refine ⟨sequence, ?_⟩
  constructor
  case loadAttempts =>
    intro k
    rw [hended.loadAttempts k, hown, getElem?_updateAttempt]
    have hclaims : (r.retainOnlySelectedSuccessorClaim predecessorId successorId).loadAttempts[k]? =
        r.loadAttempts[k]?.map (withoutClaim predecessorId successorId) :=
      Std.ExtTreeMap.getElem?_map
    rw [hclaims]
    unfold supersededRecord
    split
    · rw [Option.map_map, Option.map_map]
      rfl
    · rw [Option.map_map]
      rfl
  case attachmentEpoch => rw [hended.attachmentEpoch, hown]; rfl
  case playlistEntryAttempts => rw [hended.playlistEntryAttempts, hown]; rfl
  case activeLoadAttempt => rw [hended.activeLoadAttempt, hown]; rfl
  case nextLoadAttemptId => rw [hended.nextLoadAttemptId, hown]; rfl
  case nowTick => rw [hended.nowTick, hown]; rfl

/-- A live attempt's superseded record, and everybody else's. -/
theorem settled_supersededRecord {a : LoadAttempt} (h : AttemptSettled a)
    (predecessorId successorId : LoadAttemptId) (sequence : Nat) (k : LoadAttemptId)
    (hlive : k = predecessorId → a.state.isTerminal = false) :
    KeepsPlace a (supersededRecord predecessorId successorId sequence k a)
      ∧ AttemptSettled (supersededRecord predecessorId successorId sequence k a)
      ∧ (a.state.isQuiescent = false →
        (supersededRecord predecessorId successorId sequence k a).state.isQuiescent = false) := by
  obtain ⟨hplace, hsettled, hstate⟩ := settled_withoutClaim h predecessorId successorId
  unfold supersededRecord
  split
  · next hk =>
    have hterminal : (withoutClaim predecessorId successorId a).state.isTerminal = false := by
      rw [hstate]
      exact hlive hk
    refine ⟨⟨?_, ?_, ?_, ?_⟩, hsettled.revokedBy hterminal successorId _ _ _, fun _ => ?_⟩
    · simp [revokedRecord, hplace.id]
    · simp [revokedRecord, hplace.attachmentEpoch]
    · rw [← hplace.terminal, hterminal]
      simp [revokedRecord, LoadAttemptState.isTerminal]
    · simp [revokedRecord, hplace.playlistEntryId]
    · simp [revokedRecord, LoadAttemptState.isQuiescent]
  · refine ⟨hplace, hsettled, fun hq => ?_⟩
    rw [hstate]
    exact hq

theorem Superseded.settled {r' : Reduction} {f : LoadAttemptId → LoadAttempt → LoadAttempt}
    (hsuperseded : Superseded r r' f) (h : AttemptsSettled r.toLoadOwnership)
    (hkeep : ∀ (k : LoadAttemptId) (a : LoadAttempt), r.loadAttempts[k]? = some a →
      KeepsPlace a (f k a) ∧ AttemptSettled (f k a)
        ∧ (a.state.isQuiescent = false → (f k a).state.isQuiescent = false)) :
    AttemptsSettled r'.toLoadOwnership := by
  refine h.edit f hsuperseded.attachmentEpoch hsuperseded.playlistEntryAttempts
    hsuperseded.nextLoadAttemptId hsuperseded.loadAttempts
    (fun k a ha => ⟨(hkeep k a ha).1, (hkeep k a ha).2.1⟩) fun k hk => ?_
  rw [hsuperseded.activeLoadAttempt] at hk
  obtain ⟨a, ha, hlive, hquiescent, hentry⟩ := h.active k hk
  exact ⟨a, ha, hlive, (hkeep k a ha).2.2 hquiescent, hentry⟩

theorem settled_supersede (h : AttemptsSettled r.toLoadOwnership) {predecessor : LoadAttempt}
    {predecessorId : LoadAttemptId} (successorId : LoadAttemptId)
    (hpredecessor : r.loadAttempts[predecessorId]? = some predecessor)
    (hlive : predecessor.state.isTerminal = false)
    (predecessorCommand : Option PlayerCommandId) :
    AttemptsSettled ((r.revokeOwnership predecessor predecessorId successorId).endSuperseded
      predecessorCommand predecessorId).toLoadOwnership := by
  obtain ⟨sequence, hsuperseded⟩ :=
    @supersede_spec r predecessor predecessorCommand predecessorId successorId
  refine hsuperseded.settled h fun k a ha =>
    settled_supersededRecord (h.settled k a ha) predecessorId successorId sequence k ?_
  rintro rfl
  rw [hpredecessor] at ha
  cases ha
  exact hlive

/-- A verdict on a load that had one already changes nothing. -/
theorem resolved_eq_self {a : LoadAttempt} (h : a.semanticLoadResult.isSome = true)
    (result : PlayerLoadAttemptResult) (sequence : Nat) : a.resolved result sequence = a :=
  if_pos h

theorem settled_of_resolved {a : LoadAttempt} {result : PlayerLoadAttemptResult} {sequence : Nat}
    (hresult : a.semanticLoadResult.isSome = true)
    (h : AttemptSettled (a.resolved result sequence)) : AttemptSettled a := by
  rw [resolved_eq_self hresult] at h
  exact h

theorem settled_endSuperseded (h : AttemptsSettled r.toLoadOwnership)
    (predecessorCommand : Option PlayerCommandId) {predecessorId : LoadAttemptId}
    (hresult : ∀ a, r.loadAttempts[predecessorId]? = some a →
      a.semanticLoadResult.isSome = true) :
    AttemptsSettled (r.endSuperseded predecessorCommand predecessorId).toLoadOwnership := by
  obtain ⟨sequence, hsuperseded⟩ := @endSuperseded_spec r predecessorCommand predecessorId
  refine hsuperseded.settled h fun k a ha => ?_
  split
  · next hk =>
    rw [hk] at ha
    rw [resolved_eq_self (hresult a ha)]
    exact ⟨KeepsPlace.refl a, h.settled predecessorId a ha, fun hq => hq⟩
  · exact ⟨KeepsPlace.refl a, h.settled k a ha, fun hq => hq⟩

theorem settled_supersedeReplaced (h : AttemptsSettled r.toLoadOwnership)
    (successorId : LoadAttemptId) (predecessorId : Option LoadAttemptId) :
    AttemptsSettled (r.supersedeReplaced successorId predecessorId).toLoadOwnership := by
  unfold supersedeReplaced
  split
  · exact h
  · split
    · exact h
    · next predecessorId _ predecessor hpredecessor =>
      cases hlive : predecessor.state.isTerminal with
      | true =>
        rw [if_pos rfl]
        refine settled_endSuperseded h _ fun a ha => ?_
        rw [hpredecessor] at ha
        cases ha
        exact (h.settled _ _ hpredecessor).terminal hlive
      | false =>
        rw [if_neg (by decide)]
        exact settled_supersede h successorId hpredecessor hlive _

/-! ### Loads that are observed -/

/-- The first `FileLoaded` of a live attempt whose claim was revoked. -/
theorem settled_observeRevoked (h : AttemptsSettled r.toLoadOwnership)
    {attemptId : LoadAttemptId} {before : LoadAttempt}
    (hbefore : r.loadAttempts[attemptId]? = some before)
    (hentry : before.playlistEntryId.isSome = true) (hlive : before.state.isTerminal = false)
    (hrevoked : before.logicalOwnershipRevoked = true) (loadedTarget : Option String) :
    AttemptsSettled (r.observeFileLoaded before attemptId loadedTarget).toLoadOwnership := by
  have hobserved : AttemptsSettled (r.updateAttempt attemptId fun attempt =>
      { attempt with
        fileLoadedObserved := true
        fileLoadedDeadlineTick := none
        state := if (!before.logicalOwnershipRevoked) = true then .active
          else attempt.state }).toLoadOwnership := by
    refine settled_updateAttempt h attemptId fun a ha => ?_
    rw [hbefore] at ha
    cases ha
    have hresult := (h.settled attemptId before hbefore).revoked hrevoked
    have hsettled := (h.settled attemptId before hbefore).observed hentry hlive .loaded 0
    refine ⟨⟨rfl, rfl, ?_, rfl⟩, settled_of_resolved hresult hsettled, ?_⟩
    · rw [hrevoked]
      rfl
    · rw [hrevoked]
      exact fun hq => hq
  unfold observeFileLoaded
  extract_lets owns observed activated queued pushed
  have howns : owns = false := by
    show (!before.logicalOwnershipRevoked) = false
    rw [hrevoked]
    rfl
  have hactivated : activated = observed := if_neg (by rw [howns]; decide)
  have hqueued : queued.toLoadOwnership = observed.toLoadOwnership := by
    dsimp only [queued]
    rw [← hactivated]
    split
    · rw [if_neg (by rw [howns]; decide)]
    · rfl
  rw [if_pos (by rw [howns]; rfl)]
  show AttemptsSettled queued.toLoadOwnership
  rw [hqueued]
  exact hobserved

/-- The attempt that lost the transport to a loaded one. -/
theorem getElem?_demoteActive (attemptId k : LoadAttemptId) (held : LoadAttemptState → Bool) :
    (r.demoteActive attemptId held).loadAttempts[k]? = r.loadAttempts[k]?.map fun a =>
      if r.activeLoadAttempt = some k ∧ k ≠ attemptId ∧ held a.state = true then
        { a with state := demotedState a }
      else a := by
  unfold demoteActive
  split
  · next hnone =>
    rw [hnone]
    simp
  · next previousId hactive =>
    split
    · next hsame =>
      have heq : previousId = attemptId := eq_of_beq hsame
      have hfalse : ∀ a : LoadAttempt,
          ¬(r.activeLoadAttempt = some k ∧ k ≠ attemptId ∧ held a.state = true) := by
        rintro a ⟨hk, hne, -⟩
        rw [hactive] at hk
        exact hne ((Option.some.inj hk).symm.trans heq)
      cases r.loadAttempts[k]? with
      | none => rfl
      | some a => rw [Option.map_some, if_neg (hfalse a)]
    · next hother =>
      have hne : previousId ≠ attemptId := fun heq => hother (by rw [heq]; exact beq_self_eq_true _)
      rw [getElem?_updateAttempt]
      split
      · next hk =>
        rw [hk, hactive]
        cases r.loadAttempts[previousId]? with
        | none => rfl
        | some a => simp [hne]
      · next hk =>
        cases r.loadAttempts[k]? with
        | none => rfl
        | some a =>
          rw [Option.map_some, if_neg]
          rintro ⟨hheld, -, -⟩
          rw [hactive] at hheld
          exact hk (Option.some.inj hheld).symm

theorem demoteActive_fields (attemptId : LoadAttemptId) (held : LoadAttemptState → Bool) :
    (r.demoteActive attemptId held).attachmentEpoch = r.attachmentEpoch
      ∧ (r.demoteActive attemptId held).playlistEntryAttempts = r.playlistEntryAttempts
      ∧ (r.demoteActive attemptId held).nextLoadAttemptId = r.nextLoadAttemptId
      ∧ (r.demoteActive attemptId held).activeLoadAttempt = r.activeLoadAttempt := by
  unfold demoteActive
  split
  · exact ⟨rfl, rfl, rfl, rfl⟩
  · split <;> exact ⟨rfl, rfl, rfl, rfl⟩

/-- The record of a loaded attempt that owns logical playback. -/
def loadedRecord (sequence : Nat) (attempt : LoadAttempt) : LoadAttempt :=
  LoadAttempt.resolved .loaded sequence
    { attempt with
      fileLoadedObserved := true
      fileLoadedDeadlineTick := none
      state := .active }

/-- The first `FileLoaded` of a live attempt that owns logical playback. -/
theorem settled_observeOwned (h : AttemptsSettled r.toLoadOwnership)
    {attemptId : LoadAttemptId} {before : LoadAttempt}
    (hbefore : r.loadAttempts[attemptId]? = some before)
    (hentry : before.playlistEntryId.isSome = true) (hlive : before.state.isTerminal = false)
    (hrevoked : before.logicalOwnershipRevoked = false) (loadedTarget : Option String) :
    AttemptsSettled (r.observeFileLoaded before attemptId loadedTarget).toLoadOwnership := by
  unfold observeFileLoaded
  extract_lets owns observed activated queued pushed resolved
  have howns : owns = true := by
    show (!before.logicalOwnershipRevoked) = true
    rw [hrevoked]
    rfl
  -- The record and the transport, before the load's outcome goes out.
  have hactivated : activated = observed.activateLoaded attemptId := if_pos howns
  have hqueued : queued.toLoadOwnership = activated.toLoadOwnership := by
    dsimp only [queued]
    split
    · rw [if_pos howns]
      exact queueEvent_own _ _
    · rfl
  have hpushed : pushed.toLoadOwnership = (observed.activateLoaded attemptId).toLoadOwnership := by
    show queued.toLoadOwnership = _
    rw [hqueued, hactivated]
  have hfields := @demoteActive_fields observed attemptId (· == .active)
  have hlookup : ∀ k : LoadAttemptId, pushed.loadAttempts[k]? =
      if k = attemptId then some
        { before with
          fileLoadedObserved := true
          fileLoadedDeadlineTick := none
          state := .active }
      else r.loadAttempts[k]?.map fun a =>
        if r.activeLoadAttempt = some k ∧ k ≠ attemptId ∧ (a.state == .active) = true then
          { a with state := demotedState a }
        else a := by
    intro k
    show pushed.toLoadOwnership.loadAttempts[k]? = _
    rw [hpushed]
    show (observed.demoteActive attemptId (· == .active)).loadAttempts[k]? = _
    rw [getElem?_demoteActive, getElem?_updateAttempt]
    by_cases hk : k = attemptId
    · subst hk
      rw [if_pos rfl, if_pos rfl, hbefore, Option.map_some, Option.map_some]
      simp [howns]
    · rw [if_neg hk, if_neg hk]
      rfl
  have hresolved : AttemptsSettled resolved.toLoadOwnership := by
    have hown := emitLoadOutcome_own pushed attemptId .loaded loadedTarget
    refine h.edit (fun k a =>
      if k = attemptId then loadedRecord pushed.sequence a
      else if r.activeLoadAttempt = some k ∧ k ≠ attemptId ∧ (a.state == .active) = true then
        { a with state := demotedState a }
      else a) ?_ ?_ ?_ ?_ ?_ ?_
    · rw [hown, hpushed]
      exact hfields.1
    · rw [hown, hpushed]
      exact hfields.2.1
    · rw [hown, hpushed]
      exact hfields.2.2.1
    · intro k
      rw [hown]
      show (pushed.loadAttempts.modify attemptId _)[k]? = _
      rw [getElem?_modify_if, hlookup]
      by_cases hk : k = attemptId
      · subst hk
        rw [if_pos rfl, if_pos rfl, hbefore]
        simp only [if_true]
        rfl
      · rw [if_neg hk, if_neg hk]
        simp only [if_neg hk]
    · intro k a ha
      by_cases hk : k = attemptId
      · rw [if_pos hk]
        rw [hk, hbefore] at ha
        cases ha
        have hsettled := (h.settled attemptId before hbefore).observed hentry hlive .loaded
          pushed.sequence
        have hstate : (if (!before.logicalOwnershipRevoked) = true then LoadAttemptState.active
            else before.state) = .active := by
          rw [hrevoked]
          rfl
        rw [hstate] at hsettled
        refine ⟨⟨?_, ?_, ?_, ?_⟩, hsettled⟩
        · simp [loadedRecord]
        · simp [loadedRecord]
        · rw [hlive]
          simp [loadedRecord, LoadAttemptState.isTerminal]
        · simp [loadedRecord]
      · rw [if_neg hk]
        split
        · next hdemoted =>
          have hplaced := @settled_demoted a (h.settled k a ha) (· == .active) fun state hs =>
            .inr (eq_of_beq hs)
          rw [if_pos hdemoted.2.2] at hplaced
          exact ⟨hplaced.1, hplaced.2.1⟩
        · exact ⟨KeepsPlace.refl a, h.settled k a ha⟩
    · intro k hk
      rw [hown, hpushed] at hk
      have heq : some attemptId = some k := hk
      obtain rfl := Option.some.inj heq
      refine ⟨before, hbefore, hlive, ?_, hentry⟩
      rw [if_pos rfl]
      simp [loadedRecord, LoadAttemptState.isQuiescent]
  rw [if_neg (by rw [howns]; decide)]
  split
  · exact settled_commandTerminal hresolved _ _
  · exact hresolved

/-! ### Inputs about loads -/

/-- The record of a submitted load. -/
def submittedAttempt (attemptId : LoadAttemptId) (mediaGeneration : PlayerMediaGeneration)
    (commandId : Option PlayerCommandId) (requestedTarget : String)
    (baseline : BTreeSet PlaylistEntryId) : LoadAttempt where
  id := attemptId
  attachmentEpoch := r.attachmentEpoch
  mediaGeneration := mediaGeneration
  commandId := commandId
  requestedTarget := requestedTarget
  playlistEntryId := none
  baselinePlaylistEntryIds := baseline
  replacedAttempt := r.replaceableAttempt
  state := .submitting
  startFileObserved := false
  fileLoadedObserved := false
  fileLoadedDeadlineTick := none

theorem settled_submittedAttempt (attemptId : LoadAttemptId)
    (mediaGeneration : PlayerMediaGeneration) (commandId : Option PlayerCommandId)
    (requestedTarget : String) (baseline : BTreeSet PlaylistEntryId) :
    AttemptSettled
      (r.submittedAttempt attemptId mediaGeneration commandId requestedTarget baseline) := by
  constructor <;>
    simp [submittedAttempt, LoadAttemptState.isTerminal, LoadAttemptState.isQuiescent]

theorem settled_loadAttemptSubmitted (h : AttemptsSettled r.toLoadOwnership)
    (commandId : Option PlayerCommandId) (mediaGeneration : PlayerMediaGeneration)
    (requestedTarget : String) (baseline : BTreeSet PlaylistEntryId) :
    AttemptsSettled (r.loadAttemptSubmitted commandId mediaGeneration requestedTarget
      baseline).toLoadOwnership := by
  have hnext : max r.nextLoadAttemptId 1 = r.nextLoadAttemptId := Nat.max_eq_left h.positive
  unfold loadAttemptSubmitted
  split
  · exact h
  · split
    next attemptId allocated hallocate =>
    cases hallocate
    extract_lets inserted recorded
    have hlookup : ∀ k : LoadAttemptId, inserted.loadAttempts[k]? =
        if k = r.nextLoadAttemptId then some (r.submittedAttempt (max r.nextLoadAttemptId 1)
          mediaGeneration commandId requestedTarget baseline)
        else r.loadAttempts[k]?.map fun a => a := by
      intro k
      rw [Option.map_id']
      refine (getElem?_insert_if _ _ _ _).trans ?_
      rw [hnext]
      rfl
    have hinserted : AttemptsSettled inserted.toLoadOwnership := by
      refine h.insert rfl ?_ hlookup (fun k a ha => ⟨KeepsPlace.refl a, h.settled k a ha⟩) hnext
        rfl rfl (settled_submittedAttempt _ _ _ _ _) (fun e => ?_) nofun fun k hk => ⟨?_, ?_⟩
      · show max r.nextLoadAttemptId 1 + 1 = r.nextLoadAttemptId + 1
        rw [hnext]
      · rw [if_neg nofun]
      · intro hnew
        have hheld : r.activeLoadAttempt = some k := hk
        obtain ⟨a, ha, -⟩ := h.active k hheld
        have hissued := (h.issued k a ha).2
        rw [hnew] at hissued
        exact absurd hissued (Nat.lt_irrefl _)
      · exact fun _ => ⟨hk, fun a _ hq => hq⟩
    have hrecorded : AttemptsSettled recorded.toLoadOwnership := by
      dsimp only [recorded]
      split
      · exact hinserted.congr rfl rfl rfl rfl rfl
      · exact hinserted
    exact hrecorded

/-- The record of an external load, with the outcome that a loaded one has. -/
theorem settled_externalAttempt (attemptId : LoadAttemptId)
    (mediaGeneration : PlayerMediaGeneration) (playlistEntryId : PlaylistEntryId)
    (observedTarget : String) (fileLoaded : Bool) (sequence : Nat) :
    AttemptSettled
      (if fileLoaded then
        (r.externalAttempt attemptId mediaGeneration playlistEntryId observedTarget fileLoaded
          ).resolved .loaded sequence
      else r.externalAttempt attemptId mediaGeneration playlistEntryId observedTarget
        fileLoaded) := by
  cases fileLoaded <;> constructor <;>
    simp [externalAttempt, LoadAttempt.resolved, LoadAttemptState.isTerminal,
      LoadAttemptState.isQuiescent]

end Reduction

end Sorotte.Lifecycle
