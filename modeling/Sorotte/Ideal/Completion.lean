import Sorotte.Ideal.History
import Sorotte.Ideal.Lifecycle

/-! # Completion

  A start completes when every participant counts as Started.  A participant
  counts as Started only if it acknowledged exactly this commit, or took over
  the entry of an older connection that did.
-/

namespace Sorotte.Ideal

open Server

variable {s s' : State} {l : Label} {room clientId : String} {generation revision : Nat}
variable {b b' : RoomPlaybackBarrier} {p' : RoomPlaybackBarrierParticipant}
variable {history history' : List Event}

/-- The client, or the connection whose entry it took over, acknowledged Started for this commit. -/
inductive Acknowledged (history : List Event) (room : String) (generation revision : Nat) :
    String → Prop
  | itself (clientId : String)
      (h : .startedAcknowledged room generation revision clientId ∈ history) :
      Acknowledged history room generation revision clientId
  | inherited (older newer : String) (h : .ownerRebound room generation older newer ∈ history)
      (hold : Acknowledged history room generation revision older) :
      Acknowledged history room generation revision newer

theorem Acknowledged.mono (h : Acknowledged history room generation revision clientId)
    (hsub : ∀ event ∈ history, event ∈ history') :
    Acknowledged history' room generation revision clientId := by
  induction h with
  | itself clientId h => exact .itself clientId (hsub _ h)
  | inherited older newer h _ ih => exact .inherited older newer (hsub _ h) ih

theorem Acknowledged.later (h : Acknowledged s.history room generation revision clientId) :
    Acknowledged (effect s l).history room generation revision clientId :=
  h.mono fun _ hmem => mem_effect_history.mpr (.inr hmem)

/-- **Invariant**: whoever counts as Started acknowledged the commit of its start. -/
def StartedBacked (s : State) : Prop :=
  ∀ room b clientId p, s.barrier room = some b → b.participants[clientId]? = some p →
    p.status.phase = .started → ∃ revision, b.stateRevision = some revision ∧
      Acknowledged s.history room b.prepare.mediaGeneration revision clientId

/-! ### Participants -/

theorem mapParticipant_lookup (b : RoomPlaybackBarrier) (clientId c : String)
    (f : PlaybackBarrierParticipantStatus → PlaybackBarrierParticipantStatus) :
    (b.mapParticipant clientId f).participants[c]? =
      if clientId = c then
        b.participants[clientId]?.map fun p => { p with status := f p.status }
      else b.participants[c]? := by
  show (b.participants.modify clientId _)[c]? = _
  rw [Std.ExtTreeMap.getElem?_modify]
  simp only [Std.LawfulEqCmp.compare_eq_iff_eq]

theorem reboundBarrier_lookup (b : RoomPlaybackBarrier) (clientId username c : String)
    (sequence : Nat) : (reboundBarrier b clientId username sequence).participants[c]? =
      if clientId = c then some (inheritedParticipant b clientId username)
      else if b.initiatorClientId = c then none else b.participants[c]? := by
  show ((b.participants.erase b.initiatorClientId).insert clientId _)[c]? = _
  rw [Std.ExtTreeMap.getElem?_insert, Std.ExtTreeMap.getElem?_erase]
  simp only [Std.LawfulEqCmp.compare_eq_iff_eq]

/-- A status edit after which nobody newly counts as Started. -/
theorem started_of_mapParticipant {f : PlaybackBarrierParticipantStatus →
      PlaybackBarrierParticipantStatus} {c : String}
    (hf : ∀ status, (f status).phase = .started → status.phase = .started)
    (hp' : (b.mapParticipant clientId f).participants[c]? = some p')
    (hstarted : p'.status.phase = .started) :
    ∃ p, b.participants[c]? = some p ∧ p.status.phase = .started := by
  rw [mapParticipant_lookup] at hp'
  split at hp'
  · next h =>
    subst h
    obtain ⟨p, hp, rfl⟩ := Option.map_eq_some_iff.mp hp'
    exact ⟨p, hp, hf p.status hstarted⟩
  · exact ⟨p', hp', hstarted⟩

theorem readyStatus_not_started (ready : MediaReadyPayload)
    (status : PlaybackBarrierParticipantStatus) (h : (readyStatus ready status).phase = .started) :
    status.phase = .started := by
  simp only [readyStatus] at h
  split at h <;> cases h

/-- Who counts as Started after an acknowledgement. -/
theorem started_of_withStarted {c : String} {position : Seconds}
    (hp' : (b.withStarted clientId position).participants[c]? = some p')
    (hstarted : p'.status.phase = .started) :
    c = clientId ∨ ∃ p, b.participants[c]? = some p ∧ p.status.phase = .started := by
  have hparticipants : (b.withStarted clientId position).participants =
      (b.mapParticipant clientId (startedStatus position)).participants := by
    unfold RoomPlaybackBarrier.withStarted
    dsimp only
    split <;> rfl
  rw [hparticipants, mapParticipant_lookup] at hp'
  split at hp'
  · next h => exact .inl h.symm
  · exact .inr ⟨p', hp', hstarted⟩

/-- A completed start counts everyone as Started. -/
theorem withStarted_complete {position : Seconds} {c : String} (hphase : b.phase = .committed)
    (h : (b.withStarted clientId position).phase = .complete)
    (hp' : (b.withStarted clientId position).participants[c]? = some p') :
    p'.status.phase = .started := by
  unfold RoomPlaybackBarrier.withStarted at h hp'
  dsimp only at h hp'
  split at h
  · next hall =>
    rw [if_pos hall] at hp'
    have hmem := List.all_eq_true.mp hall (c, p')
      (Std.ExtTreeMap.mem_toList_iff_getElem?_eq_some.mpr hp')
    exact beq_iff_eq.mp hmem
  · rw [show (b.mapParticipant clientId (startedStatus position)).phase = b.phase from rfl,
      hphase] at h
    cases h

/-- An inherited entry counts as Started only if the entry it comes from does. -/
theorem inheritedParticipant_started {username : String}
    (h : (inheritedParticipant b clientId username).status.phase = .started) :
    ∃ p, p.status.phase = .started ∧ (b.participants[b.initiatorClientId]? = some p ∨
      b.participants[clientId]? = some p) := by
  unfold inheritedParticipant at h
  extract_lets held status resumed at h
  have hheld : held.status.phase = .started := by
    dsimp only [resumed] at h
    split at h
    · split at h
      · cases h
      · cases h
      all_goals exact h
    · exact h
  cases howner : b.participants[b.initiatorClientId]? with
  | some p =>
    have hp : held = p := by simp [held, howner]
    exact ⟨p, hp ▸ hheld, .inl rfl⟩
  | none =>
    cases hown : b.participants[clientId]? with
    | some p =>
      have hp : held = p := by simp [held, howner, hown]
      exact ⟨p, hp ▸ hheld, .inr rfl⟩
    | none =>
      have hp : held = { username, status := .pending } := by simp [held, howner, hown]
      rw [hp] at hheld
      cases hheld

/-! ### Steps -/

/-- The start of a room after a write to some room's. -/
theorem held_of_update {r : String} {written : Option RoomPlaybackBarrier}
    (h : Function.update s.barrier r written room = some b') :
    (room = r ∧ written = some b') ∨ s.barrier room = some b' := by
  by_cases hr : room = r
  · subst hr
    rw [Function.update_self] at h
    exact .inl ⟨rfl, h⟩
  · rw [Function.update_of_ne hr] at h
    exact .inr h

theorem StartedBacked.step (h : StartedBacked s) (hstarts : StartsWellFormed s)
    (hguard : guard s l) : StartedBacked (effect s l) := by
  intro room b' c p' hb' hp' hstarted
  -- a participant that counted before keeps its acknowledgement
  have hkept : ∀ b p, s.barrier room = some b → b.participants[c]? = some p →
      p.status.phase = .started → b'.prepare = b.prepare → b'.stateRevision = b.stateRevision →
      ∃ revision, b'.stateRevision = some revision ∧
        Acknowledged (effect s l).history room b'.prepare.mediaGeneration revision c := by
    intro b p hb hp hcounted hprepare hrevision
    obtain ⟨revision, hsome, hback⟩ := h room b c p hb hp hcounted
    rw [hprepare, hrevision]
    exact ⟨revision, hsome, hback.later⟩
  have hsame : s.barrier room = some b' → ∃ revision, b'.stateRevision = some revision ∧
      Acknowledged (effect s l).history room b'.prepare.mediaGeneration revision c :=
    fun hb => hkept b' p' hb hp' hstarted rfl rfl
  by_cases hwrites : l.writesBarrier
  · cases l with
    | discard r =>
      rcases held_of_update hb' with ⟨-, hnone⟩ | hb
      · cases hnone
      · exact hsame hb
    | drop r =>
      rcases held_of_update hb' with ⟨-, hnone⟩ | hb
      · cases hnone
      · exact hsame hb
    | prepare r installed =>
      rw [effect_barrier_prepare] at hb'
      rcases held_of_update hb' with ⟨-, hwritten⟩ | hb
      · obtain rfl := Option.some.inj hwritten
        rw [(hguard.cohort c p' hp').1] at hstarted
        cases hstarted
      · exact hsame hb
    | commit r snapshot committed =>
      rw [effect_barrier_commit] at hb'
      rcases held_of_update hb' with ⟨rfl, hwritten⟩ | hb
      · -- nobody counted as Started while the start prepared
        obtain rfl := Option.some.inj hwritten
        obtain ⟨p, hp, hcounted⟩ := hguard.2.participants c p' hp'
        have hheld := hguard.1.barrier
        obtain ⟨revision, hsome, -⟩ := h room _ c p hheld hp (hcounted hstarted)
        have hwell := hstarts room _ hheld
        rw [hwell.together, hwell.pending (.inl hguard.1.phase)] at hsome
        cases hsome
      · exact hsame hb
    | ready clientId r held ready =>
      rcases held_of_update hb' with ⟨rfl, hwritten⟩ | hb
      · obtain rfl := Option.some.inj hwritten
        obtain ⟨p, hp, hcounted⟩ :=
          started_of_mapParticipant (readyStatus_not_started ready) hp' hstarted
        exact hkept held p hguard.1 hp hcounted rfl rfl
      · exact hsame hb
    | disconnect clientId r held =>
      rcases held_of_update hb' with ⟨rfl, hwritten⟩ | hb
      · obtain rfl := Option.some.inj hwritten
        obtain ⟨p, hp, hcounted⟩ :=
          started_of_mapParticipant (fun _ hphase => by cases hphase) hp' hstarted
        exact hkept held p hguard.1 hp hcounted rfl rfl
      · exact hsame hb
    | started clientId r held started position =>
      rcases held_of_update hb' with ⟨rfl, hwritten⟩ | hb
      · obtain rfl := Option.some.inj hwritten
        rcases started_of_withStarted hp' hstarted with rfl | ⟨p, hp, hcounted⟩
        · obtain ⟨-, -, hgeneration, hrevision, -⟩ := hguard
          refine ⟨started.stateRevision, (withStarted_stateRevision ..).trans hrevision, ?_⟩
          rw [withStarted_prepare, ← hgeneration]
          apply Acknowledged.itself
          apply mem_effect_history.mpr
          simp [events]
        · exact hkept held p hguard.1 hp hcounted (withStarted_prepare ..)
            (withStarted_stateRevision ..)
      · exact hsame hb
    | settle r held settled =>
      rcases held_of_update hb' with ⟨rfl, hwritten⟩ | hb
      · obtain rfl := Option.some.inj hwritten
        obtain ⟨hheld, hsettles⟩ := hguard
        obtain ⟨p, hp, hcounted⟩ := hsettles.participants c p' hp'
        exact hkept held p hheld hp (hcounted hstarted) hsettles.prepare hsettles.stateRevision
      · exact hsame hb
    | rebind clientId session sequence held =>
      rcases held_of_update hb' with ⟨hroom, hwritten⟩ | hb
      · obtain ⟨-, hheld⟩ := hguard
        rw [← hroom] at hheld
        obtain rfl := Option.some.inj hwritten
        rw [reboundBarrier_lookup] at hp'
        split at hp'
        · next hc =>
          -- the newer connection answers for the entry it took over
          subst hc
          obtain rfl := Option.some.inj hp'
          obtain ⟨p, hcounted, howner | hown⟩ := inheritedParticipant_started hstarted
          · obtain ⟨revision, hsome, hback⟩ := h room held _ p hheld howner hcounted
            refine ⟨revision, hsome, .inherited _ _ ?_ hback.later⟩
            apply mem_effect_history.mpr
            simp [events, hroom, reboundBarrier]
          · exact hkept held p hheld hown hcounted rfl rfl
        · split at hp'
          · cases hp'
          · exact hkept held p' hheld hp' hstarted rfl rfl
      · exact hsame hb
    | reconcile r g g' reconciled =>
      rcases held_of_update hb' with ⟨rfl, hwritten⟩ | hb
      · obtain ⟨-, -, hrel⟩ := hguard
        rw [hwritten] at hrel
        cases hheld : s.barrier room with
        | none =>
          rw [hheld] at hrel
          cases hrel
        | some held =>
          rw [hheld] at hrel
          cases hrel with
          | some hreconciles =>
            by_cases hphase : held.phase = .preparing
            · rcases (hreconciles.cohort hphase c p' hp').2 with hp | hpending
              · exact hkept held p' hheld hp hstarted hreconciles.prepare
                  hreconciles.stateRevision
              · rw [hpending] at hstarted
                cases hstarted
            · rw [hreconciles.settled hphase] at hp'
              exact hkept held p' hheld hp' hstarted hreconciles.prepare
                hreconciles.stateRevision
      · exact hsame hb
    | _ => exact hwrites.elim
  · rw [effect_barrier hwrites] at hb'
    exact hsame hb'

/-! ### Completed starts -/

/-- Everyone in the start acknowledged its commit. -/
def AllAcknowledged (history : List Event) (room : String) (b : RoomPlaybackBarrier) : Prop :=
  ∃ revision, b.stateRevision = some revision ∧ ∀ (clientId : String) p,
    b.participants[clientId]? = some p → p.status.phase = .started ∧
      Acknowledged history room b.prepare.mediaGeneration revision clientId

/-- What a run leaves of its completed starts. -/
structure CompletionsRecorded (s : State) : Prop where
  started : StartedBacked s
  /-- Everyone had acknowledged a start that completed. -/
  everyone : ∀ room b, .becameComplete room b ∈ s.history → AllAcknowledged s.history room b
  /-- A complete start is one that completed. -/
  completed : ∀ room b, s.barrier room = some b → b.phase = .complete →
    ∃ b₀, .becameComplete room b₀ ∈ s.history ∧ b₀.prepare = b.prepare ∧
      b₀.stateRevision = b.stateRevision

theorem AllAcknowledged.later (h : AllAcknowledged s.history room b) :
    AllAcknowledged (effect s l).history room b := by
  obtain ⟨revision, hsome, hall⟩ := h
  refine ⟨revision, hsome, fun clientId p hp => ?_⟩
  obtain ⟨hstarted, hback⟩ := hall clientId p hp
  exact ⟨hstarted, hback.later⟩

theorem CompletionsRecorded.step (h : CompletionsRecorded s) (hstarts : StartsWellFormed s)
    (hguard : guard s l) : CompletionsRecorded (effect s l) where
  started := h.started.step hstarts hguard
  everyone := by
    intro room b hmem
    rcases mem_effect_history.mp hmem with hnew | hold
    · cases l with
      | started clientId r held started position =>
        simp only [events] at hnew
        split at hnew
        · next hcomplete =>
          simp only [List.mem_append, List.mem_singleton, Event.becameComplete.injEq, reduceCtorEq,
            or_false] at hnew
          obtain ⟨rfl, rfl⟩ := hnew
          have hafter := h.started.step hstarts hguard
          obtain ⟨-, hphase, -, hrevision, -⟩ := hguard
          have hbarrier : (effect s (.started clientId room held started position)).barrier room =
              some (held.withStarted clientId position) := Function.update_self ..
          refine ⟨started.stateRevision, (withStarted_stateRevision ..).trans hrevision,
            fun c p hp => ?_⟩
          have hcounted := withStarted_complete hphase hcomplete hp
          obtain ⟨revision, hsome, hback⟩ := hafter room _ c p hbarrier hp hcounted
          rw [withStarted_stateRevision, hrevision] at hsome
          exact ⟨hcounted, Option.some.inj hsome ▸ hback⟩
        · simp at hnew
      | _ => simp [events] at hnew
    · exact (h.everyone room b hold).later
  completed := by
    intro room b' hb' hphase
    have hkept : ∀ b, s.barrier room = some b → b.phase = .complete → b'.prepare = b.prepare →
        b'.stateRevision = b.stateRevision → ∃ b₀, .becameComplete room b₀ ∈ (effect s l).history ∧
          b₀.prepare = b'.prepare ∧ b₀.stateRevision = b'.stateRevision := by
      intro b hb hcomplete hprepare hrevision
      obtain ⟨b₀, hmem, hsame, hsame'⟩ := h.completed room b hb hcomplete
      exact ⟨b₀, mem_effect_history.mpr (.inr hmem), hsame.trans hprepare.symm,
        hsame'.trans hrevision.symm⟩
    rcases advances_of_effect hguard hb' with rfl | ⟨b, hb, hadvances⟩
    · rw [hguard.phase] at hphase
      cases hphase
    · cases hadvances with
      | stays hprepare _ hrevision hsame => exact hkept b hb (hsame ▸ hphase) hprepare hrevision
      | commits _ _ _ hcommits =>
        rw [hcommits.phase] at hphase
        cases hphase
      | completes clientId started position hlabel hcompleted =>
        subst hlabel hcompleted
        refine ⟨_, mem_effect_history.mpr (.inl ?_), rfl, rfl⟩
        simp [events, hphase]
      | settles _ hsettles =>
        rcases hsettles.phase with hother | ⟨-, hother⟩ <;> rw [hother] at hphase <;> cases hphase

theorem Initial.completionsRecorded (h : Initial s) : CompletionsRecorded s where
  started room b clientId p hb := by
    rw [h.barrier room] at hb
    cases hb
  everyone room b hmem := by
    rw [h.history] at hmem
    cases hmem
  completed room b hb := by
    rw [h.barrier room] at hb
    cases hb

theorem Reachable.completionsRecorded (h : Reachable s) : CompletionsRecorded s := by
  have hboth : StartsWellFormed s ∧ CompletionsRecorded s :=
    h.invariant (I := fun t => StartsWellFormed t ∧ CompletionsRecorded t)
      (fun _ hinitial => ⟨hinitial.startsWellFormed, hinitial.completionsRecorded⟩)
      fun _ _ hguard hheld => ⟨hheld.1.step hguard, hheld.2.step hheld.1 hguard⟩
  exact hboth.2

end Sorotte.Ideal
