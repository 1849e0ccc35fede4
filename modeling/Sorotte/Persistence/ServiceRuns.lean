import Sorotte.Persistence.Service
import Sorotte.Framework.Maps

/-! # Convergence of the room persistence service

  A run of the service is read against two lists: the room effects its callers
  enqueued, and the effects the worker committed.  The committed effects of a
  room are a growing selection of the enqueued ones, and the rows are always the
  replay of what was committed (`Replays`).  What is not committed yet is either
  on its way to the worker or in its hands (`Awake`), as long as no wake-up is
  dropped.

  Two steps drop a wake-up: a wake-up sent to a full queue, and a scan that the
  worker abandons because the deadline of a flush has passed.  `KeepsWake` is
  the condition that neither happens with nothing left to wake the worker.
-/

namespace Sorotte.Persistence

open Sorotte.Framework

/-! ### Histories -/

/-- The room effect that an action enqueues. -/
def requested : ServiceAction → List RoomEffect
  | .arbitrate (.room effect) => [effect]
  | _ => []

/-- The room effects that a run enqueues. -/
def history (ops : List ServiceAction) : List RoomEffect := ops.flatMap requested

/-- The effect that an action commits. -/
def commits (service : RoomPersistenceService) : ServiceAction → List RoomEffect
  | .worker =>
    match service.worker with
    | .committing effect _ => [effect]
    | _ => []
  | _ => []

/-- The effects that a run commits. -/
def committed (service : RoomPersistenceService) (ops : List ServiceAction) : List RoomEffect :=
  emitted serviceStep commits service ops

/-- Of two effects for one room the later has the larger version. -/
def Increasing (effects : List RoomEffect) : Prop :=
  effects.Pairwise fun earlier later =>
    earlier.roomName = later.roomName → earlier.version < later.version

/-- Versions are positive, grow per room, and start above the stored rows. -/
structure VersionsIncrease (rows : RoomRows) (effects : List RoomEffect) : Prop where
  increasing : Increasing effects
  positive : ∀ effect ∈ effects, 0 < effect.version
  aboveRows : ∀ effect ∈ effects, ∀ row, rows[effect.roomName]? = some row →
    row.version < effect.version

/-- The row that a sequence of effects leaves for a room. -/
def rowAfter (rows : RoomRows) (effects : List RoomEffect) (roomName : String) :
    Option PersistedRoomState :=
  match lastFor RoomEffect.roomName effects roomName with
  | some effect => effect.storedState
  | none => rows[roomName]?

theorem history_append (ops : List ServiceAction) (op : ServiceAction) :
    history (ops ++ [op]) = history ops ++ requested op := by
  simp [history]

theorem committed_append (service : RoomPersistenceService) (ops : List ServiceAction)
    (op : ServiceAction) :
    committed service (ops ++ [op]) =
      committed service ops ++ commits (runFrom serviceStep service ops) op := by
  rw [committed, emitted_append]
  simp [emitted, committed]

theorem VersionsIncrease.of_append {rows : RoomRows} {first second : List RoomEffect}
    (h : VersionsIncrease rows (first ++ second)) : VersionsIncrease rows first where
  increasing := (List.pairwise_append.mp h.increasing).1
  positive effect hmem := h.positive effect (List.mem_append_left _ hmem)
  aboveRows effect hmem := h.aboveRows effect (List.mem_append_left _ hmem)

/-- The last effect for a room has the largest version. -/
theorem lastFor_largest {effects : List RoomEffect} (hinc : Increasing effects)
    {effect last : RoomEffect} (hmem : effect ∈ effects)
    (hlast : lastFor RoomEffect.roomName effects effect.roomName = some last) :
    effect = last ∨ effect.version < last.version := by
  induction effects using List.reverseRecOn with
  | nil => cases hmem
  | append_singleton effects newest ih =>
    rw [lastFor_append] at hlast
    obtain ⟨hinit, -, hcross⟩ := List.pairwise_append.mp hinc
    by_cases hroom : newest.roomName = effect.roomName
    · rw [if_pos hroom] at hlast
      injection hlast with hlast
      subst hlast
      rcases List.mem_append.mp hmem with hold | hnew
      · exact Or.inr (hcross effect hold newest (List.mem_singleton_self _) hroom.symm)
      · exact Or.inl (List.mem_singleton.mp hnew)
    · rw [if_neg hroom] at hlast
      rcases List.mem_append.mp hmem with hold | hnew
      · exact ih hinit hold hlast
      · rw [List.mem_singleton.mp hnew] at hroom
        exact absurd rfl hroom

/-! ### Arbitration -/

namespace RoomPersistenceArbitration

variable {states : RoomPersistenceArbitration} {effect other : RoomEffect} {roomName : String}

/-- The room has an effect that is not marked as applied. -/
def Pending (states : RoomPersistenceArbitration) (effect : RoomEffect) : Prop :=
  ∃ state, states[effect.roomName]? = some state ∧ state.desiredEffect = some effect

theorem enqueue_room_of_lt
    (h : ∀ state, states[effect.roomName]? = some state →
      state.highestSeenVersion < effect.version) (hpos : 0 < effect.version) :
    states.enqueue (.room effect) =
      (.accepted, states.insert effect.roomName
        { highestSeenVersion := effect.version
          desiredEffect := some effect
          unresolvedFailureVersion := none }) := by
  have hlt : (states.getD effect.roomName {}).highestSeenVersion < effect.version := by
    rw [Std.ExtTreeMap.getD_eq_getD_getElem?]
    rcases hstate : states[effect.roomName]? with - | state
    · exact hpos
    · exact h state hstate
  rw [enqueue]
  simp [Nat.not_le.mpr hlt]

theorem isVersionCurrent_iff {version : Nat} :
    states.isVersionCurrent roomName version = true ↔
      ∃ state, states[roomName]? = some state ∧ state.highestSeenVersion = version := by
  rw [isVersionCurrent]
  rcases states[roomName]? with - | state <;> simp

theorem isEffectCurrent_iff :
    states.isEffectCurrent effect = true ↔
      ∃ state, states[effect.roomName]? = some state ∧
        state.highestSeenVersion = effect.version ∧
        ∃ desired, state.desiredEffect = some desired ∧ desired.version = effect.version := by
  rw [isEffectCurrent]
  rcases states[effect.roomName]? with - | state
  · simp
  · rcases hdesired : state.desiredEffect with - | desired <;> simp [hdesired]

theorem markApplied_of_ne (h : roomName ≠ effect.roomName) :
    (states.markApplied effect)[roomName]? = states[roomName]? := by
  have hne : effect.roomName ≠ roomName := fun heq => h heq.symm
  rw [markApplied]
  split
  · rfl
  · split
    · simp [Std.ExtTreeMap.getElem?_erase, hne]
    · simp [Std.ExtTreeMap.getElem?_modify, hne]

theorem markApplied_self (h : states.isVersionCurrent effect.roomName effect.version = true) :
    (states.markApplied effect)[effect.roomName]? =
      if effect.isDelete then none
      else states[effect.roomName]?.map fun state =>
        { state with desiredEffect := none, unresolvedFailureVersion := none } := by
  rw [markApplied, h]
  by_cases hdelete : effect.isDelete
  · simp [hdelete]
  · simp [hdelete]

theorem markApplied_stale (h : ¬ states.isVersionCurrent effect.roomName effect.version = true) :
    states.markApplied effect = states := by
  rw [markApplied]
  simp [h]

theorem mem_desiredEffects_of_pending (h : states.Pending effect) :
    effect ∈ states.desiredEffects := by
  obtain ⟨state, hstate, hdesired⟩ := h
  exact List.mem_filterMap.mpr
    ⟨(effect.roomName, state), Std.ExtTreeMap.mem_toList_iff_getElem?_eq_some.mpr hstate, hdesired⟩

theorem pending_of_markApplied (h : (states.markApplied effect).Pending other) :
    states.Pending other := by
  obtain ⟨state, hstate, hdesired⟩ := h
  by_cases hroom : other.roomName = effect.roomName
  · by_cases hcurrent : states.isVersionCurrent effect.roomName effect.version = true
    · rw [hroom, markApplied_self hcurrent] at hstate
      split at hstate
      · cases hstate
      · obtain ⟨old, -, rfl⟩ := Option.map_eq_some_iff.mp hstate
        cases hdesired
    · rw [markApplied_stale hcurrent] at hstate
      exact ⟨state, hstate, hdesired⟩
  · rw [markApplied_of_ne hroom] at hstate
    exact ⟨state, hstate, hdesired⟩

theorem not_pending_markApplied
    (h : states.isVersionCurrent effect.roomName effect.version = true) :
    ¬ (states.markApplied effect).Pending effect := by
  rintro ⟨state, hstate, hdesired⟩
  rw [markApplied_self h] at hstate
  split at hstate
  · cases hstate
  · obtain ⟨old, -, rfl⟩ := Option.map_eq_some_iff.mp hstate
    cases hdesired

end RoomPersistenceArbitration

/-! ### The rows replay what was committed -/

/-- What the worker still has to do with effects it copied. -/
def WorkerState.inHand : WorkerState → List RoomEffect
  | .applying effects => effects
  | .writing effect rest => effect :: rest
  | .committing effect rest => effect :: rest
  | .marking effect rest => effect :: rest
  | _ => []

/-- The effect that the worker is about to commit. -/
def WorkerState.uncommitted : WorkerState → Option RoomEffect
  | .writing effect _ => some effect
  | .committing effect _ => some effect
  | _ => none

/-- The effect that the worker has committed and not marked. -/
def WorkerState.unmarked : WorkerState → Option RoomEffect
  | .marking effect _ => some effect
  | _ => none

/-- A room's entry in the arbitration follows the last effect enqueued for it. -/
def Tracks (enqueued applied : List RoomEffect) (roomName : String) :
    Option RoomPersistenceDesiredState → Prop
  | none =>
    lastFor RoomEffect.roomName applied roomName = lastFor RoomEffect.roomName enqueued roomName
  | some state =>
    ∃ effect, lastFor RoomEffect.roomName enqueued roomName = some effect
      ∧ state.highestSeenVersion = effect.version
      ∧ state.unresolvedFailureVersion = none
      ∧ (state.desiredEffect = some effect
        ∨ state.desiredEffect = none ∧ lastFor RoomEffect.roomName applied roomName = some effect)

/-- An entry still tracks its room when a room that was behind gains an effect. -/
theorem Tracks.commit {enqueued applied : List RoomEffect} {roomName : String}
    {state : Option RoomPersistenceDesiredState} {effect : RoomEffect}
    (h : Tracks enqueued applied roomName state)
    (hbehind : effect.roomName = roomName →
      lastFor RoomEffect.roomName applied roomName ≠ lastFor RoomEffect.roomName enqueued roomName) :
    Tracks enqueued (applied ++ [effect]) roomName state := by
  by_cases hroom : effect.roomName = roomName
  · rcases state with - | state
    · exact absurd h (hbehind hroom)
    · obtain ⟨last, hlast, hhighest, hfailure, hdesired | ⟨-, hdone⟩⟩ := h
      · exact ⟨last, hlast, hhighest, hfailure, Or.inl hdesired⟩
      · exact absurd (hdone.trans hlast.symm) (hbehind hroom)
  · have hsame : lastFor RoomEffect.roomName (applied ++ [effect]) roomName =
        lastFor RoomEffect.roomName applied roomName := by
      rw [lastFor_append, if_neg hroom]
    rcases state with - | state
    · exact hsame.trans h
    · rw [Tracks, hsame]
      exact h

/-- The rows are the replay of the committed effects, and everything newer is
    still desired. -/
structure Replays (rows : RoomRows) (enqueued applied : List RoomEffect)
    (service : RoomPersistenceService) : Prop where
  replayed : ∀ roomName, service.rows[roomName]? = rowAfter rows applied roomName
  increasing : Increasing applied
  enqueuedFirst : ∀ effect ∈ applied, effect ∈ enqueued
  tracks : ∀ roomName, Tracks enqueued applied roomName service.desiredEffects[roomName]?
  desiredOnce : ∀ effect, service.desiredEffects.Pending effect →
    effect ∈ applied → service.worker.unmarked = some effect
  inHand : ∀ effect ∈ service.worker.inHand, effect ∈ enqueued
  newer : ∀ effect, service.worker.uncommitted = some effect →
    ∀ earlier ∈ applied, earlier.roomName = effect.roomName → earlier.version < effect.version
  unmarked : ∀ effect, service.worker.unmarked = some effect →
    lastFor RoomEffect.roomName applied effect.roomName = some effect

section replay

variable {rows : RoomRows} {enqueued applied : List RoomEffect}
  {service : RoomPersistenceService} {effect : RoomEffect}

theorem replays_start (queueCapacity : Nat) (rows : RoomRows) :
    Replays rows [] [] (RoomPersistenceService.start queueCapacity rows) where
  replayed _ := rfl
  increasing := List.Pairwise.nil
  enqueuedFirst _ hmem := absurd hmem List.not_mem_nil
  tracks roomName := by
    rw [RoomPersistenceService.start, Std.ExtTreeMap.getElem?_empty]
    rfl
  desiredOnce _ _ hmem := absurd hmem List.not_mem_nil
  inHand _ hmem := absurd hmem List.not_mem_nil
  newer _ h := by cases h
  unmarked _ h := by cases h

/-- Everything outside the fields that `Replays` reads may change. -/
theorem Replays.congr (h : Replays rows enqueued applied service)
    {next : RoomPersistenceService} (hrows : next.rows = service.rows)
    (hdesired : next.desiredEffects = service.desiredEffects)
    (hworker : next.worker = service.worker) : Replays rows enqueued applied next := by
  obtain ⟨replayed, increasing, enqueuedFirst, tracks, desiredOnce, inHand, newer, unmarked⟩ := h
  exact ⟨by rw [hrows]; exact replayed, increasing, enqueuedFirst,
    by rw [hdesired]; exact tracks, by rw [hdesired, hworker]; exact desiredOnce,
    by rw [hworker]; exact inHand, by rw [hworker]; exact newer, by rw [hworker]; exact unmarked⟩

/-- The worker moves on without touching the rows or the arbitration. -/
theorem Replays.moveWorker (h : Replays rows enqueued applied service)
    {next : RoomPersistenceService} (hrows : next.rows = service.rows)
    (hdesired : next.desiredEffects = service.desiredEffects)
    (hidle : service.worker.unmarked = none) (hfree : next.worker.unmarked = none)
    (hinHand : ∀ effect ∈ next.worker.inHand, effect ∈ enqueued)
    (hnewer : ∀ effect, next.worker.uncommitted = some effect → ∀ earlier ∈ applied,
      earlier.roomName = effect.roomName → earlier.version < effect.version) :
    Replays rows enqueued applied next where
  replayed := by rw [hrows]; exact h.replayed
  increasing := h.increasing
  enqueuedFirst := h.enqueuedFirst
  tracks := by rw [hdesired]; exact h.tracks
  desiredOnce effect hpending hmem := by
    rw [hdesired] at hpending
    have := h.desiredOnce effect hpending hmem
    rw [hidle] at this
    cases this
  inHand := hinHand
  newer := hnewer
  unmarked effect hsome := by rw [hfree] at hsome; cases hsome

/-- The worker moves on with nothing to commit. -/
theorem Replays.moveOn (h : Replays rows enqueued applied service)
    {next : RoomPersistenceService} (hrows : next.rows = service.rows)
    (hdesired : next.desiredEffects = service.desiredEffects)
    (hidle : service.worker.unmarked = none) (hfree : next.worker.unmarked = none)
    (hnone : next.worker.uncommitted = none)
    (hinHand : ∀ effect ∈ next.worker.inHand, effect ∈ enqueued) :
    Replays rows enqueued applied next := by
  apply h.moveWorker hrows hdesired hidle hfree hinHand
  intro effect hsome
  rw [hnone] at hsome
  cases hsome

/-- A pending effect is the last one enqueued for its room. -/
theorem Replays.pending_last (h : Replays rows enqueued applied service)
    (hpending : service.desiredEffects.Pending effect) :
    lastFor RoomEffect.roomName enqueued effect.roomName = some effect
      ∧ service.desiredEffects.isVersionCurrent effect.roomName effect.version = true
      ∧ service.desiredEffects.isEffectCurrent effect = true := by
  obtain ⟨state, hstate, hdesired⟩ := hpending
  have htracks := h.tracks effect.roomName
  rw [hstate] at htracks
  obtain ⟨last, hlast, hhighest, -, hor⟩ := htracks
  have heq : last = effect := by
    rcases hor with hsome | ⟨hnone, -⟩
    · rw [hdesired] at hsome
      exact (Option.some.inj hsome).symm
    · rw [hdesired] at hnone
      cases hnone
  rw [heq] at hlast hhighest
  exact ⟨hlast, RoomPersistenceArbitration.isVersionCurrent_iff.mpr ⟨state, hstate, hhighest⟩,
    RoomPersistenceArbitration.isEffectCurrent_iff.mpr
      ⟨state, hstate, hhighest, effect, hdesired, rfl⟩⟩

/-- A current effect is the pending effect of its room. -/
theorem Replays.pending_of_current (h : Replays rows enqueued applied service)
    (hinc : Increasing enqueued) (hmem : effect ∈ enqueued)
    (hcurrent : service.desiredEffects.isEffectCurrent effect = true) :
    service.desiredEffects.Pending effect := by
  obtain ⟨state, hstate, hhighest, desired, hdesired, hversion⟩ :=
    RoomPersistenceArbitration.isEffectCurrent_iff.mp hcurrent
  have htracks := h.tracks effect.roomName
  rw [hstate] at htracks
  obtain ⟨last, hlast, hlastVersion, -, hor⟩ := htracks
  have heq : effect = last := by
    rcases lastFor_largest hinc hmem hlast with heq | hlt
    · exact heq
    · omega
  rcases hor with hsome | ⟨hnone, -⟩
  · exact ⟨state, hstate, by rw [hsome, heq]⟩
  · rw [hdesired] at hnone
    cases hnone

/-- The last enqueued effect of a room is newer than everything applied before it. -/
theorem Replays.newer_of_last (h : Replays rows enqueued applied service)
    (hinc : Increasing enqueued)
    (hlast : lastFor RoomEffect.roomName enqueued effect.roomName = some effect)
    (hnot : effect ∉ applied) :
    ∀ earlier ∈ applied, earlier.roomName = effect.roomName →
      earlier.version < effect.version := by
  intro earlier hmem hroom
  have hlast' : lastFor RoomEffect.roomName enqueued earlier.roomName = some effect := by
    rw [hroom, hlast]
  rcases lastFor_largest hinc (h.enqueuedFirst earlier hmem) hlast' with heq | hlt
  · rw [heq] at hmem
    exact absurd hmem hnot
  · exact hlt

/-- A row gives way to an effect that is newer than everything applied. -/
theorem Replays.yields_of_newer (h : Replays rows enqueued applied service)
    (hversions : VersionsIncrease rows enqueued) (hmem : effect ∈ enqueued)
    (hnewer : ∀ earlier ∈ applied, earlier.roomName = effect.roomName →
      earlier.version < effect.version) : yields service.rows effect = true := by
  rw [yields, h.replayed, rowAfter]
  rcases hlast : lastFor RoomEffect.roomName applied effect.roomName with - | last
  · rcases hrow : rows[effect.roomName]? with - | row
    · simp
    · simpa [hrow] using hversions.aboveRows effect hmem row hrow
  · obtain ⟨hin, hroom⟩ := lastFor_mem hlast
    have hlt := hnewer last hin hroom
    rcases last with ⟨lastRoom, state⟩ | ⟨lastRoom, version⟩
    · exact decide_eq_true hlt
    · rfl

theorem applyEffect_of_yields {rows : RoomRows} (h : yields rows effect = true)
    (roomName : String) :
    (applyEffect rows effect)[roomName]? =
      if effect.roomName = roomName then effect.storedState else rows[roomName]? := by
  rw [applyEffect, if_pos h]
  by_cases hroom : effect.roomName = roomName
  · rcases hstored : effect.storedState with - | state <;> simp [hroom]
  · rcases hstored : effect.storedState with - | state <;>
      simp [hroom, Std.ExtTreeMap.getElem?_erase, Std.ExtTreeMap.getElem?_insert]

theorem rowAfter_append (roomName : String) :
    rowAfter rows (applied ++ [effect]) roomName =
      if effect.roomName = roomName then effect.storedState
      else rowAfter rows applied roomName := by
  rw [rowAfter, lastFor_append]
  by_cases hroom : effect.roomName = roomName
  · simp [hroom]
  · simp [hroom, rowAfter]

/-- A commit appends to the applied effects and keeps the rows their replay. -/
theorem Replays.commit (h : Replays rows enqueued applied service)
    (hversions : VersionsIncrease rows enqueued) {rest : List RoomEffect}
    (hworker : service.worker = .committing effect rest) :
    Replays rows enqueued (applied ++ [effect])
      { service with rows := applyEffect service.rows effect, worker := .marking effect rest } := by
  have hmem : effect ∈ enqueued := by
    apply h.inHand
    rw [hworker]
    exact List.mem_cons_self
  have hnewer := h.newer effect (by rw [hworker]; rfl)
  have hyields := h.yields_of_newer hversions hmem hnewer
  exact
    { replayed := by
        intro roomName
        rw [applyEffect_of_yields hyields, rowAfter_append, h.replayed]
      increasing := by
        apply List.pairwise_append.mpr
        refine ⟨h.increasing, List.pairwise_singleton _ _, ?_⟩
        intro earlier hearlier later hlater hroom
        rw [List.mem_singleton.mp hlater] at hroom ⊢
        exact hnewer earlier hearlier hroom
      enqueuedFirst := by
        intro other hother
        rcases List.mem_append.mp hother with hold | hnew
        · exact h.enqueuedFirst other hold
        · rw [List.mem_singleton.mp hnew]
          exact hmem
      tracks := by
        intro roomName
        apply (h.tracks roomName).commit
        intro hroom hdone
        -- the last effect enqueued for the room would be older than this one
        obtain ⟨last, hlast⟩ := lastFor_exists hmem hroom
        have hin := lastFor_mem (hdone.trans hlast)
        have hlt := hnewer last hin.1 (hin.2.trans hroom.symm)
        rcases lastFor_largest hversions.increasing hmem (hroom ▸ hlast) with heq | hgt
        · rw [heq] at hlt
          omega
        · omega
      desiredOnce := by
        intro other hpending hother
        rcases List.mem_append.mp hother with hold | hnew
        · have hunmarked := h.desiredOnce other hpending hold
          rw [hworker] at hunmarked
          cases hunmarked
        · rw [List.mem_singleton.mp hnew]
          rfl
      inHand := by
        have hold := h.inHand
        rw [hworker] at hold
        exact hold
      newer := by
        intro _ hsome
        cases hsome
      unmarked := by
        intro other hsome
        injection hsome with hsome
        rw [← hsome, lastFor_append, if_pos rfl] }

/-- Marking settles the room of the committed effect, unless a newer one arrived. -/
theorem Replays.mark (h : Replays rows enqueued applied service)
    (hinc : Increasing enqueued) {rest : List RoomEffect}
    (hworker : service.worker = .marking effect rest) :
    Replays rows enqueued applied
      { service with
        desiredEffects := service.desiredEffects.markApplied effect
        worker := .applying rest } := by
  have hdone := h.unmarked effect (by rw [hworker]; rfl)
  have hinHand := h.inHand
  rw [hworker] at hinHand
  have hmem := hinHand effect List.mem_cons_self
  exact
    { replayed := h.replayed
      increasing := h.increasing
      enqueuedFirst := h.enqueuedFirst
      tracks := by
        intro roomName
        have htracks := h.tracks roomName
        show Tracks _ _ _ (service.desiredEffects.markApplied effect)[roomName]?
        by_cases hroom : roomName = effect.roomName
        · by_cases hcurrent :
            service.desiredEffects.isVersionCurrent effect.roomName effect.version = true
          · obtain ⟨state, hstate, hhighest⟩ :=
              RoomPersistenceArbitration.isVersionCurrent_iff.mp hcurrent
            rw [hroom, RoomPersistenceArbitration.markApplied_self hcurrent, hstate]
            rw [hroom, hstate] at htracks
            obtain ⟨last, hlast, hversion, -, -⟩ := htracks
            have heq : effect = last := by
              rcases lastFor_largest hinc hmem hlast with heq | hlt
              · exact heq
              · omega
            rw [← heq] at hlast
            by_cases hdelete : effect.isDelete
            · rw [if_pos hdelete]
              exact hdone.trans hlast.symm
            · rw [if_neg hdelete]
              exact ⟨effect, hlast, hhighest, rfl, Or.inr ⟨rfl, hdone⟩⟩
          · rw [RoomPersistenceArbitration.markApplied_stale hcurrent]
            exact htracks
        · rw [RoomPersistenceArbitration.markApplied_of_ne hroom]
          exact htracks
      desiredOnce := by
        intro other hpending hother
        have hbefore := RoomPersistenceArbitration.pending_of_markApplied hpending
        have hsome := h.desiredOnce other hbefore hother
        rw [hworker] at hsome
        injection hsome with heq
        obtain ⟨-, hcurrent, -⟩ := h.pending_last hbefore
        rw [← heq] at hpending hcurrent
        exact absurd hpending (RoomPersistenceArbitration.not_pending_markApplied hcurrent)
      inHand := by
        intro other hother
        exact hinHand other (List.mem_cons_of_mem _ hother)
      newer := by
        intro _ hsome
        cases hsome
      unmarked := by
        intro _ hsome
        cases hsome }

/-- Versions that grow are all accepted. -/
theorem Replays.arbitrate_eq (h : Replays rows enqueued applied service)
    (hversions : VersionsIncrease rows (enqueued ++ [effect])) :
    service.arbitrate (.room effect) =
      { service with
        desiredEffects := service.desiredEffects.insert effect.roomName
          { highestSeenVersion := effect.version
            desiredEffect := some effect
            unresolvedFailureVersion := none }
        arbitrated := service.arbitrated + 1 } := by
  have hmem : effect ∈ enqueued ++ [effect] := List.mem_append_right _ (List.mem_singleton_self _)
  obtain ⟨-, -, hcross⟩ := List.pairwise_append.mp hversions.increasing
  have hbelow : ∀ state, service.desiredEffects[effect.roomName]? = some state →
      state.highestSeenVersion < effect.version := by
    intro state hstate
    have htracks := h.tracks effect.roomName
    rw [hstate] at htracks
    obtain ⟨last, hlast, hversion, -, -⟩ := htracks
    obtain ⟨hin, hroom⟩ := lastFor_mem hlast
    rw [hversion]
    exact hcross last hin effect (List.mem_singleton_self _) hroom
  rw [RoomPersistenceService.arbitrate,
    RoomPersistenceArbitration.enqueue_room_of_lt hbelow (hversions.positive effect hmem)]

/-- An enqueue call replaces what is desired for its room. -/
theorem Replays.arbitrate (h : Replays rows enqueued applied service)
    (hversions : VersionsIncrease rows (enqueued ++ [effect])) :
    Replays rows (enqueued ++ [effect]) applied (service.arbitrate (.room effect)) := by
  obtain ⟨-, -, hcross⟩ := List.pairwise_append.mp hversions.increasing
  rw [h.arbitrate_eq hversions]
  exact
    { replayed := h.replayed
      increasing := h.increasing
      enqueuedFirst := by
        intro other hother
        exact List.mem_append_left _ (h.enqueuedFirst other hother)
      tracks := by
        intro roomName
        have htracks := h.tracks roomName
        show Tracks _ _ _ (Std.ExtTreeMap.insert _ _ _)[roomName]?
        rw [Std.ExtTreeMap.getElem?_insert]
        by_cases hroom : effect.roomName = roomName
        · rw [if_pos (by simp [hroom])]
          exact ⟨effect, by rw [lastFor_append, if_pos hroom], rfl, rfl, Or.inl rfl⟩
        · rw [if_neg (by simp [hroom])]
          have hsame : lastFor RoomEffect.roomName (enqueued ++ [effect]) roomName =
              lastFor RoomEffect.roomName enqueued roomName := by
            rw [lastFor_append, if_neg hroom]
          rcases hstate : service.desiredEffects[roomName]? with - | state
          · rw [hstate] at htracks
            exact htracks.trans hsame.symm
          · rw [hstate] at htracks
            rw [Tracks, hsame]
            exact htracks
      desiredOnce := by
        intro other hpending hother
        obtain ⟨state, hstate, hdesired⟩ := hpending
        change (Std.ExtTreeMap.insert _ _ _)[other.roomName]? = some state at hstate
        rw [Std.ExtTreeMap.getElem?_insert] at hstate
        by_cases hroom : effect.roomName = other.roomName
        · rw [if_pos (by simp [hroom])] at hstate
          injection hstate with hstate
          rw [← hstate] at hdesired
          injection hdesired with heq
          -- the new effect cannot have been applied before it was enqueued
          have hlt := hcross other (h.enqueuedFirst other hother) effect
            (List.mem_singleton_self _) hroom.symm
          rw [heq] at hlt
          omega
        · rw [if_neg (by simp [hroom])] at hstate
          exact h.desiredOnce other ⟨state, hstate, hdesired⟩ hother
      inHand := by
        intro other hother
        exact List.mem_append_left _ (h.inHand other hother)
      newer := h.newer
      unmarked := h.unmarked }

/-- The desired effects were all enqueued. -/
theorem Replays.desiredEffects_enqueued (h : Replays rows enqueued applied service) :
    ∀ effect ∈ service.desiredEffects.desiredEffects, effect ∈ enqueued := by
  intro effect hmem
  obtain ⟨⟨roomName, state⟩, hentry, hdesired⟩ := List.mem_filterMap.mp hmem
  have hstate := Std.ExtTreeMap.mem_toList_iff_getElem?_eq_some.mp hentry
  have htracks := h.tracks roomName
  rw [hstate] at htracks
  obtain ⟨last, hlast, -, -, hsome | ⟨hnone, -⟩⟩ := htracks
  · have heq : last = effect := Option.some.inj (hsome.symm.trans hdesired)
    exact heq ▸ (lastFor_mem hlast).1
  · have hbad : none = some effect := hnone.symm.trans hdesired
    cases hbad

/-- One action of the worker. -/
theorem Replays.workerStep (h : Replays rows enqueued applied service)
    (hversions : VersionsIncrease rows enqueued) :
    Replays rows enqueued (applied ++ commits service .worker) service.workerStep := by
  have hinc := hversions.increasing
  have hinHand := h.inHand
  have hnewer := h.newer
  rcases hworker : service.worker with
    - | command | - | effects | ⟨effect, rest⟩ | ⟨effect, rest⟩ | ⟨effect, rest⟩
  all_goals
    rw [hworker] at hinHand hnewer
    rw [RoomPersistenceService.workerStep, commits, hworker]
    try dsimp only
  case idle =>
    have hidle : service.worker.unmarked = none := by rw [hworker]; rfl
    rw [List.append_nil]
    rcases service.commands with - | ⟨command, commands⟩
    · exact h
    · exact h.moveOn rfl rfl hidle rfl rfl (by intro _ hmem; cases hmem)
  case received =>
    have hidle : service.worker.unmarked = none := by rw [hworker]; rfl
    rw [List.append_nil]
    rcases command with - | -
    all_goals
      exact h.moveOn rfl rfl hidle rfl rfl (by intro _ hmem; cases hmem)
  case scanning =>
    have hidle : service.worker.unmarked = none := by rw [hworker]; rfl
    rw [List.append_nil]
    by_cases hexpired : service.expired
    · rw [if_pos hexpired]
      exact h.moveOn rfl rfl hidle rfl rfl (by intro _ hmem; cases hmem)
    · rw [if_neg hexpired]
      exact h.moveOn rfl rfl hidle rfl rfl h.desiredEffects_enqueued
  case applying =>
    have hidle : service.worker.unmarked = none := by rw [hworker]; rfl
    rw [List.append_nil]
    rcases effects with - | ⟨effect, rest⟩
    · exact h.moveOn rfl rfl hidle rfl rfl (by intro _ hmem; cases hmem)
    dsimp only
    by_cases hexpired : service.expired
    · rw [if_pos hexpired]
      exact h.moveOn rfl rfl hidle rfl rfl (by intro _ hmem; cases hmem)
    by_cases hcurrent : service.desiredEffects.isEffectCurrent effect
    · rw [if_neg hexpired, if_pos hcurrent]
      have hmem := hinHand effect List.mem_cons_self
      have hpending := h.pending_of_current hinc hmem hcurrent
      have hnot : effect ∉ applied := by
        intro happlied
        have hbad := h.desiredOnce effect hpending happlied
        rw [hidle] at hbad
        cases hbad
      have hlarger := h.newer_of_last hinc (h.pending_last hpending).1 hnot
      exact h.moveWorker rfl rfl hidle rfl hinHand
        (by intro other hsome; exact Option.some.inj hsome ▸ hlarger)
    · rw [if_neg hexpired, if_neg hcurrent]
      exact h.moveOn rfl rfl hidle rfl rfl
        fun other hother => hinHand other (List.mem_cons_of_mem _ hother)
  case writing =>
    have hidle : service.worker.unmarked = none := by rw [hworker]; rfl
    rw [List.append_nil]
    by_cases hcurrent : service.desiredEffects.isVersionCurrent effect.roomName effect.version
    · rw [if_pos hcurrent]
      exact h.moveWorker rfl rfl hidle rfl hinHand hnewer
    · rw [if_neg hcurrent]
      exact h.moveOn rfl rfl hidle rfl rfl
        fun other hother => hinHand other (List.mem_cons_of_mem _ hother)
  case committing => exact h.commit hversions hworker
  case marking =>
    rw [List.append_nil]
    exact h.mark hinc hworker

end replay

theorem requested_eq_nil {op : ServiceAction} (h : ∀ effect, op ≠ .arbitrate effect) :
    requested op = [] := by
  rcases op with effect | - | - | deadline | - | - | -
  · exact absurd rfl (h effect)
  all_goals rfl

theorem trySend_frame (service : RoomPersistenceService) (command : WorkerCommand) :
    (service.trySend command).rows = service.rows
      ∧ (service.trySend command).desiredEffects = service.desiredEffects
      ∧ (service.trySend command).worker = service.worker
      ∧ (service.trySend command).wakePending = service.wakePending
      ∧ (service.trySend command).arbitrated = service.arbitrated
      ∧ (service.trySend command).sending = service.sending := by
  rw [RoomPersistenceService.trySend]
  split <;> exact ⟨rfl, rfl, rfl, rfl, rfl, rfl⟩

theorem trySend_commands (service : RoomPersistenceService) (command : WorkerCommand) :
    (service.trySend command).commands =
      if service.commands.length < service.queueCapacity then service.commands ++ [command]
      else service.commands := by
  rw [RoomPersistenceService.trySend]
  split <;> rfl

/-- Only arbitration and the worker touch the rows, the arbitration or the worker. -/
theorem serviceStep_frame {service : RoomPersistenceService} {op : ServiceAction}
    (harbitrate : ∀ effect, op ≠ .arbitrate effect) (hworker : op ≠ .worker) :
    (serviceStep service op).rows = service.rows
      ∧ (serviceStep service op).desiredEffects = service.desiredEffects
      ∧ (serviceStep service op).worker = service.worker := by
  rcases op with effect | - | - | deadline | - | - | -
  case arbitrate => exact absurd rfl (harbitrate effect)
  case worker => exact absurd rfl hworker
  case swapWake =>
    show service.swapWake.rows = _ ∧ service.swapWake.desiredEffects = _
      ∧ service.swapWake.worker = _
    rw [RoomPersistenceService.swapWake]
    split
    · exact ⟨rfl, rfl, rfl⟩
    · split <;> exact ⟨rfl, rfl, rfl⟩
  case sendWake =>
    show service.sendWake.rows = _ ∧ service.sendWake.desiredEffects = _
      ∧ service.sendWake.worker = _
    rw [RoomPersistenceService.sendWake]
    split
    · exact ⟨rfl, rfl, rfl⟩
    · obtain ⟨hrows, hdesired, hsame, -⟩ :=
        trySend_frame { service with sending := service.sending - 1 } .wake
      exact ⟨hrows, hdesired, hsame⟩
  case setDeadline => exact ⟨rfl, rfl, rfl⟩
  case sendFlush =>
    obtain ⟨hrows, hdesired, hsame, -⟩ := trySend_frame service .flush
    exact ⟨hrows, hdesired, hsame⟩
  case tick => exact ⟨rfl, rfl, rfl⟩

/-- What one action preserves. -/
theorem Replays.step {rows : RoomRows} {enqueued applied : List RoomEffect}
    {service : RoomPersistenceService} (op : ServiceAction)
    (h : Replays rows enqueued applied service)
    (hversions : VersionsIncrease rows (enqueued ++ requested op)) :
    Replays rows (enqueued ++ requested op) (applied ++ commits service op)
      (serviceStep service op) := by
  by_cases hworker : op = .worker
  · subst hworker
    rw [requested_eq_nil (by simp), List.append_nil] at hversions ⊢
    exact h.workerStep hversions
  have hcommits : commits service op = [] := by
    rcases op with effect | - | - | deadline | - | - | -
    case worker => exact absurd rfl hworker
    all_goals rfl
  rw [hcommits, List.append_nil]
  by_cases harbitrate : ∃ effect, op = .arbitrate effect
  · obtain ⟨effect, rfl⟩ := harbitrate
    rcases effect with effect | ⟨snapshotTime, versions⟩
    · exact h.arbitrate hversions
    · exact (List.append_nil enqueued).symm ▸ h.congr rfl rfl rfl
  · have hother : ∀ effect, op ≠ .arbitrate effect := fun effect heq => harbitrate ⟨effect, heq⟩
    obtain ⟨hrows, hdesired, hsame⟩ := @serviceStep_frame service op hother hworker
    rw [requested_eq_nil hother, List.append_nil]
    exact h.congr hrows hdesired hsame

/-- What a whole run preserves. -/
theorem replays_run (queueCapacity : Nat) (rows : RoomRows) (ops : List ServiceAction)
    (hversions : VersionsIncrease rows (history ops)) :
    Replays rows (history ops)
      (committed (RoomPersistenceService.start queueCapacity rows) ops)
      (runFrom serviceStep (RoomPersistenceService.start queueCapacity rows) ops) := by
  induction ops using List.reverseRecOn with
  | nil => exact replays_start queueCapacity rows
  | append_singleton ops op ih =>
    rw [history_append] at hversions ⊢
    rw [committed_append, runFrom_append]
    exact Replays.step op (ih hversions.of_append) hversions

/-! ### Wake-ups -/

/-- The worker is on its way to a scan. -/
def WorkerState.willScan : WorkerState → Bool
  | .received _ => true
  | .scanning => true
  | _ => false

/-- The worker is about to compare the deadline with the clock. -/
def WorkerState.consultsDeadline : WorkerState → Bool
  | .scanning => true
  | .applying (_ :: _) => true
  | _ => false

/-- A command is queued, or an enqueue call has yet to send its wake-up. -/
def WakeInFlight (service : RoomPersistenceService) : Prop :=
  service.commands ≠ [] ∨ 0 < service.arbitrated ∨ 0 < service.sending

/-- The action drops no wake-up: a wake-up is sent to a queue with room for it,
    and the worker abandons a scan for an expired deadline only when nothing is
    desired or a further wake-up is in flight. -/
def KeepsWake (service : RoomPersistenceService) : ServiceAction → Prop
  | .sendWake => 0 < service.sending → service.commands.length < service.queueCapacity
  | .worker =>
    service.worker.consultsDeadline = true → service.expired = true →
      service.desiredEffects.isSettled = true ∨ WakeInFlight service
  | _ => True

instance (service : RoomPersistenceService) : Decidable (WakeInFlight service) :=
  inferInstanceAs (Decidable (_ ∨ _ ∨ _))

instance (service : RoomPersistenceService) : (op : ServiceAction) → Decidable (KeepsWake service op)
  | .sendWake => inferInstanceAs (Decidable (_ → _))
  | .worker => inferInstanceAs (Decidable (_ → _ → _))
  | .arbitrate _ => isTrue trivial
  | .swapWake => isTrue trivial
  | .setDeadline _ => isTrue trivial
  | .sendFlush => isTrue trivial
  | .tick => isTrue trivial

/-- Every action of the run drops no wake-up. -/
def KeepsWakes (service : RoomPersistenceService) : List ServiceAction → Prop
  | [] => True
  | op :: ops => KeepsWake service op ∧ KeepsWakes (serviceStep service op) ops

instance decidableKeepsWakes :
    (service : RoomPersistenceService) → (ops : List ServiceAction) →
      Decidable (KeepsWakes service ops)
  | _, [] => isTrue trivial
  | service, op :: ops =>
    @instDecidableAnd _ _ _ (decidableKeepsWakes (serviceStep service op) ops)

/-- A desired effect is on its way to the worker or in its hands. -/
structure Awake (service : RoomPersistenceService) : Prop where
  desired : ∀ effect, service.desiredEffects.Pending effect →
    WakeInFlight service ∨ service.worker.willScan = true ∨ effect ∈ service.worker.inHand
  flag : service.wakePending = true →
    .wake ∈ service.commands ∨ 0 < service.sending ∨ service.worker = .received .wake

theorem keepsWakes_append {service : RoomPersistenceService} {first second : List ServiceAction} :
    KeepsWakes service (first ++ second) ↔
      KeepsWakes service first ∧ KeepsWakes (runFrom serviceStep service first) second := by
  induction first generalizing service with
  | nil => simp [KeepsWakes]
  | cons op first ih => simp [KeepsWakes, ih, and_assoc]

theorem awake_start (queueCapacity : Nat) (rows : RoomRows) :
    Awake (RoomPersistenceService.start queueCapacity rows) where
  desired effect hpending := by
    obtain ⟨state, hstate, -⟩ := hpending
    rw [RoomPersistenceService.start, Std.ExtTreeMap.getElem?_empty] at hstate
    cases hstate
  flag h := by cases h

section wake

variable {service : RoomPersistenceService} {effect : RoomEffect}

theorem Awake.trySend (h : Awake service) (command : WorkerCommand) :
    Awake (service.trySend command) := by
  obtain ⟨-, hdesired, hworker, hflag, harbitrated, hsending⟩ := trySend_frame service command
  have hgrows : ∀ queued ∈ service.commands, queued ∈ (service.trySend command).commands := by
    intro queued hqueued
    rw [trySend_commands]
    split
    · exact List.mem_append_left _ hqueued
    · exact hqueued
  constructor
  · intro effect hpending
    rw [hdesired] at hpending
    rw [hworker]
    rcases h.desired effect hpending with (hcommands | hcalls) | hbusy
    · obtain ⟨queued, hqueued⟩ := List.exists_mem_of_ne_nil _ hcommands
      exact Or.inl (Or.inl (List.ne_nil_of_mem (hgrows queued hqueued)))
    · exact Or.inl (Or.inr (by rw [harbitrated, hsending]; exact hcalls))
    · exact Or.inr hbusy
  · intro hpending
    rw [hflag] at hpending
    rw [hworker, hsending]
    exact (h.flag hpending).imp_left (hgrows _)

theorem Awake.swapWake (h : Awake service) : Awake service.swapWake := by
  rw [RoomPersistenceService.swapWake]
  split
  · exact h
  rename_i hcalls
  split
  · rename_i hflag
    constructor
    · intro effect hpending
      -- the flag is set, so a wake-up is in flight already
      rcases h.flag hflag with hqueued | hsending | hreceived
      · exact Or.inl (Or.inl (List.ne_nil_of_mem hqueued))
      · exact Or.inl (Or.inr (Or.inr hsending))
      · exact Or.inr (Or.inl (by show service.worker.willScan = true; rw [hreceived]; rfl))
    · exact h.flag
  · constructor
    · intro effect hpending
      exact Or.inl (Or.inr (Or.inr (Nat.succ_pos _)))
    · intro hpending
      exact Or.inr (Or.inl (Nat.succ_pos _))

theorem Awake.sendWake (h : Awake service) (hkeeps : KeepsWake service .sendWake) :
    Awake service.sendWake := by
  rw [RoomPersistenceService.sendWake]
  split
  · exact h
  rename_i hsending
  have hroom := hkeeps (Nat.pos_of_ne_zero hsending)
  have hqueued : .wake ∈
      ({ service with sending := service.sending - 1 }.trySend .wake).commands := by
    rw [trySend_commands, if_pos hroom]
    exact List.mem_append_right _ (List.mem_singleton_self _)
  constructor
  · intro effect hpending
    exact Or.inl (Or.inl (List.ne_nil_of_mem hqueued))
  · intro hpending
    exact Or.inl hqueued

/-- An abandoned scan leaves a wake-up in flight, or nothing to scan for. -/
theorem Awake.abandon (h : Awake service) (hkeeps : KeepsWake service .worker)
    (hconsults : service.worker.consultsDeadline = true) (hexpired : service.expired = true) :
    Awake { service with worker := .idle } := by
  constructor
  · intro effect hpending
    rcases hkeeps hconsults hexpired with hsettled | hflight
    · obtain ⟨state, hstate, hdesired⟩ := hpending
      rw [RoomPersistenceArbitration.isSettled, List.all_eq_true] at hsettled
      have hnone := hsettled _ (Std.ExtTreeMap.mem_toList_iff_getElem?_eq_some.mpr hstate)
      rw [hdesired] at hnone
      simp at hnone
    · exact Or.inl hflight
  · intro hflag
    rcases h.flag hflag with hqueued | hsending | hreceived
    · exact Or.inl hqueued
    · exact Or.inr (Or.inl hsending)
    · rw [hreceived] at hconsults
      cases hconsults

/-- The worker moves on and keeps every effect that is still desired. -/
theorem Awake.moveWorker (h : Awake service) {next : RoomPersistenceService}
    (hcommands : next.commands = service.commands)
    (harbitrated : next.arbitrated = service.arbitrated)
    (hsending : next.sending = service.sending)
    (hflag : next.wakePending = service.wakePending)
    (hscan : service.worker.willScan = false)
    (hdesired : ∀ effect, next.desiredEffects.Pending effect →
      service.desiredEffects.Pending effect
        ∧ (effect ∈ service.worker.inHand → effect ∈ next.worker.inHand)) :
    Awake next := by
  have hflight : WakeInFlight next = WakeInFlight service := by
    rw [WakeInFlight, WakeInFlight, hcommands, harbitrated, hsending]
  constructor
  · intro effect hpending
    obtain ⟨hbefore, hhand⟩ := hdesired effect hpending
    rw [hflight]
    rcases h.desired effect hbefore with hwake | hbusy | hin
    · exact Or.inl hwake
    · rw [hscan] at hbusy
      cases hbusy
    · exact Or.inr (Or.inr (hhand hin))
  · intro hpending
    rw [hflag] at hpending
    rw [hcommands, hsending]
    rcases h.flag hpending with hqueued | hcalls | hreceived
    · exact Or.inl hqueued
    · exact Or.inr (Or.inl hcalls)
    · rw [hreceived] at hscan
      cases hscan

/-- The worker lets go of an effect that is no longer desired. -/
theorem Awake.dropHead (h : Awake service) {next : RoomPersistenceService}
    {rest : List RoomEffect} (hcommands : next.commands = service.commands)
    (harbitrated : next.arbitrated = service.arbitrated)
    (hsending : next.sending = service.sending)
    (hflag : next.wakePending = service.wakePending)
    (hscan : service.worker.willScan = false)
    (hhand : service.worker.inHand = effect :: rest) (hrest : next.worker.inHand = rest)
    (hdesired : ∀ other, next.desiredEffects.Pending other → service.desiredEffects.Pending other)
    (hgone : ¬ next.desiredEffects.Pending effect) : Awake next := by
  apply h.moveWorker hcommands harbitrated hsending hflag hscan
  intro other hpending
  refine ⟨hdesired other hpending, fun hin => ?_⟩
  rw [hhand] at hin
  rw [hrest]
  rcases List.mem_cons.mp hin with heq | htail
  · rw [heq] at hpending
    exact absurd hpending hgone
  · exact htail

theorem Awake.workerStep {rows : RoomRows} {enqueued applied : List RoomEffect}
    (h : Awake service) (hreplays : Replays rows enqueued applied service)
    (hkeeps : KeepsWake service .worker) : Awake service.workerStep := by
  rcases hworker : service.worker with
    - | command | - | effects | ⟨effect, rest⟩ | ⟨effect, rest⟩ | ⟨effect, rest⟩
  all_goals
    rw [RoomPersistenceService.workerStep, hworker]
    try dsimp only
  case idle =>
    rcases hcommands : service.commands with - | ⟨command, commands⟩
    · exact h
    constructor
    · intro effect hpending
      exact Or.inr (Or.inl rfl)
    · intro hflag
      have hwake := h.flag hflag
      rw [hcommands, hworker] at hwake
      rcases hwake with hqueued | hsending | hreceived
      · rcases List.mem_cons.mp hqueued with hhead | htail
        · exact Or.inr (Or.inr (by rw [hhead]))
        · exact Or.inl htail
      · exact Or.inr (Or.inl hsending)
      · cases hreceived
  case received =>
    have hflag := h.flag
    rw [hworker] at hflag
    rcases command with - | -
    · exact ⟨fun effect hpending => Or.inr (Or.inl rfl), fun hfalse => by cases hfalse⟩
    · constructor
      · intro effect hpending
        exact Or.inr (Or.inl rfl)
      · intro hset
        rcases hflag hset with hqueued | hsending | hreceived
        · exact Or.inl hqueued
        · exact Or.inr (Or.inl hsending)
        · cases hreceived
  case scanning =>
    by_cases hexpired : service.expired
    · rw [if_pos hexpired]
      exact h.abandon hkeeps (by rw [hworker]; rfl) hexpired
    · rw [if_neg hexpired]
      constructor
      · intro effect hpending
        exact Or.inr (Or.inr (RoomPersistenceArbitration.mem_desiredEffects_of_pending hpending))
      · intro hflag
        rcases h.flag hflag with hqueued | hsending | hreceived
        · exact Or.inl hqueued
        · exact Or.inr (Or.inl hsending)
        · rw [hworker] at hreceived
          cases hreceived
  case applying =>
    have hscan : service.worker.willScan = false := by rw [hworker]; rfl
    rcases effects with - | ⟨effect, rest⟩
    · exact h.moveWorker rfl rfl rfl rfl hscan fun other hpending =>
        ⟨hpending, fun hin => by rw [hworker] at hin; cases hin⟩
    dsimp only
    by_cases hexpired : service.expired
    · rw [if_pos hexpired]
      exact h.abandon hkeeps (by rw [hworker]; rfl) hexpired
    rw [if_neg hexpired]
    by_cases hcurrent : service.desiredEffects.isEffectCurrent effect
    · rw [if_pos hcurrent]
      exact h.moveWorker rfl rfl rfl rfl hscan fun other hpending =>
        ⟨hpending, fun hin => by rw [hworker] at hin; exact hin⟩
    · rw [if_neg hcurrent]
      exact h.dropHead rfl rfl rfl rfl hscan (by rw [hworker]; rfl) rfl (fun _ hother => hother)
        fun hpending => hcurrent (hreplays.pending_last hpending).2.2
  case writing =>
    have hscan : service.worker.willScan = false := by rw [hworker]; rfl
    by_cases hcurrent : service.desiredEffects.isVersionCurrent effect.roomName effect.version
    · rw [if_pos hcurrent]
      exact h.moveWorker rfl rfl rfl rfl hscan fun other hpending =>
        ⟨hpending, fun hin => by rw [hworker] at hin; exact hin⟩
    · rw [if_neg hcurrent]
      exact h.dropHead rfl rfl rfl rfl hscan (by rw [hworker]; rfl) rfl (fun _ hother => hother)
        fun hpending => hcurrent (hreplays.pending_last hpending).2.1
  case committing =>
    exact h.moveWorker rfl rfl rfl rfl (by rw [hworker]; rfl) fun other hpending =>
      ⟨hpending, fun hin => by rw [hworker] at hin; exact hin⟩
  case marking =>
    exact h.dropHead rfl rfl rfl rfl (by rw [hworker]; rfl) (by rw [hworker]; rfl) rfl
      (fun _ hother => RoomPersistenceArbitration.pending_of_markApplied hother)
      fun hpending =>
        have hbefore := RoomPersistenceArbitration.pending_of_markApplied hpending
        RoomPersistenceArbitration.not_pending_markApplied (hreplays.pending_last hbefore).2.1
          hpending

/-- What one action preserves, if it drops no wake-up. -/
theorem Awake.step {rows : RoomRows} {enqueued applied : List RoomEffect} (op : ServiceAction)
    (h : Awake service) (hreplays : Replays rows enqueued applied service)
    (hversions : VersionsIncrease rows (enqueued ++ requested op))
    (hkeeps : KeepsWake service op) : Awake (serviceStep service op) := by
  rcases op with effect | - | - | deadline | - | - | -
  case arbitrate =>
    rcases effect with effect | ⟨snapshotTime, versions⟩
    · show Awake (service.arbitrate (.room effect))
      rw [hreplays.arbitrate_eq hversions]
      constructor
      · intro other hpending
        exact Or.inl (Or.inr (Or.inl (Nat.succ_pos _)))
      · exact h.flag
    · exact ⟨h.desired, h.flag⟩
  case swapWake => exact h.swapWake
  case sendWake => exact h.sendWake hkeeps
  case setDeadline => exact ⟨h.desired, h.flag⟩
  case sendFlush => exact h.trySend .flush
  case tick => exact ⟨h.desired, h.flag⟩
  case worker => exact h.workerStep hreplays hkeeps

end wake

theorem awake_run (queueCapacity : Nat) (rows : RoomRows) (ops : List ServiceAction)
    (hversions : VersionsIncrease rows (history ops))
    (hkeeps : KeepsWakes (RoomPersistenceService.start queueCapacity rows) ops) :
    Awake (runFrom serviceStep (RoomPersistenceService.start queueCapacity rows) ops) := by
  induction ops using List.reverseRecOn with
  | nil => exact awake_start queueCapacity rows
  | append_singleton ops op ih =>
    obtain ⟨hbefore, hlast, -⟩ := keepsWakes_append.mp hkeeps
    rw [history_append] at hversions
    rw [runFrom_append]
    have hreplays := replays_run queueCapacity rows ops hversions.of_append
    exact (ih hversions.of_append hbefore).step op hreplays hversions hlast

/-! ### Convergence -/

/-- The worker waits on an empty queue and every enqueue call has returned. -/
def Quiescent (service : RoomPersistenceService) : Prop :=
  service.worker = .idle ∧ service.commands = [] ∧ service.arbitrated = 0 ∧ service.sending = 0

/-- At rest nothing is desired and every row is that of the newest effect. -/
def Converged (rows : RoomRows) (enqueued : List RoomEffect) (service : RoomPersistenceService) :
    Prop :=
  service.desiredEffects.isSettled = true
    ∧ (∀ effect ∈ enqueued,
      (∀ other ∈ enqueued, other.roomName = effect.roomName → other.version ≤ effect.version) →
      service.rows[effect.roomName]? = effect.storedState)
    ∧ ∀ roomName, (∀ effect ∈ enqueued, effect.roomName ≠ roomName) →
      service.rows[roomName]? = rows[roomName]?

/-- A set flag stands for a wake-up that the worker will still see. -/
def FlagHonest (service : RoomPersistenceService) : Prop :=
  service.wakePending = true →
    .wake ∈ service.commands ∨ 0 < service.sending ∨ service.worker = .received .wake

/-- A commit meets an older row, and no newer effect was committed before it. -/
def CommitsInOrder (applied : List RoomEffect) (service : RoomPersistenceService) : Prop :=
  Increasing applied
    ∧ ∀ effect rest, service.worker = .committing effect rest →
      service.rows[effect.roomName]?.all (·.version < effect.version) = true
        ∧ ∀ earlier ∈ applied, earlier.roomName = effect.roomName →
          earlier.version < effect.version

theorem Replays.commitsInOrder {rows : RoomRows} {enqueued applied : List RoomEffect}
    {service : RoomPersistenceService} (h : Replays rows enqueued applied service)
    (hversions : VersionsIncrease rows enqueued) : CommitsInOrder applied service := by
  refine ⟨h.increasing, fun effect rest hworker => ?_⟩
  have hmem : effect ∈ enqueued := by
    apply h.inHand
    rw [hworker]
    exact List.mem_cons_self
  have hnewer := h.newer effect (by rw [hworker]; rfl)
  exact ⟨h.yields_of_newer hversions hmem hnewer, hnewer⟩

/-- Nothing is desired at rest. -/
theorem Awake.not_pending {service : RoomPersistenceService} (h : Awake service)
    (hrest : Quiescent service) (effect : RoomEffect) :
    ¬ service.desiredEffects.Pending effect := by
  intro hpending
  obtain ⟨hidle, hcommands, harbitrated, hsending⟩ := hrest
  rcases h.desired effect hpending with (hqueued | hcalls | hcalls) | hscan | hhand
  · exact hqueued hcommands
  · omega
  · omega
  · rw [hidle] at hscan
    cases hscan
  · rw [hidle] at hhand
    cases hhand

theorem Replays.converged {rows : RoomRows} {enqueued applied : List RoomEffect}
    {service : RoomPersistenceService} (h : Replays rows enqueued applied service)
    (hinc : Increasing enqueued)
    (hnone : ∀ effect, ¬ service.desiredEffects.Pending effect) :
    Converged rows enqueued service := by
  -- with nothing desired, the last applied effect of a room is the last enqueued one
  have hdone : ∀ roomName, lastFor RoomEffect.roomName applied roomName =
      lastFor RoomEffect.roomName enqueued roomName := by
    intro roomName
    have htracks := h.tracks roomName
    rcases hstate : service.desiredEffects[roomName]? with - | state
    · rw [hstate] at htracks
      exact htracks
    · rw [hstate] at htracks
      obtain ⟨last, hlast, -, -, hdesired | ⟨-, happlied⟩⟩ := htracks
      · have hroom := (lastFor_mem hlast).2
        exact absurd ⟨state, by rw [hroom, hstate], hdesired⟩ (hnone last)
      · rw [happlied, hlast]
  refine ⟨?_, ?_, ?_⟩
  · rw [RoomPersistenceArbitration.isSettled, List.all_eq_true]
    rintro ⟨roomName, state⟩ hentry
    have hstate := Std.ExtTreeMap.mem_toList_iff_getElem?_eq_some.mp hentry
    have htracks := h.tracks roomName
    rw [hstate] at htracks
    obtain ⟨last, hlast, -, hfailure, hdesired | ⟨hdesired, -⟩⟩ := htracks
    · have hroom := (lastFor_mem hlast).2
      exact absurd ⟨state, by rw [hroom, hstate], hdesired⟩ (hnone last)
    · simp [hdesired, hfailure]
  · intro effect hmem hhighest
    obtain ⟨last, hlast⟩ := lastFor_exists hmem (rfl : effect.roomName = effect.roomName)
    obtain ⟨hin, hroom⟩ := lastFor_mem hlast
    have heq : effect = last := by
      rcases lastFor_largest hinc hmem hlast with heq | hlt
      · exact heq
      · have := hhighest last hin hroom
        omega
    rw [h.replayed, rowAfter, hdone, hlast, heq]
  · intro roomName hno
    have hlast : lastFor RoomEffect.roomName enqueued roomName = none := by
      rcases hcase : lastFor RoomEffect.roomName enqueued roomName with - | effect
      · rfl
      · obtain ⟨hin, hroom⟩ := lastFor_mem hcase
        exact absurd hroom (hno effect hin)
    rw [h.replayed, rowAfter, hdone, hlast]

/-- A run that drops no wake-up converges whenever the service comes to rest,
    its flag stands for a wake-up, and no commit replaces a newer row. -/
theorem room_persistence_converges (queueCapacity : Nat) (rows : RoomRows)
    (ops : List ServiceAction) (hversions : VersionsIncrease rows (history ops))
    (hkeeps : KeepsWakes (RoomPersistenceService.start queueCapacity rows) ops) :
    let started := RoomPersistenceService.start queueCapacity rows
    let service := runFrom serviceStep started ops
    (Quiescent service → Converged rows (history ops) service)
      ∧ FlagHonest service
      ∧ CommitsInOrder (committed started ops) service := by
  intro started service
  have hreplays := replays_run queueCapacity rows ops hversions
  have hawake := awake_run queueCapacity rows ops hversions hkeeps
  refine ⟨fun hrest => ?_, hawake.flag, hreplays.commitsInOrder hversions⟩
  exact hreplays.converged hversions.increasing (hawake.not_pending hrest)

/-! ### Two runs -/

/-- One call of `enqueue`, uninterrupted. -/
def enqueueCall (effect : RoomEffect) : List ServiceAction :=
  [.arbitrate (.room effect), .swapWake, .sendWake]

/-- A flush whose deadline passes before the worker takes its command. -/
def timedOutFlush (deadline : Nat) : List ServiceAction :=
  [.setDeadline (some deadline), .sendFlush, .tick, .setDeadline none]

def workerActions (count : Nat) : List ServiceAction := List.replicate count .worker

def loungeSave (version : Nat) : RoomEffect :=
  .saveRoom "lounge"
    { files := []
      index := none
      position := 0
      lastActivityAtSeconds := 0
      version
      ownerBucket := none
      createdAtSeconds := 0 }

def twoSaves : List ServiceAction :=
  enqueueCall (loungeSave 1) ++ enqueueCall (loungeSave 2) ++ workerActions 8

theorem two_saves_converge :
    let service :=
      runFrom serviceStep (.start persistenceCommandQueueCapacity ∅) twoSaves
    Quiescent service ∧ Converged ∅ [loungeSave 1, loungeSave 2] service := by
  have hhistory : history twoSaves = [loungeSave 1, loungeSave 2] := by decide +kernel
  have hversions : VersionsIncrease ∅ (history twoSaves) := by
    rw [hhistory]
    exact ⟨by simp [Increasing, loungeSave, RoomEffect.version],
      by simp [loungeSave, RoomEffect.version], by simp⟩
  have hrest : Quiescent
      (runFrom serviceStep (.start persistenceCommandQueueCapacity ∅) twoSaves) := by
    unfold Quiescent
    decide +kernel
  have hconverges := room_persistence_converges persistenceCommandQueueCapacity ∅ twoSaves
    hversions (by decide +kernel)
  rw [hhistory] at hconverges
  exact ⟨hrest, hconverges.1 hrest⟩

/-- While the worker commits, 256 flushes time out and fill the queue.  The
    wake-up of the second save finds no room in it, and the flag stays set. -/
def staleRun : List ServiceAction :=
  enqueueCall (loungeSave 1) ++ workerActions 5
    ++ (List.range persistenceCommandQueueCapacity).flatMap (fun k => timedOutFlush (k + 1))
    ++ enqueueCall (loungeSave 2) ++ workerActions 1035
    ++ enqueueCall (loungeSave 3)

/-- The third save is never applied: the service is at rest, the flag promises
    a wake-up that is not queued, and the row is that of the second save. -/
theorem full_queue_loses_wake :
    let service := runFrom serviceStep (.start persistenceCommandQueueCapacity ∅) staleRun
    VersionsIncrease ∅ (history staleRun)
      ∧ Quiescent service
      ∧ ¬ Converged ∅ (history staleRun) service
      ∧ ¬ FlagHonest service := by
  have hhistory : history staleRun = [loungeSave 1, loungeSave 2, loungeSave 3] := by
    decide +kernel
  have hstate : (runFrom serviceStep (.start persistenceCommandQueueCapacity ∅) staleRun).worker
        = .idle
      ∧ (runFrom serviceStep (.start persistenceCommandQueueCapacity ∅) staleRun).commands = []
      ∧ (runFrom serviceStep (.start persistenceCommandQueueCapacity ∅) staleRun).arbitrated = 0
      ∧ (runFrom serviceStep (.start persistenceCommandQueueCapacity ∅) staleRun).sending = 0
      ∧ (runFrom serviceStep (.start persistenceCommandQueueCapacity ∅) staleRun).wakePending
        = true
      ∧ (runFrom serviceStep (.start persistenceCommandQueueCapacity ∅) staleRun).rows["lounge"]?
        = (loungeSave 2).storedState := by
    decide +kernel
  generalize runFrom serviceStep (.start persistenceCommandQueueCapacity ∅) staleRun = service
    at hstate ⊢
  obtain ⟨hidle, hcommands, harbitrated, hsending, hflag, hrow⟩ := hstate
  rw [hhistory]
  refine ⟨⟨?_, ?_, ?_⟩, ⟨hidle, hcommands, harbitrated, hsending⟩, ?_, ?_⟩
  · simp [Increasing, loungeSave, RoomEffect.version]
  · simp [loungeSave, RoomEffect.version]
  · simp
  · rintro ⟨-, hhighest, -⟩
    have hthird := hhighest (loungeSave 3) (by simp)
      (by simp [loungeSave, RoomEffect.version])
    have hbad : (loungeSave 2).storedState = (loungeSave 3).storedState := hrow.symm.trans hthird
    revert hbad
    decide +kernel
  · intro hhonest
    rcases hhonest hflag with hqueued | hpositive | hreceived
    · rw [hcommands] at hqueued
      cases hqueued
    · omega
    · rw [hidle] at hreceived
      cases hreceived

end Sorotte.Persistence
