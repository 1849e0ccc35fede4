import Sorotte.Client.Coalescing
import Sorotte.Client.OutboxRuns

/-! # The State at the tail of the outbox

  A State that finds no State to join goes to the back of the queue; the States
  pushed after it join it there.  Whatever the pushes strip from older entries,
  they never reach past the entry that sealed the queue, so the tail stands for
  the pushed sequence and for nothing else.
-/

namespace Sorotte.Client

open Sorotte.Framework ProtocolOutbox

variable {outbox : ProtocolOutbox} {c : SerdeCodecs}

/-! ### States of the current connection only -/

/-- A queued State belongs to the given connection generation. -/
def OfGeneration (generation : Nat) (e : OutboxEntry) : Prop :=
  ∀ g cancelled, e.2 = .connectionScopedState g cancelled → g = generation

theorem keeps_ofGeneration (generation : Nat) : Keeps (OfGeneration generation) where
  request e he g cancelled h := by
    cases hd : e.2 <;> simp only [hd, ProtocolDelivery.cancelRequest] at h <;> cases h
    exact he _ _ hd
  intent e he g cancelled h := by
    cases hd : e.2 <;> simp only [hd, ProtocolDelivery.cancelIntent] at h <;> cases h
    exact he _ _ hd
  status e he g cancelled h := by
    cases hd : e.2 <;> simp only [hd, ProtocolDelivery.setParticipantStatusCancelled] at h <;>
      cases h
    exact he _ _ hd
  strip e e' he h g cancelled hd := by
    obtain ⟨message, delivery⟩ := e
    have hold : ∀ g' cancelled', delivery = .connectionScopedState g' cancelled' →
        g' = generation := he
    have hdelivery : e'.2 = delivery ∨ e'.2 = delivery.setParticipantStatusCancelled false := by
      unfold stripEntry at h
      split at h
      · split at h
        · split at h
          · cases h
          · obtain rfl := Option.some.inj h
            exact .inr rfl
        · obtain rfl := Option.some.inj h
          exact .inr rfl
      · obtain rfl := Option.some.inj h
        exact .inl rfl
    rcases hdelivery with hsame | hreset
    · exact hold g cancelled (hsame ▸ hd)
    · rw [hreset] at hd
      cases delivery <;> simp only [ProtocolDelivery.setParticipantStatusCancelled] at hd <;>
        cases hd
      exact hold _ _ rfl
  coalesce message previous g cancelled h g' cancelled' heq := by
    cases heq
    exact h g cancelled rfl

theorem invalidate_connectionGeneration (mark : ProtocolDelivery → ProtocolDelivery)
    (shouldCancel : ProtocolDelivery → Bool) :
    (outbox.invalidate mark shouldCancel).connectionGeneration = outbox.connectionGeneration := by
  unfold invalidate retainDeliveries
  dsimp only
  split <;> rfl

theorem cancelStatus_connectionGeneration (h : outbox.Paired) :
    outbox.cancelPendingParticipantStatusReports.connectionGeneration =
      outbox.connectionGeneration := by
  have heq := cancelPendingParticipantStatusReports_withEntries outbox outbox.entries
  rw [← h.eq_withEntries] at heq
  rw [heq]
  rfl

theorem pushState_connectionGeneration (codec : WireCodec) (h : outbox.Paired)
    (message : ProtocolMessage) :
    (outbox.pushConnectionScopedState codec message).2.connectionGeneration =
      outbox.connectionGeneration := by
  have hcoalesce : ∀ box : ProtocolOutbox,
      (box.coalesceOrAppend codec message).connectionGeneration = box.connectionGeneration := by
    intro box
    unfold coalesceOrAppend
    split <;> rfl
  unfold pushConnectionScopedState
  split
  · rfl
  · dsimp only
    rw [hcoalesce]
    split
    · exact cancelStatus_connectionGeneration h
    · rfl

/-- Only a new connection starts a new generation. -/
theorem connectionGeneration_step (codec : WireCodec) (h : outbox.Paired) (op : OutboxOp)
    (hop : op ≠ .beginConnectionGeneration) :
    (outboxStep codec outbox op).connectionGeneration = outbox.connectionGeneration := by
  cases op with
  | pushBack message =>
    simp only [outboxStep, pushBack]
    split
    · exact pushState_connectionGeneration codec h message
    · rfl
  | pushConnectionScopedReliable =>
    simp only [outboxStep, pushConnectionScopedReliable]
    split
    · rfl
    · exact invalidate_connectionGeneration _ _
  | pushConnectionScopedCausalState =>
    simp only [outboxStep, pushConnectionScopedCausalState]
    split <;> rfl
  | pushReadinessIntent =>
    simp only [outboxStep, pushReadinessIntent]
    split
    · rfl
    · exact invalidate_connectionGeneration _ _
  | pushConnectionScopedState message => exact pushState_connectionGeneration codec h message
  | cancelReadinessIntents => exact invalidate_connectionGeneration _ _
  | cancelConnectionScopedReliable => exact invalidate_connectionGeneration _ _
  | cancelPendingParticipantStatusReports => exact cancelStatus_connectionGeneration h
  | retainConnectionScopedReliableScope => exact invalidate_connectionGeneration _ _
  | frontForDelivery =>
    simp only [outboxStep, frontForDeliveryWithStatus]
    split
    · rfl
    · split <;> rfl
  | acknowledgeFront lease =>
    simp only [outboxStep, ProtocolOutbox.acknowledgeFront]
    split
    · rfl
    · split <;> rfl
  | releaseFront lease =>
    simp only [outboxStep, ProtocolOutbox.releaseFront]
    split
    · rfl
    · split
      · rfl
      · split
        · unfold stripParticipantStatusAt
          split
          · dsimp only
            split <;> rfl
          · rfl
        · rfl
  | beginConnectionGeneration => exact absurd rfl hop
  | activateConnectionGeneration => rfl

theorem ofGeneration_step (codec : WireCodec) (h : outbox.Sound)
    (hes : ∀ e ∈ outbox.entries, OfGeneration outbox.connectionGeneration e) (op : OutboxOp) :
    ∀ e ∈ (outboxStep codec outbox op).entries,
      OfGeneration (outboxStep codec outbox op).connectionGeneration e := by
  have hkept : ∀ e ∈ (outboxStep codec outbox op).entries,
      OfGeneration outbox.connectionGeneration e := by
    refine forall_step codec (keeps_ofGeneration _) h hes op fun e he g cancelled hd => ?_
    cases op with
    | pushBack message =>
      simp only [appended] at he
      split at he
      · obtain rfl := Option.some.inj he
        cases hd
        rfl
      · obtain rfl := Option.some.inj he
        cases hd
    | pushConnectionScopedReliable =>
      obtain rfl := Option.some.inj he
      cases hd
    | pushConnectionScopedCausalState =>
      obtain rfl := Option.some.inj he
      cases hd
    | pushReadinessIntent =>
      obtain rfl := Option.some.inj he
      cases hd
    | pushConnectionScopedState =>
      obtain rfl := Option.some.inj he
      cases hd
      rfl
    | _ => cases he
  by_cases hop : op = .beginConnectionGeneration
  · -- a new connection starts without any State
    subst hop
    intro e he g cancelled hd
    have hentries : (outboxStep codec outbox .beginConnectionGeneration).entries =
        outbox.entries.filter fun e => e.2.isReliable := beginConnectionGeneration_entries h
    rw [hentries] at he
    have hreliable := (List.mem_filter.mp he).2
    rw [hd] at hreliable
    cases hreliable
  · rw [connectionGeneration_step codec h.paired op hop]
    exact hkept

theorem outboxAfter_ofGeneration (codec : WireCodec) (ops : List OutboxOp) :
    ∀ e ∈ (outboxAfter codec ops).entries,
      OfGeneration (outboxAfter codec ops).connectionGeneration e := by
  have hinv := @invariant_of_step _ _ (outboxStep codec)
    (fun box => box.Sound ∧ ∀ e ∈ box.entries, OfGeneration box.connectionGeneration e)
    (fun box op hbox => ⟨hbox.1.step codec op, ofGeneration_step codec hbox.1 hbox.2 op⟩)
    _ ⟨empty_sound, fun e he => absurd he List.not_mem_nil⟩ ops
  exact hinv.2

/-! ### A sealed queue -/

/-- No State that a push may join is at the back: a State there is in the hands
    of the writer. -/
def SealedFront (leased : Bool) (front : List OutboxEntry) : Prop :=
  ∀ init e, front = init ++ [e] → e.2.isConnectionScopedState = true →
    leased = true ∧ init = []

theorem sealed_of_not_coalescible (h : outbox.Paired)
    (hes : ∀ e ∈ outbox.entries, OfGeneration outbox.connectionGeneration e)
    (hnot : outbox.coalescible = false) :
    SealedFront outbox.leasedFront.isSome outbox.entries := by
  intro init e hsplit hstate
  have hgeneration := hes e (by rw [hsplit]; simp)
  obtain ⟨message, delivery⟩ := e
  cases delivery with
  | connectionScopedState generation cancelled =>
    obtain rfl := hgeneration generation cancelled rfl
    rw [h.eq_withEntries, hsplit] at hnot
    have hlast : (outbox.withEntries (init ++
        [(message, .connectionScopedState outbox.connectionGeneration cancelled)])).delivery =
          init.map Prod.snd ++
            [.connectionScopedState outbox.connectionGeneration cancelled] := by
      simp [withEntries]
    simp only [coalescible, hlast, List.getLast?_concat, List.length_append, List.length_map,
      List.length_singleton, Nat.add_sub_cancel, withEntries_leasedFront] at hnot
    have hboth : (init.length == 0 && outbox.leasedFront.isSome) = true := by
      simpa [withEntries] using hnot
    obtain ⟨hlength, hleased⟩ := Bool.and_eq_true_iff.mp hboth
    exact ⟨hleased, List.eq_nil_of_length_eq_zero (by simpa using hlength)⟩
  | _ => cases hstate

/-- A State joins the unleased State at the back. -/
theorem coalesce_tail (codec : WireCodec) (front : List OutboxEntry)
    (hl : outbox.leasedFront.isSome = true → front ≠ []) (previous message : ProtocolMessage)
    (cancelled : Bool) :
    (outbox.withEntries (front ++
        [(previous, .connectionScopedState outbox.connectionGeneration cancelled)])
      ).coalesceOrAppend codec message =
      outbox.withEntries (front ++
        [(coalesced codec previous message,
          .connectionScopedState outbox.connectionGeneration cancelled)]) := by
  have hnot : (front.length == 0 && outbox.leasedFront.isSome) = false := by
    cases hleased : outbox.leasedFront.isSome with
    | false => exact Bool.and_false _
    | true => simp [hl hleased]
  have hcoalescible : (outbox.withEntries (front ++
      [(previous, .connectionScopedState outbox.connectionGeneration cancelled)])).coalescible =
        true := by
    simp only [coalescible, withEntries, List.map_append, List.map_cons, List.map_nil,
      List.getLast?_concat, List.length_append, List.length_map, List.length_singleton,
      Nat.add_sub_cancel, hnot]
    simp
  rw [coalesceOrAppend, if_pos hcoalescible]
  cases previous <;> cases message <;> simp [withEntries, coalesced]

/-- A State goes to the back of a sealed queue. -/
theorem append_sealed (codec : WireCodec) {front : List OutboxEntry}
    (h : SealedFront outbox.leasedFront.isSome front) (message : ProtocolMessage) :
    (outbox.withEntries front).coalesceOrAppend codec message =
      outbox.withEntries
        (front ++ [(message, .connectionScopedState outbox.connectionGeneration false)]) := by
  have hnot : (outbox.withEntries front).coalescible = false := by
    induction front using List.reverseRecOn with
    | nil => rfl
    | append_singleton init e =>
      obtain ⟨held, delivery⟩ := e
      have hsealed := h init (held, delivery) rfl
      cases delivery with
      | connectionScopedState generation cancelled =>
        obtain ⟨hleased, rfl⟩ := hsealed rfl
        simp [coalescible, withEntries, hleased]
      | _ => simp [coalescible, withEntries]
  rw [coalesceOrAppend, if_neg (by rw [hnot]; exact Bool.false_ne_true),
    insertReliable_withEntries]
  rfl

/-- Stripping participant statuses opens no seal. -/
theorem sealed_stripped {leased : Bool} {front : List OutboxEntry} (h : SealedFront leased front) :
    SealedFront leased (onLeased leased
      (fun e => (e.1, e.2.setParticipantStatusCancelled true)) (List.filterMap stripEntry)
      front) := by
  have hunstripped : ∀ e : OutboxEntry, e.2.isConnectionScopedState = false →
      stripEntry e = some e := by
    intro e he
    rw [stripEntry, he]
    rfl
  induction front using List.reverseRecOn with
  | nil => exact fun init e hsplit => absurd hsplit (by simp [onLeased])
  | append_singleton before last =>
    have hsealed := h before last rfl
    cases hstate : last.2.isConnectionScopedState with
    | true =>
      -- the State at the back is the leased front
      obtain ⟨rfl, rfl⟩ := hsealed hstate
      intro init e hsplit _
      have hlength := congrArg List.length hsplit
      simp only [List.nil_append, onLeased, if_true, List.filterMap_nil, List.length_append,
        List.length_cons, List.length_nil] at hlength
      exact ⟨rfl, List.eq_nil_of_length_eq_zero (by omega)⟩
    | false =>
      cases before with
      | nil =>
        intro init e hsplit hestate
        cases leased with
        | true =>
          have hlength := congrArg List.length hsplit
          simp only [List.nil_append, onLeased, if_true, List.filterMap_nil, List.length_append,
            List.length_cons, List.length_nil] at hlength
          exact ⟨rfl, List.eq_nil_of_length_eq_zero (by omega)⟩
        | false =>
          have hlast : [last] = init ++ [e] := by
            rw [← hsplit]
            simp [onLeased, hunstripped last hstate]
          obtain ⟨-, rfl⟩ := List.append_singleton_inj.mp
            (show [] ++ [last] = init ++ [e] from hlast)
          rw [hstate] at hestate
          cases hestate
      | cons first before =>
        intro init e hsplit hestate
        have hback : ∃ kept, onLeased leased
            (fun e => (e.1, e.2.setParticipantStatusCancelled true)) (List.filterMap stripEntry)
            (first :: before ++ [last]) = kept ++ [last] := by
          cases leased with
          | true =>
            refine ⟨(first.1, first.2.setParticipantStatusCancelled true) ::
              before.filterMap stripEntry, ?_⟩
            simp [onLeased, hunstripped last hstate]
          | false =>
            refine ⟨(first :: before).filterMap stripEntry, ?_⟩
            show (first :: before ++ [last]).filterMap stripEntry = _
            rw [List.filterMap_append, List.filterMap_cons_some (hunstripped last hstate)]
            rfl
        obtain ⟨kept, hkept⟩ := hback
        obtain ⟨-, rfl⟩ := List.append_singleton_inj.mp (hkept.symm.trans hsplit)
        rw [hstate] at hestate
        cases hestate

/-! ### A State that loses its participant status first -/

/-- A State that carries a participant status takes nothing from the one it strips. -/
theorem merge_withoutParticipantStatus (codec : WireCodec) (previous : StatePayload)
    {latest : StatePayload} (h : latest.carriesParticipantStatus = true) :
    mergePendingStateObligations codec previous.withoutParticipantStatus latest =
      mergePendingStateObligations codec previous latest := by
  have hother : sorottePlaybackBarrierV1 ≠ sorotteParticipantStatusV1 := by decide
  have hbarrier : mergePlaybackBarrierObservations codec previous.withoutParticipantStatus
      (completed codec previous latest) =
        mergePlaybackBarrierObservations codec previous (completed codec previous latest) := by
    have hsame : previous.withoutParticipantStatus.playbackBarrierV1 codec =
        previous.playbackBarrierV1 codec := by
      unfold StatePayload.playbackBarrierV1 StatePayload.withoutParticipantStatus
      dsimp only
      rw [getElem?_erase_if, if_neg hother]
    unfold mergePlaybackBarrierObservations
    rw [hsame]
  have hextra : ∀ extra : Extra, extra.contains sorotteParticipantStatusV1 = true →
      mergeMissingEntries previous.withoutParticipantStatus.extra extra =
        mergeMissingEntries previous.extra extra := by
    intro extra hcontains
    refine Std.ExtTreeMap.ext_getElem? fun key => ?_
    rw [getElem?_mergeMissingEntries, getElem?_mergeMissingEntries]
    show extra[key]?.or (previous.extra.erase sorotteParticipantStatusV1)[key]? = _
    rw [getElem?_erase_if]
    split
    · next hkey =>
      rw [hkey]
      have hsome : (extra[sorotteParticipantStatusV1]?).isSome = true := by
        rw [← Std.ExtTreeMap.contains_eq_isSome_getElem?]
        exact hcontains
      obtain ⟨value, hvalue⟩ := Option.isSome_iff_exists.mp hsome
      rw [hvalue]
      rfl
    · rfl
  have hcarries : (mergePlaybackBarrierObservations codec previous
      (completed codec previous latest)).extra.contains sorotteParticipantStatusV1 = true := by
    have hkept := barrierMerge_carries codec previous (completed codec previous latest)
    exact hkept.trans h
  have hcompleted : completed codec previous.withoutParticipantStatus latest =
      completed codec previous latest := rfl
  rw [merge_eq, merge_eq, hcompleted, hbarrier, hextra _ hcarries]

theorem merge_default (codec : WireCodec) {previous latest : StatePayload}
    (h : previous.isDefault = true) :
    mergePendingStateObligations codec previous latest = latest := by
  simp only [StatePayload.isDefault, Bool.and_eq_true, Option.isNone_iff_eq_none,
    Std.ExtTreeMap.isEmpty_iff] at h
  obtain ⟨⟨⟨hplay, hping⟩, hignoring⟩, hextra⟩ := h
  have hbarrier : previous.playbackBarrierV1 codec = none := by
    unfold StatePayload.playbackBarrierV1
    rw [hextra]
    rfl
  have hcompleted : completed codec previous latest = latest := by
    unfold completed
    rw [hplay, hping, hignoring]
    rfl
  have hmerged : mergePlaybackBarrierObservations codec previous latest = latest := by
    unfold mergePlaybackBarrierObservations
    rw [hbarrier]
  have hmissing : mergeMissingEntries previous.extra latest.extra = latest.extra := by
    refine Std.ExtTreeMap.ext_getElem? fun key => ?_
    rw [getElem?_mergeMissingEntries, hextra]
    simp
  rw [merge_eq, hcompleted, hmerged, hmissing]

/-! ### Pushes -/

/-- States pushed one after the other. -/
def pushStates (codec : WireCodec) (outbox : ProtocolOutbox) (states : List StatePayload) :
    ProtocolOutbox :=
  runFrom (outboxStep codec) outbox
    (states.map fun state => .pushConnectionScopedState (.state state))

/-- The queue behind a push that strips participant statuses. -/
def strippedFor (state : StatePayload) (leased : Bool) (front : List OutboxEntry) :
    List OutboxEntry :=
  if state.carriesParticipantStatus then
    onLeased leased (fun e => (e.1, e.2.setParticipantStatusCancelled true))
      (List.filterMap stripEntry) front
  else front

theorem strippedFor_sealed {leased : Bool} {front : List OutboxEntry} (state : StatePayload)
    (h : SealedFront leased front) : SealedFront leased (strippedFor state leased front) := by
  unfold strippedFor
  split
  · exact sealed_stripped h
  · exact h

theorem strippedFor_ne_nil {leased : Bool} {front : List OutboxEntry} (state : StatePayload)
    (h : leased = true → front ≠ []) : leased = true → strippedFor state leased front ≠ [] := by
  intro hl
  unfold strippedFor
  split
  · cases front with
    | nil => exact absurd rfl (h hl)
    | cons e front => simp [onLeased, hl]
  · exact h hl

theorem strippedFor_length (state : StatePayload) (leased : Bool) (front : List OutboxEntry) :
    (strippedFor state leased front).length ≤ front.length := by
  unfold strippedFor
  split
  · cases front with
    | nil => exact le_refl 0
    | cons e front =>
      cases leased with
      | true =>
        simp only [onLeased, if_true, List.length_cons]
        exact Nat.succ_le_succ (List.length_filterMap_le _ _)
      | false => exact List.length_filterMap_le _ _
  · exact le_refl _

theorem push_run (codec : WireCodec) (hactive : outbox.isActive = true)
    (front : List OutboxEntry) (state : StatePayload) :
    outboxStep codec (outbox.withEntries front) (.pushConnectionScopedState (.state state)) =
      (outbox.withEntries (strippedFor state outbox.leasedFront.isSome front)).coalesceOrAppend
        codec (.state state) := by
  have hrunning : (outbox.withEntries front).isActive = true := hactive
  show ((outbox.withEntries front).pushConnectionScopedState codec (.state state)).2 = _
  unfold pushConnectionScopedState
  rw [hrunning]
  simp only [Bool.not_true, Bool.false_eq_true, if_false]
  unfold strippedFor
  split
  · next hcarries =>
    have hstate : state.carriesParticipantStatus = true := hcarries
    rw [if_pos hstate, cancelPendingParticipantStatusReports_withEntries]
  · next hcarries =>
    have hstate : ¬ state.carriesParticipantStatus = true := hcarries
    rw [if_neg hstate]

/-- A State pushed behind a sealed queue goes to the back. -/
theorem push_sealed (codec : WireCodec) (hactive : outbox.isActive = true)
    {front : List OutboxEntry} (h : SealedFront outbox.leasedFront.isSome front)
    (state : StatePayload) :
    outboxStep codec (outbox.withEntries front) (.pushConnectionScopedState (.state state)) =
      outbox.withEntries (strippedFor state outbox.leasedFront.isSome front ++
        [(.state state, .connectionScopedState outbox.connectionGeneration false)]) := by
  rw [push_run codec hactive]
  exact append_sealed codec (strippedFor_sealed state h) _

/-- A State pushed behind a State of its own joins it. -/
theorem push_tail (codec : WireCodec) (hactive : outbox.isActive = true)
    {front : List OutboxEntry} (h : SealedFront outbox.leasedFront.isSome front)
    (hl : outbox.leasedFront.isSome = true → front ≠ []) (previous state : StatePayload) :
    outboxStep codec (outbox.withEntries (front ++
        [(.state previous, .connectionScopedState outbox.connectionGeneration false)]))
        (.pushConnectionScopedState (.state state)) =
      outbox.withEntries (strippedFor state outbox.leasedFront.isSome front ++
        [(.state (mergePendingStateObligations codec previous state),
          .connectionScopedState outbox.connectionGeneration false)]) := by
  rw [push_run codec hactive]
  cases hcarries : state.carriesParticipantStatus with
  | false =>
    have hkept : ∀ es, strippedFor state outbox.leasedFront.isSome es = es := by
      intro es
      rw [strippedFor, hcarries]
      rfl
    rw [hkept, hkept]
    exact coalesce_tail codec front hl _ _ false
  | true =>
    -- the pending status goes first, and with it perhaps the whole entry
    have hsplit : strippedFor state outbox.leasedFront.isSome (front ++
        [(.state previous, .connectionScopedState outbox.connectionGeneration false)]) =
          strippedFor state outbox.leasedFront.isSome front ++
            (stripEntry (.state previous,
              .connectionScopedState outbox.connectionGeneration false)).toList := by
      rw [strippedFor, strippedFor, if_pos hcarries, if_pos hcarries]
      cases front with
      | nil =>
        cases hleased : outbox.leasedFront.isSome with
        | true => exact absurd rfl (hl hleased)
        | false =>
          show List.filterMap stripEntry [_] = _
          cases hs : stripEntry (.state previous,
            .connectionScopedState outbox.connectionGeneration false) with
          | none => simp [hs, onLeased]
          | some e => simp [hs, onLeased]
      | cons e front =>
        have happend : ∀ (es : List OutboxEntry) (last : OutboxEntry),
            (es ++ [last]).filterMap stripEntry =
              es.filterMap stripEntry ++ (stripEntry last).toList := by
          intro es last
          rw [List.filterMap_append]
          cases hs : stripEntry last with
          | none => simp [hs]
          | some e => simp [hs]
        cases outbox.leasedFront.isSome with
        | true => exact congrArg (_ :: ·) (happend front _)
        | false => exact happend (e :: front) _
    rw [hsplit]
    have hsealed := strippedFor_sealed state h
    have hne := strippedFor_ne_nil state hl
    have hmerge := merge_withoutParticipantStatus codec previous hcarries
    cases hdefault : previous.withoutParticipantStatus.isDefault with
    | true =>
      have hstrip : stripEntry (.state previous,
          .connectionScopedState outbox.connectionGeneration false) = none := by
        simp [stripEntry, ProtocolDelivery.isConnectionScopedState, hdefault]
      rw [merge_default codec hdefault] at hmerge
      rw [hstrip, Option.toList_none, List.append_nil, ← hmerge]
      exact append_sealed codec hsealed _
    | false =>
      have hstrip : stripEntry (.state previous,
          .connectionScopedState outbox.connectionGeneration false) =
            some (.state previous.withoutParticipantStatus,
              .connectionScopedState outbox.connectionGeneration false) := by
        simp [stripEntry, ProtocolDelivery.isConnectionScopedState,
          ProtocolDelivery.setParticipantStatusCancelled, hdefault]
      rw [hstrip, Option.toList_some, coalesce_tail codec _ hne, ← hmerge]
      rfl

/-- The tail after pushes behind a sealed queue stands for what was pushed. -/
theorem pushes_run (hc : c.Lawful) (hactive : outbox.isActive = true)
    {front : List OutboxEntry} (h : SealedFront outbox.leasedFront.isSome front)
    (hl : outbox.leasedFront.isSome = true → front ≠ []) (first : StatePayload)
    (rest : List StatePayload) (hdecodes : ∀ state ∈ first :: rest, state.Decodes c) :
    ∃ front' r, pushStates c.wire (outbox.withEntries front) (first :: rest) =
        outbox.withEntries (front' ++
          [(.state r, .connectionScopedState outbox.connectionGeneration false)])
      ∧ front'.length ≤ front.length ∧ SealedFront outbox.leasedFront.isSome front'
      ∧ (outbox.leasedFront.isSome = true → front' ≠ [])
      ∧ CoalescedFold c (first :: rest) r := by
  induction rest using List.reverseRecOn with
  | nil =>
    refine ⟨strippedFor first outbox.leasedFront.isSome front, first, ?_,
      strippedFor_length _ _ _, strippedFor_sealed first h, strippedFor_ne_nil first hl,
      .singleton (hdecodes first (by simp))⟩
    exact push_sealed c.wire hactive h first
  | append_singleton rest state ih =>
    obtain ⟨front', r, hrun, hlength, hsealed, hne, hfold⟩ :=
      ih fun s hs => hdecodes s (by
        rcases List.mem_cons.mp hs with rfl | hmem
        · simp
        · simp [hmem])
    refine ⟨strippedFor state outbox.leasedFront.isSome front',
      mergePendingStateObligations c.wire r state, ?_,
      le_trans (strippedFor_length _ _ _) hlength, strippedFor_sealed state hsealed,
      strippedFor_ne_nil state hne, ?_⟩
    · unfold pushStates at hrun ⊢
      rw [← List.cons_append, List.map_append, runFrom_append, hrun]
      exact push_tail c.wire hactive hsealed hne r state
    · exact coalescedFold_push hc hfold (hdecodes state (by simp))

/-- **Coalescing drops no obligation.**  States pushed behind a queue with no
    State to join leave one State at the tail, and it is the fold of what was
    pushed.  Merging the sequence in any other grouping comes to the same fold
    as long as no transport revision comes back after another one. -/
theorem coalescing_drops_no_obligation (hc : c.Lawful) (ops : List OutboxOp)
    (hactive : (outboxAfter c.wire ops).isActive = true)
    (hsealed : (outboxAfter c.wire ops).coalescible = false)
    (first : StatePayload) (rest : List StatePayload)
    (hdecodes : ∀ state ∈ first :: rest, state.Decodes c) :
    (∃ front r, (pushStates c.wire (outboxAfter c.wire ops) (first :: rest)).entries =
        front ++ [(.state r,
          .connectionScopedState (outboxAfter c.wire ops).connectionGeneration false)]
      ∧ front.length ≤ (outboxAfter c.wire ops).entries.length
      ∧ CoalescedFold c (first :: rest) r)
    ∧ (RevisionsStay c (first :: rest) → ∀ r, Coalesces c.wire (first :: rest) r →
      CoalescedFold c (first :: rest) r) := by
  have hsound := outboxAfter_sound c.wire ops
  have hfront := sealed_of_not_coalescible hsound.paired
    (outboxAfter_ofGeneration c.wire ops) hsealed
  obtain ⟨front, r, hrun, hlength, -, -, hfold⟩ :=
    pushes_run hc hactive hfront hsound.tidy.front first rest hdecodes
  constructor
  · rw [← hsound.paired.eq_withEntries] at hrun
    exact ⟨front, r, by rw [hrun, withEntries_entries], hlength, hfold⟩
  · exact fun hstays r hr => coalesces_fold hc hr hdecodes hstays

/-! ### Two seeks -/

/-- A decoder that takes every object as it is. -/
def plainObject : Json → Option Json
  | .object fields => some (.object fields)
  | _ => none

theorem plainObject_stable : SerdeCodecs.Stable plainObject := by
  intro value encoded h
  cases value with
  | object fields =>
    cases h
    exact ⟨rfl, nofun⟩
  | _ => cases h

/-- Decoders that take every object as it is and a natural number as itself. -/
def plainCodecs : SerdeCodecs where
  ready := plainObject
  started := plainObject
  transport := plainObject
  transportRevision
    | .number value => some value.num.toNat
    | _ => none

theorem plainCodecs_lawful : plainCodecs.Lawful :=
  ⟨plainObject_stable, plainObject_stable, plainObject_stable⟩

/-- A State with a playstate of the given transport revision. -/
def seekUnder (revision : Nat) (doSeek : Bool) : StatePayload :=
  { StatePayload.new with
    playstate := some
      { position := none
        paused := none
        doSeek := some doSeek
        setBy := none
        extra := (∅ : Extra).insert sorotteTransportRevision (.number revision) } }

/-- A State with a barrier extension. -/
def extendedBy (extension : Json) : StatePayload :=
  { StatePayload.new with extra := (∅ : Extra).insert sorottePlaybackBarrierV1 extension }

theorem decodes_seekUnder (revision : Nat) (doSeek : Bool) :
    (seekUnder revision doSeek).Decodes plainCodecs where
  revision playstate h := by
    cases h
    simp [revisionOf, PlaystatePayload.transportRevision, plainCodecs, SerdeCodecs.wire]
  barrier value h := by
    simp [seekUnder, StatePayload.new] at h

theorem coalescing_drops_no_obligation_seek :
    ∃ front r, (pushStates plainCodecs.wire
          (outboxAfter plainCodecs.wire [.activateConnectionGeneration])
          [seekUnder 7 true, seekUnder 7 false]).entries =
        front ++ [(.state r, .connectionScopedState 0 false)]
      ∧ r.playstate.bind (·.doSeek) = some true := by
  obtain ⟨⟨front, r, hrun, -, hfold⟩, -⟩ := coalescing_drops_no_obligation plainCodecs_lawful
    [.activateConnectionGeneration] rfl rfl (seekUnder 7 true) [seekUnder 7 false]
    (fun state hmem => by
      rcases List.mem_cons.mp hmem with rfl | hrest
      · exact decodes_seekUnder 7 true
      · rw [List.mem_singleton.mp hrest]
        exact decodes_seekUnder 7 false)
  refine ⟨front, r, hrun, hfold.playstate.seek.mpr ?_⟩
  have hruns : (finalRun (revisionOf plainCodecs)
      ([seekUnder 7 true, seekUnder 7 false].filterMap (·.playstate))).map (·.doSeek) =
        [some true, some false] := by decide +kernel
  have hmem : some true ∈ (finalRun (revisionOf plainCodecs)
      ([seekUnder 7 true, seekUnder 7 false].filterMap (·.playstate))).map (·.doSeek) := by
    rw [hruns]
    simp
  exact List.mem_map.mp hmem

/-- Two cuts of one sequence differ: merged as one, the last two States carry
    the seek of the first into a revision that another one has replaced.  And an
    extension that decodes from an array hides the one before it. -/
theorem coalescing_depends_on_cut :
    (Coalesces plainCodecs.wire [seekUnder 1 true, seekUnder 2 false, seekUnder 1 false]
        (mergePendingStateObligations plainCodecs.wire (seekUnder 1 true)
          (mergePendingStateObligations plainCodecs.wire (seekUnder 2 false)
            (seekUnder 1 false)))
      ∧ ¬ CoalescedFold plainCodecs [seekUnder 1 true, seekUnder 2 false, seekUnder 1 false]
        (mergePendingStateObligations plainCodecs.wire (seekUnder 1 true)
          (mergePendingStateObligations plainCodecs.wire (seekUnder 2 false)
            (seekUnder 1 false))))
    ∧ (plainCodecs.playbackBarrier (.array [])).isSome = true
      ∧ ∃ r, (pushStates plainCodecs.wire
            (outboxAfter plainCodecs.wire [.activateConnectionGeneration])
            [extendedBy (.object [("ready", .object [])]), extendedBy (.array [])]).entries =
          [(.state r, .connectionScopedState 0 false)]
        ∧ ¬ LastOf (barrierField plainCodecs (·.ready))
          [extendedBy (.object [("ready", .object [])]), extendedBy (.array [])] r := by
  refine ⟨⟨?_, ?_⟩, by decide +kernel, _, rfl, ?_⟩
  · exact @Coalesces.merge _ [_] _ _ _ (.one _) (@Coalesces.merge _ [_] _ _ _ (.one _) (.one _))
  · intro h
    have hseek : (mergePendingStateObligations plainCodecs.wire (seekUnder 1 true)
        (mergePendingStateObligations plainCodecs.wire (seekUnder 2 false)
          (seekUnder 1 false))).playstate.bind (·.doSeek) = some true := by decide +kernel
    obtain ⟨play, hplay, hheld⟩ := h.playstate.seek.mp hseek
    have hruns : (finalRun (revisionOf plainCodecs)
        ([seekUnder 1 true, seekUnder 2 false, seekUnder 1 false].filterMap (·.playstate))).map
          (·.doSeek) = [some false] := by decide +kernel
    have hmem := List.mem_map_of_mem (f := (·.doSeek)) hplay
    rw [hruns, hheld] at hmem
    cases List.mem_singleton.mp hmem
  · intro h
    have hlost : (barrierField plainCodecs (·.ready)
        (mergePendingStateObligations plainCodecs.wire
          (extendedBy (.object [("ready", .object [])])) (extendedBy (.array [])))).isNone =
            true := by decide +kernel
    have hheld : (latest ([extendedBy (.object [("ready", .object [])]),
        extendedBy (.array [])].map (barrierField plainCodecs (·.ready)))).isNone = false := by
      decide +kernel
    rw [← h] at hheld
    rw [Option.isNone_iff_eq_none] at hlost
    exact absurd hheld (by
      show ¬ (barrierField plainCodecs (·.ready) (mergePendingStateObligations plainCodecs.wire
        (extendedBy (.object [("ready", .object [])])) (extendedBy (.array [])))).isNone = false
      rw [hlost]
      decide)

end Sorotte.Client
