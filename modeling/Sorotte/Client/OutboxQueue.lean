import Sorotte.Client.Outbox

/-! # The outbox as one queue of entries

  The outbox keeps a message and its delivery in two parallel queues.  Paired
  up, they are one queue of entries, and each operation is a plain edit of that
  queue: an append at the back, a removal at the front, or an edit that touches
  the leased front and the entries behind it in different ways (`onLeased`).
-/

namespace Sorotte.Client

abbrev OutboxEntry := ProtocolMessage × ProtocolDelivery

/-- An edit that treats a leased front and the entries behind it apart. -/
def onLeased (leased : Bool) (front : OutboxEntry → OutboxEntry)
    (rest : List OutboxEntry → List OutboxEntry) : List OutboxEntry → List OutboxEntry
  | [] => []
  | entry :: entries =>
    if leased then front entry :: rest entries else rest (entry :: entries)

/-- What cancelling its participant status leaves of an unleased entry. -/
def stripEntry (entry : OutboxEntry) : Option OutboxEntry :=
  if entry.2.isConnectionScopedState then
    match entry.1 with
    | .state payload =>
      if payload.withoutParticipantStatus.isDefault then none
      else some (.state payload.withoutParticipantStatus,
        entry.2.setParticipantStatusCancelled false)
    | message => some (message, entry.2.setParticipantStatusCancelled false)
  else some entry

/-- The message that a newer State turns a coalescible tail into. -/
def coalesced (codec : WireCodec) (previous latest : ProtocolMessage) : ProtocolMessage :=
  match previous, latest with
  | .state previous, .state latest => .state (mergePendingStateObligations codec previous latest)
  | _, latest => latest

/-- What releasing its lease leaves of a front. -/
def releasedEntry (entry : OutboxEntry) : Option OutboxEntry :=
  if entry.2.discardCancelled then none
  else if entry.2.participantStatusIsCancelled then stripEntry entry
  else some entry

namespace ProtocolOutbox

/-- The queue of entries. -/
def entries (outbox : ProtocolOutbox) : List OutboxEntry :=
  outbox.pending.zip outbox.delivery

/-- The two queues have equal length. -/
def Paired (outbox : ProtocolOutbox) : Prop :=
  outbox.pending.length = outbox.delivery.length

/-- The outbox with its two queues read off a queue of entries. -/
def withEntries (outbox : ProtocolOutbox) (es : List OutboxEntry) : ProtocolOutbox :=
  { outbox with pending := es.map Prod.fst, delivery := es.map Prod.snd }

/-- The entries that no writer holds. -/
def unleased (outbox : ProtocolOutbox) : List OutboxEntry :=
  if outbox.leasedFront.isSome then outbox.entries.tail else outbox.entries

variable (outbox : ProtocolOutbox) (es : List OutboxEntry)

/-! ### Paired queues and their entries -/

theorem withEntries_paired : (outbox.withEntries es).Paired := by
  simp [Paired, withEntries]

@[simp] theorem withEntries_entries : (outbox.withEntries es).entries = es := by
  show (es.map Prod.fst).zip (es.map Prod.snd) = es
  induction es with
  | nil => rfl
  | cons e es ih => rw [List.map_cons, List.map_cons, List.zip_cons_cons, ih]

variable {outbox} in
theorem Paired.eq_withEntries (h : outbox.Paired) : outbox = outbox.withEntries outbox.entries := by
  have hp : outbox.entries.map Prod.fst = outbox.pending := List.map_fst_zip (Nat.le_of_eq h)
  have hd : outbox.entries.map Prod.snd = outbox.delivery := List.map_snd_zip (Nat.le_of_eq h.symm)
  rw [withEntries, hp, hd]

@[simp] theorem withEntries_leasedFront :
    (outbox.withEntries es).leasedFront = outbox.leasedFront := rfl

@[simp] theorem withEntries_pending_head :
    (outbox.withEntries es).pending.head? = es.head?.map Prod.fst := List.head?_map

@[simp] theorem withEntries_delivery_head :
    (outbox.withEntries es).delivery.head? = es.head?.map Prod.snd := List.head?_map

/-! ### Appending -/

theorem insertReliable_withEntries (message : ProtocolMessage) (delivery : ProtocolDelivery) :
    (outbox.withEntries es).insertReliable message delivery =
      outbox.withEntries (es ++ [(message, delivery)]) := by
  simp [insertReliable, withEntries]

/-! ### Retaining and invalidating -/

theorem retainLoop_eq_filter (preserveFront : Bool) (keep : ProtocolDelivery → Bool)
    (es : List OutboxEntry) (index : Nat) (hindex : (preserveFront && index == 0) = false) :
    retainLoop preserveFront keep index (es.map Prod.fst) (es.map Prod.snd) =
      ((es.filter fun e => keep e.2).map Prod.fst, (es.filter fun e => keep e.2).map Prod.snd) := by
  induction es generalizing index with
  | nil => rfl
  | cons e es ih =>
    have hrest := ih (index + 1) (by simp)
    simp only [List.map_cons, retainLoop, hindex, Bool.false_or, hrest]
    by_cases hk : keep e.2
    · simp [hk]
    · simp [hk]

theorem retainDeliveries_withEntries (preserve : Bool) (keep : ProtocolDelivery → Bool) :
    (outbox.withEntries es).retainDeliveries preserve keep =
      outbox.withEntries (onLeased (preserve && outbox.leasedFront.isSome) id
        (List.filter fun e => keep e.2) es) := by
  cases hl : preserve && outbox.leasedFront.isSome with
  | false =>
    have hloop := retainLoop_eq_filter false keep es 0 rfl
    cases es with
    | nil => simp [retainDeliveries, withEntries, retainLoop, onLeased]
    | cons e es => simp only [retainDeliveries, withEntries, hl, hloop, onLeased]; rfl
  | true =>
    cases es with
    | nil => simp [retainDeliveries, withEntries, retainLoop, onLeased]
    | cons e es =>
      -- The front is kept whatever `keep` says of it.
      have hloop := retainLoop_eq_filter true keep es 1 rfl
      simp [retainDeliveries, withEntries, hl, retainLoop, hloop, onLeased]

/-- The leased front is marked, every other matching entry is dropped. -/
theorem invalidate_withEntries (mark : ProtocolDelivery → ProtocolDelivery)
    (shouldCancel : ProtocolDelivery → Bool) :
    (outbox.withEntries es).invalidate mark shouldCancel =
      outbox.withEntries (onLeased outbox.leasedFront.isSome
        (fun e => if shouldCancel e.2 then (e.1, mark e.2) else e)
        (List.filter fun e => !shouldCancel e.2) es) := by
  cases es with
  | nil => simp [invalidate, withEntries, retainDeliveries, retainLoop, onLeased]
  | cons e es =>
    have hmark : { outbox.withEntries (e :: es) with
        delivery := (outbox.withEntries (e :: es)).delivery.modifyHead mark } =
          outbox.withEntries ((e.1, mark e.2) :: es) := by simp [withEntries]
    rw [invalidate, withEntries_delivery_head, hmark]
    cases hl : outbox.leasedFront.isSome with
    | false => simp [hl, retainDeliveries_withEntries, onLeased]
    | true =>
      by_cases hc : shouldCancel e.2
      · simp [hl, hc, retainDeliveries_withEntries, onLeased]
      · simp [hl, hc, retainDeliveries_withEntries, onLeased]

/-! ### Stripping participant statuses -/

theorem stripParticipantStatusAt_split (before after : List OutboxEntry) (e : OutboxEntry)
    (hstate : e.2.isConnectionScopedState) :
    (outbox.withEntries (before ++ e :: after)).stripParticipantStatusAt before.length =
      outbox.withEntries (before ++ (stripEntry e).toList ++ after) := by
  obtain ⟨message, delivery⟩ := e
  have hmodify : (List.map Prod.snd before ++ delivery :: List.map Prod.snd after).modify
      before.length (ProtocolDelivery.setParticipantStatusCancelled false) =
        List.map Prod.snd before ++ delivery.setParticipantStatusCancelled false ::
          List.map Prod.snd after := by
    induction before with
    | nil => rfl
    | cons b before ih => simp [ih]
  cases message with
  | state payload =>
    by_cases hdefault : payload.withoutParticipantStatus.isDefault
    · simp [stripParticipantStatusAt, withEntries, stripEntry, hstate, hdefault,
        List.eraseIdx_append_of_length_le]
    · simp [stripParticipantStatusAt, withEntries, stripEntry, hstate, hdefault, hmodify]
  | _ => simp [stripParticipantStatusAt, withEntries, stripEntry, hstate, hmodify]

theorem cancelParticipantStatusAt_split (leased : Bool) (before after : List OutboxEntry)
    (e : OutboxEntry) (hfront : (leased && before.length == 0) = false) :
    cancelParticipantStatusAt leased (outbox.withEntries (before ++ e :: after)) before.length =
      outbox.withEntries (before ++ (stripEntry e).toList ++ after) := by
  have hdelivery : (outbox.withEntries (before ++ e :: after)).delivery[before.length]? =
      some e.2 := by simp [withEntries]
  by_cases hstate : e.2.isConnectionScopedState
  · rw [cancelParticipantStatusAt, hfront, hdelivery]
    simp only [Bool.false_eq_true, if_false, Option.any_some, hstate, if_true]
    exact stripParticipantStatusAt_split outbox before after e hstate
  · rw [cancelParticipantStatusAt, hfront, hdelivery]
    simp [hstate, stripEntry]

/-- The loop runs from the back, so the entries it has passed are stripped and
    the indices before it still name the original entries. -/
theorem cancel_loop (leased : Bool) (front before after : List OutboxEntry)
    (hfront : leased = true → front ≠ []) :
    ((List.range before.length).reverse.map (front.length + ·)).foldl
        (cancelParticipantStatusAt leased) (outbox.withEntries (front ++ before ++ after)) =
      outbox.withEntries (front ++ before.filterMap stripEntry ++ after) := by
  induction before using List.reverseRecOn generalizing after with
  | nil => simp
  | append_singleton before e ih =>
    have hkeep : (leased && (front ++ before).length == 0) = false := by
      cases leased with
      | false => rfl
      | true =>
        have hne : front ≠ [] := hfront rfl
        simp [hne]
    have hone := cancelParticipantStatusAt_split outbox leased (front ++ before) after e
      hkeep
    have hrest := ih ((stripEntry e).toList ++ after)
    rw [List.length_append] at hone
    simp only [List.length_append, List.length_singleton, List.range_succ, List.reverse_append,
      List.reverse_singleton, List.singleton_append, List.map_cons, List.foldl_cons]
    rw [List.append_assoc front, List.append_assoc before, List.singleton_append,
      ← List.append_assoc front, hone, List.append_assoc (front ++ before), hrest]
    cases hs : stripEntry e <;> simp [hs, List.append_assoc]

theorem cancelPendingParticipantStatusReports_withEntries :
    (outbox.withEntries es).cancelPendingParticipantStatusReports =
      outbox.withEntries (onLeased outbox.leasedFront.isSome
        (fun e => (e.1, e.2.setParticipantStatusCancelled true)) (List.filterMap stripEntry) es) := by
  cases hl : outbox.leasedFront.isSome with
  | false =>
    have hloop := cancel_loop outbox false [] es [] (by simp)
    simp only [List.nil_append, List.append_nil, List.length_nil, Nat.zero_add, List.map_id'] at hloop
    have hedit : onLeased false (fun e => (e.1, e.2.setParticipantStatusCancelled true))
        (List.filterMap stripEntry) es = es.filterMap stripEntry := by cases es <;> rfl
    rw [hedit, ← hloop]
    simp [cancelPendingParticipantStatusReports, hl, withEntries]
  | true =>
    cases es with
    | nil => simp [cancelPendingParticipantStatusReports, withEntries, onLeased]
    | cons e es =>
      have hloop := cancel_loop outbox true
        [(e.1, e.2.setParticipantStatusCancelled true)] es [] (by simp)
      simp only [List.append_nil, List.singleton_append, List.length_singleton] at hloop
      have hindices : (List.range (outbox.withEntries (e :: es)).pending.length).reverse =
          (List.range es.length).reverse.map (1 + ·) ++ [0] := by
        simp [withEntries, List.range_succ_eq_map, Nat.add_comm]
      rw [cancelPendingParticipantStatusReports, hindices, List.foldl_append,
        withEntries_leasedFront, hl, if_pos rfl]
      show List.foldl _ (List.foldl _ (outbox.withEntries
        ((e.1, e.2.setParticipantStatusCancelled true) :: es)) _) _ = _
      rw [hloop]
      simp [cancelParticipantStatusAt, onLeased]

/-! ### Coalescing -/

/-- A newer State either joins an unleased tail State or goes to the back. -/
theorem coalesceOrAppend_withEntries (codec : WireCodec) (message : ProtocolMessage) :
    (∃ init previous generation cancelled,
      es = init ++ [(previous, .connectionScopedState generation cancelled)] ∧
      (outbox.leasedFront.isSome → init ≠ []) ∧
      (outbox.withEntries es).coalesceOrAppend codec message =
        outbox.withEntries (init ++
          [(coalesced codec previous message, .connectionScopedState generation cancelled)])) ∨
    (outbox.withEntries es).coalesceOrAppend codec message =
      outbox.withEntries
        (es ++ [(message, .connectionScopedState outbox.connectionGeneration false)]) := by
  by_cases hc : (outbox.withEntries es).coalescible
  · left
    induction es using List.reverseRecOn with
    | nil => simp [coalescible, withEntries] at hc
    | append_singleton init e =>
      obtain ⟨previous, delivery⟩ := e
      have hcoalescible := hc
      cases delivery with
      | connectionScopedState generation cancelled =>
        simp only [coalescible, withEntries, List.map_append, List.map_cons, List.map_nil,
          List.getLast?_concat, List.length_append, List.length_map, List.length_singleton,
          Nat.add_sub_cancel, Bool.and_eq_true, Bool.not_eq_true'] at hc
        refine ⟨init, previous, generation, cancelled, rfl, ?_, ?_⟩
        · intro hl hinit
          simp [hl, hinit] at hc
        · rw [coalesceOrAppend, if_pos hcoalescible]
          cases previous <;> cases message <;>
            simp [withEntries, coalesced]
      | _ => simp [coalescible, withEntries] at hc
  · right
    rw [coalesceOrAppend, if_neg hc, insertReliable_withEntries]
    rfl

/-! ### Staging, acknowledging and releasing the front -/

variable {outbox}

theorem frontForDelivery_leased {lease : ProtocolLineLease}
    (hl : outbox.leasedFront = some lease) : outbox.frontForDeliveryWithStatus.2 = outbox := by
  unfold frontForDeliveryWithStatus
  rw [hl]
  split <;> rfl

theorem frontForDelivery_unleased (hl : outbox.leasedFront = none) (message : ProtocolMessage)
    (hm : outbox.pending.head? = some message) :
    outbox.frontForDeliveryWithStatus =
      (some (leaseAfter outbox.nextLease, message, true),
        { outbox with
          nextLease := leaseAfter outbox.nextLease
          leasedFront := some (leaseAfter outbox.nextLease) }) := by
  simp only [frontForDeliveryWithStatus, hm, hl]

theorem acknowledgeFront_stale {lease : ProtocolLineLease}
    (hl : outbox.leasedFront ≠ some lease) : outbox.acknowledgeFront lease = (none, outbox) := by
  rw [acknowledgeFront, if_pos hl]

theorem acknowledgeFront_withEntries {lease : ProtocolLineLease}
    (hl : outbox.leasedFront = some lease) (e : OutboxEntry) :
    (outbox.withEntries (e :: es)).acknowledgeFront lease =
      (some e.1, { outbox with leasedFront := none }.withEntries es) := by
  rw [acknowledgeFront, if_neg (by simp [hl])]
  rfl

theorem releaseFront_stale {lease : ProtocolLineLease}
    (hl : outbox.leasedFront ≠ some lease) : outbox.releaseFront lease = (false, outbox) := by
  rw [releaseFront, if_pos hl]

theorem releaseFront_withEntries {lease : ProtocolLineLease}
    (hl : outbox.leasedFront = some lease) (e : OutboxEntry) :
    (outbox.withEntries (e :: es)).releaseFront lease =
      (true, { outbox with leasedFront := none }.withEntries ((releasedEntry e).toList ++ es)) := by
  rw [releaseFront, if_neg (by simp [hl])]
  simp only [withEntries_delivery_head, List.head?_cons, Option.map_some, Option.any_some]
  by_cases hd : e.2.discardCancelled
  · simp [hd, releasedEntry, withEntries]
  · by_cases hs : e.2.participantStatusIsCancelled
    · have hstate : e.2.isConnectionScopedState := by
        cases hk : e.2 <;> simp_all [ProtocolDelivery.participantStatusIsCancelled,
          ProtocolDelivery.isConnectionScopedState]
      have hstrip := stripParticipantStatusAt_split
        { outbox with leasedFront := none } [] es e hstate
      simp only [hd, hs, Bool.false_eq_true, if_false, if_true, releasedEntry]
      exact congrArg (Prod.mk true) hstrip
    · simp [hd, hs, releasedEntry, withEntries]

variable (outbox) in
theorem beginConnectionGeneration_withEntries :
    (outbox.withEntries es).beginConnectionGeneration =
      { outbox with
        connectionGeneration := wrappingSucc outbox.connectionGeneration
        activeGeneration := none
        leasedFront := none }.withEntries (es.filter fun e => e.2.isReliable) := by
  have hretain := retainDeliveries_withEntries
    { outbox with
      connectionGeneration := wrappingSucc outbox.connectionGeneration
      activeGeneration := none
      leasedFront := none } es false ProtocolDelivery.isReliable
  have hedit : onLeased false id (List.filter fun e => e.2.isReliable) es =
      es.filter fun e => e.2.isReliable := by cases es <;> rfl
  rw [Bool.false_and, hedit] at hretain
  exact hretain

end ProtocolOutbox

end Sorotte.Client
