import Sorotte.Client.OutboxInvariant

/-! # Steps of the outbox

  One lemma (`step_change`) says what an operation can do to the queue, to the
  outstanding lease and to the lease counter.  Everything about runs of the
  outbox follows from it.
-/

namespace Sorotte.Client

/-! ### What an operation can do -/

/-- The durable messages of a queue, in order. -/
def durableOf (es : List OutboxEntry) : List ProtocolMessage :=
  (es.filter fun e => e.2.isReliable).map Prod.fst

/-- A leased front grows older: its kind stays and no cancellation is undone. -/
structure Aged (delivery delivery' : ProtocolDelivery) : Prop where
  discard : delivery.discardCancelled = true → delivery'.discardCancelled = true
  status : delivery.participantStatusIsCancelled = true →
    delivery'.participantStatusIsCancelled = true
  state : delivery'.isConnectionScopedState = delivery.isConnectionScopedState

theorem Aged.refl (delivery : ProtocolDelivery) : Aged delivery delivery := ⟨id, id, rfl⟩

theorem Aged.trans {d d' d'' : ProtocolDelivery} (h : Aged d d') (h' : Aged d' d'') :
    Aged d d'' :=
  ⟨fun hd => h'.discard (h.discard hd), fun hs => h'.status (h.status hs),
    h'.state.trans h.state⟩

/-- The front keeps its message. -/
def KeepsFront (es es' : List OutboxEntry) : Prop :=
  ∀ e rest, es = e :: rest → ∃ e' rest', es' = e' :: rest' ∧ e'.1 = e.1 ∧ Aged e.2 e'.2

theorem KeepsFront.refl (es : List OutboxEntry) : KeepsFront es es := by
  intro e rest hes
  exact ⟨e, rest, hes, rfl, Aged.refl e.2⟩

theorem KeepsFront.trans {es es' es'' : List OutboxEntry} (h : KeepsFront es es')
    (h' : KeepsFront es' es'') : KeepsFront es es'' := by
  intro e rest hes
  obtain ⟨e', rest', hes', hm, hd⟩ := h e rest hes
  obtain ⟨e'', rest'', hes'', hm', hd'⟩ := h' e' rest' hes'
  exact ⟨e'', rest'', hes'', hm'.trans hm, hd.trans hd'⟩

theorem keepsFront_append (es suffix : List OutboxEntry) : KeepsFront es (es ++ suffix) := by
  intro e rest hes
  exact ⟨e, rest ++ suffix, by rw [hes]; rfl, rfl, Aged.refl e.2⟩

theorem keepsFront_onLeased {front : OutboxEntry → OutboxEntry}
    {rest : List OutboxEntry → List OutboxEntry} (hmessage : ∀ e, (front e).1 = e.1)
    (haged : ∀ e, Aged e.2 (front e).2) (es : List OutboxEntry) :
    KeepsFront es (onLeased true front rest es) := by
  intro e tail hes
  exact ⟨front e, rest tail, by rw [hes]; rfl, hmessage e, haged e⟩

theorem aged_cancelRequest (delivery : ProtocolDelivery) :
    Aged delivery delivery.cancelRequest := by
  cases delivery <;> exact ⟨by simp [ProtocolDelivery.cancelRequest,
    ProtocolDelivery.discardCancelled], id, rfl⟩

theorem aged_cancelIntent (delivery : ProtocolDelivery) :
    Aged delivery delivery.cancelIntent := by
  cases delivery <;> exact ⟨by simp [ProtocolDelivery.cancelIntent,
    ProtocolDelivery.discardCancelled], id, rfl⟩

theorem aged_statusCancelled (delivery : ProtocolDelivery) :
    Aged delivery (delivery.setParticipantStatusCancelled true) := by
  cases delivery <;> exact ⟨id, by simp [ProtocolDelivery.setParticipantStatusCancelled,
    ProtocolDelivery.participantStatusIsCancelled], rfl⟩

/-- The durable messages an operation adds. -/
def pushedDurable (_ : ProtocolOutbox) : OutboxOp → List ProtocolMessage
  | .pushBack message => if message.isState then [] else [message]
  | _ => []

/-- The durable messages an operation acknowledges. -/
def acknowledgedDurable (outbox : ProtocolOutbox) : OutboxOp → List ProtocolMessage
  | .acknowledgeFront lease =>
    if outbox.delivery.head?.any ProtocolDelivery.isReliable then
      (outbox.acknowledgeFront lease).1.toList
    else []
  | _ => []

/-- An edit of the queue under the same lease, for an operation that is no
    acknowledgement. -/
structure Edited (outbox outbox' : ProtocolOutbox) (pushed : List ProtocolMessage) : Prop where
  lease : outbox'.leasedFront = outbox.leasedFront
  next : outbox'.nextLease = outbox.nextLease
  front : outbox.leasedFront.isSome = true → KeepsFront outbox.entries outbox'.entries
  durable : durableOf outbox'.entries = durableOf outbox.entries ++ pushed

theorem Edited.refl (outbox : ProtocolOutbox) : Edited outbox outbox [] :=
  ⟨rfl, rfl, fun _ => KeepsFront.refl _, (List.append_nil _).symm⟩

theorem Edited.trans {outbox outbox' outbox'' : ProtocolOutbox} {pushed : List ProtocolMessage}
    (h : Edited outbox outbox' []) (h' : Edited outbox' outbox'' pushed) :
    Edited outbox outbox'' pushed := by
  refine ⟨h'.lease.trans h.lease, h'.next.trans h.next, ?_, ?_⟩
  · intro hl
    exact (h.front hl).trans (h'.front (by rw [h.lease]; exact hl))
  · rw [h'.durable, h.durable, List.append_nil]

section edits

open ProtocolOutbox

variable {outbox : ProtocolOutbox}

theorem edited_insertReliable (h : outbox.Paired) (message : ProtocolMessage)
    (delivery : ProtocolDelivery) :
    Edited outbox (outbox.insertReliable message delivery)
      (if delivery.isReliable then [message] else []) := by
  have heq : outbox.insertReliable message delivery =
      outbox.withEntries (outbox.entries ++ [(message, delivery)]) := by
    conv => lhs; rw [h.eq_withEntries]
    exact insertReliable_withEntries _ _ _ _
  rw [heq]
  refine ⟨rfl, rfl, ?_, ?_⟩
  · intro _
    rw [withEntries_entries]
    exact keepsFront_append _ _
  · rw [withEntries_entries, durableOf, durableOf, List.filter_append, List.map_append]
    by_cases hd : delivery.isReliable
    · simp [hd]
    · simp [hd]

theorem durableOf_onLeased {front : OutboxEntry → OutboxEntry}
    {rest : List OutboxEntry → List OutboxEntry}
    (hfront : ∀ e, durableOf [front e] = durableOf [e])
    (hrest : ∀ es, durableOf (rest es) = durableOf es) (leased : Bool) (es : List OutboxEntry) :
    durableOf (onLeased leased front rest es) = durableOf es := by
  have hcons (e : OutboxEntry) (es : List OutboxEntry) :
      durableOf (e :: es) = durableOf [e] ++ durableOf es := by
    rw [durableOf, durableOf, durableOf, ← List.map_append, ← List.filter_append]
    rfl
  cases es with
  | nil => rfl
  | cons e es =>
    cases leased with
    | false => exact hrest (e :: es)
    | true =>
      show durableOf (front e :: rest es) = durableOf (e :: es)
      rw [hcons (front e), hcons e, hfront, hrest]

theorem edited_invalidate (h : outbox.Paired) {mark : ProtocolDelivery → ProtocolDelivery}
    {shouldCancel : ProtocolDelivery → Bool} (hmark : ∀ d, Aged d (mark d))
    (hkind : ∀ d, (mark d).isReliable = d.isReliable)
    (hscoped : ∀ d, shouldCancel d = true → d.isReliable = false) :
    Edited outbox (outbox.invalidate mark shouldCancel) [] := by
  have heq := invalidate_withEntries outbox outbox.entries mark shouldCancel
  rw [← h.eq_withEntries] at heq
  rw [heq]
  refine ⟨rfl, rfl, ?_, ?_⟩
  · intro hl
    rw [withEntries_entries, hl]
    apply keepsFront_onLeased
    · intro e; split <;> rfl
    · intro e
      split
      · exact hmark e.2
      · exact Aged.refl e.2
  · rw [withEntries_entries, List.append_nil]
    apply durableOf_onLeased
    · intro e
      split
      · cases hr : e.2.isReliable <;> simp [durableOf, hkind, hr]
      · rfl
    · intro es
      rw [durableOf, durableOf, List.filter_filter]
      congr 1
      apply List.filter_congr
      intro e _
      cases hc : shouldCancel e.2 with
      | false => simp
      | true => simp [hscoped e.2 hc]

theorem durableOf_filterMap_strip (es : List OutboxEntry) :
    durableOf (es.filterMap stripEntry) = durableOf es := by
  induction es with
  | nil => rfl
  | cons e es ih =>
    cases hs : stripEntry e with
    | none =>
      have hstate : e.2.isReliable = false := by
        cases hd : e.2 <;> simp_all [stripEntry, ProtocolDelivery.isConnectionScopedState,
          ProtocolDelivery.isReliable]
      rw [List.filterMap_cons_none hs, ih]
      simp [durableOf, hstate]
    | some e' =>
      rw [List.filterMap_cons_some hs]
      obtain ⟨hkind, hstripped, hsame⟩ := stripEntry_some hs
      cases hstate : e.2.isConnectionScopedState with
      | false =>
        rw [hsame hstate, durableOf, durableOf, List.filter_cons, List.filter_cons]
        split
        · rw [List.map_cons, List.map_cons]
          exact congrArg (e.1 :: ·) ih
        · exact ih
      | true =>
        have hreliable : e.2.isReliable = false := by
          cases hd : e.2 <;> simp_all [ProtocolDelivery.isConnectionScopedState,
            ProtocolDelivery.isReliable]
        rw [durableOf, durableOf, List.filter_cons, List.filter_cons, hkind, hreliable]
        exact ih

theorem edited_cancelStatus (h : outbox.Paired) :
    Edited outbox outbox.cancelPendingParticipantStatusReports [] := by
  have heq := cancelPendingParticipantStatusReports_withEntries outbox outbox.entries
  rw [← h.eq_withEntries] at heq
  rw [heq]
  refine ⟨rfl, rfl, ?_, ?_⟩
  · intro hl
    rw [withEntries_entries, hl]
    apply keepsFront_onLeased
    · intro e; rfl
    · intro e; exact aged_statusCancelled e.2
  · rw [withEntries_entries, List.append_nil]
    apply durableOf_onLeased
    · intro e
      obtain ⟨m, d⟩ := e
      cases d <;> rfl
    · exact durableOf_filterMap_strip

theorem edited_coalesceOrAppend (h : outbox.Paired) (codec : WireCodec)
    (message : ProtocolMessage) : Edited outbox (outbox.coalesceOrAppend codec message) [] := by
  have hcases := coalesceOrAppend_withEntries outbox outbox.entries codec message
  rw [← h.eq_withEntries] at hcases
  rcases hcases with ⟨init, previous, generation, cancelled, hes, hinit, heq⟩ | heq
  · rw [heq]
    refine ⟨rfl, rfl, ?_, ?_⟩
    · intro hl
      rw [withEntries_entries, hes]
      intro e rest hcons
      cases init with
      | nil => exact absurd rfl (hinit hl)
      | cons e' init =>
        obtain ⟨rfl, -⟩ := List.cons.inj hcons
        exact ⟨e', _, rfl, rfl, Aged.refl e'.2⟩
    · rw [withEntries_entries, hes, List.append_nil, durableOf, durableOf, List.filter_append,
        List.filter_append]
      rfl
  · rw [heq]
    refine ⟨rfl, rfl, ?_, ?_⟩
    · intro _
      rw [withEntries_entries]
      exact keepsFront_append _ _
    · rw [withEntries_entries, List.append_nil, durableOf, durableOf, List.filter_append]
      simp [ProtocolDelivery.isReliable]

theorem edited_pushConnectionScopedState (h : outbox.Sound) (codec : WireCodec)
    (message : ProtocolMessage) :
    Edited outbox (outbox.pushConnectionScopedState codec message).2 [] := by
  unfold pushConnectionScopedState
  split
  · exact Edited.refl outbox
  · split
    · exact (edited_cancelStatus h.paired).trans
        (edited_coalesceOrAppend h.cancelStatus.paired codec message)
    · exact edited_coalesceOrAppend h.paired codec message

theorem edited_invalidateRequests (h : outbox.Paired) {shouldCancel : ProtocolDelivery → Bool}
    (hscoped : ∀ d, shouldCancel d = true → d.isConnectionScopedReliable = true) :
    Edited outbox (outbox.invalidateConnectionScopedReliable shouldCancel) [] := by
  apply edited_invalidate h aged_cancelRequest
  · intro d; cases d <;> rfl
  · intro d hc
    have hkind := hscoped d hc
    cases d <;> simp_all [ProtocolDelivery.isConnectionScopedReliable, ProtocolDelivery.isReliable]

theorem edited_cancelReadinessIntents (h : outbox.Paired) :
    Edited outbox outbox.cancelReadinessIntents [] := by
  apply edited_invalidate h aged_cancelIntent
  · intro d; cases d <;> rfl
  · intro d hc
    cases d <;> simp_all [ProtocolDelivery.isReadinessIntent, ProtocolDelivery.isReliable]

end edits

/-- What one operation did to a sound outbox. -/
inductive Change (outbox outbox' : ProtocolOutbox) : OutboxOp → Prop where
  /-- The queue was edited under the same lease, or nothing happened. -/
  | edited (op : OutboxOp) (hedit : Edited outbox outbox' (pushedDurable outbox op))
      (hack : acknowledgedDurable outbox op = []) : Change outbox outbox' op
  /-- An unleased front was staged. -/
  | issued (hlease : outbox.leasedFront = none) (hfront : outbox.entries ≠ [])
      (hlease' : outbox'.leasedFront = some (leaseAfter outbox.nextLease))
      (hnext : outbox'.nextLease = leaseAfter outbox.nextLease)
      (hentries : outbox'.entries = outbox.entries) : Change outbox outbox' .frontForDelivery
  /-- The outstanding lease was acknowledged. -/
  | acknowledged (lease : ProtocolLineLease) (e : OutboxEntry)
      (hlease : outbox.leasedFront = some lease) (hlease' : outbox'.leasedFront = none)
      (hnext : outbox'.nextLease = outbox.nextLease)
      (hentries : outbox.entries = e :: outbox'.entries) :
      Change outbox outbox' (.acknowledgeFront lease)
  /-- The outstanding lease was released. -/
  | released (lease : ProtocolLineLease) (e : OutboxEntry) (rest : List OutboxEntry)
      (hlease : outbox.leasedFront = some lease) (hlease' : outbox'.leasedFront = none)
      (hnext : outbox'.nextLease = outbox.nextLease) (hfront : outbox.entries = e :: rest)
      (hentries : outbox'.entries = (releasedEntry e).toList ++ rest) :
      Change outbox outbox' (.releaseFront lease)
  /-- A new connection generation began. -/
  | began (hlease' : outbox'.leasedFront = none) (hnext : outbox'.nextLease = outbox.nextLease)
      (hentries : outbox'.entries = outbox.entries.filter fun e => e.2.isReliable) :
      Change outbox outbox' .beginConnectionGeneration

section steps

open ProtocolOutbox

variable {outbox : ProtocolOutbox} (codec : WireCodec)

theorem front_of_lease (h : outbox.Sound) {lease : ProtocolLineLease}
    (hl : outbox.leasedFront = some lease) : ∃ e es, outbox.entries = e :: es := by
  have hne : outbox.entries ≠ [] := h.tidy.front (by rw [hl]; rfl)
  exact List.exists_cons_of_ne_nil hne

theorem acknowledgeFront_current (h : outbox.Sound) {lease : ProtocolLineLease}
    (hl : outbox.leasedFront = some lease) {e : OutboxEntry} {es : List OutboxEntry}
    (hes : outbox.entries = e :: es) :
    outbox.acknowledgeFront lease =
      (some e.1, { outbox with leasedFront := none }.withEntries es) := by
  rw [h.paired.eq_withEntries, hes]
  exact acknowledgeFront_withEntries es hl e

theorem releaseFront_current (h : outbox.Sound) {lease : ProtocolLineLease}
    (hl : outbox.leasedFront = some lease) {e : OutboxEntry} {es : List OutboxEntry}
    (hes : outbox.entries = e :: es) :
    outbox.releaseFront lease =
      (true, { outbox with leasedFront := none }.withEntries ((releasedEntry e).toList ++ es)) := by
  rw [h.paired.eq_withEntries, hes]
  exact releaseFront_withEntries es hl e

theorem beginConnectionGeneration_entries (h : outbox.Sound) :
    outbox.beginConnectionGeneration.entries = outbox.entries.filter fun e => e.2.isReliable := by
  have hbegin := beginConnectionGeneration_withEntries outbox outbox.entries
  rw [← h.paired.eq_withEntries] at hbegin
  rw [hbegin, withEntries_entries]

/-- **Step inversion**: everything an operation can do to a sound outbox. -/
theorem step_change (h : outbox.Sound) (op : OutboxOp) :
    Change outbox (outboxStep codec outbox op) op := by
  cases op with
  | pushBack message =>
    refine .edited _ ?_ rfl
    show Edited outbox (outbox.pushBack codec message) (if message.isState then [] else [message])
    unfold pushBack
    by_cases hs : message.isState
    · rw [if_pos hs, if_pos hs]
      exact edited_pushConnectionScopedState h codec message
    · rw [if_neg hs, if_neg hs]
      exact edited_insertReliable h.paired message .reliable
  | pushConnectionScopedReliable message room localMediaGeneration requestNonce =>
    refine .edited _ ?_ rfl
    show Edited outbox (outbox.pushConnectionScopedReliable ..).2 []
    unfold pushConnectionScopedReliable
    split
    · exact Edited.refl outbox
    · exact (edited_invalidateRequests h.paired (fun _ hc => hc)).trans
        (edited_insertReliable (h.invalidate _ live_cancelRequest).paired message _)
  | pushConnectionScopedCausalState message =>
    refine .edited _ ?_ rfl
    show Edited outbox (outbox.pushConnectionScopedCausalState message).2 []
    unfold pushConnectionScopedCausalState
    split
    · exact Edited.refl outbox
    · exact edited_insertReliable h.paired message .connectionScopedCausalState
  | pushReadinessIntent message room membershipEpoch =>
    refine .edited _ ?_ rfl
    show Edited outbox (outbox.pushReadinessIntent ..).2 []
    unfold pushReadinessIntent
    split
    · exact Edited.refl outbox
    · exact (edited_cancelReadinessIntents h.paired).trans
        (edited_insertReliable (h.invalidate _ live_cancelIntent).paired message _)
  | pushConnectionScopedState message =>
    exact .edited _ (edited_pushConnectionScopedState h codec message) rfl
  | cancelReadinessIntents => exact .edited _ (edited_cancelReadinessIntents h.paired) rfl
  | cancelConnectionScopedReliable =>
    exact .edited _ (edited_invalidateRequests h.paired fun _ hc => hc) rfl
  | cancelPendingParticipantStatusReports => exact .edited _ (edited_cancelStatus h.paired) rfl
  | retainConnectionScopedReliableScope room localMediaGeneration =>
    refine .edited _ (edited_invalidateRequests h.paired ?_) rfl
    intro d hc
    cases d <;> simp_all [ProtocolDelivery.outsideScope,
      ProtocolDelivery.isConnectionScopedReliable]
  | frontForDelivery =>
    show Change outbox outbox.frontForDeliveryWithStatus.2 _
    cases hl : outbox.leasedFront with
    | some lease =>
      rw [frontForDelivery_leased hl]
      exact .edited _ (Edited.refl outbox) rfl
    | none =>
      cases hm : outbox.pending.head? with
      | none =>
        simp only [frontForDeliveryWithStatus, hm]
        exact .edited _ (Edited.refl outbox) rfl
      | some message =>
        rw [frontForDelivery_unleased hl message hm]
        refine .issued hl ?_ rfl rfl rfl
        intro hnil
        rw [h.paired.eq_withEntries, withEntries_pending_head, hnil] at hm
        cases hm
  | acknowledgeFront lease =>
    show Change outbox (outbox.acknowledgeFront lease).2 _
    by_cases hl : outbox.leasedFront = some lease
    · obtain ⟨e, es, hes⟩ := front_of_lease h hl
      rw [acknowledgeFront_current h hl hes]
      exact .acknowledged lease e hl rfl rfl (by rw [withEntries_entries, hes])
    · rw [acknowledgeFront_stale hl]
      refine .edited _ (Edited.refl outbox) ?_
      simp [acknowledgedDurable, acknowledgeFront_stale hl]
  | releaseFront lease =>
    show Change outbox (outbox.releaseFront lease).2 _
    by_cases hl : outbox.leasedFront = some lease
    · obtain ⟨e, es, hes⟩ := front_of_lease h hl
      rw [releaseFront_current h hl hes]
      exact .released lease e es hl rfl rfl hes (by rw [withEntries_entries])
    · rw [releaseFront_stale hl]
      exact .edited _ (Edited.refl outbox) rfl
  | beginConnectionGeneration =>
    exact .began rfl rfl (beginConnectionGeneration_entries h)
  | activateConnectionGeneration =>
    refine .edited _ ⟨rfl, rfl, ?_, ?_⟩ rfl
    · intro _
      exact KeepsFront.refl _
    · exact (List.append_nil _).symm

end steps

end Sorotte.Client
