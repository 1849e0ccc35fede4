import Sorotte.Client.OutboxSteps
import Sorotte.Framework.Runs

/-! # Runs of the outbox

  The ledger of durable messages, the life of one lease and the fate of a
  front that is cancelled under its lease, over every sequence of operations.
-/

namespace Sorotte.Client

open Sorotte.Framework

section steps

open ProtocolOutbox

variable {outbox : ProtocolOutbox} (codec : WireCodec)

/-! ### The ledger of durable messages -/

theorem durableOf_releasedEntry (e : OutboxEntry) (rest : List OutboxEntry) :
    durableOf ((releasedEntry e).toList ++ rest) = durableOf (e :: rest) := by
  have hone : durableOf (releasedEntry e).toList = durableOf [e] := by
    unfold releasedEntry
    split
    · next hd =>
      cases hk : e.2 <;> simp_all [durableOf, ProtocolDelivery.discardCancelled,
        ProtocolDelivery.isReliable]
    · split
      · have hstrip := durableOf_filterMap_strip [e]
        cases hs : stripEntry e <;> simpa [hs] using hstrip
      · rfl
  have happend (first second : List OutboxEntry) :
      durableOf (first ++ second) = durableOf first ++ durableOf second := by
    rw [durableOf, List.filter_append, List.map_append]
    rfl
  rw [happend, hone, ← happend]
  rfl

/-- **Ledger step**: acknowledged, then still queued, is queued, then pushed. -/
theorem durable_step (h : outbox.Sound) (op : OutboxOp) :
    acknowledgedDurable outbox op ++ durableOf (outboxStep codec outbox op).entries =
      durableOf outbox.entries ++ pushedDurable outbox op := by
  have hchange := step_change codec h op
  generalize outboxStep codec outbox op = outbox' at hchange
  cases hchange with
  | edited op hedit hack => rw [hack, hedit.durable]; rfl
  | issued _ _ _ _ hentries =>
    rw [hentries]
    exact (List.append_nil _).symm
  | acknowledged lease e hlease _ _ hentries =>
    have hack := acknowledgeFront_current h hlease hentries
    have hhead : outbox.delivery.head? = some e.2 := by
      rw [h.paired.eq_withEntries, withEntries_delivery_head, hentries]
      rfl
    rw [acknowledgedDurable, hack, hhead, hentries, durableOf, durableOf, List.filter_cons]
    cases hr : e.2.isReliable <;> simp [pushedDurable, hr]
  | released lease e rest _ _ _ hfront hentries =>
    rw [hentries, hfront, durableOf_releasedEntry]
    exact (List.append_nil _).symm
  | began _ _ hentries =>
    rw [hentries, durableOf, List.filter_filter]
    simp [durableOf, acknowledgedDurable, pushedDurable]

/-! ### The life of a lease -/

/-- The leases an operation issues. -/
def issuedLease (outbox : ProtocolOutbox) : OutboxOp → List ProtocolLineLease
  | .frontForDelivery =>
    match outbox.frontForDeliveryWithStatus.1 with
    | some (lease, _, true) => [lease]
    | _ => []
  | _ => []

/-- The leases a run issues, in order. -/
def issuedLeases (codec : WireCodec) (outbox : ProtocolOutbox) (ops : List OutboxOp) :
    List ProtocolLineLease :=
  emitted (outboxStep codec) issuedLease outbox ops

theorem issuedLease_leased {lease : ProtocolLineLease} (hl : outbox.leasedFront = some lease)
    (op : OutboxOp) : issuedLease outbox op = [] := by
  cases op with
  | frontForDelivery =>
    cases hm : outbox.pending.head? <;>
      simp [issuedLease, frontForDeliveryWithStatus, hl, hm]
  | _ => rfl

theorem front_issue (hnone : outbox.leasedFront = none) {lease : ProtocolLineLease}
    (hissue : issuedLease outbox .frontForDelivery = [lease]) :
    lease = leaseAfter outbox.nextLease := by
  cases hm : outbox.pending.head? with
  | none => simp [issuedLease, frontForDeliveryWithStatus, hm] at hissue
  | some message =>
    rw [issuedLease, frontForDelivery_unleased hnone message hm] at hissue
    exact (List.singleton_inj.mp hissue).symm

/-- What one operation does to the lease counter and the outstanding lease. -/
theorem lease_step (h : outbox.Sound) (op : OutboxOp) :
    (issuedLease outbox op = [] ∧
      (outboxStep codec outbox op).nextLease = outbox.nextLease ∧
      ((outboxStep codec outbox op).leasedFront = outbox.leasedFront ∨
        (outboxStep codec outbox op).leasedFront = none)) ∨
    ((issuedLease outbox op).length = 1 ∧ outbox.leasedFront = none ∧
      (outboxStep codec outbox op).nextLease = leaseAfter outbox.nextLease ∧
      (outboxStep codec outbox op).leasedFront = some (leaseAfter outbox.nextLease)) := by
  have hchange := step_change codec h op
  cases hl : outbox.leasedFront with
  | some lease =>
    left
    refine ⟨issuedLease_leased hl op, ?_⟩
    generalize outboxStep codec outbox op = outbox' at hchange
    cases hchange with
    | edited op hedit _ => exact ⟨hedit.next, .inl (hedit.lease.trans hl)⟩
    | issued hnone => rw [hl] at hnone; cases hnone
    | acknowledged _ _ _ hlease' hnext => exact ⟨hnext, .inr hlease'⟩
    | released _ _ _ _ hlease' hnext => exact ⟨hnext, .inr hlease'⟩
    | began hlease' hnext => exact ⟨hnext, .inr hlease'⟩
  | none =>
    by_cases hop : op = .frontForDelivery
    · subst hop
      cases hm : outbox.pending.head? with
      | none =>
        left
        simp [issuedLease, outboxStep, frontForDeliveryWithStatus, hm, hl]
      | some message =>
        right
        simp [issuedLease, outboxStep, frontForDelivery_unleased hl message hm]
    · left
      have hissue : issuedLease outbox op = [] := by
        cases op <;> first | rfl | exact absurd rfl hop
      refine ⟨hissue, ?_⟩
      generalize outboxStep codec outbox op = outbox' at hchange
      cases hchange with
      | edited op hedit _ => exact ⟨hedit.next, .inl (hedit.lease.trans hl)⟩
      | issued => exact absurd rfl hop
      | acknowledged _ _ hsome => rw [hl] at hsome; cases hsome
      | released _ _ _ hsome => rw [hl] at hsome; cases hsome
      | began hlease' hnext => exact ⟨hnext, .inr hlease'⟩

/-- The counter after `k` further leases. -/
theorem leaseAfter_iterate {n : Nat} (hn : 1 ≤ n ∧ n ≤ 2 ^ 64 - 1) (k : Nat) :
    leaseAfter^[k] n = (n - 1 + k) % (2 ^ 64 - 1) + 1 := by
  induction k with
  | zero =>
    simp only [Function.iterate_zero, id]
    omega
  | succ k ih =>
    rw [Function.iterate_succ_apply', ih, leaseAfter, wrappingSucc]
    omega

/-- The numbers repeat only after all of them were used. -/
theorem leaseAfter_iterate_ne {n : Nat} (hn : 1 ≤ n ∧ n ≤ 2 ^ 64 - 1) {k : Nat} (hk : 0 < k)
    (hlt : k < 2 ^ 64 - 1) : leaseAfter^[k] n ≠ n := by
  rw [leaseAfter_iterate hn]
  omega

/-- **Lease runs**: the counter counts the issued leases, and a lease that is
    outstanding at the end is the one from the start or the last one issued. -/
theorem lease_run (h : outbox.Sound) (ops : List OutboxOp) :
    (runFrom (outboxStep codec) outbox ops).nextLease =
        leaseAfter^[(issuedLeases codec outbox ops).length] outbox.nextLease ∧
      ∀ lease, (runFrom (outboxStep codec) outbox ops).leasedFront = some lease →
        (issuedLeases codec outbox ops = [] ∧ outbox.leasedFront = some lease) ∨
        (issuedLeases codec outbox ops ≠ [] ∧
          lease = leaseAfter^[(issuedLeases codec outbox ops).length] outbox.nextLease) := by
  induction ops generalizing outbox with
  | nil => exact ⟨rfl, fun lease hlease => .inl ⟨rfl, hlease⟩⟩
  | cons op ops ih =>
    obtain ⟨hnext, hlast⟩ := ih (h.step codec op)
    have hsplit : issuedLeases codec outbox (op :: ops) =
        issuedLease outbox op ++ issuedLeases codec (outboxStep codec outbox op) ops := rfl
    rcases lease_step codec h op with ⟨hnone, hsame, hlease⟩ | ⟨hone, -, hafter, hissued⟩
    · rw [hsplit, hnone, List.nil_append]
      rw [hsame] at hnext hlast
      refine ⟨hnext, ?_⟩
      intro lease hend
      rcases hlast lease hend with ⟨hnil, hstart⟩ | hissued
      · left
        refine ⟨hnil, ?_⟩
        rcases hlease with hkept | hgone
        · exact hkept.symm.trans hstart
        · rw [hgone] at hstart; cases hstart
      · exact .inr hissued
    · have hlength : (issuedLeases codec outbox (op :: ops)).length =
          (issuedLeases codec (outboxStep codec outbox op) ops).length + 1 := by
        rw [hsplit, List.length_append, hone, Nat.add_comm]
      have hne : issuedLeases codec outbox (op :: ops) ≠ [] := by
        intro hnil
        rw [hnil] at hlength
        simp at hlength
      rw [hafter] at hnext hlast
      rw [hlength, Function.iterate_succ_apply]
      refine ⟨hnext, ?_⟩
      intro lease hend
      right
      refine ⟨hne, ?_⟩
      rcases hlast lease hend with ⟨hnil, hstart⟩ | ⟨-, hlease⟩
      · rw [hissued] at hstart
        rw [hnil]
        exact (Option.some.inj hstart).symm
      · exact hlease

theorem leaseAfter_range (n : Nat) : 1 ≤ leaseAfter n ∧ leaseAfter n ≤ 2 ^ 64 - 1 := by
  unfold leaseAfter wrappingSucc
  omega

/-- **Stale leases**: an ended lease is not outstanding again before every
    other lease number was issued. -/
theorem stale_lease (h : outbox.Sound) (hnone : outbox.leasedFront = none)
    {lease : ProtocolLineLease}
    (hissue : (outboxStep codec outbox .frontForDelivery).leasedFront = some lease)
    (first second : List OutboxOp)
    (hended : (runFrom (outboxStep codec) (outboxStep codec outbox .frontForDelivery)
      first).leasedFront ≠ some lease)
    (hwindow : (issuedLeases codec (outboxStep codec outbox .frontForDelivery)
      (first ++ second)).length < 2 ^ 64 - 1) :
    (runFrom (outboxStep codec) (outboxStep codec outbox .frontForDelivery)
      (first ++ second)).leasedFront ≠ some lease := by
  have hsound := h.step codec .frontForDelivery
  have hnext : (outboxStep codec outbox .frontForDelivery).nextLease = lease ∧
      1 ≤ lease ∧ lease ≤ 2 ^ 64 - 1 := by
    rcases lease_step codec h .frontForDelivery with ⟨-, -, hlease⟩ | ⟨-, -, hafter, hsome⟩
    · rw [hnone, or_self] at hlease
      rw [hlease] at hissue
      cases hissue
    · rw [hissue] at hsome
      obtain rfl := Option.some.inj hsome
      exact ⟨hafter, leaseAfter_range _⟩
  generalize outboxStep codec outbox .frontForDelivery = start at hsound hnext hended hwindow
  obtain ⟨hcounter, hrange⟩ := hnext
  -- The run is cut where the lease was seen to have ended.
  obtain ⟨hmiddle, -⟩ := lease_run codec hsound first
  have hsoundMiddle : (runFrom (outboxStep codec) start first).Sound :=
    invariant_of_step (fun outbox op hs => hs.step codec op) hsound first
  obtain ⟨-, hlast⟩ := lease_run codec hsoundMiddle second
  have hcount : issuedLeases codec start (first ++ second) =
      issuedLeases codec start first ++
        issuedLeases codec (runFrom (outboxStep codec) start first) second :=
    emitted_append _ _ _ _ _
  rw [hcount, List.length_append] at hwindow
  intro hend
  rw [runFrom_append] at hend
  rcases hlast lease hend with ⟨-, hstart⟩ | ⟨hne, hlease⟩
  · exact hended hstart
  · have hpos : 0 < (issuedLeases codec (runFrom (outboxStep codec) start first) second).length :=
      List.length_pos_iff.mpr hne
    rw [hmiddle, ← Function.iterate_add_apply, hcounter] at hlease
    exact leaseAfter_iterate_ne hrange (by omega) (by omega) hlease.symm

/-! ### The leased front -/

/-- While the lease stays, an operation only edits the queue behind it. -/
theorem front_step (h : outbox.Sound) {lease : ProtocolLineLease}
    (hl : outbox.leasedFront = some lease) (op : OutboxOp)
    (hl' : (outboxStep codec outbox op).leasedFront = some lease) :
    KeepsFront outbox.entries (outboxStep codec outbox op).entries := by
  have hchange := step_change codec h op
  generalize outboxStep codec outbox op = outbox' at hchange hl'
  cases hchange with
  | edited op hedit _ => exact hedit.front (by rw [hl]; rfl)
  | issued hnone => rw [hl] at hnone; cases hnone
  | acknowledged _ _ _ hgone => rw [hl'] at hgone; cases hgone
  | released _ _ _ _ hgone => rw [hl'] at hgone; cases hgone
  | began hgone => rw [hl'] at hgone; cases hgone

/-- The lease is outstanding in every state of the run. -/
def HeldAlong (lease : ProtocolLineLease) (outbox : ProtocolOutbox) (ops : List OutboxOp) : Prop :=
  ∀ first, first <+: ops → (runFrom (outboxStep codec) outbox first).leasedFront = some lease

theorem heldAlong_cons {lease : ProtocolLineLease} {op : OutboxOp} {ops : List OutboxOp}
    (h : HeldAlong codec lease outbox (op :: ops)) :
    outbox.leasedFront = some lease ∧ HeldAlong codec lease (outboxStep codec outbox op) ops := by
  refine ⟨h [] (List.nil_prefix), ?_⟩
  intro first hfirst
  exact h (op :: first) (List.cons_prefix_cons.mpr ⟨rfl, hfirst⟩)

/-- **Front runs**: the staged message is the same for the whole lease. -/
theorem front_run (h : outbox.Sound) {lease : ProtocolLineLease} (ops : List OutboxOp)
    (hheld : HeldAlong codec lease outbox ops) :
    KeepsFront outbox.entries (runFrom (outboxStep codec) outbox ops).entries := by
  induction ops generalizing outbox with
  | nil => exact KeepsFront.refl _
  | cons op ops ih =>
    obtain ⟨hl, hrest⟩ := heldAlong_cons codec hheld
    have hl' : (outboxStep codec outbox op).leasedFront = some lease := hrest [] List.nil_prefix
    exact (front_step codec h hl op hl').trans (ih (h.step codec op) hrest)

/-! ### Cancelling a leased front -/

/-- The deliveries that an operation cancels. -/
def cancelsDelivery (outbox : ProtocolOutbox) : OutboxOp → ProtocolDelivery → Bool
  | .pushConnectionScopedReliable .., delivery =>
    outbox.isActive && delivery.isConnectionScopedReliable
  | .pushReadinessIntent _ room membershipEpoch, delivery =>
    outbox.acceptsReadinessIntent room membershipEpoch && delivery.isReadinessIntent
  | .cancelReadinessIntents, delivery => delivery.isReadinessIntent
  | .cancelConnectionScopedReliable, delivery => delivery.isConnectionScopedReliable
  | .retainConnectionScopedReliableScope room localMediaGeneration, delivery =>
    delivery.outsideScope outbox.connectionGeneration room localMediaGeneration
  | _, _ => false

/-- Whether an operation cancels the pending participant statuses. -/
def cancelsStatus (outbox : ProtocolOutbox) : OutboxOp → Bool
  | .cancelPendingParticipantStatusReports => true
  | .pushConnectionScopedState message => outbox.isActive && message.carriesParticipantStatus
  | .pushBack message => outbox.isActive && message.carriesParticipantStatus
  | _ => false

theorem invalidate_marks (h : outbox.Sound) {lease : ProtocolLineLease}
    (hl : outbox.leasedFront = some lease) {e : OutboxEntry} {es : List OutboxEntry}
    (hes : outbox.entries = e :: es) (mark : ProtocolDelivery → ProtocolDelivery)
    {shouldCancel : ProtocolDelivery → Bool} (hc : shouldCancel e.2 = true) :
    ∃ rest, (outbox.invalidate mark shouldCancel).entries = (e.1, mark e.2) :: rest := by
  have heq := invalidate_withEntries outbox outbox.entries mark shouldCancel
  rw [← h.paired.eq_withEntries, hes, hl] at heq
  rw [heq, withEntries_entries]
  exact ⟨es.filter fun e => !shouldCancel e.2, by simp [onLeased, hc]⟩

theorem insertReliable_front (h : outbox.Paired) {e : OutboxEntry} {es : List OutboxEntry}
    (hes : outbox.entries = e :: es) (message : ProtocolMessage) (delivery : ProtocolDelivery) :
    ∃ rest, (outbox.insertReliable message delivery).entries = e :: rest := by
  have heq := insertReliable_withEntries outbox outbox.entries message delivery
  rw [← h.eq_withEntries, hes] at heq
  rw [heq, withEntries_entries]
  exact ⟨es ++ [(message, delivery)], rfl⟩

theorem cancelRequest_discards {d : ProtocolDelivery} (h : d.isConnectionScopedReliable = true) :
    d.cancelRequest.discardCancelled = true := by
  cases d <;> first | rfl | cases h

theorem cancelIntent_discards {d : ProtocolDelivery} (h : d.isReadinessIntent = true) :
    d.cancelIntent.discardCancelled = true := by
  cases d <;> first | rfl | cases h

/-- A cancelled leased front is marked for disposal. -/
theorem cancels_marks (h : outbox.Sound) {lease : ProtocolLineLease}
    (hl : outbox.leasedFront = some lease) {e : OutboxEntry} {es : List OutboxEntry}
    (hes : outbox.entries = e :: es) {op : OutboxOp} (hc : cancelsDelivery outbox op e.2 = true) :
    ∃ e' rest, (outboxStep codec outbox op).entries = e' :: rest ∧
      e'.2.discardCancelled = true := by
  cases op with
  | pushConnectionScopedReliable message room localMediaGeneration requestNonce =>
    simp only [cancelsDelivery, Bool.and_eq_true] at hc
    obtain ⟨rest, hmark⟩ := invalidate_marks h hl hes ProtocolDelivery.cancelRequest hc.2
    obtain ⟨rest', happend⟩ := insertReliable_front (h.invalidate _ live_cancelRequest).paired
      hmark message (.connectionScopedReliable outbox.connectionGeneration room
        localMediaGeneration requestNonce false)
    refine ⟨(e.1, e.2.cancelRequest), rest', ?_, cancelRequest_discards hc.2⟩
    rw [← happend]
    simp [outboxStep, pushConnectionScopedReliable, hc.1, cancelConnectionScopedReliable,
      invalidateConnectionScopedReliable]
  | pushReadinessIntent message room membershipEpoch =>
    simp only [cancelsDelivery, Bool.and_eq_true] at hc
    obtain ⟨rest, hmark⟩ := invalidate_marks h hl hes ProtocolDelivery.cancelIntent hc.2
    obtain ⟨rest', happend⟩ := insertReliable_front (h.invalidate _ live_cancelIntent).paired
      hmark message (.connectionRoomScopedReadinessIntent outbox.connectionGeneration room
        membershipEpoch false)
    refine ⟨(e.1, e.2.cancelIntent), rest', ?_, cancelIntent_discards hc.2⟩
    rw [← happend]
    simp [outboxStep, pushReadinessIntent, hc.1, cancelReadinessIntents,
      invalidateReadinessIntents]
  | cancelReadinessIntents =>
    obtain ⟨rest, hmark⟩ := invalidate_marks h hl hes ProtocolDelivery.cancelIntent hc
    exact ⟨_, rest, hmark, cancelIntent_discards hc⟩
  | cancelConnectionScopedReliable =>
    obtain ⟨rest, hmark⟩ := invalidate_marks h hl hes ProtocolDelivery.cancelRequest hc
    exact ⟨_, rest, hmark, cancelRequest_discards hc⟩
  | retainConnectionScopedReliableScope room localMediaGeneration =>
    obtain ⟨rest, hmark⟩ := invalidate_marks h hl hes ProtocolDelivery.cancelRequest hc
    refine ⟨_, rest, hmark, ?_⟩
    apply cancelRequest_discards
    cases hd : e.2 <;> simp_all [cancelsDelivery, ProtocolDelivery.outsideScope,
      ProtocolDelivery.isConnectionScopedReliable]
  | _ => cases hc

theorem statusCancelled_of_state {d : ProtocolDelivery} (h : d.isConnectionScopedState = true) :
    (d.setParticipantStatusCancelled true).participantStatusIsCancelled = true := by
  cases d <;> first | rfl | cases h

theorem cancelStatus_marks (h : outbox.Sound) {lease : ProtocolLineLease}
    (hl : outbox.leasedFront = some lease) {e : OutboxEntry} {es : List OutboxEntry}
    (hes : outbox.entries = e :: es) :
    ∃ rest, outbox.cancelPendingParticipantStatusReports.entries =
      (e.1, e.2.setParticipantStatusCancelled true) :: rest := by
  have heq := cancelPendingParticipantStatusReports_withEntries outbox outbox.entries
  rw [← h.paired.eq_withEntries, hes, hl] at heq
  rw [heq, withEntries_entries]
  exact ⟨es.filterMap stripEntry, rfl⟩

theorem pushState_marks (h : outbox.Sound) {lease : ProtocolLineLease}
    (hl : outbox.leasedFront = some lease) {e : OutboxEntry} {es : List OutboxEntry}
    (hes : outbox.entries = e :: es) (hstate : e.2.isConnectionScopedState = true)
    (message : ProtocolMessage)
    (hc : (outbox.isActive && message.carriesParticipantStatus) = true) :
    ∃ e' rest, (outbox.pushConnectionScopedState codec message).2.entries = e' :: rest ∧
      e'.2.participantStatusIsCancelled = true := by
  rw [Bool.and_eq_true] at hc
  obtain ⟨rest, hmark⟩ := cancelStatus_marks h hl hes
  have hedit := edited_coalesceOrAppend h.cancelStatus.paired codec message
  have hleased : outbox.cancelPendingParticipantStatusReports.leasedFront.isSome = true := by
    rw [(edited_cancelStatus h.paired).lease, hl]
    rfl
  obtain ⟨e', rest', hes', -, haged⟩ := hedit.front hleased _ _ hmark
  refine ⟨e', rest', ?_, haged.status (statusCancelled_of_state hstate)⟩
  rw [← hes']
  simp [pushConnectionScopedState, hc.1, hc.2]

/-- A leased State front whose participant status is cancelled is marked. -/
theorem cancelsStatus_marks (h : outbox.Sound) {lease : ProtocolLineLease}
    (hl : outbox.leasedFront = some lease) {e : OutboxEntry} {es : List OutboxEntry}
    (hes : outbox.entries = e :: es) (hstate : e.2.isConnectionScopedState = true)
    {op : OutboxOp} (hc : cancelsStatus outbox op = true) :
    ∃ e' rest, (outboxStep codec outbox op).entries = e' :: rest ∧
      e'.2.participantStatusIsCancelled = true := by
  cases op with
  | cancelPendingParticipantStatusReports =>
    obtain ⟨rest, hmark⟩ := cancelStatus_marks h hl hes
    exact ⟨_, rest, hmark, statusCancelled_of_state hstate⟩
  | pushConnectionScopedState message => exact pushState_marks codec h hl hes hstate message hc
  | pushBack message =>
    have hpush := pushState_marks codec h hl hes hstate message hc
    have hmessage : message.isState = true := by
      rw [cancelsStatus, Bool.and_eq_true] at hc
      cases message <;> first | rfl | cases hc.2
    simp only [outboxStep, pushBack, hmessage, if_true]
    exact hpush
  | _ => cases hc

/-- A marked front stays marked for the rest of its lease. -/
theorem marked_front_at_release (h : outbox.Sound) {lease : ProtocolLineLease} {op : OutboxOp}
    {ops : List OutboxOp} (hheld : HeldAlong codec lease outbox (op :: ops)) {e e₁ : OutboxEntry}
    {es rest₁ : List OutboxEntry} (hes : outbox.entries = e :: es)
    (hmarked : (outboxStep codec outbox op).entries = e₁ :: rest₁) :
    ∃ e' rest, (runFrom (outboxStep codec) outbox (op :: ops)).entries = e' :: rest ∧
      e'.1 = e.1 ∧ Aged e.2 e'.2 ∧ Aged e₁.2 e'.2 ∧
      ((runFrom (outboxStep codec) outbox (op :: ops)).releaseFront lease).2.entries =
        (releasedEntry e').toList ++ rest := by
  obtain ⟨hl, hrest⟩ := heldAlong_cons codec hheld
  have hl₁ : (outboxStep codec outbox op).leasedFront = some lease := hrest [] List.nil_prefix
  obtain ⟨e₂, rest₂, hes₂, hmessage₁, haged₁⟩ := front_step codec h hl op hl₁ e es hes
  obtain ⟨rfl, rfl⟩ := List.cons.inj (hes₂.symm.trans hmarked)
  obtain ⟨e', rest, hes', hmessage', haged'⟩ :=
    front_run codec (h.step codec op) ops hrest _ _ hmarked
  have hsound : (runFrom (outboxStep codec) outbox (op :: ops)).Sound :=
    invariant_of_step (fun outbox op hs => hs.step codec op) h (op :: ops)
  have hlast : (runFrom (outboxStep codec) outbox (op :: ops)).leasedFront = some lease :=
    hheld (op :: ops) (List.prefix_refl _)
  refine ⟨e', rest, hes', hmessage'.trans hmessage₁, haged₁.trans haged', haged', ?_⟩
  have hrelease := releaseFront_current hsound hlast hes'
  rw [hrelease, withEntries_entries]

end steps

/-! ### Participant statuses outside observational States -/

/-- The callers' promise: an advisory participant status is never frozen inside
    a reliable or causal entry. -/
def OutboxOp.keepsStatusApart : OutboxOp → Bool
  | .pushConnectionScopedReliable message .. => !message.carriesParticipantStatus
  | .pushConnectionScopedCausalState message => !message.carriesParticipantStatus
  | .pushReadinessIntent message .. => !message.carriesParticipantStatus
  | _ => true

/-- A participant status only waits in an observational State. -/
def Apart (e : OutboxEntry) : Prop :=
  e.1.carriesParticipantStatus = true → e.2.isConnectionScopedState = true

/-- The entry that an operation puts at the back, unless it joins the tail. -/
def appended (outbox : ProtocolOutbox) : OutboxOp → Option OutboxEntry
  | .pushBack message =>
    if message.isState then
      some (message, .connectionScopedState outbox.connectionGeneration false)
    else some (message, .reliable)
  | .pushConnectionScopedReliable message room localMediaGeneration requestNonce =>
    some (message, .connectionScopedReliable outbox.connectionGeneration room localMediaGeneration
      requestNonce false)
  | .pushConnectionScopedCausalState message => some (message, .connectionScopedCausalState)
  | .pushReadinessIntent message room membershipEpoch =>
    some (message, .connectionRoomScopedReadinessIntent outbox.connectionGeneration room
      membershipEpoch false)
  | .pushConnectionScopedState message =>
    some (message, .connectionScopedState outbox.connectionGeneration false)
  | _ => none

/-- A property of single entries that every edit of the queue keeps. -/
structure Keeps (P : OutboxEntry → Prop) : Prop where
  request : ∀ e : OutboxEntry, P e → P (e.1, e.2.cancelRequest)
  intent : ∀ e : OutboxEntry, P e → P (e.1, e.2.cancelIntent)
  status : ∀ e : OutboxEntry, P e → P (e.1, e.2.setParticipantStatusCancelled true)
  strip : ∀ e e' : OutboxEntry, P e → stripEntry e = some e' → P e'
  coalesce : ∀ message previous generation cancelled,
    P (previous, .connectionScopedState generation cancelled) →
      P (message, .connectionScopedState generation cancelled)

section keeps

open ProtocolOutbox

variable {outbox : ProtocolOutbox} (codec : WireCodec) {P : OutboxEntry → Prop}

theorem forall_onLeased {front : OutboxEntry → OutboxEntry}
    {rest : List OutboxEntry → List OutboxEntry} (hfront : ∀ e, P e → P (front e))
    (hrest : ∀ es, (∀ e ∈ es, P e) → ∀ e ∈ rest es, P e) (leased : Bool)
    {es : List OutboxEntry} (hes : ∀ e ∈ es, P e) :
    ∀ e ∈ onLeased leased front rest es, P e := by
  cases es with
  | nil => exact hes
  | cons e es =>
    cases leased with
    | false => exact hrest (e :: es) hes
    | true =>
      intro e' he'
      rcases List.mem_cons.mp he' with rfl | hmem
      · exact hfront e (hes e List.mem_cons_self)
      · exact hrest es (fun e he => hes e (List.mem_cons_of_mem _ he)) e' hmem

theorem forall_insertReliable (h : outbox.Paired) (hes : ∀ e ∈ outbox.entries, P e)
    (message : ProtocolMessage) (delivery : ProtocolDelivery) (hnew : P (message, delivery)) :
    ∀ e ∈ (outbox.insertReliable message delivery).entries, P e := by
  have heq := insertReliable_withEntries outbox outbox.entries message delivery
  rw [← h.eq_withEntries] at heq
  rw [heq, withEntries_entries]
  intro e he
  rcases List.mem_append.mp he with hmem | hmem
  · exact hes e hmem
  · rw [List.mem_singleton.mp hmem]; exact hnew

theorem forall_invalidate (h : outbox.Paired) (hes : ∀ e ∈ outbox.entries, P e)
    {mark : ProtocolDelivery → ProtocolDelivery} {shouldCancel : ProtocolDelivery → Bool}
    (hmark : ∀ e : OutboxEntry, P e → P (e.1, mark e.2)) :
    ∀ e ∈ (outbox.invalidate mark shouldCancel).entries, P e := by
  have heq := invalidate_withEntries outbox outbox.entries mark shouldCancel
  rw [← h.eq_withEntries] at heq
  rw [heq, withEntries_entries]
  apply forall_onLeased _ _ _ hes
  · intro e he
    split
    · exact hmark e he
    · exact he
  · intro es hes e he
    exact hes e (List.mem_filter.mp he).1

theorem forall_cancelStatus (hkeeps : Keeps P) (h : outbox.Paired)
    (hes : ∀ e ∈ outbox.entries, P e) :
    ∀ e ∈ outbox.cancelPendingParticipantStatusReports.entries, P e := by
  have heq := cancelPendingParticipantStatusReports_withEntries outbox outbox.entries
  rw [← h.eq_withEntries] at heq
  rw [heq, withEntries_entries]
  apply forall_onLeased _ _ _ hes
  · exact hkeeps.status
  · intro es hes e' he'
    obtain ⟨e, he, hstrip⟩ := List.mem_filterMap.mp he'
    exact hkeeps.strip e e' (hes e he) hstrip

theorem forall_coalesceOrAppend (hkeeps : Keeps P) (h : outbox.Paired)
    (hes : ∀ e ∈ outbox.entries, P e) (message : ProtocolMessage)
    (hnew : P (message, .connectionScopedState outbox.connectionGeneration false)) :
    ∀ e ∈ (outbox.coalesceOrAppend codec message).entries, P e := by
  have hcases := coalesceOrAppend_withEntries outbox outbox.entries codec message
  rw [← h.eq_withEntries] at hcases
  rcases hcases with ⟨init, previous, generation, cancelled, hsplit, -, heq⟩ | heq
  · rw [heq, withEntries_entries]
    intro e he
    rcases List.mem_append.mp he with hmem | hmem
    · exact hes e (by rw [hsplit]; exact List.mem_append_left _ hmem)
    · rw [List.mem_singleton.mp hmem]
      exact hkeeps.coalesce _ previous generation cancelled (hes _ (by rw [hsplit]; simp))
  · rw [heq, withEntries_entries]
    intro e he
    rcases List.mem_append.mp he with hmem | hmem
    · exact hes e hmem
    · rw [List.mem_singleton.mp hmem]
      exact hnew

theorem forall_pushState (hkeeps : Keeps P) (h : outbox.Sound)
    (hes : ∀ e ∈ outbox.entries, P e) (message : ProtocolMessage)
    (hnew : P (message, .connectionScopedState outbox.connectionGeneration false)) :
    ∀ e ∈ (outbox.pushConnectionScopedState codec message).2.entries, P e := by
  unfold pushConnectionScopedState
  split
  · exact hes
  · split
    · have hsame : outbox.cancelPendingParticipantStatusReports.connectionGeneration =
          outbox.connectionGeneration := by
        have heq := cancelPendingParticipantStatusReports_withEntries outbox outbox.entries
        rw [← h.paired.eq_withEntries] at heq
        rw [heq]
        rfl
      exact forall_coalesceOrAppend codec hkeeps h.cancelStatus.paired
        (forall_cancelStatus hkeeps h.paired hes) message (by rw [hsame]; exact hnew)
    · exact forall_coalesceOrAppend codec hkeeps h.paired hes message hnew

/-- What holds of every entry, and of what an operation appends, holds of every
    entry afterwards. -/
theorem forall_step (hkeeps : Keeps P) (h : outbox.Sound) (hes : ∀ e ∈ outbox.entries, P e)
    (op : OutboxOp) (hnew : ∀ e, appended outbox op = some e → P e) :
    ∀ e ∈ (outboxStep codec outbox op).entries, P e := by
  cases op with
  | pushBack message =>
    by_cases hs : message.isState
    · simp only [appended, hs, if_true] at hnew
      simp only [outboxStep, pushBack, hs, if_true]
      exact forall_pushState codec hkeeps h hes message (hnew _ rfl)
    · simp only [appended, hs, if_false, Bool.false_eq_true] at hnew
      simp only [outboxStep, pushBack, hs, if_false, Bool.false_eq_true]
      exact forall_insertReliable h.paired hes message _ (hnew _ rfl)
  | pushConnectionScopedReliable message room localMediaGeneration requestNonce =>
    simp only [outboxStep, pushConnectionScopedReliable]
    split
    · exact hes
    · exact forall_insertReliable (h.invalidate _ live_cancelRequest).paired
        (forall_invalidate h.paired hes hkeeps.request) _ _ (hnew _ rfl)
  | pushConnectionScopedCausalState message =>
    simp only [outboxStep, pushConnectionScopedCausalState]
    split
    · exact hes
    · exact forall_insertReliable h.paired hes _ _ (hnew _ rfl)
  | pushReadinessIntent message room membershipEpoch =>
    simp only [outboxStep, pushReadinessIntent]
    split
    · exact hes
    · exact forall_insertReliable (h.invalidate _ live_cancelIntent).paired
        (forall_invalidate h.paired hes hkeeps.intent) _ _ (hnew _ rfl)
  | pushConnectionScopedState message =>
    exact forall_pushState codec hkeeps h hes message (hnew _ rfl)
  | cancelReadinessIntents => exact forall_invalidate h.paired hes hkeeps.intent
  | cancelConnectionScopedReliable => exact forall_invalidate h.paired hes hkeeps.request
  | cancelPendingParticipantStatusReports => exact forall_cancelStatus hkeeps h.paired hes
  | retainConnectionScopedReliableScope => exact forall_invalidate h.paired hes hkeeps.request
  | frontForDelivery =>
    have hsame : (outboxStep codec outbox .frontForDelivery).entries = outbox.entries := by
      simp only [outboxStep, frontForDeliveryWithStatus]
      split
      · rfl
      · split <;> rfl
    rw [hsame]
    exact hes
  | acknowledgeFront lease =>
    show ∀ e ∈ (outbox.acknowledgeFront lease).2.entries, P e
    by_cases hl : outbox.leasedFront = some lease
    · obtain ⟨e, es, hcons⟩ := front_of_lease h hl
      rw [acknowledgeFront_current h hl hcons, withEntries_entries]
      intro e' he'
      exact hes e' (by rw [hcons]; exact List.mem_cons_of_mem e he')
    · rw [acknowledgeFront_stale hl]
      exact hes
  | releaseFront lease =>
    show ∀ e ∈ (outbox.releaseFront lease).2.entries, P e
    by_cases hl : outbox.leasedFront = some lease
    · obtain ⟨e, es, hcons⟩ := front_of_lease h hl
      rw [releaseFront_current h hl hcons, withEntries_entries]
      intro e' he'
      rcases List.mem_append.mp he' with hmem | hmem
      · have he : P e := hes e (by rw [hcons]; exact List.mem_cons_self)
        have hreleased := Option.mem_toList.mp hmem
        unfold releasedEntry at hreleased
        split at hreleased
        · cases hreleased
        · split at hreleased
          · exact hkeeps.strip e e' he hreleased
          · obtain rfl := Option.some.inj hreleased
            exact he
      · exact hes e' (by rw [hcons]; exact List.mem_cons_of_mem e hmem)
    · rw [releaseFront_stale hl]
      exact hes
  | beginConnectionGeneration =>
    show ∀ e ∈ outbox.beginConnectionGeneration.entries, P e
    rw [beginConnectionGeneration_entries h]
    intro e he
    exact hes e (List.mem_filter.mp he).1
  | activateConnectionGeneration => exact hes

theorem keeps_apart : Keeps Apart where
  request e he hcarries := by
    rw [(aged_cancelRequest e.2).state]
    exact he hcarries
  intent e he hcarries := by
    rw [(aged_cancelIntent e.2).state]
    exact he hcarries
  status e he hcarries := by
    rw [(aged_statusCancelled e.2).state]
    exact he hcarries
  strip e e' he h := by
    obtain ⟨-, hstripped, hsame⟩ := stripEntry_some h
    cases hstate : e.2.isConnectionScopedState with
    | false => rw [hsame hstate]; exact he
    | true => exact fun _ => (hstripped hstate).2.2
  coalesce _ _ _ _ _ _ := rfl

theorem apart_of_not_carrying {message : ProtocolMessage} {delivery : ProtocolDelivery}
    (h : (!message.carriesParticipantStatus) = true) : Apart (message, delivery) := by
  intro hcarries
  rw [show message.carriesParticipantStatus = true from hcarries] at h
  cases h

theorem apart_appended {op : OutboxOp} (hop : op.keepsStatusApart = true) {e : OutboxEntry}
    (h : appended outbox op = some e) : Apart e := by
  cases op with
  | pushBack message =>
    simp only [appended] at h
    split at h
    · obtain rfl := Option.some.inj h
      exact fun _ => rfl
    · next hs =>
      obtain rfl := Option.some.inj h
      intro hcarries
      cases message <;> first | exact absurd rfl hs | cases hcarries
  | pushConnectionScopedReliable =>
    obtain rfl := Option.some.inj h
    exact apart_of_not_carrying hop
  | pushConnectionScopedCausalState =>
    obtain rfl := Option.some.inj h
    exact apart_of_not_carrying hop
  | pushReadinessIntent =>
    obtain rfl := Option.some.inj h
    exact apart_of_not_carrying hop
  | pushConnectionScopedState =>
    obtain rfl := Option.some.inj h
    exact fun _ => rfl
  | _ => cases h

theorem apart_run (h : outbox.Sound) (hes : ∀ e ∈ outbox.entries, Apart e) (ops : List OutboxOp)
    (hops : ∀ op ∈ ops, op.keepsStatusApart = true) :
    ∀ e ∈ (runFrom (outboxStep codec) outbox ops).entries, Apart e := by
  induction ops generalizing outbox with
  | nil => exact hes
  | cons op ops ih =>
    have hop : op.keepsStatusApart = true := hops op List.mem_cons_self
    apply ih (h.step codec op)
      (forall_step codec keeps_apart h hes op fun e he => apart_appended hop he)
    intro op' hop'
    exact hops op' (List.mem_cons_of_mem op hop')

end keeps

/-! ### Every run of the outbox -/

/-- The outbox after a sequence of operations on an empty one. -/
def outboxAfter (codec : WireCodec) (ops : List OutboxOp) : ProtocolOutbox :=
  runFrom (outboxStep codec) ProtocolOutbox.empty ops

/-- An entry that carries a participant status. -/
def carriesStatus (e : OutboxEntry) : Bool := e.1.carriesParticipantStatus

/-- What holds of the outbox after the operations `ops`. -/
structure LosesNothing (codec : WireCodec) (ops : List OutboxOp) : Prop where
  /-- The two queues have equal length. -/
  paired : (outboxAfter codec ops).pending.length = (outboxAfter codec ops).delivery.length
  /-- A leased front exists, and keeps its message for the whole lease. -/
  staged : ∀ lease, (outboxAfter codec ops).leasedFront = some lease →
    ∃ message, (outboxAfter codec ops).pending.head? = some message ∧
      ∀ more, HeldAlong codec lease (outboxAfter codec ops) more →
        (runFrom (outboxStep codec) (outboxAfter codec ops) more).pending.head? = some message
  /-- The durable messages are those pushed, in order, minus those acknowledged. -/
  durable : emitted (outboxStep codec) acknowledgedDurable ProtocolOutbox.empty ops ++
      durableOf (outboxAfter codec ops).entries =
    emitted (outboxStep codec) pushedDurable ProtocolOutbox.empty ops
  /-- A lease that was issued and has ended does nothing, for as long as fewer
      than `2 ^ 64 - 1` leases were issued after it. -/
  stale : ∀ earlier first second lease, ops = earlier ++ .frontForDelivery :: (first ++ second) →
    issuedLease (outboxAfter codec earlier) .frontForDelivery = [lease] →
    (outboxAfter codec (earlier ++ .frontForDelivery :: first)).leasedFront ≠ some lease →
    (issuedLeases codec (outboxAfter codec (earlier ++ [.frontForDelivery]))
      (first ++ second)).length < 2 ^ 64 - 1 →
    (outboxAfter codec ops).acknowledgeFront lease = (none, outboxAfter codec ops) ∧
      (outboxAfter codec ops).releaseFront lease = (false, outboxAfter codec ops)
  /-- Only durable messages survive a new connection generation. -/
  connection : ∀ e ∈ (outboxAfter codec ops).beginConnectionGeneration.entries, e.2 = .reliable
  /-- A request or intent that is cancelled under its lease is gone when the
      lease is released. -/
  cancelled : ∀ lease op more e rest,
    HeldAlong codec lease (outboxAfter codec ops) (op :: more) →
    (outboxAfter codec ops).entries = e :: rest →
    cancelsDelivery (outboxAfter codec ops) op e.2 = true →
    ((outboxAfter codec (ops ++ op :: more)).releaseFront lease).2.entries =
      (outboxAfter codec (ops ++ op :: more)).entries.tail
  /-- A participant status that is cancelled under its lease is stripped when
      the lease is released. -/
  stripped : ∀ lease op more message delivery rest,
    HeldAlong codec lease (outboxAfter codec ops) (op :: more) →
    (outboxAfter codec ops).entries = (message, delivery) :: rest →
    delivery.isConnectionScopedState = true → cancelsStatus (outboxAfter codec ops) op = true →
    ∃ front : Option OutboxEntry,
      ((outboxAfter codec (ops ++ op :: more)).releaseFront lease).2.entries =
        front.toList ++ (outboxAfter codec (ops ++ op :: more)).entries.tail ∧
      ∀ e ∈ front, carriesStatus e = false
  /-- Of the entries no writer holds, at most one is a scoped request. -/
  oneRequest : (outboxAfter codec ops).unleased.countP
    (fun e => e.2.isConnectionScopedReliable) ≤ 1
  /-- At most one is a readiness intent. -/
  oneIntent : (outboxAfter codec ops).unleased.countP (fun e => e.2.isReadinessIntent) ≤ 1
  /-- At most one observational State carries a participant status. -/
  oneStatus : (outboxAfter codec ops).unleased.countP
    (fun e => e.2.isConnectionScopedState && carriesStatus e) ≤ 1
  /-- And no other entry does, where the callers keep statuses apart. -/
  oneReport : (∀ op ∈ ops, op.keepsStatusApart = true) →
    (outboxAfter codec ops).unleased.countP carriesStatus ≤ 1

section guarantees

open ProtocolOutbox

theorem outboxAfter_sound (codec : WireCodec) (ops : List OutboxOp) :
    (outboxAfter codec ops).Sound :=
  invariant_of_step (fun _ op h => h.step codec op) empty_sound ops

theorem outboxAfter_append (codec : WireCodec) (first second : List OutboxOp) :
    outboxAfter codec (first ++ second) =
      runFrom (outboxStep codec) (outboxAfter codec first) second :=
  runFrom_append _ _ _ _

variable {outbox : ProtocolOutbox}

theorem mem_unleased (e : OutboxEntry) (h : e ∈ outbox.unleased) : e ∈ outbox.entries := by
  unfold unleased at h
  split at h
  · exact List.mem_of_mem_tail h
  · exact h

/-- At most one unleased entry is of a kind whose settled entries are live. -/
theorem countP_unleased_le (h : outbox.Sound) (slot : Slot) {p : OutboxEntry → Bool}
    (hp : ∀ e ∈ outbox.entries, p e = true → settled e = true → live slot e = true) :
    outbox.unleased.countP p ≤ 1 := by
  have hsettled : ∀ e ∈ outbox.unleased, settled e = true := h.tidy.settledRest
  have hsub : outbox.unleased.Sublist outbox.entries := by
    unfold unleased
    split
    · exact List.tail_sublist _
    · exact List.Sublist.refl _
  calc outbox.unleased.countP p
      ≤ outbox.unleased.countP (live slot) := by
        apply List.countP_mono_left
        intro e he hpe
        exact hp e (mem_unleased e he) hpe (hsettled e he)
    _ ≤ outbox.entries.countP (live slot) := hsub.countP_le
    _ ≤ 1 := h.tidy.oneLive slot

theorem head_of_entries (h : outbox.Paired) {e : OutboxEntry} {es : List OutboxEntry}
    (hes : outbox.entries = e :: es) : outbox.pending.head? = some e.1 := by
  rw [h.eq_withEntries, withEntries_pending_head, hes]
  rfl

theorem live_status_of_settled {e : OutboxEntry}
    (h : (e.2.isConnectionScopedState && carriesStatus e) = true) (hs : settled e = true) :
    live .status e = true := by
  simp only [settled, Bool.and_eq_true] at hs
  simp only [carriesStatus] at h
  simp only [live, h, hs.2, Bool.and_self]

/-- The outbox loses and duplicates nothing, over every sequence of operations. -/
theorem outbox_loses_nothing (codec : WireCodec) (ops : List OutboxOp) :
    LosesNothing codec ops := by
  have hsound := outboxAfter_sound codec ops
  refine
    { paired := hsound.paired
      staged := ?_
      durable := ?_
      stale := ?_
      connection := ?_
      cancelled := ?_
      stripped := ?_
      oneRequest := ?_
      oneIntent := ?_
      oneStatus := ?_
      oneReport := ?_ }
  · intro lease hl
    obtain ⟨e, es, hes⟩ := front_of_lease hsound hl
    refine ⟨e.1, head_of_entries hsound.paired hes, ?_⟩
    intro more hheld
    obtain ⟨e', rest, hes', hmessage, -⟩ := front_run codec hsound more hheld e es hes
    have hlater : (runFrom (outboxStep codec) (outboxAfter codec ops) more).Sound :=
      invariant_of_step (fun _ op h => h.step codec op) hsound more
    rw [head_of_entries hlater.paired hes', hmessage]
  · exact @ledger_of_step _ _ _ (outboxStep codec) Sound (fun outbox => durableOf outbox.entries)
      acknowledgedDurable pushedDurable (fun _ op h => h.step codec op)
      (fun _ op h => durable_step codec h op) empty empty_sound ops
  · intro earlier first second lease hops hissue hended hwindow
    subst hops
    have hearlier := outboxAfter_sound codec earlier
    have hstart : outboxAfter codec (earlier ++ [.frontForDelivery]) =
        outboxStep codec (outboxAfter codec earlier) .frontForDelivery :=
      outboxAfter_append codec earlier [.frontForDelivery]
    rw [outboxAfter_append, runFrom_cons] at hended
    rw [hstart] at hwindow
    have hends : (outboxAfter codec
        (earlier ++ .frontForDelivery :: (first ++ second))).leasedFront ≠ some lease := by
      rw [outboxAfter_append, runFrom_cons]
      rcases lease_step codec hearlier .frontForDelivery with ⟨hnone, -⟩ | ⟨-, hnone, -, hsome⟩
      · rw [hissue] at hnone
        cases hnone
      · apply stale_lease codec hearlier hnone _ first second hended hwindow
        rw [hsome]
        have hfront := front_issue hnone hissue
        rw [hfront]
    exact ⟨acknowledgeFront_stale hends, releaseFront_stale hends⟩
  · intro e he
    rw [beginConnectionGeneration_entries hsound] at he
    have hkind := (List.mem_filter.mp he).2
    cases hd : e.2 <;> rw [hd] at hkind <;> first | rfl | cases hkind
  · intro lease op more e rest hheld hes hcancels
    obtain ⟨hl, -⟩ := heldAlong_cons codec hheld
    obtain ⟨e₁, rest₁, hmarked, hdiscard⟩ := cancels_marks codec hsound hl hes hcancels
    obtain ⟨e', rest', hes', -, -, haged, hrelease⟩ :=
      marked_front_at_release codec hsound hheld hes hmarked
    rw [outboxAfter_append, hrelease, hes']
    simp [releasedEntry, haged.discard hdiscard]
  · intro lease op more message delivery rest hheld hes hstate hcancels
    obtain ⟨hl, -⟩ := heldAlong_cons codec hheld
    obtain ⟨e₁, rest₁, hmarked, hcancelled⟩ :=
      cancelsStatus_marks codec hsound hl hes hstate hcancels
    obtain ⟨e', rest', hes', -, haged, haged₁, hrelease⟩ :=
      marked_front_at_release codec hsound hheld hes hmarked
    refine ⟨releasedEntry e', ?_, ?_⟩
    · rw [outboxAfter_append, hrelease, hes']
      rfl
    · intro e he
      have hstate' : e'.2.isConnectionScopedState = true := haged.state.trans hstate
      have hreleased : releasedEntry e' = some e := he
      unfold releasedEntry at hreleased
      split at hreleased
      · cases hreleased
      · rw [if_pos (haged₁.status hcancelled)] at hreleased
        exact ((stripEntry_some hreleased).2.1 hstate').1
  · apply countP_unleased_le hsound .request
    intro e _ hkind hs
    simp only [settled, Bool.and_eq_true] at hs
    simp only [live, hkind, hs.1, Bool.and_self]
  · apply countP_unleased_le hsound .intent
    intro e _ hkind hs
    simp only [settled, Bool.and_eq_true] at hs
    simp only [live, hkind, hs.1, Bool.and_self]
  · apply countP_unleased_le hsound .status
    intro e _ hkind hs
    exact live_status_of_settled hkind hs
  · intro hops
    have hapart := apart_run codec empty_sound (by intro e he; cases he) ops hops
    apply countP_unleased_le hsound .status
    intro e he hcarries hs
    have hstate : e.2.isConnectionScopedState = true := hapart e he hcarries
    exact live_status_of_settled (by rw [hstate, hcarries]; rfl) hs

/-! ### Lease numbers wrap around -/

/-- A codec that decodes no extension. -/
def plainCodec : WireCodec := ⟨fun _ => none, fun _ => none⟩

/-- A durable message. -/
def chatLine : ProtocolMessage := .chat (.string "hello")

/-- A front that is staged again and again by connections that fail at once. -/
def failedConnections (n : Nat) : List OutboxOp :=
  (List.replicate n [OutboxOp.frontForDelivery, .beginConnectionGeneration]).flatten

/-- One unleased durable message waits. -/
structure Waits (outbox : ProtocolOutbox) (next : Nat) : Prop where
  pending : outbox.pending = [chatLine]
  delivery : outbox.delivery = [.reliable]
  lease : outbox.leasedFront = none
  counter : outbox.nextLease = next

theorem waits_stage {next : Nat} (h : Waits outbox next) :
    (outboxStep plainCodec outbox .frontForDelivery).leasedFront = some (leaseAfter next) ∧
      (outboxStep plainCodec outbox .frontForDelivery).pending = [chatLine] := by
  have hhead : outbox.pending.head? = some chatLine := by rw [h.pending]; rfl
  simp only [outboxStep, frontForDelivery_unleased h.lease chatLine hhead, h.counter, h.pending]
  exact ⟨trivial, trivial⟩

theorem waits_failedConnection {next : Nat} (h : Waits outbox next) :
    Waits (runFrom (outboxStep plainCodec) outbox [.frontForDelivery, .beginConnectionGeneration])
      (leaseAfter next) := by
  have hhead : outbox.pending.head? = some chatLine := by rw [h.pending]; rfl
  constructor <;>
    simp [outboxStep, frontForDelivery_unleased h.lease chatLine hhead, h.counter,
      beginConnectionGeneration, retainDeliveries, h.pending, h.delivery, retainLoop,
      ProtocolDelivery.isReliable]

theorem waits_failedConnections {next : Nat} (h : Waits outbox next) (n : Nat) :
    Waits (runFrom (outboxStep plainCodec) outbox (failedConnections n))
      (leaseAfter^[n] next) := by
  induction n generalizing outbox next with
  | zero => exact h
  | succ n ih =>
    have hsplit : failedConnections (n + 1) =
        [.frontForDelivery, .beginConnectionGeneration] ++ failedConnections n := by
      rw [failedConnections, List.replicate_succ, List.flatten_cons]
      rfl
    rw [hsplit, runFrom_append, Function.iterate_succ_apply]
    exact ih (waits_failedConnection h)

/-- The front staged after `n` more failed connections. -/
theorem staged_after_failedConnections (n : Nat) :
    (outboxAfter plainCodec ([.pushBack chatLine] ++ .frontForDelivery ::
        ([.beginConnectionGeneration] ++ (failedConnections n ++
          [.frontForDelivery])))).leasedFront =
        some (leaseAfter (leaseAfter^[n] (leaseAfter 0))) ∧
      (outboxAfter plainCodec ([.pushBack chatLine] ++ .frontForDelivery ::
        ([.beginConnectionGeneration] ++ (failedConnections n ++
          [.frontForDelivery])))).pending = [chatLine] := by
  have hstart : Waits (outboxAfter plainCodec [.pushBack chatLine]) 0 := ⟨rfl, rfl, rfl, rfl⟩
  have hwaits := waits_failedConnections (waits_failedConnection hstart) n
  have hsplit : ([.pushBack chatLine] ++ .frontForDelivery ::
      ([.beginConnectionGeneration] ++ (failedConnections n ++
        [.frontForDelivery])) : List OutboxOp) =
      ([.pushBack chatLine] ++ [.frontForDelivery, .beginConnectionGeneration] ++
        failedConnections n) ++ [.frontForDelivery] := by
    simp only [List.cons_append, List.nil_append]
  rw [hsplit, outboxAfter_append, outboxAfter_append, outboxAfter_append]
  exact waits_stage hwaits

/-- After `2 ^ 64 - 1` leases the numbers repeat: the first lease, whose
    connection is long gone, then acknowledges a message that a later
    connection staged. -/
theorem wrapped_lease_acknowledges :
    issuedLease (outboxAfter plainCodec [.pushBack chatLine]) .frontForDelivery = [1] ∧
      (outboxAfter plainCodec ([.pushBack chatLine] ++ .frontForDelivery ::
        [.beginConnectionGeneration])).leasedFront ≠ some 1 ∧
      ((outboxAfter plainCodec ([.pushBack chatLine] ++ .frontForDelivery ::
        ([.beginConnectionGeneration] ++ (failedConnections (2 ^ 64 - 2) ++
          [.frontForDelivery])))).acknowledgeFront 1).1 = some chatLine := by
  have hone : leaseAfter (leaseAfter^[2 ^ 64 - 2] (leaseAfter 0)) = 1 := by
    rw [leaseAfter_iterate (leaseAfter_range 0)]
    decide
  obtain ⟨hlease, hpending⟩ := staged_after_failedConnections (2 ^ 64 - 2)
  rw [hone] at hlease
  refine ⟨rfl, ?_, ?_⟩
  · intro h
    cases h
  · -- The run itself stays folded: it is far too long to be computed.
    generalize outboxAfter plainCodec ([.pushBack chatLine] ++ .frontForDelivery ::
      ([.beginConnectionGeneration] ++ (failedConnections (2 ^ 64 - 2) ++
        [.frontForDelivery]))) = outbox at hlease hpending ⊢
    rw [acknowledgeFront, if_neg (by rw [hlease]; exact not_not_intro rfl), hpending]

end guarantees

end Sorotte.Client
