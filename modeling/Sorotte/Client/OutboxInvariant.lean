import Sorotte.Client.OutboxQueue

/-! # The invariant of the outbox

  What every outbox operation keeps: paired queues, a front for every lease,
  no pending cancellation behind the leased front, and at most one live entry
  of each kind of which a newer entry supersedes an older one.
-/

namespace Sorotte.Client

/-! ### Superseding kinds -/

/-- The kinds of which a newer entry supersedes an older one. -/
inductive Slot where
  | request | intent | status

/-- Entry `e` is a live entry of the kind: not marked for disposal. -/
def live : Slot → OutboxEntry → Bool
  | .request, e => e.2.isConnectionScopedReliable && !e.2.discardCancelled
  | .intent, e => e.2.isReadinessIntent && !e.2.discardCancelled
  | .status, e =>
    e.2.isConnectionScopedState && e.1.carriesParticipantStatus
      && !e.2.participantStatusIsCancelled

/-- No cancellation is pending on the entry. -/
def settled (e : OutboxEntry) : Bool :=
  !e.2.discardCancelled && !e.2.participantStatusIsCancelled

/-- The invariant of a queue whose front may be leased. -/
structure Tidy (leased : Bool) (es : List OutboxEntry) : Prop where
  front : leased = true → es ≠ []
  settledRest : ∀ e ∈ (if leased then es.tail else es), settled e = true
  oneLive : ∀ slot, es.countP (live slot) ≤ 1

section edits

variable {leased : Bool} {es : List OutboxEntry} {e : OutboxEntry}

theorem countP_filterMap_le {p : OutboxEntry → Bool} {g : OutboxEntry → Option OutboxEntry}
    (hg : ∀ e e', g e = some e' → p e' = true → p e = true) (es : List OutboxEntry) :
    (es.filterMap g).countP p ≤ es.countP p := by
  induction es with
  | nil => simp
  | cons e es ih =>
    cases hge : g e with
    | none =>
      rw [List.filterMap_cons_none hge]
      exact Nat.le_trans ih ((List.sublist_cons_self e es).countP_le)
    | some e' =>
      rw [List.filterMap_cons_some hge, List.countP_cons, List.countP_cons]
      by_cases hp : p e' = true
      · rw [if_pos hp, if_pos (hg e e' hge hp)]
        omega
      · rw [if_neg hp]
        omega

/-- An edit that revives nothing keeps the queue tidy. -/
theorem Tidy.edit {front : OutboxEntry → OutboxEntry}
    {rest : List OutboxEntry → List OutboxEntry} (h : Tidy leased es)
    (hfront : ∀ slot e, live slot (front e) = true → live slot e = true)
    (hrest : ∀ slot es, (rest es).countP (live slot) ≤ es.countP (live slot))
    (hsettled : ∀ es, (∀ e ∈ es, settled e = true) → ∀ e ∈ rest es, settled e = true) :
    Tidy leased (onLeased leased front rest es) := by
  cases es with
  | nil => exact h
  | cons e es =>
    cases leased with
    | false =>
      refine ⟨by simp, hsettled _ h.settledRest, ?_⟩
      intro slot
      exact Nat.le_trans (hrest slot (e :: es)) (h.oneLive slot)
    | true =>
      refine ⟨by simp [onLeased], hsettled _ h.settledRest, ?_⟩
      intro slot
      have hone := h.oneLive slot
      have htail := hrest slot es
      rw [List.countP_cons] at hone
      show (front e :: rest es).countP (live slot) ≤ 1
      rw [List.countP_cons]
      by_cases hl : live slot (front e) = true
      · rw [if_pos (hfront slot e hl)] at hone
        rw [if_pos hl]
        omega
      · rw [if_neg hl]
        split at hone <;> omega

/-- A settled entry may join when no live entry of its kinds is queued. -/
theorem Tidy.append (h : Tidy leased es) (he : settled e = true)
    (hlive : ∀ slot, live slot e = true → es.countP (live slot) = 0) :
    Tidy leased (es ++ [e]) := by
  refine ⟨by simp, ?_, ?_⟩
  · have hrest := h.settledRest
    cases leased with
    | false =>
      intro e' he'
      rcases List.mem_append.mp he' with hmem | hmem
      · exact hrest e' hmem
      · rw [List.mem_singleton.mp hmem]; exact he
    | true =>
      have hne : es ≠ [] := h.front rfl
      intro e' he'
      simp only [if_true, List.tail_append_of_ne_nil hne] at he'
      rcases List.mem_append.mp he' with hmem | hmem
      · exact hrest e' hmem
      · rw [List.mem_singleton.mp hmem]; exact he
  · intro slot
    rw [List.countP_append, List.countP_singleton]
    by_cases hl : live slot e = true
    · rw [hlive slot hl, if_pos hl]
    · rw [if_neg hl]
      exact h.oneLive slot

/-- Once the lease is over, its front stays settled or is gone. -/
theorem Tidy.release {front : Option OutboxEntry} (h : Tidy true (e :: es))
    (hsettled : ∀ e', front = some e' → settled e' = true)
    (hlive : ∀ slot e', front = some e' → live slot e' = true → live slot e = true) :
    Tidy false (front.toList ++ es) := by
  have hrest : ∀ e' ∈ es, settled e' = true := h.settledRest
  refine ⟨by simp, ?_, ?_⟩
  · intro e' he'
    rcases List.mem_append.mp he' with hmem | hmem
    · exact hsettled e' (Option.mem_toList.mp hmem)
    · exact hrest e' hmem
  · intro slot
    have hone := h.oneLive slot
    rw [List.countP_cons] at hone
    rw [List.countP_append]
    cases hf : front with
    | none =>
      simp only [Option.toList_none, List.countP_nil]
      split at hone <;> omega
    | some e' =>
      rw [Option.toList_some, List.countP_singleton]
      by_cases hl : live slot e' = true
      · rw [if_pos (hlive slot e' hf hl)] at hone
        rw [if_pos hl]
        omega
      · rw [if_neg hl]
        split at hone <;> omega

end edits

/-! ### Liveness of the single edits -/

theorem live_cancelRequest (slot : Slot) (m : ProtocolMessage) (d : ProtocolDelivery)
    (h : live slot (m, d.cancelRequest) = true) : live slot (m, d) = true := by
  cases d with
  | connectionScopedReliable => cases slot <;> simp [live, ProtocolDelivery.cancelRequest,
      ProtocolDelivery.isConnectionScopedReliable, ProtocolDelivery.discardCancelled,
      ProtocolDelivery.isReadinessIntent, ProtocolDelivery.isConnectionScopedState] at h
  | _ => exact h

theorem live_cancelIntent (slot : Slot) (m : ProtocolMessage) (d : ProtocolDelivery)
    (h : live slot (m, d.cancelIntent) = true) : live slot (m, d) = true := by
  cases d with
  | connectionRoomScopedReadinessIntent => cases slot <;> simp [live,
      ProtocolDelivery.cancelIntent, ProtocolDelivery.isConnectionScopedReliable,
      ProtocolDelivery.discardCancelled, ProtocolDelivery.isReadinessIntent,
      ProtocolDelivery.isConnectionScopedState] at h
  | _ => exact h

theorem live_statusCancelled (slot : Slot) (m : ProtocolMessage) (d : ProtocolDelivery)
    (h : live slot (m, d.setParticipantStatusCancelled true) = true) : live slot (m, d) = true := by
  cases d with
  | connectionScopedState => cases slot <;> simp [live,
      ProtocolDelivery.setParticipantStatusCancelled, ProtocolDelivery.isConnectionScopedReliable,
      ProtocolDelivery.isReadinessIntent, ProtocolDelivery.isConnectionScopedState,
      ProtocolDelivery.participantStatusIsCancelled] at h
  | _ => exact h

theorem withoutParticipantStatus_carries (payload : StatePayload) :
    payload.withoutParticipantStatus.carriesParticipantStatus = false := by
  simp [StatePayload.carriesParticipantStatus, StatePayload.withoutParticipantStatus]

/-- A stripped entry carries no participant status, and keeps its kind. -/
theorem stripEntry_some {e e' : OutboxEntry} (h : stripEntry e = some e') :
    e'.2.isReliable = e.2.isReliable ∧
      (e.2.isConnectionScopedState = true →
        e'.1.carriesParticipantStatus = false ∧ e'.2.participantStatusIsCancelled = false ∧
          e'.2.isConnectionScopedState = true) ∧
      (e.2.isConnectionScopedState = false → e' = e) := by
  obtain ⟨m, d⟩ := e
  cases d with
  | connectionScopedState generation cancelled =>
    cases m with
    | state payload =>
      simp only [stripEntry, ProtocolDelivery.isConnectionScopedState, if_true] at h
      split at h
      · cases h
      · obtain rfl := Option.some.inj h
        exact ⟨rfl, fun _ => ⟨withoutParticipantStatus_carries payload, rfl, rfl⟩,
          fun hfalse => by simp [ProtocolDelivery.isConnectionScopedState] at hfalse⟩
    | _ =>
      obtain rfl := Option.some.inj h
      exact ⟨rfl, fun _ => ⟨rfl, rfl, rfl⟩,
        fun hfalse => by simp [ProtocolDelivery.isConnectionScopedState] at hfalse⟩
  | _ =>
    obtain rfl := Option.some.inj h
    exact ⟨rfl, fun htrue => by simp [ProtocolDelivery.isConnectionScopedState] at htrue,
      fun _ => rfl⟩

theorem live_stripEntry (slot : Slot) (e e' : OutboxEntry) (h : stripEntry e = some e')
    (hlive : live slot e' = true) : live slot e = true := by
  obtain ⟨-, hstripped, hsame⟩ := stripEntry_some h
  cases hstate : e.2.isConnectionScopedState with
  | false => rw [← hsame hstate]; exact hlive
  | true =>
    obtain ⟨hcarries, -, hkind⟩ := hstripped hstate
    -- A stripped State is live in no slot.
    cases hd : e'.2 <;> rw [hd] at hkind <;> cases slot <;>
      simp_all [live, ProtocolDelivery.isConnectionScopedState,
        ProtocolDelivery.isConnectionScopedReliable, ProtocolDelivery.isReadinessIntent]

theorem settled_stripEntry (e e' : OutboxEntry) (h : stripEntry e = some e')
    (hsettled : settled e = true) : settled e' = true := by
  obtain ⟨-, hstripped, hsame⟩ := stripEntry_some h
  cases hstate : e.2.isConnectionScopedState with
  | false => rw [hsame hstate]; exact hsettled
  | true =>
    obtain ⟨-, hcancelled, hkind⟩ := hstripped hstate
    cases hd : e'.2 <;> rw [hd] at hkind hcancelled <;>
      simp_all [settled, ProtocolDelivery.isConnectionScopedState,
        ProtocolDelivery.discardCancelled]

/-! ### The edits keep the queue tidy -/

section tidy

variable {leased : Bool} {es : List OutboxEntry}

theorem Tidy.invalidate {mark : ProtocolDelivery → ProtocolDelivery} (h : Tidy leased es)
    (shouldCancel : ProtocolDelivery → Bool)
    (hmark : ∀ slot m d, live slot (m, mark d) = true → live slot (m, d) = true) :
    Tidy leased (onLeased leased (fun e => if shouldCancel e.2 then (e.1, mark e.2) else e)
      (List.filter fun e => !shouldCancel e.2) es) := by
  apply h.edit
  · intro slot e hlive
    split at hlive
    · exact hmark slot e.1 e.2 hlive
    · exact hlive
  · intro slot es
    exact List.Sublist.countP_le List.filter_sublist
  · intro es hes e he
    exact hes e ((List.mem_filter.mp he).1)

theorem Tidy.cancelStatus (h : Tidy leased es) :
    Tidy leased (onLeased leased (fun e => (e.1, e.2.setParticipantStatusCancelled true))
      (List.filterMap stripEntry) es) := by
  apply h.edit
  · intro slot e hlive
    exact live_statusCancelled slot e.1 e.2 hlive
  · intro slot es
    exact countP_filterMap_le (live_stripEntry slot) es
  · intro es hes e' he'
    obtain ⟨e, he, hstrip⟩ := List.mem_filterMap.mp he'
    exact settled_stripEntry e e' hstrip (hes e he)

/-- No live entry is left of a kind that an edit marks at the front and removes
    behind it. -/
theorem countP_onLeased_eq_zero {slot : Slot} {front : OutboxEntry → OutboxEntry}
    {rest : List OutboxEntry → List OutboxEntry}
    (hfront : ∀ e, live slot (front e) = false)
    (hrest : ∀ es, ∀ e ∈ rest es, live slot e = false) (leased : Bool) (es : List OutboxEntry) :
    (onLeased leased front rest es).countP (live slot) = 0 := by
  rw [List.countP_eq_zero]
  cases es with
  | nil => intro e he; simp [onLeased] at he
  | cons e es =>
    intro e' he'
    rw [Bool.not_eq_true]
    cases leased with
    | false => exact hrest _ e' he'
    | true =>
      rcases List.mem_cons.mp he' with rfl | hmem
      · exact hfront e
      · exact hrest _ e' hmem

theorem no_live_request (leased : Bool) (es : List OutboxEntry) :
    (onLeased leased
      (fun e => if e.2.isConnectionScopedReliable then (e.1, e.2.cancelRequest) else e)
      (List.filter fun e => !e.2.isConnectionScopedReliable) es).countP (live .request) = 0 := by
  apply countP_onLeased_eq_zero
  · intro e
    split
    · cases e.2 <;> simp [live, ProtocolDelivery.cancelRequest,
        ProtocolDelivery.discardCancelled, ProtocolDelivery.isConnectionScopedReliable]
    · next h => simp [live, h]
  · intro es e he
    have := (List.mem_filter.mp he).2
    simp_all [live]

theorem no_live_intent (leased : Bool) (es : List OutboxEntry) :
    (onLeased leased (fun e => if e.2.isReadinessIntent then (e.1, e.2.cancelIntent) else e)
      (List.filter fun e => !e.2.isReadinessIntent) es).countP (live .intent) = 0 := by
  apply countP_onLeased_eq_zero
  · intro e
    split
    · cases e.2 <;> simp [live, ProtocolDelivery.cancelIntent,
        ProtocolDelivery.discardCancelled, ProtocolDelivery.isReadinessIntent]
    · next h => simp [live, h]
  · intro es e he
    have := (List.mem_filter.mp he).2
    simp_all [live]

theorem no_live_status (leased : Bool) (es : List OutboxEntry) :
    (onLeased leased (fun e => (e.1, e.2.setParticipantStatusCancelled true))
      (List.filterMap stripEntry) es).countP (live .status) = 0 := by
  apply countP_onLeased_eq_zero
  · intro e
    cases e.2 <;> simp [live, ProtocolDelivery.setParticipantStatusCancelled,
      ProtocolDelivery.participantStatusIsCancelled, ProtocolDelivery.isConnectionScopedState]
  · intro es e' he'
    obtain ⟨e, -, hstrip⟩ := List.mem_filterMap.mp he'
    obtain ⟨-, hstripped, hsame⟩ := stripEntry_some hstrip
    cases hstate : e.2.isConnectionScopedState with
    | false => rw [hsame hstate]; simp [live, hstate]
    | true => simp [live, (hstripped hstate).1]

end tidy

/-! ### Coalescing -/

theorem contains_insertAll (entries : List (String × Json)) (latest : Extra) (key : String)
    (h : (entries.foldl (fun latest entry => latest.insertIfNew entry.1 entry.2) latest).contains
      key = true) : latest.contains key = true ∨ ∃ entry ∈ entries, entry.1 = key := by
  induction entries generalizing latest with
  | nil => exact .inl h
  | cons entry entries ih =>
    rcases ih _ h with hl | ⟨entry', hmem, hkey⟩
    · rw [Std.ExtTreeMap.contains_insertIfNew] at hl
      by_cases heq : entry.1 = key
      · exact .inr ⟨entry, List.mem_cons_self, heq⟩
      · left
        simpa [heq] using hl
    · exact .inr ⟨entry', List.mem_cons_of_mem _ hmem, hkey⟩

theorem contains_mergeMissingEntries (previous latest : Extra) (key : String)
    (h : (mergeMissingEntries previous latest).contains key = true) :
    latest.contains key = true ∨ previous.contains key = true := by
  rw [mergeMissingEntries, Std.ExtTreeMap.foldl_eq_foldl_toList] at h
  rcases contains_insertAll _ _ _ h with hl | ⟨entry, hmem, hkey⟩
  · exact .inl hl
  · right
    rw [← hkey, Std.ExtTreeMap.contains_eq_isSome_getElem?,
      (Std.ExtTreeMap.mem_toList_iff_getElem?_eq_some.mp hmem)]
    rfl

theorem barrierMerge_carries (codec : WireCodec) (previous latest : StatePayload) :
    (mergePlaybackBarrierObservations codec previous latest).carriesParticipantStatus =
      latest.carriesParticipantStatus := by
  unfold mergePlaybackBarrierObservations
  split
  · simp [StatePayload.carriesParticipantStatus, Std.ExtTreeMap.contains_insert,
      sorottePlaybackBarrierV1, sorotteParticipantStatusV1]
  · rfl

/-- A coalesced message carries a participant status only from its parts. -/
theorem coalesced_carries (codec : WireCodec) (previous latest : ProtocolMessage)
    (h : (coalesced codec previous latest).carriesParticipantStatus = true) :
    latest.carriesParticipantStatus = true ∨ previous.carriesParticipantStatus = true := by
  cases previous with
  | state previous =>
    cases latest with
    | state latest =>
      have hmerge := contains_mergeMissingEntries _ _ _ h
      rcases hmerge with hl | hp
      · left
        have hbarrier := barrierMerge_carries codec previous
          { latest with
            playstate := mergePart (mergePlaystate codec) previous.playstate latest.playstate
            ping := mergePart mergePing previous.ping latest.ping
            ignoringOnTheFly :=
              mergePart mergeIgnoring previous.ignoringOnTheFly latest.ignoringOnTheFly }
        exact hbarrier.symm.trans hl
      · exact .inr hp
    | _ => exact .inl h
  | _ => exact .inl h

/-! ### Sound outboxes -/

namespace ProtocolOutbox

/-- The invariant of the outbox. -/
structure Sound (outbox : ProtocolOutbox) : Prop where
  paired : outbox.Paired
  tidy : Tidy outbox.leasedFront.isSome outbox.entries

variable {outbox : ProtocolOutbox}

theorem sound_withEntries {es : List OutboxEntry} (h : Tidy outbox.leasedFront.isSome es) :
    (outbox.withEntries es).Sound := by
  refine ⟨outbox.withEntries_paired es, ?_⟩
  rw [withEntries_entries]
  exact h

theorem Sound.invalidate (h : outbox.Sound) {mark : ProtocolDelivery → ProtocolDelivery}
    (shouldCancel : ProtocolDelivery → Bool)
    (hmark : ∀ slot m d, live slot (m, mark d) = true → live slot (m, d) = true) :
    (outbox.invalidate mark shouldCancel).Sound := by
  rw [h.paired.eq_withEntries, invalidate_withEntries]
  exact sound_withEntries (h.tidy.invalidate shouldCancel hmark)

theorem Sound.cancelStatus (h : outbox.Sound) :
    outbox.cancelPendingParticipantStatusReports.Sound := by
  rw [h.paired.eq_withEntries, cancelPendingParticipantStatusReports_withEntries]
  exact sound_withEntries h.tidy.cancelStatus

theorem Sound.append (h : outbox.Sound) (message : ProtocolMessage) (delivery : ProtocolDelivery)
    (hsettled : settled (message, delivery) = true)
    (hlive : ∀ slot, live slot (message, delivery) = true →
      outbox.entries.countP (live slot) = 0) :
    (outbox.insertReliable message delivery).Sound := by
  rw [h.paired.eq_withEntries, insertReliable_withEntries]
  exact sound_withEntries (h.tidy.append hsettled hlive)

theorem Sound.coalesceOrAppend (h : outbox.Sound) (codec : WireCodec) (message : ProtocolMessage)
    (hstatus : message.carriesParticipantStatus = true →
      outbox.entries.countP (live .status) = 0) :
    (outbox.coalesceOrAppend codec message).Sound := by
  have hcases := coalesceOrAppend_withEntries outbox outbox.entries codec message
  rw [← h.paired.eq_withEntries] at hcases
  rcases hcases with ⟨init, previous, generation, cancelled, hes, hinit, heq⟩ | heq
  · rw [heq]
    apply sound_withEntries
    have htidy := h.tidy
    rw [hes] at htidy
    refine ⟨by simp, ?_, ?_⟩
    · -- Only the message of the tail changes, and it is not leased.
      intro e he
      have hrest := htidy.settledRest
      cases hl : outbox.leasedFront.isSome with
      | false =>
        rw [hl] at hrest he
        rcases List.mem_append.mp he with hmem | hmem
        · exact hrest e (List.mem_append_left _ hmem)
        · rw [List.mem_singleton.mp hmem]
          exact hrest (previous, .connectionScopedState generation cancelled)
            (List.mem_append_right _ List.mem_cons_self)
      | true =>
        rw [hl] at hrest he
        simp only [if_true, List.tail_append_of_ne_nil (hinit hl)] at hrest he
        rcases List.mem_append.mp he with hmem | hmem
        · exact hrest e (List.mem_append_left _ hmem)
        · rw [List.mem_singleton.mp hmem]
          exact hrest (previous, .connectionScopedState generation cancelled)
            (List.mem_append_right _ List.mem_cons_self)
    · intro slot
      have hone := htidy.oneLive slot
      rw [List.countP_append, List.countP_singleton] at hone ⊢
      by_cases hnew : live slot (coalesced codec previous message,
          .connectionScopedState generation cancelled) = true
      · rw [if_pos hnew]
        cases slot with
        | request => simp [live, ProtocolDelivery.isConnectionScopedReliable] at hnew
        | intent => simp [live, ProtocolDelivery.isReadinessIntent] at hnew
        | status =>
          simp only [live, Bool.and_eq_true] at hnew
          rcases coalesced_carries codec previous message hnew.1.2 with hm | hp
          · have hzero := hstatus hm
            rw [hes, List.countP_append] at hzero
            omega
          · have hold : live .status
                (previous, .connectionScopedState generation cancelled) = true := by
              simp only [live, Bool.and_eq_true]
              exact ⟨⟨hnew.1.1, hp⟩, hnew.2⟩
            rw [if_pos hold] at hone
            exact hone
      · rw [if_neg hnew]
        split at hone <;> omega
  · rw [heq]
    apply sound_withEntries
    apply h.tidy.append rfl
    intro slot hlive
    cases slot with
    | request => simp [live, ProtocolDelivery.isConnectionScopedReliable] at hlive
    | intent => simp [live, ProtocolDelivery.isReadinessIntent] at hlive
    | status =>
      simp only [live, Bool.and_eq_true] at hlive
      exact hstatus hlive.1.2

theorem Sound.pushConnectionScopedState (h : outbox.Sound) (codec : WireCodec)
    (message : ProtocolMessage) : (outbox.pushConnectionScopedState codec message).2.Sound := by
  unfold ProtocolOutbox.pushConnectionScopedState
  split
  · exact h
  · by_cases hc : message.carriesParticipantStatus = true
    · simp only [hc, if_true]
      apply h.cancelStatus.coalesceOrAppend
      intro _
      rw [h.paired.eq_withEntries, cancelPendingParticipantStatusReports_withEntries,
        withEntries_entries]
      exact no_live_status _ _
    · simp only [hc, if_false, Bool.false_eq_true]
      exact h.coalesceOrAppend codec message (fun hcarries => absurd hcarries hc)

theorem Sound.acknowledgeFront (h : outbox.Sound) (lease : ProtocolLineLease) :
    (outbox.acknowledgeFront lease).2.Sound := by
  by_cases hl : outbox.leasedFront = some lease
  · have htidy := h.tidy
    rw [hl, Option.isSome_some] at htidy
    cases hes : outbox.entries with
    | nil => exact absurd hes (htidy.front rfl)
    | cons e es =>
      rw [hes] at htidy
      rw [h.paired.eq_withEntries, hes, acknowledgeFront_withEntries es hl e]
      apply sound_withEntries
      have hgone : Tidy false ((none : Option OutboxEntry).toList ++ es) :=
        htidy.release (by simp) (by simp)
      exact hgone
  · rw [acknowledgeFront_stale hl]
    exact h

theorem releasedEntry_settled {e e' : OutboxEntry} (h : releasedEntry e = some e') :
    settled e' = true := by
  unfold releasedEntry at h
  split at h
  · cases h
  · next hd =>
    split at h
    · next hs =>
      have hstate : e.2.isConnectionScopedState = true := by
        cases hk : e.2 <;> simp_all [ProtocolDelivery.participantStatusIsCancelled,
          ProtocolDelivery.isConnectionScopedState]
      obtain ⟨-, hcancelled, hkind⟩ := (stripEntry_some h).2.1 hstate
      cases hk : e'.2 <;> rw [hk] at hkind hcancelled <;>
        simp_all [settled, ProtocolDelivery.isConnectionScopedState,
          ProtocolDelivery.discardCancelled]
    · next hs =>
      obtain rfl := Option.some.inj h
      simp [settled, hd, hs]

theorem live_releasedEntry (slot : Slot) (e e' : OutboxEntry) (h : releasedEntry e = some e')
    (hlive : live slot e' = true) : live slot e = true := by
  unfold releasedEntry at h
  split at h
  · cases h
  · split at h
    · exact live_stripEntry slot e e' h hlive
    · obtain rfl := Option.some.inj h
      exact hlive

theorem Sound.releaseFront (h : outbox.Sound) (lease : ProtocolLineLease) :
    (outbox.releaseFront lease).2.Sound := by
  by_cases hl : outbox.leasedFront = some lease
  · have htidy := h.tidy
    rw [hl, Option.isSome_some] at htidy
    cases hes : outbox.entries with
    | nil => exact absurd hes (htidy.front rfl)
    | cons e es =>
      rw [hes] at htidy
      rw [h.paired.eq_withEntries, hes, releaseFront_withEntries es hl e]
      apply sound_withEntries
      apply htidy.release
      · intro e' he'
        exact releasedEntry_settled he'
      · intro slot e' he' hlive
        exact live_releasedEntry slot e e' he' hlive
  · rw [releaseFront_stale hl]
    exact h

theorem Sound.beginConnectionGeneration (h : outbox.Sound) :
    outbox.beginConnectionGeneration.Sound := by
  rw [h.paired.eq_withEntries, beginConnectionGeneration_withEntries]
  apply sound_withEntries
  have hreliable (e : OutboxEntry) (he : e ∈ outbox.entries.filter fun e => e.2.isReliable) :
      e.2 = .reliable := by
    have hkind := (List.mem_filter.mp he).2
    cases hd : e.2 <;> rw [hd] at hkind <;> simp_all [ProtocolDelivery.isReliable]
  refine ⟨by simp, ?_, ?_⟩
  · intro e he
    simp [settled, hreliable e he, ProtocolDelivery.discardCancelled,
      ProtocolDelivery.participantStatusIsCancelled]
  · intro slot
    have hzero : (outbox.entries.filter fun e => e.2.isReliable).countP (live slot) = 0 := by
      rw [List.countP_eq_zero]
      intro e he
      cases slot <;> simp [live, hreliable e he, ProtocolDelivery.isConnectionScopedReliable,
        ProtocolDelivery.isReadinessIntent, ProtocolDelivery.isConnectionScopedState]
    rw [hzero]
    exact Nat.zero_le 1

theorem Sound.frontForDelivery (h : outbox.Sound) : outbox.frontForDeliveryWithStatus.2.Sound := by
  cases hl : outbox.leasedFront with
  | some lease => rw [frontForDelivery_leased hl]; exact h
  | none =>
    cases hm : outbox.pending.head? with
    | none => simp only [frontForDeliveryWithStatus, hm]; exact h
    | some message =>
      rw [frontForDelivery_unleased hl message hm]
      have htidy := h.tidy
      rw [hl, Option.isSome_none] at htidy
      refine ⟨h.paired, ?_, ?_, htidy.oneLive⟩
      · intro _ hnil
        have hpending : outbox.pending = [] := by
          rw [h.paired.eq_withEntries]
          show outbox.entries.map Prod.fst = []
          rw [show outbox.entries = [] from hnil]
          rfl
        simp [hpending] at hm
      · intro e he
        exact htidy.settledRest e (List.mem_of_mem_tail he)

/-- **Invariant step.** -/
theorem Sound.step (h : outbox.Sound) (codec : WireCodec) (op : OutboxOp) :
    (outboxStep codec outbox op).Sound := by
  cases op with
  | pushBack message =>
    show (outbox.pushBack codec message).Sound
    unfold ProtocolOutbox.pushBack
    split
    · exact h.pushConnectionScopedState codec message
    · apply h.append message .reliable rfl
      intro slot hlive
      cases slot <;> cases hlive
  | pushConnectionScopedReliable message room localMediaGeneration requestNonce =>
    show (outbox.pushConnectionScopedReliable ..).2.Sound
    unfold ProtocolOutbox.pushConnectionScopedReliable
    split
    · exact h
    · apply (h.invalidate _ live_cancelRequest).append _ _ rfl
      intro slot hlive
      cases slot with
      | request =>
        rw [h.paired.eq_withEntries, invalidate_withEntries, withEntries_entries]
        exact no_live_request _ _
      | intent => cases hlive
      | status => cases hlive
  | pushConnectionScopedCausalState message =>
    show (outbox.pushConnectionScopedCausalState message).2.Sound
    unfold ProtocolOutbox.pushConnectionScopedCausalState
    split
    · exact h
    · apply h.append message .connectionScopedCausalState rfl
      intro slot hlive
      cases slot <;> cases hlive
  | pushReadinessIntent message room membershipEpoch =>
    show (outbox.pushReadinessIntent ..).2.Sound
    unfold ProtocolOutbox.pushReadinessIntent
    split
    · exact h
    · apply (h.invalidate _ live_cancelIntent).append _ _ rfl
      intro slot hlive
      cases slot with
      | request => cases hlive
      | intent =>
        rw [h.paired.eq_withEntries, invalidate_withEntries, withEntries_entries]
        exact no_live_intent _ _
      | status => cases hlive
  | pushConnectionScopedState message => exact h.pushConnectionScopedState codec message
  | cancelReadinessIntents => exact h.invalidate _ live_cancelIntent
  | cancelConnectionScopedReliable => exact h.invalidate _ live_cancelRequest
  | cancelPendingParticipantStatusReports => exact h.cancelStatus
  | retainConnectionScopedReliableScope room localMediaGeneration =>
    exact h.invalidate _ live_cancelRequest
  | frontForDelivery => exact h.frontForDelivery
  | acknowledgeFront lease => exact h.acknowledgeFront lease
  | releaseFront lease => exact h.releaseFront lease
  | beginConnectionGeneration => exact h.beginConnectionGeneration
  | activateConnectionGeneration => exact ⟨h.paired, h.tidy⟩

theorem empty_sound : empty.Sound := by
  refine ⟨rfl, ?_, ?_, ?_⟩
  · intro h; cases h
  · intro e he; cases he
  · intro slot; exact Nat.zero_le 1

end ProtocolOutbox

end Sorotte.Client
