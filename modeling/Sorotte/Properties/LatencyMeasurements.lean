import Sorotte.Ping.History

/-! # Latency cannot be forged

  A round trip is measured only by the echo of a challenge that was sent to the
  same client, which is then spent.  Timestamps increase for as long as there
  are numbers to increase to.
-/

namespace Sorotte.Ping

open Sorotte.Framework

/-! ### Where challenges and measurements come from -/

/-- The challenge was sent to the client, which has not left since. -/
def Sent (events : List Event) (clientId : String) (challenge : Binary64 × Seconds) : Prop :=
  ∃ before wireTimestamp between,
    events = before ++ .challenge clientId wireTimestamp challenge.2 :: between
      ∧ challengeTimestamp (after before).lastPingChallengeTimestamp wireTimestamp = challenge.1
      ∧ .leave clientId ∉ between

/-- The round trip is the time from a challenge to the echo of its exact value,
    and within the timeout. -/
def Measured (events : List Event) (clientId : String) (rttSeconds : Seconds) : Prop :=
  ∃ before challenge clientRtt wallNow elapsedNow since,
    events = before ++ .echo clientId (some challenge.1) clientRtt wallNow elapsedNow :: since
      ∧ Sent before clientId challenge
      ∧ rttSeconds = elapsedNow - challenge.2
      ∧ 0 ≤ rttSeconds ∧ rttSeconds ≤ protocolTimeoutSeconds
      ∧ .leave clientId ∉ since

theorem withinTimeout_iff {elapsedSeconds : Seconds} :
    withinTimeout elapsedSeconds = true ↔
      0 ≤ elapsedSeconds ∧ elapsedSeconds ≤ protocolTimeoutSeconds := by
  unfold withinTimeout
  rw [Bool.and_eq_true, decide_eq_true_eq, decide_eq_true_eq]

section Monotone

variable {events : List Event} {event : Event} {clientId : String}

theorem Sent.snoc {challenge : Binary64 × Seconds} (h : Sent events clientId challenge)
    (hstays : event ≠ .leave clientId) : Sent (events ++ [event]) clientId challenge := by
  obtain ⟨before, wireTimestamp, between, rfl, hsent, hbetween⟩ := h
  refine ⟨before, wireTimestamp, between ++ [event], ?_, hsent, ?_⟩
  · rw [List.append_assoc, List.cons_append]
  · rw [List.mem_append, List.mem_singleton, not_or]
    exact ⟨hbetween, hstays.symm⟩

theorem Measured.snoc {rttSeconds : Seconds} (h : Measured events clientId rttSeconds)
    (hstays : event ≠ .leave clientId) : Measured (events ++ [event]) clientId rttSeconds := by
  obtain ⟨before, challenge, clientRtt, wallNow, elapsedNow, since, rfl, hsent, hrtt, hlow, hhigh,
    hsince⟩ := h
  refine ⟨before, challenge, clientRtt, wallNow, elapsedNow, since ++ [event], ?_, hsent, hrtt, hlow,
    hhigh, ?_⟩
  · rw [List.append_assoc, List.cons_append]
  · rw [List.mem_append, List.mem_singleton, not_or]
    exact ⟨hsince, hstays.symm⟩

end Monotone

/-- What holds of the counters of a client after some events. -/
structure Accounted (events : List Event) (clientId : String) (counters : ClientStateCounters) :
    Prop where
  sent : ∀ challenge ∈ counters.outstandingPingChallenges, Sent events clientId challenge
  few : counters.outstandingPingChallenges.length ≤ 64
  measured : counters.metrics = {} ∨ Measured events clientId counters.metrics.pingRttSeconds

theorem Accounted.fresh (events : List Event) (clientId : String) :
    Accounted events clientId {} where
  sent challenge hchallenge := by cases hchallenge
  few := Nat.zero_le _
  measured := .inl rfl

theorem Accounted.snoc {events : List Event} {event : Event} {clientId : String}
    {counters : ClientStateCounters} (h : Accounted events clientId counters)
    (hstays : event ≠ .leave clientId) : Accounted (events ++ [event]) clientId counters where
  sent challenge hchallenge := (h.sent challenge hchallenge).snoc hstays
  few := h.few
  measured := h.measured.imp id fun hmeasured => hmeasured.snoc hstays

section Challenged

variable {counters : ClientStateCounters} {wireTimestamp : Binary64} {sentAt : Seconds}
  {challenge : Binary64 × Seconds}

theorem mem_challenged
    (h : challenge ∈ (counters.challenged wireTimestamp sentAt).outstandingPingChallenges) :
    challenge ∈ counters.outstandingPingChallenges ∨ challenge = (wireTimestamp, sentAt) := by
  unfold ClientStateCounters.challenged at h
  dsimp only at h
  rw [List.mem_append, List.mem_singleton] at h
  exact h.imp_left fun hmem => List.mem_of_mem_filter (List.mem_of_mem_drop hmem)

theorem length_challenged :
    (counters.challenged wireTimestamp sentAt).outstandingPingChallenges.length ≤ 64 := by
  unfold ClientStateCounters.challenged
  dsimp only
  rw [List.length_append, List.length_drop, List.length_singleton]
  omega

theorem mem_echoed {latencyCalculation : Binary64} {senderRtt wallNow elapsedNow : Seconds}
    (h : challenge ∈ (counters.echoed latencyCalculation senderRtt wallNow
      elapsedNow).outstandingPingChallenges) : challenge ∈ counters.outstandingPingChallenges := by
  cases hanswered : counters.answered latencyCalculation elapsedNow with
  | none =>
    rw [echoed_none hanswered] at h
    exact List.mem_of_mem_filter h
  | some answered =>
    rw [echoed_some hanswered] at h
    exact List.mem_of_mem_filter (List.mem_of_mem_eraseP h)

theorem length_echoed (counters : ClientStateCounters) (latencyCalculation : Binary64)
    (senderRtt wallNow elapsedNow : Seconds) :
    (counters.echoed latencyCalculation senderRtt wallNow
      elapsedNow).outstandingPingChallenges.length ≤ counters.outstandingPingChallenges.length := by
  cases hanswered : counters.answered latencyCalculation elapsedNow with
  | none =>
    rw [echoed_none hanswered]
    exact List.length_filter_le _ _
  | some answered =>
    rw [echoed_some hanswered]
    exact (List.length_eraseP_le).trans (List.length_filter_le _ _)

end Challenged

/-- One event keeps the account of every client. -/
theorem Accounted.step {events : List Event} {clientId : String}
    (h : Accounted events clientId ((after events).clientStateCounters[clientId]?.getD {}))
    {event : Event} {counters : ClientStateCounters}
    (hturned : Turned (after events) clientId event counters) :
    Accounted (events ++ [event]) clientId counters := by
  cases hturned with
  | kept event hevent hquiet => exact h.snoc hevent
  | challenged wireTimestamp sentAt =>
    refine ⟨?_, length_challenged, (h.snoc (by simp)).measured⟩
    intro challenge hchallenge
    rcases mem_challenged hchallenge with hheld | rfl
    · exact (h.snoc (by simp)).sent challenge hheld
    · exact ⟨events, wireTimestamp, [], rfl, rfl, by simp⟩
  | echoed latencyCalculation clientRtt senderRtt wallNow elapsedNow hvalid =>
    refine ⟨?_, (length_echoed _ _ _ _ _).trans h.few, ?_⟩
    · intro challenge hchallenge
      exact (h.snoc (by simp)).sent challenge (mem_echoed hchallenge)
    · cases hanswered : ((after events).clientStateCounters[clientId]?.getD {}).answered
          latencyCalculation elapsedNow with
      | none =>
        rw [echoed_none hanswered]
        exact (h.snoc (by simp)).measured
      | some challenge =>
        obtain ⟨hmem, rfl, hintime⟩ := answered_some hanswered
        have hwithin := withinTimeout_iff.mp hintime
        rw [echoed_some hanswered]
        exact .inr ⟨events, challenge, clientRtt, wallNow, elapsedNow, [], rfl,
          h.sent challenge hmem, rfl, hwithin.1, hwithin.2, by simp⟩
  | unobserved nowSeconds elapsed =>
    have hstays : Event.estimate clientId nowSeconds elapsed ≠ .leave clientId := by simp
    have hkept := h.snoc hstays
    refine ⟨hkept.sent, hkept.few, ?_⟩
    rcases hkept.measured with hfresh | hmeasured
    · left
      unfold PingRuntime.metricsOf
      rw [hfresh]
    · exact .inr hmeasured
  | left => exact .fresh _ _

theorem accounted (events : List Event) (clientId : String) :
    Accounted events clientId ((after events).clientStateCounters[clientId]?.getD {}) := by
  induction events using List.reverseRecOn with
  | nil =>
    have hnew : (after []).clientStateCounters[clientId]?.getD {} = {} := by
      simp [after]
    rw [hnew]
    exact .fresh _ _
  | append_singleton events event ih =>
    rw [after_snoc]
    exact ih.step (step_turned _ _ _)

/-! ### Echoes -/

/-- An echo that changes what is measured of a client answers a challenge of that
    client, in time. -/
theorem echo_measures {events : List Event} {clientId other : String}
    {latencyCalculation : Option Binary64} {clientRtt : Option F64} {wallNow elapsedNow : Seconds}
    (h : (after (events ++ [.echo clientId latencyCalculation clientRtt wallNow
      elapsedNow])).metricsOf other ≠ (after events).metricsOf other) :
    other = clientId ∧ ∃ challenge, latencyCalculation = some challenge.1
      ∧ Sent events clientId challenge
      ∧ 0 ≤ elapsedNow - challenge.2 ∧ elapsedNow - challenge.2 ≤ protocolTimeoutSeconds
      ∧ acceptedBy (after events) (.echo clientId latencyCalculation clientRtt wallNow elapsedNow) =
        [(clientId, challenge.1)] := by
  have hturned := step_turned (after events)
    (.echo clientId latencyCalculation clientRtt wallNow elapsedNow) other
  rw [after_snoc] at h
  unfold PingRuntime.metricsOf at h
  generalize ((after events).step (.echo clientId latencyCalculation clientRtt wallNow
    elapsedNow)).clientStateCounters[other]?.getD {} = counters at hturned h
  cases hturned with
  | kept event hevent hquiet => exact absurd rfl h
  | echoed latencyCalculation clientRtt senderRtt wallNow elapsedNow hvalid =>
    refine ⟨rfl, ?_⟩
    cases hanswered : ((after events).clientStateCounters[clientId]?.getD {}).answered
        latencyCalculation elapsedNow with
    | none =>
      rw [echoed_none hanswered] at h
      exact absurd rfl h
    | some challenge =>
      obtain ⟨hmem, hsame, hintime⟩ := answered_some hanswered
      have hwithin := withinTimeout_iff.mp hintime
      refine ⟨challenge, by rw [hsame], (accounted events clientId).sent challenge hmem, hwithin.1,
        hwithin.2, ?_⟩
      unfold acceptedBy
      dsimp only
      rw [hvalid, hanswered]
      rfl

/-- An echo that matches no outstanding challenge of its client, or comes with a
    round trip that is no time within the timeout, measures nothing. -/
theorem echo_ignored (s : PingRuntime) (clientId : String) (latencyCalculation : Option Binary64)
    (clientRtt : Option F64) (wallNow elapsedNow : Seconds)
    (h : (∀ challenge ∈ s.outstanding clientId, latencyCalculation ≠ some challenge.1)
      ∨ ∃ value, clientRtt = some value
        ∧ ∀ seconds, value = .finite seconds → seconds < 0 ∨ protocolTimeoutSeconds < seconds)
    (other : String) :
    (s.step (.echo clientId latencyCalculation clientRtt wallNow elapsedNow)).metricsOf other =
      s.metricsOf other := by
  have hturned := step_turned s (.echo clientId latencyCalculation clientRtt wallNow elapsedNow) other
  unfold PingRuntime.metricsOf
  generalize (s.step (.echo clientId latencyCalculation clientRtt wallNow
    elapsedNow)).clientStateCounters[other]?.getD {} = counters at hturned
  cases hturned with
  | kept event hevent hquiet => rfl
  | echoed latencyCalculation clientRtt senderRtt wallNow elapsedNow hvalid =>
    rcases h with hunmatched | ⟨value, rfl, hinvalid⟩
    · cases hanswered : (s.clientStateCounters[clientId]?.getD {}).answered
          latencyCalculation elapsedNow with
      | none => rw [echoed_none hanswered]
      | some challenge =>
        obtain ⟨hmem, rfl, -⟩ := answered_some hanswered
        exact absurd rfl (hunmatched challenge hmem)
    · exfalso
      unfold validEcho at hvalid
      rw [Option.getD_some] at hvalid
      cases value with
      | nonFinite => cases hvalid
      | finite seconds =>
        dsimp only at hvalid
        split at hvalid
        · next hchecks =>
          simp only [Bool.and_eq_true] at hchecks
          have hwithin := withinTimeout_iff.mp hchecks.2
          rcases hinvalid seconds rfl with hlow | hhigh
          · exact absurd hwithin.1 (not_le.mpr hlow)
          · exact absurd hwithin.2 (not_le.mpr hhigh)
        · cases hvalid

/-! ### Single use -/

section Queues

variable {counters : ClientStateCounters} {timestamp : Binary64}

/-- How often a timestamp is outstanding. -/
def ClientStateCounters.holds (counters : ClientStateCounters) (timestamp : Binary64) : Nat :=
  counters.outstandingPingChallenges.countP fun challenge => challenge.1 == timestamp

theorem holds_challenged (wireTimestamp : Binary64) (sentAt : Seconds) :
    (counters.challenged wireTimestamp sentAt).holds timestamp ≤
      counters.holds timestamp + if wireTimestamp = timestamp then 1 else 0 := by
  unfold ClientStateCounters.holds ClientStateCounters.challenged
  dsimp only
  rw [List.countP_append, List.countP_singleton]
  have hkept := (List.drop_sublist
    ((counters.outstandingPingChallenges.filter fun challenge =>
      withinTimeout (sentAt - challenge.2) && challenge.1 != wireTimestamp).length - 63)
    (counters.outstandingPingChallenges.filter fun challenge =>
      withinTimeout (sentAt - challenge.2) && challenge.1 != wireTimestamp)).trans
    List.filter_sublist
  have hcount := @List.Sublist.countP_le _ (fun challenge => challenge.1 == timestamp) _ _ hkept
  by_cases hsame : wireTimestamp = timestamp
  · rw [if_pos hsame, if_pos (by simpa using hsame)]
    omega
  · rw [if_neg hsame, if_neg (by simpa using hsame)]
    omega

theorem holds_unexpired (elapsedNow : Seconds) :
    (counters.unexpired elapsedNow).countP (fun challenge => challenge.1 == timestamp) ≤
      counters.holds timestamp :=
  List.filter_sublist.countP_le

/-- An answered challenge is spent. -/
theorem holds_echoed (latencyCalculation : Binary64) (senderRtt wallNow elapsedNow : Seconds) :
    (counters.echoed latencyCalculation senderRtt wallNow elapsedNow).holds timestamp
        + (if (counters.answered latencyCalculation elapsedNow).isSome
            ∧ latencyCalculation = timestamp then 1 else 0) ≤ counters.holds timestamp := by
  have hunexpired := @holds_unexpired counters timestamp elapsedNow
  cases hanswered : counters.answered latencyCalculation elapsedNow with
  | none =>
    rw [echoed_none hanswered, if_neg (by simp)]
    exact hunexpired
  | some challenge =>
    rw [echoed_some hanswered]
    unfold ClientStateCounters.holds at hunexpired ⊢
    dsimp only
    by_cases hsame : latencyCalculation = timestamp
    · have hspent := countP_eraseP (q := fun challenge => challenge.1 == timestamp) hanswered
      obtain ⟨-, hchallenge, -⟩ := answered_some hanswered
      rw [if_pos (by simpa using hchallenge.trans hsame)] at hspent
      rw [if_pos ⟨rfl, hsame⟩]
      omega
    · rw [if_neg (by simp [hsame])]
      have herased := @List.Sublist.countP_le _ (fun challenge => challenge.1 == timestamp) _ _
        (@List.eraseP_sublist _ (fun challenge => challenge.1 == latencyCalculation)
          (counters.unexpired elapsedNow))
      omega

end Queues

/-- What an event answers, the client held; what a client holds, it was sent. -/
theorem step_spends (s : PingRuntime) (event : Event) (clientId : String) (timestamp : Binary64) :
    (acceptedBy s event).countP (fun answered => decide (answered = (clientId, timestamp)))
        + ((s.step event).clientStateCounters[clientId]?.getD {}).holds timestamp ≤
      (s.clientStateCounters[clientId]?.getD {}).holds timestamp
        + (issuedBy s event).countP (fun sent => decide (sent = (clientId, timestamp))) := by
  have hturned := step_turned s event clientId
  generalize (s.step event).clientStateCounters[clientId]?.getD {} = counters at hturned
  cases hturned with
  | kept event hevent hquiet =>
    have hnone : (acceptedBy s event).countP
        (fun answered => decide (answered = (clientId, timestamp))) = 0 := by
      rw [List.countP_eq_zero]
      intro answered hanswered hsame
      rw [decide_eq_true_eq.mp hsame] at hanswered
      exact hquiet timestamp hanswered
    omega
  | challenged wireTimestamp sentAt =>
    have hholds := @holds_challenged (s.clientStateCounters[clientId]?.getD {}) timestamp
      (challengeTimestamp s.lastPingChallengeTimestamp wireTimestamp) sentAt
    unfold acceptedBy issuedBy
    rw [List.countP_nil, List.countP_singleton]
    simp only [decide_eq_true_eq, Prod.mk.injEq, true_and]
    omega
  | echoed latencyCalculation clientRtt senderRtt wallNow elapsedNow hvalid =>
    have hholds := @holds_echoed (s.clientStateCounters[clientId]?.getD {}) timestamp
      latencyCalculation senderRtt wallNow elapsedNow
    unfold acceptedBy issuedBy
    dsimp only
    rw [hvalid, Option.isSome_some, if_pos rfl, List.countP_nil]
    cases hanswered : (s.clientStateCounters[clientId]?.getD {}).answered latencyCalculation
        elapsedNow with
    | none =>
      dsimp only
      rw [List.countP_nil]
      omega
    | some challenge =>
      obtain ⟨-, hsame, -⟩ := answered_some hanswered
      rw [hanswered] at hholds
      dsimp only
      rw [List.countP_singleton, hsame]
      simp only [decide_eq_true_eq, Prod.mk.injEq, true_and, Option.isSome_some] at hholds ⊢
      omega
  | unobserved nowSeconds elapsed =>
    unfold acceptedBy issuedBy
    rw [List.countP_nil, Nat.zero_add]
    exact le_of_eq rfl
  | left =>
    unfold acceptedBy issuedBy
    rw [List.countP_nil]
    exact Nat.zero_le _

/-- **Single use**: what was answered is a part of what was sent. -/
theorem accepted_subperm (events : List Event) : (accepted events).Subperm (issued events) := by
  rw [List.subperm_iff_count]
  rintro ⟨clientId, timestamp⟩
  have hbudget := @budget_of_grants _ _ _ _ PingRuntime.step (fun _ => True)
    (fun s => (s.clientStateCounters[clientId]?.getD {}).holds timestamp) acceptedBy issuedBy
    (fun answered => decide (answered = (clientId, timestamp)))
    (fun sent => decide (sent = (clientId, timestamp))) (fun _ _ _ => trivial)
    (fun s event _ => step_spends s event clientId timestamp) {} trivial events
  have hnone : ((({} : PingRuntime).clientStateCounters[clientId]?).getD {}).holds timestamp = 0 := by
    simp [ClientStateCounters.holds]
  rw [hnone, Nat.zero_add] at hbudget
  exact (Nat.le_add_right _ _).trans hbudget

/-! ### Increasing timestamps -/

/-- How many timestamps there are from the latest clock reading up to infinity. -/
def wireCapacity : Nat := Binary64.infinityBits - latestWireTimestamp.pattern + 1

theorem pattern_latest : latestWireTimestamp.pattern = 0x430C6BF526340000 :=
  Binary64.pattern_ofBits (by decide)

theorem wireCapacity_eq : latestWireTimestamp.pattern + wireCapacity = Binary64.infinityBits + 1 := by
  unfold wireCapacity Binary64.infinityBits
  rw [pattern_latest]

/-- The reading of the wall clock that a challenge starts from. -/
theorem canonical_pattern (wireTimestamp : Binary64) :
    (if wireTimestamp.isFinite && Binary64.zero.lt wireTimestamp then
      wireTimestamp.least latestWireTimestamp else .zero).pattern ≤ latestWireTimestamp.pattern := by
  by_cases hpositive : (wireTimestamp.isFinite && Binary64.zero.lt wireTimestamp) = true
  · rw [if_pos hpositive]
    rw [Bool.and_eq_true] at hpositive
    have hpattern := Binary64.pattern_of_positive hpositive.1 hpositive.2
    rw [Binary64.pattern_least hpattern.2.le
      (pattern_latest.trans_le (by unfold Binary64.infinityBits; omega))]
    exact min_le_right _ _
  · rw [if_neg hpositive]
    exact Nat.zero_le _

/-- A timestamp is above the one before, and the next one to it or a reading of the
    wall clock. -/
theorem challengeTimestamp_bounds {previous : Option Binary64}
    (hprevious : ∀ p, previous = some p → p.pattern < Binary64.infinityBits)
    (wireTimestamp : Binary64) :
    let timestamp := challengeTimestamp previous wireTimestamp
    (∀ p, previous = some p → p.pattern < timestamp.pattern)
      ∧ (timestamp.pattern ≤ latestWireTimestamp.pattern
        ∨ ∃ p, previous = some p ∧ timestamp.pattern = p.pattern + 1) := by
  have hcanonical := canonical_pattern wireTimestamp
  unfold challengeTimestamp
  dsimp only
  generalize (if wireTimestamp.isFinite && Binary64.zero.lt wireTimestamp then
    wireTimestamp.least latestWireTimestamp else .zero) = reading at hcanonical
  have hreading : reading.pattern ≤ Binary64.infinityBits := by
    rw [pattern_latest] at hcanonical
    unfold Binary64.infinityBits
    omega
  cases previous with
  | none => exact ⟨fun _ h => (nomatch h), .inl hcanonical⟩
  | some p =>
    have hp := hprevious p rfl
    dsimp only
    by_cases hle : reading.le p = true
    · have hnext := Binary64.pattern_nextUp hp.le
      rw [if_pos hle, hnext]
      refine ⟨?_, .inr ⟨p, rfl, rfl⟩⟩
      intro other hother
      injection hother with hsame
      rw [hsame]
      omega
    · have hless := mt (Binary64.le_iff hreading hp.le).mpr hle
      rw [if_neg hle]
      refine ⟨?_, .inl hcanonical⟩
      intro other hother
      injection hother with hsame
      rw [← hsame]
      omega

/-- The timestamps so far increase up to the last one, which is that many above a
    reading of the wall clock at most. -/
structure Increasing (sent : List (String × Binary64)) (last : Option Binary64) : Prop where
  apart : (sent.map Prod.snd).Pairwise fun a b => a.pattern < b.pattern
  bounded : ∀ entry ∈ sent, ∃ p, last = some p ∧ entry.2.pattern ≤ p.pattern
  capped : ∀ p, last = some p → p.pattern < latestWireTimestamp.pattern + sent.length

/-- One more challenge, as long as infinity is not passed. -/
theorem Increasing.challenge {sent : List (String × Binary64)} {last : Option Binary64}
    (h : Increasing sent last) (hroom : sent.length < wireCapacity) (clientId : String)
    (wireTimestamp : Binary64) :
    Increasing (sent ++ [(clientId, challengeTimestamp last wireTimestamp)])
      (some (challengeTimestamp last wireTimestamp)) := by
  have hcapacity := wireCapacity_eq
  have hlast : ∀ p, last = some p → p.pattern < Binary64.infinityBits := by
    intro p hp
    have hcapped := h.capped p hp
    omega
  obtain ⟨habove, hnear⟩ := challengeTimestamp_bounds hlast wireTimestamp
  refine ⟨?_, ?_, ?_⟩
  · rw [List.map_append, List.pairwise_append]
    refine ⟨h.apart, by simp, ?_⟩
    intro earlier hearlier next hnext
    obtain ⟨entry, hentry, rfl⟩ := List.mem_map.mp hearlier
    obtain ⟨p, hp, hle⟩ := h.bounded entry hentry
    have hless := habove p hp
    simp only [List.map_cons, List.map_nil, List.mem_singleton] at hnext
    rw [hnext]
    omega
  · intro entry hentry
    refine ⟨_, rfl, ?_⟩
    rcases List.mem_append.mp hentry with hentry | hentry
    · obtain ⟨p, hp, hle⟩ := h.bounded entry hentry
      have hless := habove p hp
      omega
    · rw [List.mem_singleton.mp hentry]
  · intro p hp
    injection hp with hp
    rw [← hp, List.length_append, List.length_singleton]
    rcases hnear with hreading | ⟨previous, hprevious, hnext⟩
    · omega
    · have hcapped := h.capped previous hprevious
      omega

theorem increasing (events : List Event) (h : (issued events).length ≤ wireCapacity) :
    Increasing (issued events) (after events).lastPingChallengeTimestamp := by
  induction events using List.reverseRecOn with
  | nil =>
    refine ⟨List.Pairwise.nil, ?_, ?_⟩
    · intro entry hentry
      cases hentry
    · intro p hp
      cases hp
  | append_singleton events event ih =>
    rw [issued_snoc, List.length_append] at h
    have hearlier := ih (by omega)
    rw [issued_snoc, after_snoc]
    cases event with
    | challenge clientId wireTimestamp sentAt =>
      rw [issuedBy, List.length_singleton] at h
      exact hearlier.challenge (by omega) clientId wireTimestamp
    | echo clientId latencyCalculation clientRtt wallNow elapsedNow =>
      rw [last_echo]
      simpa [issuedBy] using hearlier
    | estimate clientId nowSeconds elapsed =>
      rw [last_estimate]
      simpa [issuedBy] using hearlier
    | leave clientId =>
      have hlast : ((after events).step (.leave clientId)).lastPingChallengeTimestamp =
          (after events).lastPingChallengeTimestamp := rfl
      rw [hlast]
      simpa [issuedBy] using hearlier

/-! ### Latency -/

/-- What makes the measurements of a server genuine. -/
structure LatencyGenuine (events : List Event) : Prop where
  increasing : (issued events).length ≤ wireCapacity →
    ((issued events).map Prod.snd).Pairwise fun a b => a.lt b = true
  measured : ∀ clientId, (after events).metricsOf clientId = {}
    ∨ Measured events clientId ((after events).serverRttSeconds clientId)
  answers : ∀ clientId latencyCalculation clientRtt wallNow elapsedNow other,
    (after (events ++ [.echo clientId latencyCalculation clientRtt wallNow
        elapsedNow])).metricsOf other ≠ (after events).metricsOf other →
      other = clientId ∧ ∃ challenge, latencyCalculation = some challenge.1
        ∧ Sent events clientId challenge
        ∧ 0 ≤ elapsedNow - challenge.2 ∧ elapsedNow - challenge.2 ≤ protocolTimeoutSeconds
        ∧ acceptedBy (after events)
            (.echo clientId latencyCalculation clientRtt wallNow elapsedNow) =
          [(clientId, challenge.1)]
  single : (accepted events).Subperm (issued events)
  ignored : ∀ clientId latencyCalculation clientRtt wallNow elapsedNow,
    (∀ challenge ∈ (after events).outstanding clientId, latencyCalculation ≠ some challenge.1)
        ∨ (∃ value, clientRtt = some value
          ∧ ∀ seconds, value = .finite seconds → seconds < 0 ∨ protocolTimeoutSeconds < seconds) →
      ∀ other, (after (events ++ [.echo clientId latencyCalculation clientRtt wallNow
        elapsedNow])).metricsOf other = (after events).metricsOf other
  few : ∀ clientId, ((after events).outstanding clientId).length ≤ 64

/-- **Latency cannot be forged**, whatever the clients send and the clocks read. -/
theorem latency_not_forged (events : List Event) : LatencyGenuine events where
  increasing h := by
    have hincreasing := Sorotte.Ping.increasing events h
    have hcapacity := wireCapacity_eq
    have hnumber : ∀ timestamp ∈ (issued events).map Prod.snd,
        timestamp.pattern ≤ Binary64.infinityBits := by
      intro timestamp htimestamp
      obtain ⟨entry, hentry, rfl⟩ := List.mem_map.mp htimestamp
      obtain ⟨p, hp, hle⟩ := hincreasing.bounded entry hentry
      have hcapped := hincreasing.capped p hp
      omega
    apply hincreasing.apart.imp_of_mem
    intro a b ha hb hless
    exact (Binary64.lt_iff (hnumber a ha) (hnumber b hb)).mpr hless
  measured clientId := (accounted events clientId).measured
  answers _ _ _ _ _ _ h := echo_measures h
  single := accepted_subperm events
  ignored clientId latencyCalculation clientRtt wallNow elapsedNow h other := by
    rw [after_snoc]
    exact echo_ignored _ clientId latencyCalculation clientRtt wallNow elapsedNow h other
  few clientId := (accounted events clientId).few

/-! ### Past infinity -/

/-- A clock that stands still at the latest reading. -/
def stalled : Event := .challenge "peer" latestWireTimestamp 0

theorem challengeTimestamp_stalled {p : Binary64} (hlow : latestWireTimestamp.pattern ≤ p.pattern)
    (hhigh : p.pattern ≤ Binary64.infinityBits) :
    challengeTimestamp (some p) latestWireTimestamp = .ofBits (p.pattern + 1) := by
  have hreading : (if latestWireTimestamp.isFinite && Binary64.zero.lt latestWireTimestamp then
      latestWireTimestamp.least latestWireTimestamp else .zero) = latestWireTimestamp := by decide
  have hle := (Binary64.le_iff (hlow.trans hhigh) hhigh).mpr hlow
  unfold challengeTimestamp
  dsimp only
  rw [hreading, if_pos hle]
  unfold Binary64.nextUp Binary64.infinityBits at *
  rw [min_eq_left (by omega)]

theorem last_stalled {n : Nat} (h : n ≤ wireCapacity) :
    (after (List.replicate (n + 1) stalled)).lastPingChallengeTimestamp =
      some (.ofBits (latestWireTimestamp.pattern + n)) := by
  induction n with
  | zero =>
    rw [pattern_latest]
    decide
  | succ n ih =>
    have hcapacity := wireCapacity_eq
    have hpattern : (Binary64.ofBits (latestWireTimestamp.pattern + n)).pattern =
        latestWireTimestamp.pattern + n := by
      apply Binary64.pattern_ofBits
      unfold Binary64.infinityBits at hcapacity
      omega
    have hnext := @challengeTimestamp_stalled (.ofBits (latestWireTimestamp.pattern + n))
      (by omega) (by omega)
    rw [List.replicate_succ', after_snoc]
    have hlast := ih (by omega)
    unfold stalled PingRuntime.step PingRuntime.recordPingChallenge at *
    dsimp only
    rw [hlast, hnext, hpattern, Nat.add_assoc]

theorem issued_stalled (n : Nat) :
    issued (List.replicate (n + 1) stalled) = issued (List.replicate n stalled)
      ++ [("peer", challengeTimestamp (after (List.replicate n stalled)).lastPingChallengeTimestamp
        latestWireTimestamp)] := by
  rw [List.replicate_succ', issued_snoc]
  rfl

/-- Where the numbers end, a challenge is a NaN, and the one after it repeats the
    first. -/
theorem challenges_repeat :
    ¬((issued (List.replicate (wireCapacity + 1) stalled)).map Prod.snd).Pairwise
        (fun a b => a.lt b = true)
      ∧ ¬((issued (List.replicate (wireCapacity + 2) stalled)).map Prod.snd).Nodup := by
  obtain ⟨n, hn⟩ : ∃ n, wireCapacity = n + 1 := ⟨_, rfl⟩
  have hlast := @last_stalled wireCapacity le_rfl
  have hnan : (Binary64.ofBits (latestWireTimestamp.pattern + wireCapacity)).isNaN = true := by
    rw [wireCapacity_eq]
    decide
  constructor
  · have hnext : challengeTimestamp
        (after (List.replicate wireCapacity stalled)).lastPingChallengeTimestamp
        latestWireTimestamp = .ofBits (latestWireTimestamp.pattern + wireCapacity) := by
      rw [List.replicate_succ', after_snoc] at hlast
      exact Option.some.inj hlast
    rw [issued_stalled, hnext, hn, issued_stalled, ← hn, List.map_append, List.pairwise_append]
    rintro ⟨-, -, hless⟩
    have habsurd := hless _ (List.mem_map_of_mem (List.mem_append_right _ (List.mem_singleton_self _)))
      _ (List.mem_map_of_mem (List.mem_singleton_self _))
    unfold Binary64.lt at habsurd
    rw [hnan] at habsurd
    simp at habsurd
  · have hnext : challengeTimestamp
        (after (List.replicate (wireCapacity + 1) stalled)).lastPingChallengeTimestamp
        latestWireTimestamp = latestWireTimestamp := by
      have hreading : (if latestWireTimestamp.isFinite && Binary64.zero.lt latestWireTimestamp then
          latestWireTimestamp.least latestWireTimestamp else .zero) = latestWireTimestamp := by decide
      rw [hlast]
      unfold challengeTimestamp
      dsimp only
      rw [hreading, Binary64.le_of_isNaN hnan, if_neg Bool.false_ne_true]
    have hfirst : latestWireTimestamp ∈
        (issued (List.replicate (wireCapacity + 1) stalled)).map Prod.snd := by
      rw [List.replicate_succ]
      exact List.mem_map.mpr ⟨("peer", latestWireTimestamp), List.mem_append_left _ (by decide), rfl⟩
    rw [issued_stalled, hnext, List.map_append, List.nodup_append]
    rintro ⟨-, -, hapart⟩
    exact hapart _ hfirst _ (by simp) rfl

end Sorotte.Ping
