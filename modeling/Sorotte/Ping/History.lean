import Sorotte.Framework.SoleMatch
import Sorotte.Ping.Challenges

/-! # What became of the challenges

  The timestamps that went onto the wire, the echoes that were accepted, and what
  one event can do to the counters of one client.
-/

namespace Sorotte.Ping

open Sorotte.Framework

variable {s : PingRuntime} {clientId : String}

theorem after_snoc (events : List Event) (event : Event) :
    after (events ++ [event]) = (after events).step event := runFrom_append _ _ _ _

/-- The challenges that a client has not answered. -/
def PingRuntime.outstanding (s : PingRuntime) (clientId : String) : List (Binary64 × Seconds) :=
  (s.clientStateCounters[clientId]?.getD {}).outstandingPingChallenges

def PingRuntime.metricsOf (s : PingRuntime) (clientId : String) : PingMetrics :=
  (s.clientStateCounters[clientId]?.getD {}).metrics

/-- The challenge that an echo answers. -/
def ClientStateCounters.answered (counters : ClientStateCounters) (latencyCalculation : Binary64)
    (elapsedNow : Seconds) : Option (Binary64 × Seconds) :=
  (counters.unexpired elapsedNow).find? fun challenge => challenge.1 == latencyCalculation

/-! ### The wire -/

/-- What an event puts on the wire, and for whom. -/
def issuedBy (s : PingRuntime) : Event → List (String × Binary64)
  | .challenge clientId wireTimestamp _ =>
    [(clientId, challengeTimestamp s.lastPingChallengeTimestamp wireTimestamp)]
  | _ => []

/-- The challenge that an event answers, and whose it is. -/
def acceptedBy (s : PingRuntime) : Event → List (String × Binary64)
  | .echo clientId (some latencyCalculation) clientRtt _ elapsedNow =>
    if (validEcho latencyCalculation clientRtt).isSome then
      match (s.clientStateCounters[clientId]?.getD {}).answered latencyCalculation elapsedNow with
      | some challenge => [(clientId, challenge.1)]
      | none => []
    else []
  | _ => []

/-- An event answers a challenge only by an echo that is valid and matches. -/
theorem mem_acceptedBy {event : Event} {timestamp : Binary64}
    (h : (clientId, timestamp) ∈ acceptedBy s event) :
    ∃ clientRtt wallNow elapsedNow,
      event = .echo clientId (some timestamp) clientRtt wallNow elapsedNow
      ∧ (validEcho timestamp clientRtt).isSome
      ∧ ((s.clientStateCounters[clientId]?.getD {}).answered timestamp elapsedNow).isSome := by
  cases event with
  | challenge => cases h
  | estimate => cases h
  | leave => cases h
  | echo echoing latencyCalculation clientRtt wallNow elapsedNow =>
    cases latencyCalculation with
    | none => cases h
    | some latencyCalculation =>
      unfold acceptedBy at h
      dsimp only at h
      by_cases hvalid : (validEcho latencyCalculation clientRtt).isSome = true
      · rw [if_pos hvalid] at h
        cases hanswered : (s.clientStateCounters[echoing]?.getD {}).answered latencyCalculation
            elapsedNow with
        | none =>
          rw [hanswered] at h
          cases h
        | some challenge =>
          rw [hanswered] at h
          simp only [List.mem_singleton, Prod.mk.injEq] at h
          obtain ⟨rfl, rfl⟩ := h
          have hsame : challenge.1 = latencyCalculation := by
            simpa using List.find?_some hanswered
          rw [hsame]
          refine ⟨clientRtt, wallNow, elapsedNow, rfl, hvalid, ?_⟩
          rw [hanswered]
          rfl
      · rw [if_neg hvalid] at h
        cases h

/-! ### One event -/

theorem last_echo (s : PingRuntime) (clientId : String) (latencyCalculation : Option Binary64)
    (clientRtt : Option F64) (wallNow elapsedNow : Seconds) :
    (s.step (.echo clientId latencyCalculation clientRtt wallNow
      elapsedNow)).lastPingChallengeTimestamp = s.lastPingChallengeTimestamp := by
  unfold PingRuntime.step PingRuntime.ingestClientPingMetrics
  dsimp only
  split
  · rfl
  · split
    · rfl
    · rfl

theorem last_estimate (s : PingRuntime) (clientId : String) (nowSeconds elapsed : Seconds) :
    (s.step (.estimate clientId nowSeconds elapsed)).lastPingChallengeTimestamp =
      s.lastPingChallengeTimestamp := by
  unfold PingRuntime.step PingRuntime.participantStatusForwardDelayMsAt
  dsimp only
  split
  · rfl
  · split
    · rfl
    · split
      · rfl
      · rfl

/-- What an event makes of the counters of one client. -/
inductive Turned (s : PingRuntime) (clientId : String) :
    Event → ClientStateCounters → Prop where
  | kept (event : Event) (hevent : event ≠ .leave clientId)
      (hquiet : ∀ timestamp, (clientId, timestamp) ∉ acceptedBy s event) :
      Turned s clientId event (s.clientStateCounters[clientId]?.getD {})
  | challenged (wireTimestamp : Binary64) (sentAt : Seconds) :
      Turned s clientId (.challenge clientId wireTimestamp sentAt)
        ((s.clientStateCounters[clientId]?.getD {}).challenged
          (challengeTimestamp s.lastPingChallengeTimestamp wireTimestamp) sentAt)
  | echoed (latencyCalculation : Binary64) (clientRtt : Option F64)
      (senderRtt wallNow elapsedNow : Seconds)
      (hvalid : validEcho latencyCalculation clientRtt = some senderRtt) :
      Turned s clientId (.echo clientId (some latencyCalculation) clientRtt wallNow elapsedNow)
        ((s.clientStateCounters[clientId]?.getD {}).echoed latencyCalculation senderRtt wallNow
          elapsedNow)
  | unobserved (nowSeconds elapsed : Seconds) :
      Turned s clientId (.estimate clientId nowSeconds elapsed)
        { (s.clientStateCounters[clientId]?.getD {}) with
          metrics := { s.metricsOf clientId with pingMetricsObservedAtSeconds := none } }
  | left : Turned s clientId (.leave clientId) {}

/-- An event turns the counters of every client in one of these ways. -/
theorem step_turned (s : PingRuntime) (event : Event) (clientId : String) :
    Turned s clientId event ((s.step event).clientStateCounters[clientId]?.getD {}) := by
  cases event with
  | challenge challenged wireTimestamp sentAt =>
    unfold PingRuntime.step PingRuntime.recordPingChallenge
    dsimp only
    rw [getElem?_insert_if]
    by_cases hclient : clientId = challenged
    · rw [if_pos hclient, Option.getD_some, ← hclient]
      exact .challenged wireTimestamp sentAt
    · rw [if_neg hclient]
      exact .kept _ (by simp) (by simp [acceptedBy])
  | echo echoing latencyCalculation clientRtt wallNow elapsedNow =>
    have hkept := fun hquiet => @Turned.kept s clientId
      (.echo echoing latencyCalculation clientRtt wallNow elapsedNow) (by simp) hquiet
    unfold PingRuntime.step PingRuntime.ingestClientPingMetrics
    dsimp only
    cases latencyCalculation with
    | none => exact hkept (by simp [acceptedBy])
    | some latencyCalculation =>
      dsimp only
      cases hvalid : validEcho latencyCalculation clientRtt with
      | none => exact hkept (by simp [acceptedBy, hvalid])
      | some senderRtt =>
        dsimp only
        rw [getElem?_modify_if]
        by_cases hclient : clientId = echoing
        · subst hclient
          rw [if_pos rfl]
          cases hknown : s.clientStateCounters[clientId]? with
          | none =>
            rw [hknown] at hkept
            apply hkept
            intro timestamp haccepted
            obtain ⟨_, _, _, _, _, hanswered⟩ := mem_acceptedBy haccepted
            rw [hknown] at hanswered
            cases hanswered
          | some counters =>
            have hturned := @Turned.echoed s clientId latencyCalculation clientRtt senderRtt wallNow
              elapsedNow hvalid
            rw [hknown] at hturned
            exact hturned
        · rw [if_neg hclient]
          apply hkept
          intro timestamp haccepted
          obtain ⟨_, _, _, hevent, _, _⟩ := mem_acceptedBy haccepted
          injection hevent with hechoing
          exact hclient hechoing.symm
  | estimate estimated nowSeconds elapsed =>
    have hkept := @Turned.kept s clientId (.estimate estimated nowSeconds elapsed) (by simp)
      (by simp [acceptedBy])
    unfold PingRuntime.step PingRuntime.participantStatusForwardDelayMsAt
    dsimp only
    cases hknown : s.clientStateCounters[estimated]? with
    | none => exact hkept
    | some counters =>
      dsimp only
      cases counters.metrics.pingMetricsObservedAtSeconds with
      | none => exact hkept
      | some observedAtSeconds =>
        dsimp only
        split
        · rw [getElem?_modify_if]
          by_cases hclient : clientId = estimated
          · subst hclient
            have hturned := @Turned.unobserved s clientId nowSeconds elapsed
            unfold PingRuntime.metricsOf at hturned
            rw [hknown] at hturned
            rw [if_pos rfl, hknown]
            exact hturned
          · rw [if_neg hclient]
            exact hkept
        · exact hkept
  | leave leaving =>
    unfold PingRuntime.step PingRuntime.removeSessionTracking
    dsimp only
    rw [getElem?_erase_if]
    by_cases hclient : clientId = leaving
    · rw [if_pos hclient, Option.getD_none, ← hclient]
      exact .left
    · rw [if_neg hclient]
      exact .kept _ (by simpa [eq_comm] using hclient) (by simp [acceptedBy])

/-! ### One echo -/

section Echo

variable {counters : ClientStateCounters} {latencyCalculation : Binary64}
  {senderRtt wallNow elapsedNow : Seconds}

theorem echoed_none (h : counters.answered latencyCalculation elapsedNow = none) :
    counters.echoed latencyCalculation senderRtt wallNow elapsedNow =
      { counters with outstandingPingChallenges := counters.unexpired elapsedNow } := by
  unfold ClientStateCounters.answered at h
  unfold ClientStateCounters.echoed
  dsimp only
  rw [h]

theorem answered_some {challenge : Binary64 × Seconds}
    (h : counters.answered latencyCalculation elapsedNow = some challenge) :
    challenge ∈ counters.outstandingPingChallenges ∧ challenge.1 = latencyCalculation
      ∧ withinTimeout (elapsedNow - challenge.2) = true := by
  have hmem := List.mem_of_find?_eq_some h
  have hsame := List.find?_some h
  unfold ClientStateCounters.unexpired at hmem
  rw [List.mem_filter] at hmem
  exact ⟨hmem.1, by simpa using hsame, hmem.2⟩

/-- The second check of the round trip never fails: an expired challenge is not
    found. -/
theorem echoed_some {challenge : Binary64 × Seconds}
    (h : counters.answered latencyCalculation elapsedNow = some challenge) :
    counters.echoed latencyCalculation senderRtt wallNow elapsedNow =
      { metrics := counters.metrics.measured (elapsedNow - challenge.2) senderRtt wallNow elapsedNow
        outstandingPingChallenges := (counters.unexpired elapsedNow).eraseP fun challenge =>
          challenge.1 == latencyCalculation } := by
  obtain ⟨-, -, hintime⟩ := answered_some h
  unfold ClientStateCounters.answered at h
  unfold ClientStateCounters.echoed
  dsimp only
  rw [h]
  dsimp only
  rw [if_neg (by simp [hintime])]

end Echo

/-! ### Histories -/

/-- The challenges of some events, in order. -/
def issued (events : List Event) : List (String × Binary64) :=
  emitted PingRuntime.step issuedBy {} events

/-- The challenges that some events answered, in order. -/
def accepted (events : List Event) : List (String × Binary64) :=
  emitted PingRuntime.step acceptedBy {} events

theorem issued_snoc (events : List Event) (event : Event) :
    issued (events ++ [event]) = issued events ++ issuedBy (after events) event := by
  unfold issued
  rw [emitted_append, emitted, emitted, List.append_nil]
  rfl

end Sorotte.Ping
