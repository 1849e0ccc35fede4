import Sorotte.Desync.Correction

/-! # What an evaluation can do

  The playback rate and the lag detector are independent of each other but for
  the order in which an evaluation looks at them; each has one inversion lemma.
-/

namespace Sorotte.Desync

open Sorotte.Framework

namespace ClientSession

variable {s : ClientSession}

/-! ### The playback rate -/

/-- The correction of the rate, and whether there is one. -/
def speed (s : ClientSession) : Bool × Option Seconds := (s.speedChanged, s.speedCorrectionRate)

/-- What the answers mean for the correction of the rate. -/
inductive Answered (s : ClientSession) : ClientSession × DesyncCorrectionAction → Prop where
  | quiet (s' : ClientSession) (kept : s'.speed = s.speed) : Answered s (s', .none)
  | rewound (s' : ClientSession) (target : Seconds) (setBy : Option String)
      (kept : s'.speed = s.speed) (normal : s.speedChanged = false) :
      Answered s (s', .rewind target setBy)
  | forwarded (s' : ClientSession) (target : Seconds) (setBy : Option String)
      (kept : s'.speed = s.speed) (normal : s.speedChanged = false) :
      Answered s (s', .fastForward target setBy)
  | slowed (s' : ClientSession) (setBy : Option String)
      (now : s'.speed = (true, some s.desyncConfig.slowdownRate)) :
      Answered s (s', .slowDown s.desyncConfig.slowdownRate setBy)
  | restored (s' : ClientSession) (now : s'.speed = (false, none)) (slow : s.speedChanged = true) :
      Answered s (s', .restoreSpeed normalPlaybackRate)

theorem correctSpeed_answered (s : ClientSession) (room : RoomPlaystateView)
    (globalPaused : Bool) (diff nowSeconds : Seconds) (speedSupported : Bool) :
    Answered s (s.correctSpeed room globalPaused diff nowSeconds speedSupported) := by
  unfold correctSpeed
  dsimp only
  split
  · next h =>
    simp only [Bool.and_eq_true] at h
    exact .restored _ rfl h.1.2
  · split
    · split
      · next h =>
        simp only [Bool.and_eq_true] at h
        exact .restored _ rfl h.1
      · split
        · split
          · exact .quiet s rfl
          · split
            · exact .quiet s rfl
            · exact .slowed _ room.setBy rfl
        · split
          · next h =>
            simp only [Bool.and_eq_true] at h
            exact .restored _ rfl h.1
          · exact .quiet s rfl
    · exact .quiet s rfl

/-- The answer does not depend on the lag detector. -/
theorem Answered.of_detector {detected : Option Seconds}
    {result : ClientSession × DesyncCorrectionAction}
    (h : Answered { s with behindFirstDetectedAtSeconds := detected } result) :
    Answered s result := by
  cases h with
  | quiet s' kept => exact .quiet s' kept
  | rewound s' target setBy kept normal => exact .rewound s' target setBy kept normal
  | forwarded s' target setBy kept normal => exact .forwarded s' target setBy kept normal
  | slowed s' setBy now => exact .slowed s' setBy now
  | restored s' now slow => exact .restored s' now slow

theorem trackLag_eq (s : ClientSession) (diff nowSeconds : Seconds)
    (localCanControl dontSlowDownWithMe : Bool) :
    ∃ detected, s.trackLag diff nowSeconds localCanControl dontSlowDownWithMe =
        { s with behindFirstDetectedAtSeconds := detected } := by
  unfold trackLag
  split
  · exact ⟨_, rfl⟩
  · exact ⟨none, rfl⟩

theorem evaluate_answered (s : ClientSession) (e : Evaluation) :
    Answered s (s.evaluateDesyncCorrection e) := by
  unfold evaluateDesyncCorrection
  cases e.room with
  | none => exact .quiet _ rfl
  | some room =>
    dsimp only
    unfold evaluateDesyncCorrectionForRoomPlaystate
    cases s.correctable room with
    | none => exact .quiet _ rfl
    | some global =>
      obtain ⟨globalPosition, globalPaused⟩ := global
      dsimp only
      split
      · split
        · exact .quiet _ rfl
        · split
          · next hslow => exact .restored _ rfl hslow
          · next hnormal => exact .rewound _ _ _ rfl (Bool.eq_false_iff.mpr hnormal)
      · split
        · split
          · exact .quiet _ rfl
          · split
            · next hslow => exact .restored _ rfl hslow
            · next hnormal => exact .forwarded _ _ _ rfl (Bool.eq_false_iff.mpr hnormal)
        · obtain ⟨detected, htracked⟩ := s.trackLag_eq (e.localPosition - globalPosition)
            e.nowSeconds e.localCanControl e.dontSlowDownWithMe
          rw [htracked]
          exact (correctSpeed_answered _ room globalPaused _ e.nowSeconds
            e.speedSupported).of_detector

/-! ### The lag detector -/

/-- The evaluation found the client behind by more than the behind-threshold, while
    it was allowed to fast-forward. -/
structure Lagging (s : ClientSession) (e : Evaluation) (diff : Seconds) : Prop where
  compared : ∃ room globalPosition globalPaused, e.room = some room
    ∧ s.correctable room = some (globalPosition, globalPaused)
    ∧ diff = e.localPosition - globalPosition
  lags : s.lags diff e.localCanControl e.dontSlowDownWithMe = true

/-- The evaluation decided for a fast-forward, whether it then was answered or suppressed. -/
def Ripe (s : ClientSession) (e : Evaluation) : Prop :=
  ∃ diff, Lagging s e diff ∧ s.fastforwardDue diff e.nowSeconds = true

theorem correctSpeed_behind (s : ClientSession) (room : RoomPlaystateView)
    (globalPaused : Bool) (diff nowSeconds : Seconds) (speedSupported : Bool) :
    (s.correctSpeed room globalPaused diff nowSeconds speedSupported).1.behindFirstDetectedAtSeconds
        = s.behindFirstDetectedAtSeconds
      ∧ ∀ target setBy, (s.correctSpeed room globalPaused diff nowSeconds speedSupported).2 ≠
        .fastForward target setBy := by
  unfold correctSpeed restoreSpeed slowDown
  dsimp only
  repeat' split
  all_goals exact ⟨rfl, fun _ _ h => nomatch h⟩

theorem correctSpeed_config (s : ClientSession) (room : RoomPlaystateView)
    (globalPaused : Bool) (diff nowSeconds : Seconds) (speedSupported : Bool) :
    (s.correctSpeed room globalPaused diff nowSeconds speedSupported).1.desyncConfig =
      s.desyncConfig := by
  unfold correctSpeed restoreSpeed slowDown
  dsimp only
  repeat' split
  all_goals rfl

/-- The detector forgets, or the client lags: then it keeps the time it has, or
    takes the time the next fast-forward must wait for. -/
theorem evaluate_behind (s : ClientSession) (e : Evaluation) :
    (s.evaluateDesyncCorrection e).1.behindFirstDetectedAtSeconds = none
        ∧ (∀ target setBy, (s.evaluateDesyncCorrection e).2 ≠ .fastForward target setBy)
      ∨ (∃ diff, Lagging s e diff)
        ∧ (s.evaluateDesyncCorrection e).1.behindFirstDetectedAtSeconds =
          some (s.behindFirstDetectedAtSeconds.getD e.nowSeconds)
        ∧ (∀ target setBy, (s.evaluateDesyncCorrection e).2 ≠ .fastForward target setBy)
      ∨ Ripe s e
        ∧ (s.evaluateDesyncCorrection e).1.behindFirstDetectedAtSeconds =
          some (e.nowSeconds + s.desyncConfig.fastforwardResetThresholdSeconds) := by
  unfold evaluateDesyncCorrection
  cases hroom : e.room with
  | none => exact .inl ⟨rfl, fun _ _ h => nomatch h⟩
  | some room =>
    dsimp only
    unfold evaluateDesyncCorrectionForRoomPlaystate
    cases hcorrectable : s.correctable room with
    | none => exact .inl ⟨rfl, fun _ _ h => nomatch h⟩
    | some global =>
      obtain ⟨globalPosition, globalPaused⟩ := global
      dsimp only
      have hcompared : ∃ room globalPosition' globalPaused, e.room = some room
          ∧ s.correctable room = some (globalPosition', globalPaused)
          ∧ e.localPosition - globalPosition = e.localPosition - globalPosition' :=
        ⟨room, globalPosition, globalPaused, hroom, hcorrectable, rfl⟩
      split
      · refine .inl ⟨?_, ?_⟩
        · split
          · rfl
          · split <;> rfl
        · split
          · exact fun _ _ h => nomatch h
          · split <;> exact fun _ _ h => nomatch h
      · split
        · next hripe =>
          rw [Bool.and_eq_true] at hripe
          refine .inr (.inr ⟨⟨_, ⟨hcompared, hripe.1⟩, hripe.2⟩, ?_⟩)
          split
          · rfl
          · split <;> rfl
        · have hspeed := correctSpeed_behind (s.trackLag (e.localPosition - globalPosition)
            e.nowSeconds e.localCanControl e.dontSlowDownWithMe) room globalPaused
            (e.localPosition - globalPosition) e.nowSeconds e.speedSupported
          rw [hspeed.1]
          unfold trackLag at hspeed ⊢
          split at hspeed
          · next hlags =>
            rw [if_pos hlags]
            exact .inr (.inl ⟨⟨_, hcompared, hlags⟩, rfl, hspeed.2⟩)
          · next hcurrent =>
            rw [if_neg hcurrent]
            exact .inl ⟨rfl, hspeed.2⟩

/-- A client that is behind is not to be rewound. -/
theorem Lagging.not_rewinds (hvalid : s.desyncConfig.Valid) {e : Evaluation} {diff : Seconds}
    (h : Lagging s e diff) : s.rewinds diff = false := by
  have hlags := h.lags
  unfold ClientSession.lags at hlags
  simp only [Bool.and_eq_true, decide_eq_true_eq] at hlags
  have hbehind : diff < -s.desyncConfig.fastforwardBehindThresholdSeconds := hlags.2
  have hahead : ¬s.desyncConfig.rewindThresholdSeconds < diff := by
    intro hlt
    linarith [hvalid.rewind, hvalid.behind]
  unfold rewinds
  rw [decide_eq_false hahead, Bool.and_false]

/-- The detector after an evaluation of a client that lags. -/
theorem evaluate_lagging (hvalid : s.desyncConfig.Valid) {e : Evaluation} {diff : Seconds}
    (h : Lagging s e diff) :
    (s.evaluateDesyncCorrection e).1.behindFirstDetectedAtSeconds =
      some (if s.fastforwardDue diff e.nowSeconds then
        e.nowSeconds + s.desyncConfig.fastforwardResetThresholdSeconds
      else s.behindFirstDetectedAtSeconds.getD e.nowSeconds) := by
  have hahead := h.not_rewinds hvalid
  obtain ⟨⟨room, globalPosition, globalPaused, hroom, hcorrectable, rfl⟩, hlags⟩ := h
  unfold evaluateDesyncCorrection
  rw [hroom]
  dsimp only
  unfold evaluateDesyncCorrectionForRoomPlaystate
  rw [hcorrectable]
  dsimp only
  rw [hahead, hlags, if_neg Bool.false_ne_true, Bool.true_and]
  split
  · split
    · rfl
    · split <;> rfl
  · rw [(correctSpeed_behind ..).1]
    unfold trackLag
    rw [if_pos hlags]

theorem evaluate_config (s : ClientSession) (e : Evaluation) :
    (s.evaluateDesyncCorrection e).1.desyncConfig = s.desyncConfig := by
  unfold evaluateDesyncCorrection
  cases e.room with
  | none => rfl
  | some room =>
    dsimp only
    unfold evaluateDesyncCorrectionForRoomPlaystate
    cases s.correctable room with
    | none => rfl
    | some global =>
      dsimp only
      split
      · split
        · rfl
        · split <;> rfl
      · split
        · split
          · rfl
          · split <;> rfl
        · obtain ⟨detected, htracked⟩ := s.trackLag_eq (e.localPosition - global.1)
            e.nowSeconds e.localCanControl e.dontSlowDownWithMe
          rw [htracked]
          exact correctSpeed_config ..

/-! ### Nothing to correct towards -/

/-- While the cache pauses the player or its recovery is not over, and for a state
    of the room without a position or a pause, or with a seek, nothing is corrected. -/
theorem evaluate_blocked {e : Evaluation} (h : e.room.bind s.correctable = none) :
    s.evaluateDesyncCorrection e = (s.forgetLag, .none) := by
  unfold evaluateDesyncCorrection
  cases hroom : e.room with
  | none => rfl
  | some room =>
    rw [hroom, Option.bind_some] at h
    dsimp only
    unfold evaluateDesyncCorrectionForRoomPlaystate
    rw [h]

/-! ### Telemetry -/

/-- Two states that differ in telemetry only. -/
structure SameCorrection (s s' : ClientSession) : Prop where
  config : s'.desyncConfig = s.desyncConfig
  speed : s'.speed = s.speed
  behind : s'.behindFirstDetectedAtSeconds = s.behindFirstDetectedAtSeconds

theorem SameCorrection.refl (s : ClientSession) : SameCorrection s s := ⟨rfl, rfl, rfl⟩

theorem SameCorrection.trans {s s' s'' : ClientSession} (h : SameCorrection s s')
    (h' : SameCorrection s' s'') : SameCorrection s s'' :=
  ⟨h'.config.trans h.config, h'.speed.trans h.speed, h'.behind.trans h.behind⟩

theorem observeCachePause_same (s : ClientSession) (observedPosition : Option Seconds)
    (pausedForCache : Bool) :
    SameCorrection s (s.observeCachePause observedPosition pausedForCache) := by
  unfold observeCachePause
  dsimp only
  repeat' split
  all_goals exact ⟨rfl, rfl, rfl⟩

theorem observeRecovery_same (s : ClientSession) (position : Seconds) :
    SameCorrection s (s.observeRecovery position) := by
  unfold observeRecovery
  repeat' split
  all_goals exact ⟨rfl, rfl, rfl⟩

theorem observePlayer_same (s : ClientSession) (update : PlayerPlaybackTelemetryUpdate)
    (observed : Option Seconds) : SameCorrection s (s.observePlayer update observed) := by
  unfold observePlayer
  cases update.pausedForCache with
  | none => exact ⟨rfl, rfl, rfl⟩
  | some pausedForCache =>
    have hcache := s.observeCachePause_same observed pausedForCache
    exact ⟨hcache.config, hcache.speed, hcache.behind⟩

theorem applyTelemetry_same (s : ClientSession) (update : PlayerPlaybackTelemetryUpdate) :
    SameCorrection s (s.applyTelemetry update) := by
  unfold applyTelemetry
  dsimp only
  generalize update.positionSeconds.filter (fun position => decide (0 ≤ position)) = observed
  have hplayer := s.observePlayer_same update observed
  generalize s.observePlayer update observed = s₁ at hplayer ⊢
  refine hplayer.trans ?_
  split
  · cases observed with
    | none => exact ⟨rfl, rfl, rfl⟩
    | some position =>
      have hrecovery := s₁.observeRecovery_same position
      exact ⟨hrecovery.config, hrecovery.speed, hrecovery.behind⟩
  · exact ⟨rfl, rfl, rfl⟩

theorem moveCacheResync_same (s : ClientSession) (resync : CacheResync) :
    SameCorrection s (s.moveCacheResync resync) := by
  cases resync <;> exact ⟨rfl, rfl, rfl⟩

end ClientSession

/-! ### Operations -/

variable {s : ClientSession}

/-- An operation evaluates a correction, forgets for a reconnect, or changes no correction. -/
theorem step_cases (s : ClientSession) (op : Op) :
    (∃ e, op = .evaluate e)
      ∨ op = .reconnect
        ∧ (step s op).desyncConfig = s.desyncConfig
        ∧ (step s op).speed = (false, none)
        ∧ (step s op).behindFirstDetectedAtSeconds = none
        ∧ action s op = .none
      ∨ (∀ e, op ≠ .evaluate e) ∧ op ≠ .reconnect ∧ s.SameCorrection (step s op)
        ∧ action s op = .none := by
  cases op with
  | evaluate e => exact .inl ⟨e, rfl⟩
  | telemetry update =>
    exact .inr (.inr ⟨(fun _ h => nomatch h), (fun h => nomatch h),
      s.applyTelemetry_same update, rfl⟩)
  | snapshot snapshot =>
    exact .inr (.inr ⟨(fun _ h => nomatch h), (fun h => nomatch h), ⟨rfl, rfl, rfl⟩, rfl⟩)
  | cacheResync resync =>
    exact .inr (.inr ⟨(fun _ h => nomatch h), (fun h => nomatch h),
      s.moveCacheResync_same resync, rfl⟩)
  | reconnect => exact .inr (.inl ⟨rfl, rfl, rfl, rfl, rfl⟩)
  | membership username roomName changedAt =>
    exact .inr (.inr ⟨(fun _ h => nomatch h), (fun h => nomatch h), ⟨rfl, rfl, rfl⟩, rfl⟩)

end Sorotte.Desync
