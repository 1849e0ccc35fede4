import Sorotte.Desync.Steps

/-! # Desync corrections over runs

  The flag for a changed speed says whether the last correction of the speed
  slowed the player down, and the detector's time is never before the lag began.
-/

namespace Sorotte.Desync

open Sorotte.Framework
open ClientSession

variable {config : DesyncCorrectionConfig} {ops : List Op}

/-- The session after a run. -/
def after (config : DesyncCorrectionConfig) (ops : List Op) : ClientSession :=
  runFrom step { desyncConfig := config } ops

theorem after_append (config : DesyncCorrectionConfig) (first second : List Op) :
    after config (first ++ second) = runFrom step (after config first) second :=
  runFrom_append ..

theorem after_snoc (config : DesyncCorrectionConfig) (ops : List Op) (op : Op) :
    after config (ops ++ [op]) = step (after config ops) op :=
  after_append ..

theorem step_config (s : ClientSession) (op : Op) :
    (step s op).desyncConfig = s.desyncConfig := by
  rcases step_cases s op with ⟨e, rfl⟩ | ⟨-, hconfig, -⟩ | ⟨-, -, hsame, -⟩
  · exact s.evaluate_config e
  · exact hconfig
  · exact hsame.config

theorem after_config (config : DesyncCorrectionConfig) (ops : List Op) :
    (after config ops).desyncConfig = config := by
  have hstep : ∀ s op, s.desyncConfig = config → (step s op).desyncConfig = config := by
    intro s op hs
    rw [step_config, hs]
  exact invariant_of_step hstep rfl ops

/-! ### Slowed and restored -/

/-- The operation neither restores the speed nor forgets that it was changed. -/
def Unrestored (s : ClientSession) (op : Op) : Prop :=
  op ≠ .reconnect ∧ ∀ rate, action s op ≠ .restoreSpeed rate

/-- A run whose last correction of the speed, since the last reconnect, slowed it down. -/
def LastSlowed (config : DesyncCorrectionConfig) (ops : List Op) : Prop :=
  ∃ front e back setBy, ops = front ++ .evaluate e :: back
    ∧ action (after config front) (.evaluate e) = .slowDown config.slowdownRate setBy
    ∧ Along step Unrestored (after config (front ++ [.evaluate e])) back

/-- The speed is changed by an evaluation that slows down, and is kept changed. -/
theorem step_slowed {s : ClientSession} {op : Op} (h : (step s op).speedChanged = true) :
    (∃ e setBy, op = .evaluate e
        ∧ action s op = .slowDown s.desyncConfig.slowdownRate setBy)
      ∨ s.speedChanged = true ∧ Unrestored s op := by
  rcases step_cases s op with ⟨e, rfl⟩ | ⟨-, -, hforgets, -⟩ | ⟨hevaluates, hreconnect, hsame, hnone⟩
  · have hanswer := s.evaluate_answered e
    change (s.evaluateDesyncCorrection e).1.speedChanged = true at h
    change (∃ e' setBy, _ ∧ (s.evaluateDesyncCorrection e).2 = _)
      ∨ _ ∧ _ ∧ ∀ rate, (s.evaluateDesyncCorrection e).2 ≠ _
    generalize s.evaluateDesyncCorrection e = result at h hanswer ⊢
    cases hanswer with
    | quiet s' kept =>
      exact .inr ⟨(congrArg Prod.fst kept).symm.trans h, nofun, nofun⟩
    | rewound s' target setBy kept =>
      exact .inr ⟨(congrArg Prod.fst kept).symm.trans h, nofun, nofun⟩
    | forwarded s' target setBy kept =>
      exact .inr ⟨(congrArg Prod.fst kept).symm.trans h, nofun, nofun⟩
    | slowed s' setBy => exact .inl ⟨e, setBy, rfl, rfl⟩
    | restored s' now =>
      have hnormal : s'.speedChanged = false := congrArg Prod.fst now
      rw [hnormal] at h
      cases h
  · have hnormal : (step s op).speedChanged = false := congrArg Prod.fst hforgets
    rw [hnormal] at h
    cases h
  · have hkept : (step s op).speedChanged = s.speedChanged := congrArg Prod.fst hsame.speed
    refine .inr ⟨hkept.symm.trans h, hreconnect, ?_⟩
    rw [hnone]
    nofun

/-- A changed speed stays changed while it is not restored. -/
theorem step_unrestored {s : ClientSession} {op : Op} (h : s.speedChanged = true)
    (hop : Unrestored s op) : (step s op).speedChanged = true := by
  rcases step_cases s op with ⟨e, rfl⟩ | ⟨rfl, -⟩ | ⟨-, -, hsame, -⟩
  · have hanswer := s.evaluate_answered e
    have hrestores : ∀ rate, (s.evaluateDesyncCorrection e).2 ≠ .restoreSpeed rate := hop.2
    show (s.evaluateDesyncCorrection e).1.speedChanged = true
    generalize s.evaluateDesyncCorrection e = result at hanswer hrestores ⊢
    cases hanswer with
    | quiet s' kept => exact (congrArg Prod.fst kept).trans h
    | rewound s' target setBy kept => exact (congrArg Prod.fst kept).trans h
    | forwarded s' target setBy kept => exact (congrArg Prod.fst kept).trans h
    | slowed s' setBy now => exact congrArg Prod.fst now
    | restored s' now slow => exact absurd rfl (hrestores _)
  · exact absurd rfl hop.1
  · exact (congrArg Prod.fst hsame.speed).trans h

theorem step_of_slowDown {s : ClientSession} {op : Op} {rate : Seconds} {setBy : Option String}
    (h : action s op = .slowDown rate setBy) : (step s op).speedChanged = true := by
  rcases step_cases s op with ⟨e, rfl⟩ | ⟨-, -, -, -, hnone⟩ | ⟨-, -, -, hnone⟩
  · have hanswer := s.evaluate_answered e
    change (s.evaluateDesyncCorrection e).2 = _ at h
    show (s.evaluateDesyncCorrection e).1.speedChanged = true
    generalize s.evaluateDesyncCorrection e = result at h hanswer ⊢
    cases hanswer with
    | slowed s' setBy now => exact congrArg Prod.fst now
    | quiet => cases h
    | rewound => cases h
    | forwarded => cases h
    | restored => cases h
  · rw [hnone] at h
    cases h
  · rw [hnone] at h
    cases h

theorem speedChanged_iff : (after config ops).speedChanged = true ↔ LastSlowed config ops := by
  constructor
  · intro h
    induction ops using List.reverseRecOn with
    | nil => cases h
    | append_singleton ops op ih =>
      rw [after_snoc] at h
      rcases step_slowed h with ⟨e, setBy, rfl, haction⟩ | ⟨hbefore, hop⟩
      · rw [after_config] at haction
        exact ⟨ops, e, [], setBy, rfl, haction, trivial⟩
      · obtain ⟨front, e, back, setBy, rfl, haction, hback⟩ := ih hbefore
        refine ⟨front, e, back ++ [op], setBy, by simp, haction, ?_⟩
        have hsplit : front ++ Op.evaluate e :: back = front ++ [.evaluate e] ++ back := by simp
        rw [hsplit, after_append] at hop
        rw [along_append]
        exact ⟨hback, hop, trivial⟩
  · rintro ⟨front, e, back, setBy, rfl, haction, hback⟩
    have hslow : (after config (front ++ [.evaluate e])).speedChanged = true := by
      rw [after_snoc]
      exact step_of_slowDown haction
    have hsplit : front ++ Op.evaluate e :: back = front ++ [.evaluate e] ++ back := by simp
    rw [hsplit, after_append]
    have hkeeps : ∀ s op, s.speedChanged = true → Unrestored s op →
        (step s op).speedChanged = true := fun s op => step_unrestored
    exact invariant_along hkeeps hslow hback

/-- The player is never moved while its speed is changed. -/
theorem action_normal {s : ClientSession} {op : Op}
    (h : (∃ target setBy, action s op = .rewind target setBy)
      ∨ ∃ target setBy, action s op = .fastForward target setBy) : s.speedChanged = false := by
  rcases step_cases s op with ⟨e, rfl⟩ | ⟨-, -, -, -, hnone⟩ | ⟨-, -, -, hnone⟩
  · have hanswer := s.evaluate_answered e
    change (∃ target setBy, (s.evaluateDesyncCorrection e).2 = _)
      ∨ ∃ target setBy, (s.evaluateDesyncCorrection e).2 = _ at h
    generalize s.evaluateDesyncCorrection e = result at h hanswer
    cases hanswer with
    | rewound s' target setBy kept normal => exact normal
    | forwarded s' target setBy kept normal => exact normal
    | _ => rcases h with ⟨_, _, h⟩ | ⟨_, _, h⟩ <;> cases h
  · rw [hnone] at h
    rcases h with ⟨_, _, h⟩ | ⟨_, _, h⟩ <;> cases h
  · rw [hnone] at h
    rcases h with ⟨_, _, h⟩ | ⟨_, _, h⟩ <;> cases h

/-! ### Restoring the speed -/

/-- The correction in force is the configured one. -/
def Corrected (s : ClientSession) : Prop :=
  s.speedChanged = true → s.speedCorrectionRate = some s.desyncConfig.slowdownRate

theorem step_corrected (s : ClientSession) (op : Op) (hs : Corrected s) :
    Corrected (step s op) := by
  intro hslow
  rw [step_config]
  rcases step_cases s op with ⟨e, rfl⟩ | ⟨-, -, hforgets, -⟩ | ⟨-, -, hsame, -⟩
  · have hanswer := s.evaluate_answered e
    change (s.evaluateDesyncCorrection e).1.speedChanged = true at hslow
    show (s.evaluateDesyncCorrection e).1.speedCorrectionRate = _
    generalize s.evaluateDesyncCorrection e = result at hslow hanswer ⊢
    have hkept : ∀ s' : ClientSession, s'.speed = s.speed → s'.speedChanged = true →
        s'.speedCorrectionRate = some s.desyncConfig.slowdownRate := by
      intro s' kept hslow
      have hbefore : s.speedChanged = true := (congrArg Prod.fst kept).symm.trans hslow
      exact (congrArg Prod.snd kept).trans (hs hbefore)
    cases hanswer with
    | quiet s' kept => exact hkept s' kept hslow
    | rewound s' target setBy kept => exact hkept s' kept hslow
    | forwarded s' target setBy kept => exact hkept s' kept hslow
    | slowed s' setBy now => exact congrArg Prod.snd now
    | restored s' now =>
      have hnormal : s'.speedChanged = false := congrArg Prod.fst now
      rw [hnormal] at hslow
      cases hslow
  · have hnormal : (step s op).speedChanged = false := congrArg Prod.fst hforgets
    rw [hnormal] at hslow
    cases hslow
  · have hbefore : s.speedChanged = true := (congrArg Prod.fst hsame.speed).symm.trans hslow
    exact (congrArg Prod.snd hsame.speed).trans (hs hbefore)

theorem after_corrected (config : DesyncCorrectionConfig) (ops : List Op) :
    Corrected (after config ops) := by
  have hfirst : Corrected { desyncConfig := config } := by
    intro h
    cases h
  exact invariant_of_step step_corrected hfirst ops

theorem graceActive_mono {s : ClientSession} {setBy : Option String}
    {nowSeconds grace longer : Seconds} (hle : grace ≤ longer)
    (h : s.selfOriginGraceActive setBy nowSeconds longer = false) :
    s.selfOriginGraceActive setBy nowSeconds grace = false := by
  unfold selfOriginGraceActive at h ⊢
  rw [Bool.and_eq_false_iff] at h ⊢
  refine h.imp id fun hall => ?_
  cases hchanged : s.roomName.bind fun room => s.playstateAuthorityChangedAtSeconds[room]? with
  | none =>
    rw [hchanged] at hall
    cases hall
  | some updatedAt =>
    rw [hchanged, Option.all_some, Bool.and_eq_false_iff, decide_eq_false_iff_not,
      decide_eq_false_iff_not] at hall
    rw [Option.all_some, Bool.and_eq_false_iff, decide_eq_false_iff_not, decide_eq_false_iff_not]
    exact hall.imp id fun hlate hearly => hlate (hearly.trans hle)

/-- An evaluation that finds the drift of a slowed player ended: the room plays, or
    slowing is switched off, the rate can be set, and where the client is to be moved
    instead no grace keeps it in place. -/
structure DriftEnded (config : DesyncCorrectionConfig) (s : ClientSession) (e : Evaluation) :
    Prop where
  ended : ∃ room globalPosition globalPaused, e.room = some room
    ∧ s.correctable room = some (globalPosition, globalPaused)
    ∧ (s.rewinds (e.localPosition - globalPosition) = true ∨ Ripe s e →
      s.fastforwardGraceActive room.setBy e.nowSeconds = false)
    ∧ (config.slowOnDesync = true → globalPaused = false
      ∧ (config.slowdownRate < normalPlaybackRate
          ∧ e.localPosition - globalPosition ≤ config.slowdownResetThresholdSeconds
        ∨ e.localPosition - globalPosition ≤ config.slowdownThresholdSeconds
          ∧ |e.localPosition - globalPosition| < config.slowdownResetThresholdSeconds))
  supported : e.speedSupported = true

/-- A slowed player whose drift ended has its speed restored. -/
theorem correctSpeed_restores {s : ClientSession} (room : RoomPlaystateView)
    {globalPaused : Bool} {diff : Seconds} (nowSeconds : Seconds) (hslow : s.speedChanged = true)
    (hrate : s.speedCorrectionRate = some s.desyncConfig.slowdownRate)
    (h : s.desyncConfig.slowOnDesync = true → globalPaused = false
      ∧ (s.desyncConfig.slowdownRate < normalPlaybackRate
          ∧ diff ≤ s.desyncConfig.slowdownResetThresholdSeconds
        ∨ diff ≤ s.desyncConfig.slowdownThresholdSeconds
          ∧ |diff| < s.desyncConfig.slowdownResetThresholdSeconds)) :
    s.correctSpeed room globalPaused diff nowSeconds true = s.restoreSpeed := by
  unfold correctSpeed
  dsimp only
  rw [hslow, hrate, Option.any_some]
  cases hpolicy : s.desyncConfig.slowOnDesync with
  | false => rfl
  | true =>
    obtain ⟨rfl, hended⟩ := h hpolicy
    rw [if_neg (by decide), if_pos (by decide)]
    rcases hended with ⟨hslower, hcrossed⟩ | ⟨hsmall, hnear⟩
    · rw [if_pos (by simp [hslower, hcrossed])]
    · by_cases hcrossed : (true && (decide (s.desyncConfig.slowdownRate < normalPlaybackRate)
          && decide (diff ≤ s.desyncConfig.slowdownResetThresholdSeconds))) = true
      · rw [if_pos hcrossed]
      · rw [if_neg hcrossed, if_neg (not_lt.mpr hsmall), if_pos (by simp [hnear])]

theorem drift_ended_restores {e : Evaluation} (hslow : (after config ops).speedChanged = true)
    (h : DriftEnded config (after config ops) e) :
    action (after config ops) (.evaluate e) = .restoreSpeed normalPlaybackRate := by
  have hrate := after_corrected config ops hslow
  have hconfig := after_config config ops
  obtain ⟨⟨room, globalPosition, globalPaused, hroom, hcorrectable, hgrace, hended⟩,
    hsupported⟩ := h
  rw [← hconfig] at hended
  show ((after config ops).evaluateDesyncCorrection e).2 = _
  generalize after config ops = s at *
  unfold evaluateDesyncCorrection
  rw [hroom]
  dsimp only
  unfold evaluateDesyncCorrectionForRoomPlaystate
  rw [hcorrectable]
  dsimp only
  split
  · next hahead =>
    have hshort : s.forgetLag.correctionGraceActive room.setBy e.nowSeconds = false := by
      refine graceActive_mono ?_ (hgrace (.inl hahead))
      linarith [le_max_right s.desyncConfig.sustainSeconds 0]
    have hslow' : s.forgetLag.speedChanged = true := hslow
    rw [hshort, if_neg Bool.false_ne_true, if_pos hslow']
    rfl
  · split
    · next hdue =>
      rw [Bool.and_eq_true] at hdue
      have hripe : Ripe s e :=
        ⟨_, ⟨⟨room, globalPosition, globalPaused, hroom, hcorrectable, rfl⟩, hdue.1⟩, hdue.2⟩
      have hgrace' : (s.coolDown e.nowSeconds).fastforwardGraceActive room.setBy e.nowSeconds =
          false := hgrace (.inr hripe)
      have hslow' : (s.coolDown e.nowSeconds).speedChanged = true := hslow
      rw [hgrace', if_neg Bool.false_ne_true, if_pos hslow']
      rfl
    · obtain ⟨detected, htracked⟩ := s.trackLag_eq (e.localPosition - globalPosition)
        e.nowSeconds e.localCanControl e.dontSlowDownWithMe
      have hrestores := correctSpeed_restores
        (s := { s with behindFirstDetectedAtSeconds := detected }) room e.nowSeconds hslow hrate
        hended
      rw [htracked, hsupported, hrestores]
      rfl

/-! ### How long the client has been behind -/

/-- The operation leaves a lag uninterrupted. -/
def Uninterrupted (s : ClientSession) (op : Op) : Prop :=
  op ≠ .reconnect ∧ ∀ e, op = .evaluate e → ∃ diff, Lagging s e diff

/-- The lag was found after `base`, and every evaluation since has found it again. -/
structure Behind (config : DesyncCorrectionConfig) (ops base : List Op) (first : Evaluation)
    (between : List Op) : Prop where
  run : ops = base ++ .evaluate first :: between
  lag : Along step Uninterrupted (after config base) (.evaluate first :: between)

theorem uninterrupted_of_lagging {s : ClientSession} {e : Evaluation} {diff : Seconds}
    (h : Lagging s e diff) : Uninterrupted s (.evaluate e) := by
  refine ⟨(fun h => nomatch h), ?_⟩
  intro e' he'
  cases he'
  exact ⟨diff, h⟩

theorem Behind.snoc {base between : List Op} {first : Evaluation} {op : Op}
    (h : Behind config ops base first between) (hop : Uninterrupted (after config ops) op) :
    Behind config (ops ++ [op]) base first (between ++ [op]) := by
  obtain ⟨rfl, hlag⟩ := h
  refine ⟨by simp, ?_⟩
  rw [← List.cons_append, along_append]
  rw [after_append] at hop
  exact ⟨hlag, hop, trivial⟩

theorem Behind.begin {e : Evaluation} {diff : Seconds} (h : Lagging (after config ops) e diff) :
    Behind config (ops ++ [.evaluate e]) ops e [] := by
  exact ⟨rfl, uninterrupted_of_lagging h, trivial⟩

/-- **Detector invariant**: the time of the detector is not before the evaluation
    that found the lag first. -/
theorem detector_behind (hvalid : config.Valid) {detected : Seconds}
    (h : (after config ops).behindFirstDetectedAtSeconds = some detected) :
    ∃ base first between, Behind config ops base first between
      ∧ first.nowSeconds ≤ detected := by
  induction ops using List.reverseRecOn generalizing detected with
  | nil => cases h
  | append_singleton ops op ih =>
    rw [after_snoc] at h
    rcases step_cases (after config ops) op with ⟨e, rfl⟩ | ⟨-, -, -, hforgets, -⟩
      | ⟨hevaluates, hreconnect, hsame, -⟩
    · change ((after config ops).evaluateDesyncCorrection e).1.behindFirstDetectedAtSeconds = _ at h
      rcases (after config ops).evaluate_behind e with ⟨hnone, -⟩ | ⟨⟨diff, hlag⟩, hkept, -⟩
        | ⟨⟨diff, hlag, -⟩, hcool⟩
      · rw [hnone] at h
        cases h
      · rw [hkept] at h
        cases hbefore : (after config ops).behindFirstDetectedAtSeconds with
        | none =>
          rw [hbefore] at h
          exact ⟨ops, e, [], .begin hlag, le_of_eq (Option.some.inj h)⟩
        | some earlier =>
          rw [hbefore] at h
          obtain ⟨base, first, between, hbehind, hfirst⟩ := ih hbefore
          refine ⟨base, first, between ++ [.evaluate e],
            hbehind.snoc (uninterrupted_of_lagging hlag), ?_⟩
          rw [← Option.some.inj h]
          exact hfirst
      · rw [hcool, after_config] at h
        refine ⟨ops, e, [], .begin hlag, ?_⟩
        rw [← Option.some.inj h]
        linarith [hvalid.fastforwardReset]
    · rw [hforgets] at h
      cases h
    · rw [hsame.behind] at h
      obtain ⟨base, first, between, hbehind, hfirst⟩ := ih h
      exact ⟨base, first, between ++ [op],
        hbehind.snoc ⟨hreconnect, fun e he => absurd he (hevaluates e)⟩, hfirst⟩

/-- An evaluation that answers with a fast-forward had decided for it. -/
theorem ripe_of_fastForward {s : ClientSession} {e : Evaluation} {target : Seconds}
    {setBy : Option String} (h : action s (.evaluate e) = .fastForward target setBy) :
    Ripe s e := by
  change (s.evaluateDesyncCorrection e).2 = _ at h
  rcases s.evaluate_behind e with ⟨-, hnot⟩ | ⟨-, -, hnot⟩ | ⟨hripe, -⟩
  · exact absurd h (hnot _ _)
  · exact absurd h (hnot _ _)
  · exact hripe

theorem ripe_detected {s : ClientSession} {e : Evaluation} (h : Ripe s e) :
    ∃ detected, s.behindFirstDetectedAtSeconds = some detected
      ∧ s.desyncConfig.sustainSeconds < e.nowSeconds - detected := by
  obtain ⟨diff, -, hdue⟩ := h
  unfold fastforwardDue at hdue
  obtain ⟨detected, hdetected, hboth⟩ := Option.any_eq_true .. |>.mp hdue
  rw [Bool.and_eq_true, decide_eq_true_eq, decide_eq_true_eq] at hboth
  exact ⟨detected, hdetected, hboth.1⟩

/-- A fast-forward comes after a lag longer than the sustain time. -/
theorem ripe_behind (hvalid : config.Valid) {e : Evaluation} (h : Ripe (after config ops) e) :
    ∃ base first between,
      Behind config (ops ++ [.evaluate e]) base first (between ++ [.evaluate e])
        ∧ config.sustainSeconds < e.nowSeconds - first.nowSeconds := by
  obtain ⟨detected, hdetected, hsustained⟩ := ripe_detected h
  obtain ⟨base, first, between, hbehind, hfirst⟩ := detector_behind hvalid hdetected
  obtain ⟨diff, hlag, -⟩ := h
  refine ⟨base, first, between, hbehind.snoc (uninterrupted_of_lagging hlag), ?_⟩
  rw [after_config] at hsustained
  linarith

/-! ### The cool-down -/

/-- The operation leaves the lag uninterrupted and evaluates no earlier than the time. -/
def LaggingSince (start : Seconds) (s : ClientSession) (op : Op) : Prop :=
  Uninterrupted s op ∧ ∀ e, op = .evaluate e → start ≤ e.nowSeconds

/-- The detector waits for the cool-down that began at the time. -/
def CoolingDown (config : DesyncCorrectionConfig) (start : Seconds) (s : ClientSession) : Prop :=
  s.desyncConfig = config
    ∧ ∃ detected, s.behindFirstDetectedAtSeconds = some detected
      ∧ start + config.fastforwardResetThresholdSeconds ≤ detected

theorem step_coolingDown (hvalid : config.Valid) {start : Seconds} (s : ClientSession) (op : Op)
    (hs : CoolingDown config start s) (hop : LaggingSince start s op) :
    CoolingDown config start (step s op) := by
  obtain ⟨hconfig, detected, hdetected, hcool⟩ := hs
  refine ⟨by rw [step_config, hconfig], ?_⟩
  rcases step_cases s op with ⟨e, rfl⟩ | ⟨rfl, -⟩ | ⟨-, -, hsame, -⟩
  · show ∃ detected, (s.evaluateDesyncCorrection e).1.behindFirstDetectedAtSeconds = _ ∧ _
    obtain ⟨diff, hlag⟩ := hop.1.2 e rfl
    have hlater := hop.2 e rfl
    rw [s.evaluate_lagging (hconfig ▸ hvalid) hlag, hdetected, hconfig]
    -- A further decision in the lag moves the detector on, else it stays.
    split
    · exact ⟨_, rfl, by linarith⟩
    · exact ⟨_, rfl, hcool⟩
  · exact absurd rfl hop.1.1
  · exact ⟨detected, hsame.behind.trans hdetected, hcool⟩

/-- After an evaluation decided for a fast-forward, none follows in the same lag
    before the cool-down and the sustain time are over. -/
theorem fastForward_apart (hvalid : config.Valid) {front middle : List Op} {e e' : Evaluation} {target : Seconds}
    {setBy : Option String} (hripe : Ripe (after config front) e)
    (hmiddle : Along step (LaggingSince e.nowSeconds) (after config (front ++ [.evaluate e]))
      middle)
    (h : action (after config (front ++ .evaluate e :: middle)) (.evaluate e') =
      .fastForward target setBy) :
    e.nowSeconds + config.fastforwardResetThresholdSeconds + config.sustainSeconds
      < e'.nowSeconds := by
  have hstart : CoolingDown config e.nowSeconds (after config (front ++ [.evaluate e])) := by
    refine ⟨after_config .., ?_⟩
    rw [after_snoc]
    obtain ⟨diff, hlag, hdue⟩ := hripe
    have hcool := (after config front).evaluate_lagging ((after_config config front).symm ▸ hvalid)
      hlag
    rw [if_pos hdue, after_config] at hcool
    exact ⟨_, hcool, le_refl _⟩
  have hsplit : front ++ Op.evaluate e :: middle = front ++ [.evaluate e] ++ middle := by simp
  have hend := invariant_along (step_coolingDown hvalid) hstart hmiddle
  rw [← after_append, ← hsplit] at hend
  obtain ⟨-, detected, hdetected, hcool⟩ := hend
  obtain ⟨detected', hdetected', hsustained⟩ := ripe_detected (ripe_of_fastForward h)
  rw [hdetected] at hdetected'
  cases hdetected'
  rw [after_config] at hsustained
  linarith

/-! ### Desync corrections -/

/-- The times of the evaluations of a run, in order. -/
def evaluationTimes (ops : List Op) : List Seconds :=
  ops.filterMap fun op =>
    match op with
    | .evaluate e => some e.nowSeconds
    | _ => none

/-- In a run in order of time every evaluation after the first is no earlier. -/
theorem laggingSince {e : Evaluation} {middle : List Op} {s : ClientSession}
    (htimes : (evaluationTimes (.evaluate e :: middle)).Pairwise (· ≤ ·))
    (h : Along step Uninterrupted s middle) : Along step (LaggingSince e.nowSeconds) s middle := by
  have hlater : ∀ at' ∈ evaluationTimes middle, e.nowSeconds ≤ at' :=
    (List.pairwise_cons.mp htimes).1
  clear htimes
  induction middle generalizing s with
  | nil => trivial
  | cons op middle ih =>
    refine ⟨⟨h.1, ?_⟩, ih h.2 ?_⟩
    · intro e' he'
      subst he'
      exact hlater _ List.mem_cons_self
    · intro at' hat'
      refine hlater at' ?_
      cases op <;> first | exact hat' | exact List.mem_cons_of_mem _ hat'

/-- **Desync corrections are ordered and undone.**  A slow-down and a later move of
    the player have a restored speed or a reconnect between them; the flag says that
    the last correction of the speed was a slow-down, and an ended drift is then
    restored; a fast-forward follows a sustained lag, and the next one in the same lag
    waits for the cool-down; and nothing is corrected without a room state to correct
    towards, while the cache pauses the player or its recovery is pending. -/
theorem desync_corrections_ordered (config : DesyncCorrectionConfig) (hvalid : config.Valid) :
    (∀ front op middle op' rate setBy,
        action (after config front) op = .slowDown rate setBy →
        ((∃ target by', action (after config (front ++ op :: middle)) op' = .rewind target by')
          ∨ ∃ target by',
            action (after config (front ++ op :: middle)) op' = .fastForward target by') →
        ∃ before turn later, middle = before ++ turn :: later
          ∧ (turn = .reconnect ∨ ∃ rate,
            action (after config (front ++ op :: before)) turn = .restoreSpeed rate))
      ∧ (∀ ops, (after config ops).speedChanged = true ↔ LastSlowed config ops)
      ∧ (∀ ops e, (after config ops).speedChanged = true →
        DriftEnded config (after config ops) e →
        action (after config ops) (.evaluate e) = .restoreSpeed normalPlaybackRate)
      ∧ (∀ ops e target setBy,
        action (after config ops) (.evaluate e) = .fastForward target setBy →
        ∃ base first between,
          Behind config (ops ++ [.evaluate e]) base first (between ++ [.evaluate e])
            ∧ config.sustainSeconds < e.nowSeconds - first.nowSeconds)
      ∧ (∀ front e middle e' target setBy,
        (evaluationTimes (.evaluate e :: middle)).Pairwise (· ≤ ·) →
        Ripe (after config front) e →
        Along step Uninterrupted (after config (front ++ [.evaluate e])) middle →
        action (after config (front ++ .evaluate e :: middle)) (.evaluate e') =
          .fastForward target setBy →
        e.nowSeconds + config.fastforwardResetThresholdSeconds + config.sustainSeconds
          < e'.nowSeconds)
      ∧ ∀ ops e,
        ((after config ops).localPausedForCache = some true
          ∨ (after config ops).pendingCacheRoomPlaystateResync = true
          ∨ ∀ room, e.room = some room →
            room.position = none ∨ room.paused = none ∨ room.doSeek = some true) →
        action (after config ops) (.evaluate e) = .none := by
  refine ⟨?_, fun ops => speedChanged_iff, fun ops e => drift_ended_restores,
    fun ops e target setBy h => ripe_behind hvalid (ripe_of_fastForward h), ?_, ?_⟩
  · intro front op middle op' rate setBy hslows hmoves
    let normal := fun s : ClientSession => s.speedChanged = false
    have hfirst : ¬normal (after config (front ++ [op])) := by
      show ¬(after config (front ++ [op])).speedChanged = false
      rw [after_snoc, step_of_slowDown hslows]
      decide
    have hlast : normal (runFrom step (after config (front ++ [op])) middle) := by
      rw [← after_append, List.append_assoc]
      exact action_normal hmoves
    obtain ⟨before, turn, later, hmiddle, hslow, hturn⟩ := exists_turn hfirst hlast
    rw [← after_append, List.append_assoc] at hslow hturn
    refine ⟨before, turn, later, hmiddle, ?_⟩
    by_contra hnone
    rw [not_or, not_exists] at hnone
    have hkept := step_unrestored (Bool.eq_true_of_not_eq_false hslow) ⟨hnone.1, hnone.2⟩
    rw [show (step _ turn).speedChanged = false from hturn] at hkept
    cases hkept
  · intro front e middle e' target setBy htimes hripe hmiddle haction
    exact fastForward_apart hvalid hripe (laggingSince htimes hmiddle) haction
  · intro ops e hblocked
    have hnone : e.room.bind (after config ops).correctable = none := by
      cases hroom : e.room with
      | none => rfl
      | some room =>
        rw [Option.bind_some]
        unfold correctable
        rcases hblocked with hpaused | hpending | hroomless
        · rw [if_pos (.inl hpaused)]
        · rw [if_pos (.inr hpending)]
        · rcases hroomless room hroom with h | h | h
          · rw [h]
            split <;> rfl
          · rw [h]
            split
            · rfl
            · cases room.position <;> rfl
          · rw [h]
            split
            · rfl
            · split
              · rfl
              · rfl
    exact congrArg Prod.snd (evaluate_blocked hnone)

/-- The configuration a client starts with. -/
def defaultConfig : DesyncCorrectionConfig where
  rewindOnDesync := true
  rewindThresholdSeconds := 4
  fastforwardOnDesync := true
  fastforwardThresholdSeconds := 5
  fastforwardBehindThresholdSeconds := 7 / 4
  fastforwardExtraSeconds := 1 / 4
  fastforwardResetThresholdSeconds := 3
  slowOnDesync := true
  slowdownThresholdSeconds := 3 / 4
  slowdownRate := 19 / 20
  slowdownResetThresholdSeconds := 1 / 10

theorem defaultConfig_valid : defaultConfig.Valid := by
  constructor <;> decide +kernel

/-- An evaluation against a playing room at position 100. -/
def evaluation (nowSeconds localPosition : Seconds) : Op :=
  .evaluate ⟨some ⟨some 100, some false, none, none⟩, nowSeconds, localPosition, false, false, true⟩

theorem desync_corrections_ordered_lag :
    ∃ base first between,
      Behind defaultConfig ([evaluation 0 90] ++ [evaluation 4 90]) base first
          (between ++ [evaluation 4 90])
        ∧ defaultConfig.sustainSeconds < 4 - first.nowSeconds :=
  (desync_corrections_ordered defaultConfig defaultConfig_valid).2.2.2.1 [evaluation 0 90] _
    (401 / 4) none (by decide +kernel)

/-- A reconnect forgets a slow-down without restoring the speed. -/
theorem reconnect_forgets_slowDown :
    action (after defaultConfig []) (evaluation 0 102) = .slowDown (19 / 20) none
      ∧ action (after defaultConfig [evaluation 0 102]) .reconnect = .none
      ∧ (after defaultConfig [evaluation 0 102, .reconnect]).speedChanged = false
      ∧ action (after defaultConfig [evaluation 0 102, .reconnect]) (evaluation 1 110) =
        .rewind 100 none := by
  decide +kernel

end Sorotte.Desync
