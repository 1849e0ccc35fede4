import Sorotte.Transition.Steps

/-! # Native player gestures over runs

  The history of a pending edge is an invariant of the run: it was observed first
  against a baseline of the opposite state, and every operation since was calm.
  Where edges begin stable and no barrier hides what is technical, a gesture was
  therefore seen twice.  Commands are accounted for by a budget of one
  observation for each registration.
-/

namespace Sorotte.Transition

open Sorotte.Framework

variable {config : PlayerTransitionClassifierConfig} {ops : List Op}

/-- The classifier after a run. -/
def after (config : PlayerTransitionClassifierConfig) (ops : List Op) :
    PlayerTransitionClassifier :=
  runFrom step (.new config) ops

theorem after_append (config : PlayerTransitionClassifierConfig) (first second : List Op) :
    after config (first ++ second) = runFrom step (after config first) second :=
  runFrom_append ..

theorem after_snoc (config : PlayerTransitionClassifierConfig) (ops : List Op) (op : Op) :
    after config (ops ++ [op]) = step (after config ops) op :=
  after_append ..

theorem after_config (config : PlayerTransitionClassifierConfig) (ops : List Op) :
    (after config ops).config = PlayerTransitionClassifier.normalized config := by
  have hstep : ∀ s op, s.config = PlayerTransitionClassifier.normalized config →
      (step s op).config = PlayerTransitionClassifier.normalized config := by
    intro s op hs
    rw [step_config, hs]
  exact invariant_of_step hstep rfl ops

/-! ### The scope of a run -/

/-- An active scope was opened by an operation of the run, the last one to open any. -/
theorem scope_opened (h : (after config ops).activeMediaGeneration ≠ none) :
    ∃ opening g e base, ops = opening ++ .beginScope g e :: base
      ∧ PlayerTransitionClassifier.opensScope g e = true
      ∧ (∀ op ∈ base, op.opens = false)
      ∧ (after config ops).scope = (some g, some e) := by
  induction ops using List.reverseRecOn with
  | nil => exact absurd rfl h
  | append_singleton ops op ih =>
    rw [after_snoc] at h ⊢
    cases hopens : op.opens with
    | true =>
      cases op with
      | beginScope g e =>
        refine ⟨ops, g, e, [], rfl, hopens, by simp, ?_⟩
        show ((after config ops).beginScope g e).scope = _
        unfold PlayerTransitionClassifier.beginScope
        rw [if_pos (show PlayerTransitionClassifier.opensScope g e = true from hopens)]
        rfl
      | _ => cases hopens
    | false =>
      have hscope := step_scope (s := after config ops) hopens
      have hactive : (after config ops).activeMediaGeneration ≠ none := by
        intro hnone
        apply h
        have hfirst := congrArg Prod.fst hscope
        exact hfirst.trans hnone
      obtain ⟨opening, g, e, base, rfl, hg, hbase, hlast⟩ := ih hactive
      refine ⟨opening, g, e, base ++ [op], by simp, hg, ?_, hscope.trans hlast⟩
      intro op' hop'
      rcases List.mem_append.mp hop' with hmem | hmem
      · exact hbase op' hmem
      · rw [List.mem_singleton.mp hmem]
        exact hopens

/-- An observation that is looked at is of the active scope. -/
theorem looked_scope {s : PlayerTransitionClassifier} {o : PlayerLogicalPauseObservation}
    (h : s.refused o = none) : s.scope = (some o.mediaGeneration, some o.adapterEpoch) := by
  unfold PlayerTransitionClassifier.refused at h
  split at h
  · cases h
  · split at h
    · cases h
    · next hsame =>
      rw [not_or, not_not, not_not] at hsame
      exact Prod.ext hsame.1 hsame.2

/-! ### The history of an edge -/

/-- The edge was first observed after `base`, and the run was calm from then on. -/
structure Traced (config : PlayerTransitionClassifierConfig) (edge : PendingStableEdge)
    (base : List Op) (first : PlayerLogicalPauseObservation) (between : List Op) : Prop where
  begins : Begins (after config base) first edge
  calm : Along step (Calm edge.logicalPaused) (after config base) (.classify first :: between)

theorem Begins.traced {edge : PendingStableEdge} {o : PlayerLogicalPauseObservation}
    (h : Begins (after config ops) o edge) : Traced config edge ops o [] := by
  refine ⟨h, ⟨rfl, ?_⟩, trivial⟩
  intro o' ho' _
  cases ho'
  rw [h.edge]
  exact ⟨rfl, h.toOnEdge⟩

theorem Traced.snoc {edge : PendingStableEdge} {base between : List Op} {op : Op}
    {first : PlayerLogicalPauseObservation} (h : Traced config edge base first between)
    (hcalm : Calm edge.logicalPaused (after config (base ++ .classify first :: between)) op) :
    Traced config edge base first (between ++ [op]) := by
  refine ⟨h.begins, ?_⟩
  rw [← List.cons_append, along_append]
  rw [after_append] at hcalm
  exact ⟨h.calm, hcalm, trivial⟩

/-- **Edge invariant**: a pending edge is away from the accepted state, and traced. -/
theorem pending_traced {edge : PendingStableEdge}
    (h : (after config ops).pendingEdge = some edge) :
    (after config ops).acceptedLogicalPaused = some !edge.logicalPaused
      ∧ ∃ base first between, ops = base ++ .classify first :: between
        ∧ Traced config edge base first between := by
  induction ops using List.reverseRecOn with
  | nil => cases h
  | append_singleton ops op ih =>
    rw [after_snoc] at h ⊢
    obtain ⟨haccepted, hedge⟩ := step_edge h
    rw [haccepted]
    rcases hedge with ⟨hwaiting, hcalm⟩ | ⟨o, rfl, hbegins⟩
    · obtain ⟨hopposite, base, first, between, rfl, htraced⟩ := ih hwaiting
      exact ⟨hopposite, base, first, between ++ [op], by simp, htraced.snoc hcalm⟩
    · refine ⟨?_, ops, o, [], rfl, hbegins.traced⟩
      rw [hbegins.opposite, hbegins.edge]

/-- The edge an observation with a gesture belongs to is traced up to the observation. -/
theorem gesture_traced {o : PlayerLogicalPauseObservation} (h : Gesture (after config ops) o) :
    ∃ base first between, ops ++ [.classify o] = base ++ .classify first :: between
      ∧ Traced config (((after config ops).recordObservation o).edgeOf o) base first between := by
  have hpaused := ((after config ops).recordObservation o).edgeOf_paused o
  rcases ((after config ops).recordObservation o).edgeOf_cases o with hwaiting | ⟨hfresh, hedge⟩
  · obtain ⟨-, base, first, between, hops, htraced⟩ := @pending_traced config ops _ hwaiting
    refine ⟨base, first, between ++ [.classify o], by simp [hops], htraced.snoc ⟨rfl, ?_⟩⟩
    intro o' ho' _
    cases ho'
    rw [← hops]
    exact ⟨hpaused.symm, h.toOnEdge⟩
  · have hbegins : Begins (after config ops) o
        (((after config ops).recordObservation o).edgeOf o) :=
      ⟨h.toOnEdge, h.looked, hedge, hfresh⟩
    exact ⟨ops, o, [], rfl, hbegins.traced⟩

/-! ### Observations owned -/

/-- The command an operation's observation was found to be of. -/
def owned (s : PlayerTransitionClassifier) (op : Op) : List PlayerCommandKey :=
  match op, output s op with
  | .classify o, some (.ownedCommand commandId _ _) => [⟨o.adapterEpoch, commandId⟩]
  | _, _ => []

/-- The command an operation registers. -/
def granted (s : PlayerTransitionClassifier) : Op → List PlayerCommandKey
  | .registerCommand registration =>
      if s.registers registration then [PlayerTransitionClassifier.keyOf registration] else []
  | _ => []

/-- Commands are stored under their own keys. -/
def Keyed (s : PlayerTransitionClassifier) : Prop :=
  ∀ (key : PlayerCommandKey) (c : RegisteredCommand), s.commands[key]? = some c →
    PlayerTransitionClassifier.keyOf c.registration = key

/-- The observations the command under a key can still own. -/
def unspent (key : PlayerCommandKey) (s : PlayerTransitionClassifier) : Nat :=
  if s.commands[key]?.any (!·.observationMatched) then 1 else 0

theorem unspent_le (key : PlayerCommandKey) (s : PlayerTransitionClassifier) :
    unspent key s ≤ 1 := by
  unfold unspent
  split <;> omega

theorem step_keyed (s : PlayerTransitionClassifier) (op : Op) (hs : Keyed s) :
    Keyed (step s op) := by
  intro key c' hc'
  rcases step_command hc' with ⟨c, hc, hevolved⟩ | ⟨registration, -, -, hkey, rfl⟩
  · rw [hevolved.key]
    exact hs key c hc
  · exact hkey.symm

/-- A command that can own an observation after an operation could before it, or
    was registered by it. -/
theorem unspent_step (s : PlayerTransitionClassifier) (op : Op) (key : PlayerCommandKey) :
    unspent key (step s op) ≤ unspent key s + (granted s op).countP (· == key) := by
  by_cases hafter : (step s op).commands[key]?.any (!·.observationMatched) = true
  · obtain ⟨c', hc', hunmatched⟩ := Option.any_eq_true .. |>.mp hafter
    have hone := unspent_le key (step s op)
    rcases step_command hc' with ⟨c, hc, hevolved⟩ | ⟨registration, rfl, hregisters, hkey, -⟩
    · have hbefore : unspent key s = 1 := by
        unfold unspent
        rw [hc, Option.any_some]
        cases hmatched : c.observationMatched with
        | false => rfl
        | true =>
          rw [hevolved.matched hmatched] at hunmatched
          cases hunmatched
      omega
    · have hgranted : granted s (.registerCommand registration) = [key] := by
        rw [hkey]
        exact if_pos hregisters
      have hgrant : (granted s (.registerCommand registration)).countP (· == key) = 1 := by
        rw [hgranted]
        simp
      omega
  · have hzero : unspent key (step s op) = 0 := if_neg hafter
    omega

theorem owned_other {s : PlayerTransitionClassifier} {op : Op} (h : ∀ o, op ≠ .classify o) :
    owned s op = [] := by
  unfold owned
  split
  · next o _ _ _ _ => exact absurd rfl (h o)
  · rfl

theorem owned_step (s : PlayerTransitionClassifier) (op : Op) (hs : Keyed s)
    (key : PlayerCommandKey) :
    (owned s op).countP (· == key) + unspent key (step s op) ≤
      unspent key s + (granted s op).countP (· == key) := by
  have hkeeps := unspent_step s op key
  by_cases hclassify : ∃ o, op = .classify o
  · obtain ⟨o, rfl⟩ := hclassify
    rcases classify_commands s o with ⟨-, hforeign⟩ | ⟨owner, c, hc, hcandidate, hmarked, hanswer⟩
    · have hnone : owned s (.classify o) = [] := by
        unfold owned output perform
        dsimp only
        split
        · next id cause completion hop houtput =>
          exact absurd (Option.some.inj houtput) (hforeign id cause completion)
        · rfl
      rw [hnone]
      simpa using hkeeps
    · -- The observation was matched to `owner`, and the match uses its unit up.
      unfold PlayerTransitionClassifier.candidate RegisteredCommand.matchableAt at hcandidate
      simp only [Bool.and_eq_true, beq_iff_eq, Bool.not_eq_true'] at hcandidate
      obtain ⟨⟨⟨-, hepoch⟩, -⟩, ⟨hunmatched, -⟩, -⟩ := hcandidate
      have howner : PlayerCommandKey.mk o.adapterEpoch c.registration.commandId = owner := by
        rw [← hs owner c hc, ← hepoch]
        rfl
      have howned : owned s (.classify o) = [owner] := by
        unfold owned output perform
        dsimp only
        rw [hanswer]
        exact congrArg (fun k => [k]) howner
      have hafter : (step s (.classify o)).commands =
          s.commands.insert owner { c with observationMatched := true } := hmarked
      rw [howned]
      by_cases hkey : owner = key
      · subst hkey
        have hbefore : unspent owner s = 1 := by
          unfold unspent
          rw [hc, Option.any_some, hunmatched]
          rfl
        have hspent : unspent owner (step s (.classify o)) = 0 := by
          unfold unspent
          rw [hafter, getElem?_insert_if, if_pos rfl]
          rfl
        rw [hbefore, hspent]
        simp
      · have hother : List.countP (· == key) [owner] = 0 := by
          simp [hkey]
        omega
  · have hnone : owned s op = [] := owned_other fun o ho => hclassify ⟨o, ho⟩
    rw [hnone]
    simpa using hkeeps

/-- **Ownership budget**: over any stretch of a run a command owns no more
    observations than it still could, and one for each further registration. -/
theorem owned_budget {s : PlayerTransitionClassifier} (hs : Keyed s) (ops : List Op)
    (key : PlayerCommandKey) :
    (emitted step owned s ops).count key ≤
      unspent key s + (emitted step granted s ops).count key := by
  have hbudget : (emitted step owned s ops).countP (· == key) + unspent key (runFrom step s ops)
      ≤ unspent key s + (emitted step granted s ops).countP (· == key) :=
    budget_of_grants step_keyed (fun s op hs => owned_step s op hs key) hs ops
  unfold List.count
  omega

theorem after_keyed (config : PlayerTransitionClassifierConfig) (ops : List Op) :
    Keyed (after config ops) := by
  refine invariant_of_step step_keyed ?_ ops
  intro key c hc
  simp [PlayerTransitionClassifier.new] at hc

/-! ### Ownership windows -/

/-- A terminal completion of the command was recorded in time, and the command has
    been retained since. -/
def EndedInTime (config : PlayerTransitionClassifierConfig) (ops : List Op)
    (key : PlayerCommandKey) (issuedAtSeconds : Seconds) : Prop :=
  ∃ front back ended at', ops = front ++ back
    ∧ (after config front).commands[key]? = some ended
    ∧ ended.registration.issuedAtSeconds = issuedAtSeconds
    ∧ ended.registration.completion.terminalAtSeconds = some at'
    ∧ at' ≤ issuedAtSeconds
      + (PlayerTransitionClassifier.normalized config).pendingCommandTimeoutSeconds
    ∧ Along step (fun s _ => key ∈ s.commands) (after config front) back

/-- A command that is pending ends its window by the timeout. -/
theorem window_ends {key : PlayerCommandKey} {c : RegisteredCommand}
    (h : (after config ops).commands[key]? = some c) :
    c.registration.completion.terminalAtSeconds = none
        ∧ c.ownershipDeadlineSeconds = some (c.registration.issuedAtSeconds
          + (PlayerTransitionClassifier.normalized config).pendingCommandTimeoutSeconds)
      ∨ EndedInTime config ops key c.registration.issuedAtSeconds := by
  induction ops using List.reverseRecOn generalizing c with
  | nil => simp [after, PlayerTransitionClassifier.new] at h
  | append_singleton ops op ih =>
    have hnow := h
    rw [after_snoc] at h
    rcases step_command h with ⟨before, hbefore, hevolved⟩ | ⟨registration, -, hregisters, -, rfl⟩
    · rw [hevolved.issued]
      rcases ih hbefore with ⟨hpending, hdeadline⟩ | hended
      · rcases hevolved.window with ⟨hcompletion, hsame⟩ | ⟨at', hterminal, hbound⟩
        · rw [hcompletion, hsame]
          exact .inl ⟨hpending, hdeadline⟩
        · have hintime := hbound hpending
          rw [after_config] at hintime
          exact .inr ⟨ops ++ [op], [], c, at', by simp, hnow, hevolved.issued, hterminal, hintime,
            trivial⟩
      · obtain ⟨front, back, ended, at', rfl, hheld, hissued, hterminal, hintime, hretained⟩ :=
          hended
        refine .inr ⟨front, back ++ [op], ended, at', by simp, hheld, hissued, hterminal, hintime,
          ?_⟩
        rw [along_append, ← after_append]
        exact ⟨hretained, Std.ExtTreeMap.mem_iff_isSome_getElem?.mpr (by simp [hbefore]), trivial⟩
    · unfold PlayerTransitionClassifier.registers at hregisters
      simp only [Bool.and_eq_true] at hregisters
      obtain ⟨⟨-, htimely⟩, -⟩ := hregisters
      rw [after_config] at htimely
      unfold PlayerTransitionClassifier.registered at hnow ⊢
      dsimp only at hnow ⊢
      rw [after_config] at hnow ⊢
      cases hterminal : registration.completion.terminalAtSeconds with
      | none => exact .inl ⟨rfl, rfl⟩
      | some at' =>
        rw [hterminal] at htimely hnow
        refine .inr ⟨ops ++ [op], [], _, at', by simp, hnow, rfl, hterminal, ?_, trivial⟩
        simpa using htimely

/-! ### Two gestures -/

theorem fromPaused_injective {first second : Bool}
    (h : NativePlayerAction.fromPaused first = .fromPaused second) : first = second := by
  cases first <;> cases second <;> first | rfl | cases h

/-- A gesture leaves its own state accepted, and finds the opposite one. -/
theorem gesture_accepts {op : Op} {paused : Bool}
    (h : output (after config ops) op = some (.nativePlayerGesture (.fromPaused paused))) :
    (step (after config ops) op).acceptedLogicalPaused = some paused
      ∧ (after config ops).acceptedLogicalPaused = some !paused := by
  rcases output_gesture h with ⟨o, -, hgesture, haction, haccepted⟩
    | ⟨-, haction, ⟨edge, hpending, hplay⟩, haccepted⟩
  · rw [fromPaused_injective haction]
    exact ⟨haccepted, hgesture.opposite⟩
  · have hfalse : paused = false := @fromPaused_injective paused false haction
    obtain ⟨hopposite, -⟩ := pending_traced hpending
    rw [hfalse]
    rw [hplay] at hopposite
    exact ⟨haccepted, hopposite⟩

/-- Between two gestures of one state an operation accepts the opposite state. -/
theorem gestures_apart {front middle : List Op} {op op' : Op} {paused : Bool}
    (h : output (after config front) op = some (.nativePlayerGesture (.fromPaused paused)))
    (h' : output (after config (front ++ op :: middle)) op' =
      some (.nativePlayerGesture (.fromPaused paused))) :
    ∃ before turn later, middle = before ++ turn :: later
      ∧ (after config (front ++ op :: before)).acceptedLogicalPaused ≠ some !paused
      ∧ (after config (front ++ op :: before ++ [turn])).acceptedLogicalPaused =
        some !paused := by
  let opposite := fun s : PlayerTransitionClassifier => s.acceptedLogicalPaused = some !paused
  have hfirst : ¬opposite (after config (front ++ [op])) := by
    show (after config (front ++ [op])).acceptedLogicalPaused ≠ some !paused
    rw [after_snoc, (gesture_accepts h).1]
    cases paused <;> decide
  have hsecond : opposite (runFrom step (after config (front ++ [op])) middle) := by
    rw [← after_append, List.append_assoc]
    exact (gesture_accepts h').2
  obtain ⟨before, turn, later, hmiddle, hlast, hturn⟩ := exists_turn
    hfirst hsecond
  rw [← after_append, List.append_assoc] at hlast hturn
  rw [← after_snoc] at hturn
  exact ⟨before, turn, later, hmiddle, hlast, hturn⟩

/-! ### The classifier over whole runs -/

/-- What lies behind a gesture reported for the observation `o`: the run is
    `opening`, the scope `g, e`, `base` up to the baseline, the observation `first`
    of the edge, and `between`, which ends with `o` unless `first` is `o` itself. -/
structure GestureHistory (config : PlayerTransitionClassifierConfig)
    (o : PlayerLogicalPauseObservation) (opening : List Op) (g e : Nat) (base : List Op)
    (first : PlayerLogicalPauseObservation) (between : List Op) : Prop where
  opens : PlayerTransitionClassifier.opensScope g e = true
  scope : ∀ op ∈ base ++ .classify first :: between, op.opens = false
  started : (after config (opening ++ [.beginScope g e])).acceptedLogicalPaused = none
  baseline : (after config (opening ++ .beginScope g e :: base)).acceptedLogicalPaused =
    some !o.logicalPaused
  begins : Begins (after config (opening ++ .beginScope g e :: base)) first
    ⟨first.logicalPaused, first.observedAtSeconds⟩
  firstScope : (first.mediaGeneration, first.adapterEpoch) = (g, e)
  lastScope : (o.mediaGeneration, o.adapterEpoch) = (g, e)
  same : first.logicalPaused = o.logicalPaused
  stable : o.context.stableFor o.logicalPaused = true
  elapsed : (PlayerTransitionClassifier.normalized config).stableConfirmationSeconds ≤
    o.observedAtSeconds - first.observedAtSeconds
  calm : Along step (Calm o.logicalPaused)
    (after config (opening ++ .beginScope g e :: base)) (.classify first :: between)

theorem calm_closed {paused : Bool} {s : PlayerTransitionClassifier} {ops : List Op}
    (h : Along step (Calm paused) s ops) : ∀ op ∈ ops, op.opens = false := by
  induction ops generalizing s with
  | nil => simp
  | cons op ops ih =>
    intro op' hop'
    rcases List.mem_cons.mp hop' with rfl | hmem
    · exact h.1.1
    · exact ih h.2 op' hmem

theorem after_scope {g e : Nat} (hopens : PlayerTransitionClassifier.opensScope g e = true)
    {opening rest : List Op} (hrest : ∀ op ∈ rest, op.opens = false) :
    (after config (opening ++ .beginScope g e :: rest)).scope = (some g, some e) := by
  induction rest using List.reverseRecOn with
  | nil =>
    rw [after_snoc]
    show ((after config opening).beginScope g e).scope = _
    unfold PlayerTransitionClassifier.beginScope
    rw [if_pos hopens]
    rfl
  | append_singleton rest op ih =>
    rw [← List.cons_append, ← List.append_assoc, after_snoc,
      step_scope (hrest op (by simp))]
    exact ih fun op' hop' => hrest op' (by simp [hop'])

theorem gesture_history {o : PlayerLogicalPauseObservation} (h : Gesture (after config ops) o) :
    ∃ opening g e base first between,
      ops ++ [.classify o] = opening ++ .beginScope g e :: (base ++ .classify first :: between)
        ∧ GestureHistory config o opening g e base first between := by
  obtain ⟨front, first, between, hops, htraced⟩ := gesture_traced h
  have hpaused := ((after config ops).recordObservation o).edgeOf_paused o
  obtain ⟨hbegins, hcalm⟩ := htraced
  have hedge := hbegins.edge
  have hsame : first.logicalPaused = o.logicalPaused := by
    rw [← hpaused, hedge]
  -- The first observation was looked at, so a scope was open.
  have hfirst := looked_scope hbegins.looked
  have hactive : (after config front).activeMediaGeneration ≠ none := by
    rw [show (after config front).activeMediaGeneration = some first.mediaGeneration from
      congrArg Prod.fst hfirst]
    nofun
  obtain ⟨opening, g, e, base, rfl, hopens, hbase, hscope⟩ := scope_opened hactive
  rw [hpaused] at hcalm
  have hquiet : ∀ op ∈ base ++ .classify first :: between, op.opens = false := by
    intro op hop
    rcases List.mem_append.mp hop with hmem | hmem
    · exact hbase op hmem
    · exact calm_closed hcalm op hmem
  -- The scope is still the one of the last observation.
  have hlast : (after config ops).scope = (some g, some e) := by
    have hdrop : ops = (opening ++ .beginScope g e :: (base ++ .classify first :: between)).dropLast := by
      rw [← List.cons_append, ← List.append_assoc, ← hops, List.dropLast_concat]
    have hne : base ++ Op.classify first :: between ≠ [] := by simp
    rw [hdrop, List.dropLast_append_of_ne_nil (by simp), List.dropLast_cons_of_ne_nil hne]
    exact after_scope hopens fun op hop => hquiet op (List.mem_of_mem_dropLast hop)
  have hpair : ∀ {g' e' : Nat}, (some g', some e') = (some g, some e) → (g', e') = (g, e) := by
    intro g' e' h'
    cases h'
    rfl
  refine ⟨opening, g, e, base, first, between, by rw [hops]; simp, ?_⟩
  exact
    { opens := hopens
      scope := hquiet
      started := by
        rw [after_snoc]
        show ((after config opening).beginScope g e).acceptedLogicalPaused = none
        unfold PlayerTransitionClassifier.beginScope
        rw [if_pos hopens]
      baseline := by rw [hbegins.opposite, hsame]
      begins := hedge ▸ hbegins
      firstScope := hpair (hfirst.symm.trans hscope)
      lastScope := hpair ((looked_scope h.looked).symm.trans hlast)
      same := hsame
      stable := h.stable
      elapsed := by
        have helapsed := h.elapsed
        rw [hedge, after_config] at helapsed
        exact helapsed
      calm := hcalm }

/-! ### Edges that begin stable -/

/-- What the stability rule counts on: an observation that comes to it has no technical context, one
    that a playback barrier hides included, and one that begins an edge is stable. -/
def StableFirst (s : PlayerTransitionClassifier) (op : Op) : Prop :=
  ∀ o, op = .classify o → s.refused o = none → s.OnEdge o →
    o.context.technicalReason = none ∧
      (s.noEdgeOf o.logicalPaused → o.context.stableFor o.logicalPaused = true)

/-- Between two observations of a state: no scope is opened, and an observation that is looked at
    is of the state and has no technical context. -/
def Undisturbed (paused : Bool) (s : PlayerTransitionClassifier) (op : Op) : Prop :=
  op.opens = false ∧ ∀ o, op = .classify o → s.refused o = none →
    o.logicalPaused = paused ∧ o.context.technicalReason = none

/-- Two stable observations of a state, `first` and then `o`, in the scope `g, e` that the run
    opened last, against a baseline of the opposite state that the scope accepted. -/
structure StableTwice (config : PlayerTransitionClassifierConfig)
    (o : PlayerLogicalPauseObservation) (opening : List Op) (g e : Nat) (base : List Op)
    (first : PlayerLogicalPauseObservation) (between : List Op) : Prop where
  opens : PlayerTransitionClassifier.opensScope g e = true
  scope : ∀ op ∈ base ++ .classify first :: between, op.opens = false
  started : (after config (opening ++ [.beginScope g e])).acceptedLogicalPaused = none
  baseline : (after config (opening ++ .beginScope g e :: base)).acceptedLogicalPaused =
    some !o.logicalPaused
  firstScope : (first.mediaGeneration, first.adapterEpoch) = (g, e)
  lastScope : (o.mediaGeneration, o.adapterEpoch) = (g, e)
  same : first.logicalPaused = o.logicalPaused
  firstStable : first.context.stableFor first.logicalPaused = true
  lastStable : o.context.stableFor o.logicalPaused = true
  elapsed : (PlayerTransitionClassifier.normalized config).stableConfirmationSeconds ≤
    o.observedAtSeconds - first.observedAtSeconds
  undisturbed : Along step (Undisturbed o.logicalPaused)
    (after config (opening ++ .beginScope g e :: base)) (.classify first :: between)

/-- The run observed the state of `o` stable before, long enough ago and undisturbed since. -/
def SeenTwice (config : PlayerTransitionClassifierConfig) (ops : List Op)
    (o : PlayerLogicalPauseObservation) : Prop :=
  ∃ opening g e base first between,
    ops = opening ++ .beginScope g e :: (base ++ .classify first :: between)
      ∧ StableTwice config o opening g e base first between

/-- A confirmation takes time, so the observation that reports a gesture did not begin its edge. -/
theorem GestureHistory.between_ne_nil {o : PlayerLogicalPauseObservation} {opening : List Op}
    {g e : Nat} {base between : List Op} {first : PlayerLogicalPauseObservation}
    (h : GestureHistory config o opening g e base first between)
    (htakes : 0 < (PlayerTransitionClassifier.normalized config).stableConfirmationSeconds)
    (hops : ops ++ [.classify o] =
      opening ++ .beginScope g e :: (base ++ .classify first :: between)) : between ≠ [] := by
  rintro rfl
  have hsplit : ops ++ [Op.classify o] = (opening ++ .beginScope g e :: base) ++ [.classify first] := by
    simp [hops]
  obtain ⟨-, hlast⟩ := List.append_inj' hsplit rfl
  obtain rfl := Op.classify.inj (List.cons.inj hlast).1
  have helapsed := h.elapsed
  rw [sub_self] at helapsed
  exact absurd helapsed (not_le.mpr htakes)

/-- **A gesture was seen twice** in a run whose edges begin stable. -/
theorem seen_twice {o : PlayerLogicalPauseObservation} (h : Gesture (after config ops) o)
    (htakes : 0 < (PlayerTransitionClassifier.normalized config).stableConfirmationSeconds)
    (hstable : Along step StableFirst (.new config) ops) : SeenTwice config ops o := by
  obtain ⟨opening, g, e, base, first, between, hops, hhistory⟩ := gesture_history h
  -- the last operation is the observation itself
  obtain ⟨before, last, rfl⟩ :=
    (List.eq_nil_or_concat' between).resolve_left (hhistory.between_ne_nil htakes hops)
  have hsplit : ops ++ [Op.classify o] =
      (opening ++ .beginScope g e :: (base ++ .classify first :: before)) ++ [last] := by
    simp [hops]
  obtain ⟨rfl, -⟩ := List.append_inj' hsplit rfl
  -- the run was calm and its edges began stable, from the first observation on
  have hcalm : Along step (Calm o.logicalPaused)
      (after config (opening ++ .beginScope g e :: base)) (.classify first :: before) := by
    have hcalm := hhistory.calm
    rw [← List.cons_append, along_append] at hcalm
    exact hcalm.1
  have hfrom : Along step StableFirst (after config (opening ++ .beginScope g e :: base))
      (.classify first :: before) := by
    have hassoc : opening ++ Op.beginScope g e :: (base ++ .classify first :: before) =
        (opening ++ .beginScope g e :: base) ++ .classify first :: before := by simp
    rw [hassoc, along_append] at hstable
    exact hstable.2
  have hbegins := hhistory.begins
  refine ⟨opening, g, e, base, first, before, rfl, ?_⟩
  exact
    { opens := hhistory.opens
      scope := fun op hop => hhistory.scope op (by
        rcases List.mem_append.mp hop with hmem | hmem
        · exact List.mem_append_left _ hmem
        · exact List.mem_append_right _ (List.mem_append_left [last] hmem))
      started := hhistory.started
      baseline := hhistory.baseline
      firstScope := hhistory.firstScope
      lastScope := hhistory.lastScope
      same := hhistory.same
      firstStable := (hfrom.1 first rfl hbegins.looked hbegins.toOnEdge).2 hbegins.fresh
      lastStable := hhistory.stable
      elapsed := hhistory.elapsed
      undisturbed := hcalm.combine (fun s op hop hrule => ⟨hop.1, fun o' ho' hlooked => by
        obtain ⟨hpaused, hedge⟩ := hop.2 o' ho' hlooked
        exact ⟨hpaused, (hrule o' ho' hlooked hedge).1⟩⟩) hfrom }

/-- **No system edge is taken for a gesture** in a run whose edges begin stable: a gesture
    classified from an observation was seen twice in its scope.  In every run no command could own
    the observation; a registered command owns at most one; its window ends by the timeout unless
    it ended in time; and between two gestures of one state the opposite state was accepted. -/
theorem native_gestures_are_users (config : PlayerTransitionClassifierConfig) :
    (0 < (PlayerTransitionClassifier.normalized config).stableConfirmationSeconds →
      ∀ ops o action, Along step StableFirst (.new config) ops →
        output (after config ops) (.classify o) = some (.nativePlayerGesture action) →
        SeenTwice config ops o)
      ∧ (∀ ops o action,
        output (after config ops) (.classify o) = some (.nativePlayerGesture action) →
        action = .fromPaused o.logicalPaused
          ∧ (∃ opening g e base first between,
            ops ++ [.classify o] =
                opening ++ .beginScope g e :: (base ++ .classify first :: between)
              ∧ GestureHistory config o opening g e base first between)
          ∧ ∀ (key : PlayerCommandKey) (c : RegisteredCommand),
            (after config ops).commands[key]? = some c → c.activeAt o.observedAtSeconds = false)
      ∧ (∀ front registration rest,
        (after config front).registers registration = true →
        (emitted step granted (after config (front ++ [.registerCommand registration])) rest).count
          (PlayerTransitionClassifier.keyOf registration) = 0 →
        (emitted step owned (after config (front ++ [.registerCommand registration])) rest).count
          (PlayerTransitionClassifier.keyOf registration) ≤ 1)
      ∧ (∀ ops key, (emitted step owned (after config []) ops).count key ≤
        (emitted step granted (after config []) ops).count key)
      ∧ (∀ (ops : List Op) (key : PlayerCommandKey) (c : RegisteredCommand),
        (after config ops).commands[key]? = some c →
        c.registration.completion.terminalAtSeconds = none
            ∧ c.ownershipDeadlineSeconds = some (c.registration.issuedAtSeconds
              + (PlayerTransitionClassifier.normalized config).pendingCommandTimeoutSeconds)
          ∨ EndedInTime config ops key c.registration.issuedAtSeconds)
      ∧ ∀ front op middle op' paused,
        output (after config front) op = some (.nativePlayerGesture (.fromPaused paused)) →
        output (after config (front ++ op :: middle)) op' =
          some (.nativePlayerGesture (.fromPaused paused)) →
        ∃ before turn later, middle = before ++ turn :: later
          ∧ (after config (front ++ op :: before)).acceptedLogicalPaused ≠ some !paused
          ∧ (after config (front ++ op :: before ++ [turn])).acceptedLogicalPaused =
            some !paused := by
  refine ⟨?_, ?_, ?_, ?_, fun ops key c => window_ends, fun front op middle op' paused =>
    gestures_apart⟩
  · intro htakes ops o action hstable h
    exact seen_twice (classify_gesture (Option.some.inj h)).1 htakes hstable
  · intro ops o action h
    obtain ⟨hgesture, haction, -⟩ := classify_gesture (Option.some.inj h)
    refine ⟨haction, gesture_history hgesture, ?_⟩
    intro key c hc
    have hidle := hgesture.idle
    unfold PlayerTransitionClassifier.hasActiveUnmatchedCommand at hidle
    rw [List.any_eq_false] at hidle
    exact Bool.eq_false_iff.mpr
      (hidle (key, c) (Std.ExtTreeMap.mem_toList_iff_getElem?_eq_some.mpr hc))
  · intro front registration rest _ hnone
    have hbudget := owned_budget
      (after_keyed config (front ++ [.registerCommand registration])) rest
      (PlayerTransitionClassifier.keyOf registration)
    have hone := unspent_le (PlayerTransitionClassifier.keyOf registration)
      (after config (front ++ [.registerCommand registration]))
    omega
  · intro ops key
    have hbudget := owned_budget (after_keyed config []) ops key
    have hzero : unspent key (after config []) = 0 := by
      simp [unspent, after, PlayerTransitionClassifier.new]
    omega

/-- A tenth of a second between observations, and the other defaults. -/
def defaultConfig : PlayerTransitionClassifierConfig := ⟨1 / 10, 1, 5, 1⟩

/-- An observation at a time, of a phase. -/
def observation (at' : Seconds) (paused : Bool) (phase : Option PlayerTransportPhase) :
    PlayerLogicalPauseObservation :=
  ⟨1, 1, at', paused, .new phase⟩

/-- A pause is accepted, and play is observed in a phase. -/
def edgeRun (phase : Option PlayerTransportPhase) : List Op :=
  [.beginScope 1 1, .classify (observation 1 true (some .readyPaused)),
    .classify (observation (11 / 10) false phase)]

/-- The run's last observation, two tenths of a second later. -/
def playing : PlayerLogicalPauseObservation := observation (13 / 10) false (some .playing)

/-- A play that is observed twice while it plays. -/
theorem native_gestures_are_users_play :
    SeenTwice defaultConfig (edgeRun (some .playing)) playing := by
  have hstable : Along step StableFirst (.new defaultConfig) (edgeRun (some .playing)) := by
    apply Along.of_forall
    -- each observation is stable for its own state, whatever the classifier's state is
    intro s op hop o ho _ _
    subst ho
    simp only [edgeRun, List.mem_cons, List.not_mem_nil, or_false, reduceCtorEq, false_or,
      Op.classify.injEq] at hop
    rcases hop with rfl | rfl
    · exact ⟨by decide, fun _ => by decide⟩
    · exact ⟨by decide, fun _ => by decide⟩
  exact (native_gestures_are_users defaultConfig).1 (by decide +kernel) _ _ .play hstable
    (by decide +kernel)

/-- A play observed in no phase at all, and once more while it plays: it was stable once. -/
theorem unstable_play_is_a_gesture :
    output (after defaultConfig (edgeRun none)) (.classify playing) =
        some (.nativePlayerGesture .play)
      ∧ ¬SeenTwice defaultConfig (edgeRun none) playing := by
  refine ⟨by decide +kernel, ?_⟩
  rintro ⟨opening, g, e, base, first, between, hops, htwice⟩
  have hfirst : Op.classify first ∈ edgeRun none := by
    rw [hops]
    simp
  have hsame := htwice.same
  have hstable := htwice.firstStable
  simp only [edgeRun, List.mem_cons, List.not_mem_nil, or_false, reduceCtorEq, false_or,
    Op.classify.injEq] at hfirst
  rcases hfirst with rfl | rfl
  · exact absurd hsame (by decide)
  · exact absurd hstable (by decide)

end Sorotte.Transition
