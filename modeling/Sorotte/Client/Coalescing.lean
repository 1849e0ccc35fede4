import Sorotte.Framework.LastWrite
import Sorotte.Framework.Maps
import Sorotte.Client.Outbox

/-! # Merging States is a last-writer-wins fold

  A State that is still waiting is merged into the State that replaces it.
  `CoalescedFold` says what one State stands for a whole sequence: every field
  is a register with the most recent value that was there, and the playstate is
  completed from the final run of playstates of its own transport revision.
  `coalescedFold_merge` is the algebra: the merge of two such States stands for
  the two sequences, one after the other.
-/

namespace Sorotte.Client

open Sorotte.Framework

/-! ### The derived decoders -/

/-- The decoders of the parts of the extensions.  A decoded observation is kept
    as the value it is encoded to again. -/
structure SerdeCodecs where
  ready : Json → Option Json
  started : Json → Option Json
  transport : Json → Option Json
  transportRevision : Json → Option Nat

/-- An optional field: absent and null are alike; the outer `none` is an error. -/
def decodeOptional (decode : Json → Option Json) : Option Json → Option (Option Json)
  | none => some none
  | some .null => some none
  | some value => (decode value).map some

namespace SerdeCodecs

variable (c : SerdeCodecs)

def observations (ready started transport : Option Json) : Option BarrierObservations := do
  let ready ← decodeOptional c.ready ready
  let started ← decodeOptional c.started started
  let transport ← decodeOptional c.transport transport
  pure { ready, started, transport }

/-- `PlaybackBarrierStateExtension` from a value: by name from an object, by
    position from an array. -/
def playbackBarrier : Json → Option BarrierObservations
  | .object fields =>
    c.observations (fields.lookup "ready") (fields.lookup "started") (fields.lookup "transport")
  | .array items =>
    if items.length ≤ 3 then c.observations items[0]? items[1]? items[2]? else none
  | _ => none

def wire : WireCodec :=
  { playbackBarrierV1 := c.playbackBarrier, transportRevision := c.transportRevision }

/-- What an observation is encoded to is an object that decodes to it. -/
def Stable (decode : Json → Option Json) : Prop :=
  ∀ value encoded, decode value = some encoded → decode encoded = some encoded ∧ encoded ≠ .null

structure Lawful : Prop where
  ready : Stable c.ready
  started : Stable c.started
  transport : Stable c.transport

end SerdeCodecs

/-! ### What decodes -/

variable {c : SerdeCodecs}

/-- `transport_revision` of a playstate. -/
def revisionOf (c : SerdeCodecs) (playstate : PlaystatePayload) : Option (Option Nat) :=
  playstate.transportRevision c.wire

/-- The extensions that are present decode, the playback barrier from the
    object that its encoder writes. -/
structure StatePayload.Decodes (c : SerdeCodecs) (state : StatePayload) : Prop where
  revision : ∀ playstate, state.playstate = some playstate → (revisionOf c playstate).isSome
  barrier : ∀ value, state.extra[sorottePlaybackBarrierV1]? = some value →
    ∃ fields, value = .object fields ∧ (c.playbackBarrier value).isSome

/-! ### Registers -/

def pingField {α : Type} (field : PingPayload → Option α) (state : StatePayload) : Option α :=
  state.ping.bind field

def ignoringField {α : Type} (field : IgnoringOnTheFlyPayload → Option α)
    (state : StatePayload) : Option α :=
  state.ignoringOnTheFly.bind field

def barrierField (c : SerdeCodecs) (part : BarrierObservations → Option Json)
    (state : StatePayload) : Option Json :=
  (state.playbackBarrierV1 c.wire).bind part

/-- The field of `r` is the most recent value of the field in the sequence. -/
def LastOf {α : Type} (field : StatePayload → Option α) (states : List StatePayload)
    (r : StatePayload) : Prop :=
  field r = latest (states.map field)

/-- One playstate that stands for a sequence of playstates. -/
structure PlaystateFold (c : SerdeCodecs) (plays : List PlaystatePayload)
    (r : Option PlaystatePayload) : Prop where
  /-- It is there when one was, under the transport revision of the newest. -/
  revision : r.map (revisionOf c) = plays.getLast?.map (revisionOf c)
  position : r.bind (·.position) = latest ((finalRun (revisionOf c) plays).map (·.position))
  paused : r.bind (·.paused) = latest ((finalRun (revisionOf c) plays).map (·.paused))
  setBy : r.bind (·.setBy) = latest ((finalRun (revisionOf c) plays).map (·.setBy))
  extra : ∀ key : String, r.bind (·.extra[key]?) =
    latest ((finalRun (revisionOf c) plays).map (·.extra[key]?))
  /-- A seek of the run is still owed. -/
  seek : r.bind (·.doSeek) = some true ↔
    ∃ play ∈ finalRun (revisionOf c) plays, play.doSeek = some true
  noSeek : r.bind (·.doSeek) ≠ some true →
    r.bind (·.doSeek) = latest ((finalRun (revisionOf c) plays).map (·.doSeek))

/-- One State that stands for a sequence of States. -/
structure CoalescedFold (c : SerdeCodecs) (states : List StatePayload) (r : StatePayload) :
    Prop where
  playstate : PlaystateFold c (states.filterMap (·.playstate)) r.playstate
  ping : LastOf (fun state => state.ping.map fun _ => ()) states r
  latencyCalculation : LastOf (pingField (·.latencyCalculation)) states r
  clientLatencyCalculation : LastOf (pingField (·.clientLatencyCalculation)) states r
  clientRtt : LastOf (pingField (·.clientRtt)) states r
  serverRtt : LastOf (pingField (·.serverRtt)) states r
  pingExtra : ∀ key : String, LastOf (pingField (·.extra[key]?)) states r
  ignoringOnTheFly : LastOf (fun state => state.ignoringOnTheFly.map fun _ => ()) states r
  server : LastOf (ignoringField (·.server)) states r
  client : LastOf (ignoringField (·.client)) states r
  ignoringExtra : ∀ key : String, LastOf (ignoringField (·.extra[key]?)) states r
  barrier : LastOf (fun state => state.extra[sorottePlaybackBarrierV1]?.map fun _ => ()) states r
  ready : LastOf (barrierField c (·.ready)) states r
  started : LastOf (barrierField c (·.started)) states r
  transport : LastOf (barrierField c (·.transport)) states r
  extra : ∀ key : String, key ≠ sorottePlaybackBarrierV1 →
    LastOf (fun state => state.extra[key]?) states r
  decodes : r.Decodes c

/-! ### Extensions -/

theorem getElem?_insertAll (entries : List (String × Json)) (latest : Extra) (key : String) :
    (entries.foldl (fun latest entry => latest.insertIfNew entry.1 entry.2) latest)[key]? =
      latest[key]?.or (entries.lookup key) := by
  induction entries generalizing latest with
  | nil => simp
  | cons entry entries ih =>
    obtain ⟨name, value⟩ := entry
    rw [List.foldl_cons, ih, Std.ExtTreeMap.getElem?_insertIfNew, List.lookup_cons]
    by_cases hkey : key = name
    · subst hkey
      cases hheld : latest[key]? with
      | none =>
        have hnot : ¬ key ∈ latest := by
          rw [Std.ExtTreeMap.mem_iff_isSome_getElem?, hheld]
          exact Bool.false_ne_true
        simp [hnot]
      | some held =>
        have hmem : key ∈ latest := by
          rw [Std.ExtTreeMap.mem_iff_isSome_getElem?, hheld]
          rfl
        simp [hmem]
    · have hne : name ≠ key := Ne.symm hkey
      have hbeq : (key == name) = false := by simpa using hkey
      simp [hne, hbeq]

theorem getElem?_mergeMissingEntries (previous latest : Extra) (key : String) :
    (mergeMissingEntries previous latest)[key]? = latest[key]?.or previous[key]? := by
  rw [mergeMissingEntries, Std.ExtTreeMap.foldl_eq_foldl_toList, getElem?_insertAll,
    lookup_toList]

theorem lookup_replaceField (fields : List (String × Json)) (key : String) (value : Json)
    (name : String) :
    (fields.map fun field => if field.1 == key then (key, value) else field).lookup name =
      if name = key then (fields.lookup key).map fun _ => value else fields.lookup name := by
  induction fields with
  | nil => split <;> rfl
  | cons field fields ih =>
    obtain ⟨held, content⟩ := field
    rw [List.map_cons]
    by_cases hheld : held = key
    · subst hheld
      by_cases hname : name = held
      · simp [hname]
      · have hbeq : (name == held) = false := by simpa using hname
        simp only [beq_self_eq_true, if_true, List.lookup_cons, hbeq, ih, if_neg hname]
    · have hbeq : (held == key) = false := by simpa using hheld
      have hbeq' : (key == held) = false := by simpa using Ne.symm hheld
      simp only [hbeq, Bool.false_eq_true, if_false, List.lookup_cons, hbeq', ih]
      by_cases hname : name = held
      · have hne : ¬ name = key := by rw [hname]; exact hheld
        simp [hname, hheld]
      · have hfalse : (name == held) = false := by simpa using hname
        simp only [hfalse]

theorem lookup_insertField (fields : List (String × Json)) (key : String) (value : Json)
    (name : String) :
    (insertField fields key value).lookup name =
      if name = key then some value else fields.lookup name := by
  unfold insertField
  split
  · next hany =>
    obtain ⟨field, hmem, hkey⟩ := List.any_eq_true.mp hany
    have hheld : (fields.lookup key).isSome = true := by
      rw [Option.isSome_iff_ne_none, ne_eq, List.lookup_eq_none_iff]
      intro hnone
      exact bne_iff_ne.mp (hnone field hmem) (by simpa using Eq.symm (beq_iff_eq.mp hkey))
    obtain ⟨content, hcontent⟩ := Option.isSome_iff_exists.mp hheld
    rw [lookup_replaceField, hcontent]
    rfl
  · next hnone =>
    have habsent : ∀ field ∈ fields, field.1 ≠ key := by
      intro field hmem heq
      exact hnone (List.any_eq_true.mpr ⟨field, hmem, by simpa using heq⟩)
    rw [List.lookup_append]
    by_cases hname : name = key
    · have hlookup : fields.lookup key = none :=
        List.lookup_eq_none_iff.mpr fun field hmem => bne_iff_ne.mpr (Ne.symm (habsent field hmem))
      simp [hname, hlookup]
    · have hfalse : (name == key) = false := by simpa using hname
      simp [hname, List.lookup_cons, hfalse]

/-! ### One observation -/

theorem lookup_mergeObservation (key : String) (previous latest : Option Json)
    (fields : List (String × Json)) (name : String) :
    (mergeObservation key previous latest fields).lookup name =
      if name = key ∧ latest = none ∧ previous.isSome then previous else fields.lookup name := by
  unfold mergeObservation
  split
  · next value =>
    rw [lookup_insertField]
    simp
  · next hnot =>
    rw [if_neg]
    rintro ⟨-, rfl, hsome⟩
    obtain ⟨value, rfl⟩ := Option.isSome_iff_exists.mp hsome
    exact hnot value rfl rfl

/-- An observation that is decoded is stable and not null. -/
theorem decodeOptional_some {decode : Json → Option Json} (hstable : SerdeCodecs.Stable decode)
    {field : Option Json} {value : Json} (h : decodeOptional decode field = some (some value)) :
    decodeOptional decode (some value) = some (some value) := by
  unfold decodeOptional at h
  split at h
  · cases h
  · cases h
  · next raw _ =>
    obtain ⟨encoded, hencoded, hvalue⟩ := Option.map_eq_some_iff.mp h
    cases hvalue
    obtain ⟨hdecode, hnull⟩ := hstable raw value hencoded
    unfold decodeOptional
    split
    · next hnone => cases hnone
    · next hnone => exact absurd (Option.some.inj hnone) hnull
    · next other _ hother =>
      obtain rfl := Option.some.inj hother
      rw [hdecode]
      rfl

/-- A field after the merge decodes to the latest observation, or else to the
    previous one. -/
theorem decode_mergeObservation {decode : Json → Option Json}
    (hstable : SerdeCodecs.Stable decode) {previousField latestField : Option Json}
    {previous latest : Option Json} (hprevious : decodeOptional decode previousField = some previous)
    (hlatest : decodeOptional decode latestField = some latest) :
    decodeOptional decode (if latest = none ∧ previous.isSome then previous else latestField) =
      some (latest.or previous) := by
  cases latest with
  | some value => simpa using hlatest
  | none =>
    cases previous with
    | none => simpa using hlatest
    | some value =>
      simp only [Option.isSome_some, and_self, if_true, Option.none_or]
      exact decodeOptional_some hstable hprevious

/-! ### The playback barrier -/

theorem observations_eq_some {ready started transport : Option Json}
    {observed : BarrierObservations} :
    c.observations ready started transport = some observed ↔
      decodeOptional c.ready ready = some observed.ready
        ∧ decodeOptional c.started started = some observed.started
        ∧ decodeOptional c.transport transport = some observed.transport := by
  obtain ⟨r, s, t⟩ := observed
  unfold SerdeCodecs.observations
  cases decodeOptional c.ready ready with
  | none => simp
  | some r' =>
    cases decodeOptional c.started started with
    | none => simp
    | some s' =>
      cases decodeOptional c.transport transport with
      | none => simp
      | some t' => simp

/-- The fields of an extension with the observations it lacks filled in. -/
def filledFields (previous latest : BarrierObservations) (fields : List (String × Json)) :
    List (String × Json) :=
  mergeObservation "transport" previous.transport latest.transport
    (mergeObservation "started" previous.started latest.started
      (mergeObservation "ready" previous.ready latest.ready fields))

def filled (previous latest : BarrierObservations) : BarrierObservations :=
  { ready := latest.ready.or previous.ready
    started := latest.started.or previous.started
    transport := latest.transport.or previous.transport }

theorem playbackBarrier_filled (hc : c.Lawful) {previousFields fields : List (String × Json)}
    {previous latest : BarrierObservations}
    (hprevious : c.playbackBarrier (.object previousFields) = some previous)
    (hlatest : c.playbackBarrier (.object fields) = some latest) :
    c.playbackBarrier (.object (filledFields previous latest fields)) =
      some (filled previous latest) := by
  obtain ⟨hpr, hps, hpt⟩ := observations_eq_some.mp hprevious
  obtain ⟨hlr, hls, hlt⟩ := observations_eq_some.mp hlatest
  show c.observations _ _ _ = _
  rw [observations_eq_some]
  simp only [filledFields, filled, lookup_mergeObservation]
  refine ⟨?_, ?_, ?_⟩
  · have h := decode_mergeObservation hc.ready hpr hlr
    simpa using h
  · have h := decode_mergeObservation hc.started hps hls
    simpa using h
  · have h := decode_mergeObservation hc.transport hpt hlt
    simpa using h

/-! ### The extensions of the merged State -/

section merge

variable {previous latest : StatePayload}

theorem barrierMerge_frame (codec : WireCodec) (previous latest : StatePayload) :
    (mergePlaybackBarrierObservations codec previous latest).playstate = latest.playstate
      ∧ (mergePlaybackBarrierObservations codec previous latest).ping = latest.ping
      ∧ (mergePlaybackBarrierObservations codec previous latest).ignoringOnTheFly =
        latest.ignoringOnTheFly := by
  unfold mergePlaybackBarrierObservations
  split
  · exact ⟨rfl, rfl, rfl⟩
  · exact ⟨rfl, rfl, rfl⟩

theorem barrierMerge_extra (codec : WireCodec) (previous latest : StatePayload) {key : String}
    (hkey : key ≠ sorottePlaybackBarrierV1) :
    (mergePlaybackBarrierObservations codec previous latest).extra[key]? = latest.extra[key]? := by
  unfold mergePlaybackBarrierObservations
  split
  · dsimp only
    rw [getElem?_insert_if, if_neg hkey]
  · rfl

/-- The latest State with its own parts completed, before the extensions. -/
def completed (codec : WireCodec) (previous latest : StatePayload) : StatePayload :=
  { latest with
    playstate := mergePart (mergePlaystate codec) previous.playstate latest.playstate
    ping := mergePart mergePing previous.ping latest.ping
    ignoringOnTheFly :=
      mergePart mergeIgnoring previous.ignoringOnTheFly latest.ignoringOnTheFly }

theorem merge_eq (codec : WireCodec) (previous latest : StatePayload) :
    mergePendingStateObligations codec previous latest =
      { mergePlaybackBarrierObservations codec previous (completed codec previous latest) with
        extra := mergeMissingEntries previous.extra
          (mergePlaybackBarrierObservations codec previous
            (completed codec previous latest)).extra } := rfl

theorem merge_parts (codec : WireCodec) (previous latest : StatePayload) :
    (mergePendingStateObligations codec previous latest).playstate =
        mergePart (mergePlaystate codec) previous.playstate latest.playstate
      ∧ (mergePendingStateObligations codec previous latest).ping =
        mergePart mergePing previous.ping latest.ping
      ∧ (mergePendingStateObligations codec previous latest).ignoringOnTheFly =
        mergePart mergeIgnoring previous.ignoringOnTheFly latest.ignoringOnTheFly := by
  rw [merge_eq]
  exact barrierMerge_frame codec previous (completed codec previous latest)

theorem merge_extra (codec : WireCodec) (previous latest : StatePayload) {key : String}
    (hkey : key ≠ sorottePlaybackBarrierV1) :
    (mergePendingStateObligations codec previous latest).extra[key]? =
      latest.extra[key]?.or previous.extra[key]? := by
  rw [merge_eq]
  dsimp only
  rw [getElem?_mergeMissingEntries, barrierMerge_extra _ _ _ hkey]
  rfl

/-- A State whose barrier extension, if there is one, decodes to these observations. -/
theorem barrier_of_decodes (h : latest.Decodes c) :
    (latest.extra[sorottePlaybackBarrierV1]? = none
        ∧ latest.playbackBarrierV1 c.wire = none)
      ∨ ∃ fields observed, latest.extra[sorottePlaybackBarrierV1]? = some (.object fields)
        ∧ c.playbackBarrier (.object fields) = some observed
        ∧ latest.playbackBarrierV1 c.wire = some observed := by
  cases hvalue : latest.extra[sorottePlaybackBarrierV1]? with
  | none =>
    left
    refine ⟨rfl, ?_⟩
    rw [StatePayload.playbackBarrierV1, hvalue]
    rfl
  | some value =>
    obtain ⟨fields, rfl, hsome⟩ := h.barrier value hvalue
    obtain ⟨observed, hobserved⟩ := Option.isSome_iff_exists.mp hsome
    refine .inr ⟨fields, observed, rfl, hobserved, ?_⟩
    rw [StatePayload.playbackBarrierV1, hvalue]
    exact hobserved

/-- The barrier extension after the merge: the latest one with what it lacks. -/
theorem merge_barrier (hc : c.Lawful) (hprevious : previous.Decodes c)
    (hlatest : latest.Decodes c) :
    ((mergePendingStateObligations c.wire previous latest).extra[sorottePlaybackBarrierV1]? = none
        ∧ latest.extra[sorottePlaybackBarrierV1]? = none
        ∧ previous.extra[sorottePlaybackBarrierV1]? = none
        ∧ latest.playbackBarrierV1 c.wire = none ∧ previous.playbackBarrierV1 c.wire = none)
      ∨ ∃ fields observed,
        (mergePendingStateObligations c.wire previous latest).extra[sorottePlaybackBarrierV1]? =
            some (.object fields)
          ∧ c.playbackBarrier (.object fields) = some observed
          ∧ (latest.extra[sorottePlaybackBarrierV1]?.isSome
            ∨ previous.extra[sorottePlaybackBarrierV1]?.isSome)
          ∧ ∀ part : BarrierObservations → Option Json,
            (part = (·.ready) ∨ part = (·.started) ∨ part = (·.transport)) →
              part observed = (barrierField c part latest).or (barrierField c part previous) := by
  have hextra : (mergePendingStateObligations c.wire previous latest).extra[
      sorottePlaybackBarrierV1]? =
        ((mergePlaybackBarrierObservations c.wire previous
          (completed c.wire previous latest)).extra[sorottePlaybackBarrierV1]?).or
          previous.extra[sorottePlaybackBarrierV1]? := by
    rw [merge_eq]
    dsimp only
    rw [getElem?_mergeMissingEntries]
  have hcompleted : (completed c.wire previous latest).playbackBarrierV1 c.wire =
      latest.playbackBarrierV1 c.wire := rfl
  have hheld : (completed c.wire previous latest).extra = latest.extra := rfl
  rw [hextra]
  unfold mergePlaybackBarrierObservations
  rw [hcompleted, hheld]
  rcases barrier_of_decodes hprevious with ⟨hpnone, hpbarrier⟩ | ⟨pfields, pobserved, hpvalue,
    hpdecode, hpbarrier⟩ <;>
  rcases barrier_of_decodes hlatest with ⟨hlnone, hlbarrier⟩ | ⟨lfields, lobserved, hlvalue,
    hldecode, hlbarrier⟩
  · left
    rw [hpbarrier, hlbarrier]
    dsimp only
    rw [hheld, hlnone, hpnone]
    exact ⟨rfl, rfl, rfl, rfl, rfl⟩
  · right
    rw [hpbarrier, hlbarrier]
    dsimp only
    rw [hheld, hlvalue]
    refine ⟨lfields, lobserved, rfl, hldecode, .inl rfl, fun part _ => ?_⟩
    rw [barrierField, barrierField, hlbarrier, hpbarrier]
    exact (Option.or_none).symm
  · right
    rw [hpbarrier, hlbarrier]
    dsimp only
    rw [hheld, hlnone, hpvalue]
    refine ⟨pfields, pobserved, rfl, hpdecode, .inr rfl, fun part _ => ?_⟩
    rw [barrierField, barrierField, hlbarrier, hpbarrier]
    rfl
  · right
    rw [hpbarrier, hlbarrier, hlvalue]
    dsimp only
    refine ⟨filledFields pobserved lobserved lfields, filled pobserved lobserved, ?_,
      playbackBarrier_filled hc hpdecode hldecode, .inl rfl, fun part hpart => ?_⟩
    · rw [getElem?_insert_if, if_pos rfl]
      rfl
    · rw [barrierField, barrierField, hlbarrier, hpbarrier]
      rcases hpart with rfl | rfl | rfl <;> rfl

/-! ### The playstate -/

theorem mergePlaystate_same {previous latest : PlaystatePayload}
    (h : revisionOf c latest = revisionOf c previous) (hdecodes : (revisionOf c latest).isSome) :
    mergePlaystate c.wire previous latest =
      { position := latest.position.or previous.position
        paused := latest.paused.or previous.paused
        doSeek :=
          if previous.doSeek = some true then some true else latest.doSeek.or previous.doSeek
        setBy := latest.setBy.or previous.setBy
        extra := mergeMissingEntries previous.extra latest.extra } := by
  obtain ⟨revision, hrevision⟩ := Option.isSome_iff_exists.mp hdecodes
  have hlatest : latest.transportRevision c.wire = some revision := hrevision
  have hprevious : previous.transportRevision c.wire = some revision := h.symm.trans hrevision
  unfold mergePlaystate
  rw [hlatest, hprevious]
  simp

theorem mergePlaystate_other {previous latest : PlaystatePayload}
    (h : revisionOf c latest ≠ revisionOf c previous) :
    mergePlaystate c.wire previous latest = latest := by
  unfold mergePlaystate
  have hne : latest.transportRevision c.wire ≠ previous.transportRevision c.wire := h
  cases hlatest : latest.transportRevision c.wire with
  | none => rfl
  | some l =>
    cases hprevious : previous.transportRevision c.wire with
    | none => rfl
    | some p =>
      have hlp : (l == p) = false := by
        refine beq_eq_false_iff_ne.mpr fun heq => hne ?_
        rw [hlatest, hprevious, heq]
      simp [hlp]

/-- The merged playstate has the transport revision of the latest. -/
theorem revisionOf_merge {previous latest : PlaystatePayload}
    (hdecodes : (revisionOf c latest).isSome) :
    revisionOf c (mergePlaystate c.wire previous latest) = revisionOf c latest := by
  by_cases h : revisionOf c latest = revisionOf c previous
  · rw [mergePlaystate_same h hdecodes]
    unfold revisionOf PlaystatePayload.transportRevision
    dsimp only
    rw [getElem?_mergeMissingEntries]
    cases hlatest : latest.extra[sorotteTransportRevision]? with
    | some value => rfl
    | none =>
      -- an older playstate of no revision at all may still spell it as null
      have hnone : revisionOf c latest = some none := by
        unfold revisionOf PlaystatePayload.transportRevision
        rw [hlatest]
      rw [hnone] at h
      unfold revisionOf PlaystatePayload.transportRevision at h
      rw [Option.none_or]
      exact h.symm
  · rw [mergePlaystate_other h]

theorem PlaystateFold.nil : PlaystateFold c [] none where
  revision := rfl
  position := rfl
  paused := rfl
  setBy := rfl
  extra _ := rfl
  seek := ⟨nofun, fun ⟨_, hmem, _⟩ => absurd hmem List.not_mem_nil⟩
  noSeek _ := rfl

theorem PlaystateFold.singleton (play : PlaystatePayload) : PlaystateFold c [play] (some play) where
  revision := rfl
  position := by simp
  paused := by simp
  setBy := by simp
  extra key := by simp
  seek := by simp
  noSeek := by simp

/-- A sequence with another one after it: only a run that is unbroken up to the
    end may reach back into the earlier sequence. -/
def Unbroken (c : SerdeCodecs) (earlier later : List PlaystatePayload) : Prop :=
  ∀ front x back y, earlier = front ++ [x] → later = back ++ [y] →
    revisionOf c x = revisionOf c y → ∀ z ∈ later, revisionOf c z = revisionOf c y

/-- A sequence that is not empty folds to a playstate of its last revision. -/
theorem PlaystateFold.exists_last {front : List PlaystatePayload} {x : PlaystatePayload}
    {p : Option PlaystatePayload} (hp : PlaystateFold c (front ++ [x]) p) :
    ∃ previous, p = some previous ∧ revisionOf c previous = revisionOf c x := by
  have h := hp.revision
  rw [List.getLast?_concat] at h
  cases p with
  | none => cases h
  | some previous => exact ⟨previous, rfl, Option.some.inj h⟩

section merge

variable {front back : List PlaystatePayload} {x y previous latest : PlaystatePayload}

/-- The merged playstate has the revision of the whole sequence. -/
theorem PlaystateFold.merged_revision (hl : PlaystateFold c (back ++ [y]) (some latest))
    (front : List PlaystatePayload) (x previous : PlaystatePayload)
    (hsome : (revisionOf c latest).isSome) :
    (some (mergePlaystate c.wire previous latest)).map (revisionOf c) =
      ((front ++ [x]) ++ (back ++ [y])).getLast?.map (revisionOf c) := by
  have hlatest : revisionOf c latest = revisionOf c y := by
    simpa using hl.revision
  rw [← List.append_assoc, List.getLast?_concat, Option.map_some, Option.map_some,
    revisionOf_merge hsome, hlatest]

/-- One revision throughout the later sequence, which the earlier one ends with: fields and
    seeks are taken from both. -/
theorem PlaystateFold.merge_same (hp : PlaystateFold c (front ++ [x]) (some previous))
    (hl : PlaystateFold c (back ++ [y]) (some latest)) (hsome : (revisionOf c latest).isSome)
    (hsame : revisionOf c x = revisionOf c y)
    (hall : ∀ z ∈ back ++ [y], revisionOf c z = revisionOf c y) :
    PlaystateFold c ((front ++ [x]) ++ (back ++ [y]))
      (some (mergePlaystate c.wire previous latest)) := by
  have hlatest : revisionOf c latest = revisionOf c y := by
    simpa using hl.revision
  have hprevious : revisionOf c previous = revisionOf c x := by
    simpa using hp.revision
  have hrun := finalRun_append_same (revisionOf c) front hall hsame
  have hback := finalRun_of_same (revisionOf c) hall
  have hmerge : mergePlaystate c.wire previous latest = _ := mergePlaystate_same
    (hlatest.trans (hsame.symm.trans hprevious.symm)) hsome
  have hrevision := hl.merged_revision front x previous hsome
  rw [hmerge] at hrevision ⊢
  have hposition := hl.position
  have hpaused := hl.paused
  have hsetBy := hl.setBy
  have hextra := hl.extra
  have hseek := hl.seek
  have hnoSeek := hl.noSeek
  rw [hback] at hposition hpaused hsetBy hextra hseek hnoSeek
  constructor
  case revision => exact hrevision
  -- the final run of the whole is that of the earlier sequence with all of the later one
  all_goals rw [hrun]
  case position =>
    rw [List.map_append, latest_append, ← hposition, ← hp.position]
    rfl
  case paused =>
    rw [List.map_append, latest_append, ← hpaused, ← hp.paused]
    rfl
  case setBy =>
    rw [List.map_append, latest_append, ← hsetBy, ← hp.setBy]
    rfl
  case extra =>
    intro key
    rw [List.map_append, latest_append, ← hextra key, ← hp.extra key]
    exact getElem?_mergeMissingEntries previous.extra latest.extra key
  -- a seek anywhere in the run stays a seek
  case seek =>
    have hpseek := hp.seek
    simp only [Option.bind_some] at hseek hpseek ⊢
    simp only [List.mem_append (s := finalRun (revisionOf c) (front ++ [x])), or_and_right,
      exists_or, ← hseek, ← hpseek]
    by_cases hheld : previous.doSeek = some true
    · simp [hheld]
    · rw [if_neg hheld]
      cases latest.doSeek with
      | none => simp
      | some value => simp [hheld]
  case noSeek =>
    intro hnot
    simp only [Option.bind_some] at hnot hnoSeek ⊢
    have hheld : previous.doSeek ≠ some true := fun h => hnot (by rw [if_pos h])
    rw [if_neg hheld] at hnot ⊢
    have hpnoSeek := hp.noSeek hheld
    have hlatestSeek : latest.doSeek ≠ some true := fun h => hnot (by rw [h]; rfl)
    rw [List.map_append, latest_append, ← hnoSeek hlatestSeek, ← hpnoSeek]
    rfl

/-- Another revision: the latest playstate stands alone, and so does its run. -/
theorem PlaystateFold.merge_other (hp : PlaystateFold c (front ++ [x]) (some previous))
    (hl : PlaystateFold c (back ++ [y]) (some latest)) (hsome : (revisionOf c latest).isSome)
    (hother : ¬revisionOf c x = revisionOf c y) :
    PlaystateFold c ((front ++ [x]) ++ (back ++ [y]))
      (some (mergePlaystate c.wire previous latest)) := by
  have hlatest : revisionOf c latest = revisionOf c y := by
    simpa using hl.revision
  have hprevious : revisionOf c previous = revisionOf c x := by
    simpa using hp.revision
  have hrun := finalRun_append_other (revisionOf c) front back hother
  have hapart : revisionOf c latest ≠ revisionOf c previous := by
    rw [hlatest, hprevious]
    exact Ne.symm hother
  have hrevision := hl.merged_revision front x previous hsome
  rw [mergePlaystate_other hapart] at hrevision ⊢
  constructor
  case revision => exact hrevision
  all_goals rw [hrun]
  case position => exact hl.position
  case paused => exact hl.paused
  case setBy => exact hl.setBy
  case extra => exact hl.extra
  case seek => exact hl.seek
  case noSeek => exact hl.noSeek

end merge

theorem PlaystateFold.merge {earlier later : List PlaystatePayload}
    {p l : Option PlaystatePayload} (hp : PlaystateFold c earlier p)
    (hl : PlaystateFold c later l) (hunbroken : Unbroken c earlier later)
    (hdecodes : ∀ play, l = some play → (revisionOf c play).isSome) :
    PlaystateFold c (earlier ++ later) (mergePart (mergePlaystate c.wire) p l) := by
  induction later using List.reverseRecOn with
  | nil =>
    have hnone : l = none := by simpa using hl.revision
    subst hnone
    rw [List.append_nil]
    cases p with
    | none => exact hp
    | some play => exact hp
  | append_singleton back y =>
    obtain ⟨latest, rfl, -⟩ := hl.exists_last
    have hsome := hdecodes latest rfl
    induction earlier using List.reverseRecOn with
    | nil =>
      have hnone : p = none := by simpa using hp.revision
      subst hnone
      exact hl
    | append_singleton front x =>
      obtain ⟨previous, rfl, -⟩ := hp.exists_last
      by_cases hsame : revisionOf c x = revisionOf c y
      · exact hp.merge_same hl hsome hsame (hunbroken front x back y rfl rfl hsame)
      · exact hp.merge_other hl hsome hsame

/-! ### The whole State -/

theorem LastOf.merge {α : Type} {field : StatePayload → Option α} {xs ys : List StatePayload}
    {x y r : StatePayload} (hx : LastOf field xs x) (hy : LastOf field ys y)
    (hr : field r = (field y).or (field x)) : LastOf field (xs ++ ys) r := by
  rw [LastOf, hr, List.map_append, latest_append, ← hx, ← hy]

/-- A field of a part that either side may lack is a register too. -/
theorem mergePart_field {α β : Type} {merge : α → α → α} {field : α → Option β}
    (hfield : ∀ previous latest, field (merge previous latest) =
      (field latest).or (field previous)) (previous latest : Option α) :
    (mergePart merge previous latest).bind field =
      (latest.bind field).or (previous.bind field) := by
  cases previous with
  | none => exact (Option.or_none).symm
  | some p =>
    cases latest with
    | none => rfl
    | some l => exact hfield p l

theorem mergePart_present {α : Type} (merge : α → α → α) (previous latest : Option α) :
    (mergePart merge previous latest).map (fun _ => ()) =
      (latest.map fun _ => ()).or (previous.map fun _ => ()) := by
  cases previous with
  | none => exact (Option.or_none).symm
  | some p =>
    cases latest with
    | none => rfl
    | some l => rfl

theorem ping_merge {α : Type} (codec : WireCodec) {field : PingPayload → Option α}
    (hfield : ∀ previous latest, field (mergePing previous latest) =
      (field latest).or (field previous)) (previous latest : StatePayload) :
    pingField field (mergePendingStateObligations codec previous latest) =
      (pingField field latest).or (pingField field previous) := by
  rw [pingField, (merge_parts codec previous latest).2.1]
  exact mergePart_field hfield _ _

theorem ignoring_merge {α : Type} (codec : WireCodec)
    {field : IgnoringOnTheFlyPayload → Option α}
    (hfield : ∀ previous latest, field (mergeIgnoring previous latest) =
      (field latest).or (field previous)) (previous latest : StatePayload) :
    ignoringField field (mergePendingStateObligations codec previous latest) =
      (ignoringField field latest).or (ignoringField field previous) := by
  rw [ignoringField, (merge_parts codec previous latest).2.2]
  exact mergePart_field hfield _ _

theorem barrier_merge (hc : c.Lawful) (hprevious : previous.Decodes c)
    (hlatest : latest.Decodes c) {part : BarrierObservations → Option Json}
    (hpart : part = (·.ready) ∨ part = (·.started) ∨ part = (·.transport)) :
    barrierField c part (mergePendingStateObligations c.wire previous latest) =
      (barrierField c part latest).or (barrierField c part previous) := by
  rcases merge_barrier hc hprevious hlatest with ⟨hnone, -, -, hl, hp⟩ |
    ⟨fields, observed, hvalue, hdecode, -, hparts⟩
  · rw [barrierField, barrierField, barrierField, StatePayload.playbackBarrierV1, hnone, hl, hp]
    rfl
  · rw [← hparts part hpart, barrierField, StatePayload.playbackBarrierV1, hvalue]
    show (c.playbackBarrier (.object fields)).bind part = _
    rw [hdecode]
    rfl

theorem decodes_merge (hc : c.Lawful) (hprevious : previous.Decodes c)
    (hlatest : latest.Decodes c) :
    (mergePendingStateObligations c.wire previous latest).Decodes c := by
  constructor
  case revision =>
    intro play hplay
    rw [(merge_parts c.wire previous latest).1] at hplay
    cases hl : latest.playstate with
    | none =>
      rw [hl] at hplay
      cases hp : previous.playstate with
      | none => rw [hp] at hplay; cases hplay
      | some held =>
        rw [hp] at hplay
        cases hplay
        exact hprevious.revision play hp
    | some l =>
      have hsome := hlatest.revision l hl
      rw [hl] at hplay
      cases hp : previous.playstate with
      | none =>
        rw [hp] at hplay
        cases hplay
        exact hsome
      | some p =>
        rw [hp] at hplay
        cases hplay
        rw [revisionOf_merge hsome]
        exact hsome
  case barrier =>
    intro value hvalue
    rcases merge_barrier hc hprevious hlatest with ⟨hnone, -⟩ |
      ⟨fields, observed, hfields, hdecode, -, -⟩
    · rw [hnone] at hvalue
      cases hvalue
    · rw [hfields] at hvalue
      cases hvalue
      exact ⟨fields, rfl, by rw [hdecode]; rfl⟩

theorem CoalescedFold.singleton (h : latest.Decodes c) : CoalescedFold c [latest] latest where
  playstate := by
    cases hplay : latest.playstate with
    | none => simpa [hplay] using PlaystateFold.nil
    | some play => simpa [hplay] using PlaystateFold.singleton play
  ping := (latest_singleton _).symm
  latencyCalculation := (latest_singleton _).symm
  clientLatencyCalculation := (latest_singleton _).symm
  clientRtt := (latest_singleton _).symm
  serverRtt := (latest_singleton _).symm
  pingExtra _ := (latest_singleton _).symm
  ignoringOnTheFly := (latest_singleton _).symm
  server := (latest_singleton _).symm
  client := (latest_singleton _).symm
  ignoringExtra _ := (latest_singleton _).symm
  barrier := (latest_singleton _).symm
  ready := (latest_singleton _).symm
  started := (latest_singleton _).symm
  transport := (latest_singleton _).symm
  extra _ _ := (latest_singleton _).symm
  decodes := h

/-- **The merge of two folds** is the fold of the two sequences, one after the
    other, when no final run is broken off by the cut. -/
theorem coalescedFold_merge (hc : c.Lawful) {xs ys : List StatePayload} {x y : StatePayload}
    (hx : CoalescedFold c xs x) (hy : CoalescedFold c ys y)
    (hunbroken : Unbroken c (xs.filterMap (·.playstate)) (ys.filterMap (·.playstate))) :
    CoalescedFold c (xs ++ ys) (mergePendingStateObligations c.wire x y) where
  playstate := by
    rw [List.filterMap_append, (merge_parts c.wire x y).1]
    exact hx.playstate.merge hy.playstate hunbroken hy.decodes.revision
  ping := hx.ping.merge hy.ping (by
    rw [(merge_parts c.wire x y).2.1]
    exact mergePart_present _ _ _)
  latencyCalculation :=
    hx.latencyCalculation.merge hy.latencyCalculation (ping_merge _ (fun _ _ => rfl) _ _)
  clientLatencyCalculation :=
    hx.clientLatencyCalculation.merge hy.clientLatencyCalculation
      (ping_merge _ (fun _ _ => rfl) _ _)
  clientRtt := hx.clientRtt.merge hy.clientRtt (ping_merge _ (fun _ _ => rfl) _ _)
  serverRtt := hx.serverRtt.merge hy.serverRtt (ping_merge _ (fun _ _ => rfl) _ _)
  pingExtra key := (hx.pingExtra key).merge (hy.pingExtra key)
    (ping_merge _ (fun _ _ => getElem?_mergeMissingEntries _ _ _) _ _)
  ignoringOnTheFly := hx.ignoringOnTheFly.merge hy.ignoringOnTheFly (by
    rw [(merge_parts c.wire x y).2.2]
    exact mergePart_present _ _ _)
  server := hx.server.merge hy.server (ignoring_merge _ (fun _ _ => rfl) _ _)
  client := hx.client.merge hy.client (ignoring_merge _ (fun _ _ => rfl) _ _)
  ignoringExtra key := (hx.ignoringExtra key).merge (hy.ignoringExtra key)
    (ignoring_merge _ (fun _ _ => getElem?_mergeMissingEntries _ _ _) _ _)
  barrier := hx.barrier.merge hy.barrier (by
    rcases merge_barrier hc hx.decodes hy.decodes with ⟨hnone, hl, hp, -⟩ |
      ⟨fields, observed, hvalue, -, hpresent, -⟩
    · rw [hnone, hl, hp]
      rfl
    · rw [hvalue]
      cases hl : y.extra[sorottePlaybackBarrierV1]? with
      | some value => rfl
      | none =>
        cases hp : x.extra[sorottePlaybackBarrierV1]? with
        | some value => rfl
        | none =>
          rw [hl, hp] at hpresent
          rcases hpresent with h | h <;> cases h)
  ready := hx.ready.merge hy.ready (barrier_merge hc hx.decodes hy.decodes (.inl rfl))
  started := hx.started.merge hy.started
    (barrier_merge hc hx.decodes hy.decodes (.inr (.inl rfl)))
  transport := hx.transport.merge hy.transport
    (barrier_merge hc hx.decodes hy.decodes (.inr (.inr rfl)))
  extra key hkey := (hx.extra key hkey).merge (hy.extra key hkey) (merge_extra _ _ _ hkey)
  decodes := decodes_merge hc hx.decodes hy.decodes

/-! ### Any way of coalescing -/

/-- The States that merging a sequence can come to, wherever it is cut. -/
inductive Coalesces (codec : WireCodec) : List StatePayload → StatePayload → Prop where
  | one (state : StatePayload) : Coalesces codec [state] state
  | merge {xs ys : List StatePayload} {x y : StatePayload} (hx : Coalesces codec xs x)
      (hy : Coalesces codec ys y) :
      Coalesces codec (xs ++ ys) (mergePendingStateObligations codec x y)

/-- No transport revision comes back once another one has followed it. -/
def RevisionsStay (c : SerdeCodecs) (states : List StatePayload) : Prop :=
  ∀ a b d, [a, b, d].Sublist (states.filterMap (·.playstate)) →
    revisionOf c a = revisionOf c d → revisionOf c b = revisionOf c d

theorem unbroken_of_stays {xs ys : List StatePayload} (h : RevisionsStay c (xs ++ ys)) :
    Unbroken c (xs.filterMap (·.playstate)) (ys.filterMap (·.playstate)) := by
  intro front x back y hxs hys hxy z hz
  rw [hys] at hz
  rcases List.mem_append.mp hz with hback | hlast
  · refine h x z y ?_ hxy
    rw [List.filterMap_append, hxs, hys]
    have hfirst : [x].Sublist (front ++ [x]) := List.sublist_append_right _ _
    have hsecond : [z].Sublist back := List.singleton_sublist.mpr hback
    exact hfirst.append (hsecond.append (List.Sublist.refl [y]))
  · rw [List.mem_singleton.mp hlast]

theorem coalesces_fold (hc : c.Lawful) {states : List StatePayload} {r : StatePayload}
    (h : Coalesces c.wire states r) (hdecodes : ∀ state ∈ states, state.Decodes c)
    (hstays : RevisionsStay c states) : CoalescedFold c states r := by
  induction h with
  | one state => exact .singleton (hdecodes state (by simp))
  | @merge xs ys x y hx hy ihx ihy =>
    have hxs : RevisionsStay c xs := fun a b d hsub => hstays a b d
      (hsub.trans ((List.sublist_append_left xs ys).filterMap _))
    have hys : RevisionsStay c ys := fun a b d hsub => hstays a b d
      (hsub.trans ((List.sublist_append_right xs ys).filterMap _))
    exact coalescedFold_merge hc (ihx (fun s hs => hdecodes s (by simp [hs])) hxs)
      (ihy (fun s hs => hdecodes s (by simp [hs])) hys) (unbroken_of_stays hstays)

/-- One more State at a time breaks off no run. -/
theorem coalescedFold_push (hc : c.Lawful) {states : List StatePayload} {r state : StatePayload}
    (h : CoalescedFold c states r) (hdecodes : state.Decodes c) :
    CoalescedFold c (states ++ [state]) (mergePendingStateObligations c.wire r state) := by
  refine coalescedFold_merge hc h (.singleton hdecodes) ?_
  intro front x back y hxs hys hxy z hz
  cases hplay : state.playstate with
  | none =>
    rw [List.filterMap_cons, hplay] at hz
    cases hz
  | some play =>
    simp only [List.filterMap_cons, hplay, List.filterMap_nil] at hys hz
    have hy : back ++ [y] = [] ++ [play] := hys.symm
    obtain ⟨-, rfl⟩ := List.append_singleton_inj.mp hy
    rw [List.mem_singleton.mp hz]

end merge

end Sorotte.Client
