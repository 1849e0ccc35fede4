import Mathlib

/-! # Streaming PCM into the constellation builder

  `AudioConstellationV3PcmStream` joins bytes to samples and the builder joins
  samples to windows.  The spectral analysis of a window and the pairing of its
  peaks are the parameter `analyze`: one function of the builder's analysis
  state, the frame's index and the frame's samples.
-/

namespace Sorotte.Fingerprint

/-- The part of `AudioConstellationV3Config` that decides the windows. -/
structure AudioConstellationV3Config where
  sampleRate : Nat
  windowSamples : Nat
  hopSamples : Nat
  hop_pos : 0 < hopSamples
  hop_le : hopSamples ≤ windowSamples

/-- `i16::from_le_bytes`. -/
def i16FromLeBytes (left right : UInt8) : Int16 :=
  (left.toUInt16 ||| (right.toUInt16 <<< 8)).toInt16

/-- `as_chunks::<2>`, each chunk a sample, and the odd byte left over. -/
def asSamples : List UInt8 → List Int16 × Option UInt8
  | left :: right :: rest => (i16FromLeBytes left right :: (asSamples rest).1, (asSamples rest).2)
  | [byte] => ([], some byte)
  | [] => ([], none)

/-- What `finish` answers when a byte is left over. -/
inductive MediaFingerprintError where
  | invalidToolOutput (tool reason : String)
  deriving DecidableEq, Repr

/-! ### The builder -/

variable {σ : Type}

structure AudioConstellationV3Builder (σ : Type) where
  config : AudioConstellationV3Config
  /-- `analyzer.is_some()`. -/
  analyzes : Bool
  rollingSamples : List Int16
  nextFrameIndex : Nat
  maxBufferSamples : Nat
  analysis : σ

def AudioConstellationV3Builder.new (config : AudioConstellationV3Config) (analysis : σ) :
    AudioConstellationV3Builder σ where
  config := config
  analyzes := config.sampleRate != 0
  rollingSamples := []
  nextFrameIndex := 0
  maxBufferSamples := 0
  analysis := analysis

section builder

variable (analyze : σ → Nat → List Int16 → σ)

/-- One round of the inner loop: the window is analysed and moved on by a hop. -/
def AudioConstellationV3Builder.analyzeWindow (b : AudioConstellationV3Builder σ) :
    AudioConstellationV3Builder σ :=
  let window := b.config.windowSamples
  let rolling := (b.rollingSamples.drop b.config.hopSamples).take (window - b.config.hopSamples)
  { b with
    analysis := analyze b.analysis b.nextFrameIndex (b.rollingSamples.take window)
    nextFrameIndex := b.nextFrameIndex + 1
    rollingSamples := rolling
    maxBufferSamples := max b.maxBufferSamples rolling.length }

/-- `while self.rolling_samples.len() >= self.config.window_samples`. -/
def AudioConstellationV3Builder.analyzeWindows (b : AudioConstellationV3Builder σ) :
    AudioConstellationV3Builder σ :=
  if b.config.windowSamples ≤ b.rollingSamples.length then
    (b.analyzeWindow analyze).analyzeWindows
  else b
termination_by b.rollingSamples.length
decreasing_by
  have hpos := b.config.hop_pos
  have hle := b.config.hop_le
  simp only [analyzeWindow, List.length_take, List.length_drop]
  omega

/-- Samples enter the rolling buffer. -/
def AudioConstellationV3Builder.extend (b : AudioConstellationV3Builder σ)
    (samples : List Int16) : AudioConstellationV3Builder σ :=
  let rolling := b.rollingSamples ++ samples
  { b with
    rollingSamples := rolling
    maxBufferSamples := max b.maxBufferSamples rolling.length }

/-- `while cursor < samples.len()`, on the samples from the cursor on. -/
def AudioConstellationV3Builder.pushSamples (b : AudioConstellationV3Builder σ)
    (samples : List Int16) : AudioConstellationV3Builder σ :=
  if samples.isEmpty then b
  else
    let needed := b.config.windowSamples - b.rollingSamples.length
    let take := max (min needed samples.length) 1
    ((b.extend (samples.take take)).analyzeWindows analyze).pushSamples (samples.drop take)
termination_by samples.length
decreasing_by
  next hsome =>
    have hpos : 0 < samples.length := by
      rw [List.length_pos_iff]
      simpa using hsome
    rw [List.length_drop]
    omega

def AudioConstellationV3Builder.pushPcmI16 (b : AudioConstellationV3Builder σ)
    (samples : List Int16) : AudioConstellationV3Builder σ :=
  if !b.analyzes || samples.isEmpty then b else b.pushSamples analyze samples

end builder

/-! ### The stream -/

structure AudioConstellationV3PcmStream (σ : Type) where
  pendingByte : Option UInt8
  builder : AudioConstellationV3Builder σ
  streamedBytes : Nat
  streamedSamples : Nat

def AudioConstellationV3PcmStream.withConfig (config : AudioConstellationV3Config)
    (analysis : σ) : AudioConstellationV3PcmStream σ where
  pendingByte := none
  builder := .new config analysis
  streamedBytes := 0
  streamedSamples := 0

/-- Samples reach the builder, and the odd byte waits for the next call. -/
def AudioConstellationV3PcmStream.pushSamples (analyze : σ → Nat → List Int16 → σ)
    (stream : AudioConstellationV3PcmStream σ) (samples : List Int16) (pending : Option UInt8) :
    AudioConstellationV3PcmStream σ :=
  { stream with
    pendingByte := pending
    builder := stream.builder.pushPcmI16 analyze samples
    streamedSamples := stream.streamedSamples + samples.length }

def AudioConstellationV3PcmStream.pushBytes (analyze : σ → Nat → List Int16 → σ)
    (stream : AudioConstellationV3PcmStream σ) (bytes : List UInt8) :
    AudioConstellationV3PcmStream σ :=
  let counted := { stream with streamedBytes := stream.streamedBytes + bytes.length }
  match stream.pendingByte, bytes with
  | some _, [] => counted
  | some left, right :: rest =>
      let (samples, pending) := asSamples rest
      counted.pushSamples analyze (i16FromLeBytes left right :: samples) pending
  | none, bytes =>
      let (samples, pending) := asSamples bytes
      counted.pushSamples analyze samples pending

/-- `finish`, with `finish_with_metrics` as the function of what it reads. -/
def AudioConstellationV3PcmStream.finish {ρ : Type}
    (finishWithMetrics : AudioConstellationV3Builder σ → Nat → Nat → ρ)
    (stream : AudioConstellationV3PcmStream σ) : Except MediaFingerprintError ρ :=
  if stream.pendingByte.isSome then
    .error (.invalidToolOutput "ffmpeg" "decoded PCM had a partial trailing sample")
  else .ok (finishWithMetrics stream.builder stream.streamedBytes stream.streamedSamples)

/-- A stream after the calls of `push_bytes` on some pieces. -/
def AudioConstellationV3PcmStream.pushPieces (analyze : σ → Nat → List Int16 → σ)
    (stream : AudioConstellationV3PcmStream σ) (pieces : List (List UInt8)) :
    AudioConstellationV3PcmStream σ :=
  pieces.foldl (·.pushBytes analyze ·) stream

/-! ### Samples of a split text -/

theorem asSamples_append (front back : List UInt8) :
    asSamples (front ++ back) =
      ((asSamples front).1 ++ (asSamples ((asSamples front).2.toList ++ back)).1,
        (asSamples ((asSamples front).2.toList ++ back)).2) := by
  induction front using asSamples.induct with
  | case1 left right rest ih =>
    rw [List.cons_append, List.cons_append, asSamples, ih]
    rfl
  | case2 byte => rfl
  | case3 => rfl

/-- A byte is left over exactly when their number is odd. -/
theorem asSamples_pending (bytes : List UInt8) :
    (asSamples bytes).2.isSome = true ↔ bytes.length % 2 = 1 := by
  induction bytes using asSamples.induct with
  | case1 left right rest ih =>
    rw [asSamples, ih]
    simp only [List.length_cons]
    omega
  | case2 byte => simp [asSamples]
  | case3 => simp [asSamples]

/-! ### Windows of the samples -/

/-- The samples of a frame. -/
def windowAt (config : AudioConstellationV3Config) (samples : List Int16) (i : Nat) :
    List Int16 :=
  (samples.drop (i * config.hopSamples)).take config.windowSamples

/-- The frames before one, analysed in order. -/
def analyzeFrames (analyze : σ → Nat → List Int16 → σ) (config : AudioConstellationV3Config)
    (samples : List Int16) (start : σ) (count : Nat) : σ :=
  (List.range count).foldl (fun s i => analyze s i (windowAt config samples i)) start

theorem windowAt_append {config : AudioConstellationV3Config} {samples : List Int16} {i : Nat}
    (h : i * config.hopSamples + config.windowSamples ≤ samples.length) (more : List Int16) :
    windowAt config (samples ++ more) i = windowAt config samples i := by
  unfold windowAt
  rw [List.drop_append_of_le_length (by omega), List.take_append_of_le_length]
  rw [List.length_drop]
  omega

theorem analyzeFrames_append {analyze : σ → Nat → List Int16 → σ}
    {config : AudioConstellationV3Config} {samples : List Int16} {start : σ} {count : Nat}
    (h : ∀ i < count, i * config.hopSamples + config.windowSamples ≤ samples.length)
    (more : List Int16) :
    analyzeFrames analyze config (samples ++ more) start count =
      analyzeFrames analyze config samples start count := by
  unfold analyzeFrames
  refine List.foldl_ext _ _ _ fun s i hi => ?_
  rw [windowAt_append (h i (List.mem_range.mp hi))]

variable {analyze : σ → Nat → List Int16 → σ} {config : AudioConstellationV3Config} {start : σ}

/-- The builder has analysed the frames that fit into the samples it was given, up
    to its next one, and holds the samples from there on. -/
structure Caught (analyze : σ → Nat → List Int16 → σ) (config : AudioConstellationV3Config)
    (start : σ) (samples : List Int16) (b : AudioConstellationV3Builder σ) : Prop where
  configured : b.config = config
  fits : ∀ i < b.nextFrameIndex, i * config.hopSamples + config.windowSamples ≤ samples.length
  reached : b.nextFrameIndex * config.hopSamples ≤ samples.length
  rolling : b.rollingSamples = samples.drop (b.nextFrameIndex * config.hopSamples)
  analysis : b.analysis = analyzeFrames analyze config samples start b.nextFrameIndex
  widest : b.maxBufferSamples = min samples.length config.windowSamples

theorem Caught.rolling_length {samples : List Int16} {b : AudioConstellationV3Builder σ}
    (h : Caught analyze config start samples b) :
    b.rollingSamples.length = samples.length - b.nextFrameIndex * config.hopSamples := by
  rw [h.rolling, List.length_drop]

/-- Too few samples for a window are waiting. -/
structure Settled (analyze : σ → Nat → List Int16 → σ) (config : AudioConstellationV3Config)
    (start : σ) (samples : List Int16) (b : AudioConstellationV3Builder σ) : Prop
    extends Caught analyze config start samples b where
  short : b.rollingSamples.length < config.windowSamples

/-- The frames analysed are exactly those that fit. -/
theorem Settled.exact {samples : List Int16} {b : AudioConstellationV3Builder σ}
    (h : Settled analyze config start samples b) (i : Nat) :
    i < b.nextFrameIndex ↔ i * config.hopSamples + config.windowSamples ≤ samples.length := by
  constructor
  · exact h.fits i
  · intro hfits
    by_contra hlate
    have hmul : b.nextFrameIndex * config.hopSamples ≤ i * config.hopSamples :=
      Nat.mul_le_mul_right _ (by omega)
    have hlength := h.toCaught.rolling_length
    have hshort := h.short
    omega

theorem Caught.extend {samples piece : List Int16} {b : AudioConstellationV3Builder σ}
    (h : Settled analyze config start samples b)
    (hpiece : b.rollingSamples.length + piece.length ≤ config.windowSamples) :
    Caught analyze config start (samples ++ piece) (b.extend piece) := by
  have hlength := h.toCaught.rolling_length
  have hreached := h.reached
  refine ⟨h.configured, fun i hi => ?_, ?_, ?_, ?_, ?_⟩
  · have hfits := h.fits i hi
    rw [List.length_append]
    omega
  · show b.nextFrameIndex * config.hopSamples ≤ _
    rw [List.length_append]
    omega
  · show b.rollingSamples ++ piece =
      (samples ++ piece).drop (b.nextFrameIndex * config.hopSamples)
    rw [h.rolling, List.drop_append_of_le_length hreached]
  · show b.analysis = _
    rw [h.analysis]
    exact (analyzeFrames_append h.fits piece).symm
  · show max b.maxBufferSamples (b.rollingSamples ++ piece).length = _
    rw [h.widest, List.length_append, List.length_append]
    -- Before the first window every sample is waiting; after it the buffer was full.
    rcases Nat.eq_zero_or_pos b.nextFrameIndex with hfirst | hlater
    · rw [hfirst, Nat.zero_mul] at hlength
      omega
    · have hfull := h.fits 0 hlater
      omega

/-- A full window is analysed and makes room. -/
theorem Caught.analyzeWindow {samples : List Int16} {b : AudioConstellationV3Builder σ}
    (h : Caught analyze config start samples b)
    (hfull : b.rollingSamples.length = config.windowSamples) :
    Settled analyze config start samples (b.analyzeWindow analyze) := by
  have hpos := config.hop_pos
  have hle := config.hop_le
  have hlength := h.rolling_length
  have hreached := h.reached
  have hnext : (b.nextFrameIndex + 1) * config.hopSamples =
      b.nextFrameIndex * config.hopSamples + config.hopSamples := Nat.succ_mul _ _
  have hrolling : (b.analyzeWindow analyze).rollingSamples =
      samples.drop ((b.nextFrameIndex + 1) * config.hopSamples) := by
    show (b.rollingSamples.drop b.config.hopSamples).take _ = _
    rw [h.configured, List.take_of_length_le (by rw [List.length_drop]; omega), h.rolling,
      List.drop_drop, hnext]
  have hshort : (b.analyzeWindow analyze).rollingSamples.length < config.windowSamples := by
    rw [hrolling, List.length_drop]
    omega
  refine ⟨⟨h.configured, fun i hi => ?_, ?_, hrolling, ?_, ?_⟩, hshort⟩
  · rcases Nat.lt_succ_iff_lt_or_eq.mp hi with hlt | rfl
    · exact h.fits i hlt
    · omega
  · show (b.nextFrameIndex + 1) * config.hopSamples ≤ _
    omega
  · show analyze b.analysis b.nextFrameIndex (b.rollingSamples.take b.config.windowSamples) =
      analyzeFrames analyze config samples start (b.nextFrameIndex + 1)
    unfold analyzeFrames
    rw [List.range_succ, List.foldl_append, h.configured, h.rolling, h.analysis]
    rfl
  · show max b.maxBufferSamples (b.analyzeWindow analyze).rollingSamples.length = _
    rw [h.widest]
    omega

theorem analyzeWindows_short {b : AudioConstellationV3Builder σ}
    (h : b.rollingSamples.length < b.config.windowSamples) :
    b.analyzeWindows analyze = b := by
  rw [AudioConstellationV3Builder.analyzeWindows, if_neg (by omega)]

/-- Samples that fit into the window leave at most one window to analyse. -/
theorem settled_extend {samples piece : List Int16} {b : AudioConstellationV3Builder σ}
    (h : Settled analyze config start samples b)
    (hpiece : b.rollingSamples.length + piece.length ≤ config.windowSamples) :
    Settled analyze config start (samples ++ piece)
      ((b.extend piece).analyzeWindows analyze) := by
  have hcaught := Caught.extend h hpiece
  have hlength : (b.extend piece).rollingSamples.length =
      b.rollingSamples.length + piece.length := List.length_append
  have hconfig := hcaught.configured
  rcases Nat.lt_or_ge (b.extend piece).rollingSamples.length config.windowSamples
    with hshort | hfull
  · rw [analyzeWindows_short (by rw [hconfig]; exact hshort)]
    exact ⟨hcaught, hshort⟩
  · have hsettled := hcaught.analyzeWindow (by omega)
    rw [AudioConstellationV3Builder.analyzeWindows, if_pos (by rw [hconfig]; exact hfull)]
    rw [analyzeWindows_short (by rw [hsettled.configured]; exact hsettled.short)]
    exact hsettled

theorem settled_pushSamples (piece : List Int16) :
    ∀ {samples : List Int16} {b : AudioConstellationV3Builder σ},
      Settled analyze config start samples b →
      Settled analyze config start (samples ++ piece) (b.pushSamples analyze piece) := by
  induction hlength : piece.length using Nat.strongRecOn generalizing piece with
  | ind n ih =>
    intro samples b h
    rw [AudioConstellationV3Builder.pushSamples]
    cases piece with
    | nil =>
      rw [List.append_nil]
      exact h
    | cons first rest =>
      rw [if_neg (by simp)]
      dsimp only
      have hconfig := h.configured
      have hshort := h.short
      generalize htake : max (min (b.config.windowSamples - b.rollingSamples.length)
        (first :: rest).length) 1 = take
      have hroom : take ≤ b.config.windowSamples - b.rollingSamples.length := by
        rw [hconfig] at htake ⊢
        rw [List.length_cons] at htake
        omega
      have hfits : b.rollingSamples.length + ((first :: rest).take take).length ≤
          config.windowSamples := by
        rw [hconfig] at hroom
        rw [List.length_take]
        omega
      have hfewer : ((first :: rest).drop take).length < n := by
        rw [List.length_drop, hlength]
        rw [List.length_cons] at hlength
        omega
      have hrest := ih _ hfewer ((first :: rest).drop take) rfl (settled_extend h hfits)
      rw [List.append_assoc, List.take_append_drop] at hrest
      exact hrest

theorem settled_new (hhop : 0 < config.windowSamples) :
    Settled analyze config start [] (.new config start) where
  configured := rfl
  fits := nofun
  reached := by simp [AudioConstellationV3Builder.new]
  rolling := by simp [AudioConstellationV3Builder.new]
  analysis := rfl
  widest := by simp [AudioConstellationV3Builder.new]
  short := hhop

/-- A settled builder is settled by the samples alone. -/
theorem Settled.unique {samples : List Int16} {b b' : AudioConstellationV3Builder σ}
    (h : Settled analyze config start samples b) (h' : Settled analyze config start samples b')
    (hanalyzes : b.analyzes = b'.analyzes) : b = b' := by
  have hindex : b.nextFrameIndex = b'.nextFrameIndex := by
    have hiff : ∀ i, i < b.nextFrameIndex ↔ i < b'.nextFrameIndex := fun i =>
      (h.exact i).trans (h'.exact i).symm
    have hlt := hiff b.nextFrameIndex
    have hlt' := hiff b'.nextFrameIndex
    omega
  have hconfig := h.configured.trans h'.configured.symm
  have hrolling := h.rolling.trans (hindex ▸ h'.rolling.symm)
  have hanalysis := h.analysis.trans (hindex ▸ h'.analysis.symm)
  have hwidest := h.widest.trans h'.widest.symm
  cases b
  cases b'
  simp only at hindex hconfig hrolling hanalysis hwidest hanalyzes
  subst hindex hconfig hrolling hanalysis hwidest hanalyzes
  rfl

/-! ### Any way of cutting the bytes -/

/-- A stream after some bytes, however they came. -/
structure Streamed (analyze : σ → Nat → List Int16 → σ) (config : AudioConstellationV3Config)
    (start : σ) (bytes : List UInt8) (stream : AudioConstellationV3PcmStream σ) : Prop where
  pending : stream.pendingByte = (asSamples bytes).2
  counted : stream.streamedBytes = bytes.length
  counted_samples : stream.streamedSamples = (asSamples bytes).1.length
  analyzes : stream.builder.analyzes = (config.sampleRate != 0)
  settled : config.sampleRate ≠ 0 →
    Settled analyze config start (asSamples bytes).1 stream.builder
  idle : config.sampleRate = 0 → stream.builder = .new config start

theorem analyzes_pushSamples (piece : List Int16) (b : AudioConstellationV3Builder σ) :
    (b.pushSamples analyze piece).analyzes = b.analyzes := by
  have hwindows : ∀ b : AudioConstellationV3Builder σ,
      (b.analyzeWindows analyze).analyzes = b.analyzes := by
    intro b
    induction b using AudioConstellationV3Builder.analyzeWindows.induct analyze with
    | case1 b hfull ih =>
      rw [AudioConstellationV3Builder.analyzeWindows, if_pos hfull, ih]
      rfl
    | case2 b hshort => rw [AudioConstellationV3Builder.analyzeWindows, if_neg hshort]
  induction b, piece using AudioConstellationV3Builder.pushSamples.induct analyze with
  | case1 b piece hempty => rw [AudioConstellationV3Builder.pushSamples, if_pos hempty]
  | case2 b piece hsome needed take ih =>
    rw [AudioConstellationV3Builder.pushSamples, if_neg hsome]
    exact ih.trans (hwindows _)

/-- Samples that complete what is pending. -/
theorem Streamed.pushSamples {bytes more : List UInt8} {stream : AudioConstellationV3PcmStream σ}
    (h : Streamed analyze config start bytes stream) :
    Streamed analyze config start (bytes ++ more)
      ({ stream with streamedBytes := stream.streamedBytes + more.length }.pushSamples analyze
        (asSamples (stream.pendingByte.toList ++ more)).1
        (asSamples (stream.pendingByte.toList ++ more)).2) := by
  have hsplit := asSamples_append bytes more
  rw [← h.pending] at hsplit
  generalize asSamples (stream.pendingByte.toList ++ more) = added at hsplit
  obtain ⟨samples, pending⟩ := added
  refine ⟨?_, ?_, ?_, ?_, fun hrate => ?_, fun hrate => ?_⟩
  · rw [hsplit]
    rfl
  · show stream.streamedBytes + more.length = _
    rw [h.counted, List.length_append]
  · show stream.streamedSamples + samples.length = _
    rw [h.counted_samples, hsplit, List.length_append]
  · show (stream.builder.pushPcmI16 analyze samples).analyzes = _
    unfold AudioConstellationV3Builder.pushPcmI16
    split
    · exact h.analyzes
    · rw [analyzes_pushSamples, h.analyzes]
  · show Settled analyze config start _ (stream.builder.pushPcmI16 analyze samples)
    rw [hsplit]
    unfold AudioConstellationV3Builder.pushPcmI16
    have hanalyzes : stream.builder.analyzes = true := by
      rw [h.analyzes]
      simpa using hrate
    cases samples with
    | nil =>
      rw [if_pos (by simp), List.append_nil]
      exact h.settled hrate
    | cons first rest =>
      rw [if_neg (by simp [hanalyzes])]
      exact settled_pushSamples _ (h.settled hrate)
  · show stream.builder.pushPcmI16 analyze samples = _
    have hanalyzes : stream.builder.analyzes = false := by
      rw [h.analyzes]
      simpa using hrate
    unfold AudioConstellationV3Builder.pushPcmI16
    rw [hanalyzes, if_pos (by simp)]
    exact h.idle hrate

theorem Streamed.pushBytes {bytes : List UInt8} {stream : AudioConstellationV3PcmStream σ}
    (h : Streamed analyze config start bytes stream) (more : List UInt8) :
    Streamed analyze config start (bytes ++ more) (stream.pushBytes analyze more) := by
  have hpushed := @Streamed.pushSamples _ _ _ _ _ more _ h
  unfold AudioConstellationV3PcmStream.pushBytes
  dsimp only
  cases hpending : stream.pendingByte with
  | none =>
    rw [hpending] at hpushed
    exact hpushed
  | some left =>
    cases more with
    | nil =>
      rw [List.append_nil]
      dsimp only
      exact ⟨hpending.symm.trans h.pending, h.counted, h.counted_samples, h.analyzes, h.settled,
        h.idle⟩
    | cons right rest =>
      rw [hpending] at hpushed
      exact hpushed

theorem streamed_withConfig :
    Streamed analyze config start [] (.withConfig config start) where
  pending := rfl
  counted := rfl
  counted_samples := rfl
  analyzes := rfl
  settled _ := settled_new (Nat.lt_of_lt_of_le config.hop_pos config.hop_le)
  idle _ := rfl

theorem streamed_pieces (pieces : List (List UInt8)) :
    ∀ {bytes : List UInt8} {stream : AudioConstellationV3PcmStream σ},
      Streamed analyze config start bytes stream →
      Streamed analyze config start (bytes ++ pieces.flatten)
        (stream.pushPieces analyze pieces) := by
  induction pieces with
  | nil =>
    intro bytes stream h
    rw [List.flatten_nil, List.append_nil]
    exact h
  | cons piece pieces ih =>
    intro bytes stream h
    rw [List.flatten_cons, ← List.append_assoc]
    exact ih (h.pushBytes piece)

/-- The bytes decide the stream. -/
theorem Streamed.unique {bytes : List UInt8} {stream stream' : AudioConstellationV3PcmStream σ}
    (h : Streamed analyze config start bytes stream)
    (h' : Streamed analyze config start bytes stream') : stream = stream' := by
  have hbuilder : stream.builder = stream'.builder := by
    by_cases hrate : config.sampleRate = 0
    · rw [h.idle hrate, h'.idle hrate]
    · exact (h.settled hrate).unique (h'.settled hrate) (h.analyzes.trans h'.analyzes.symm)
  have hpending := h.pending.trans h'.pending.symm
  have hbytes := h.counted.trans h'.counted.symm
  have hsamples := h.counted_samples.trans h'.counted_samples.symm
  cases stream
  cases stream'
  simp only at hbuilder hpending hbytes hsamples
  subst hbuilder hpending hbytes hsamples
  rfl

end Sorotte.Fingerprint
