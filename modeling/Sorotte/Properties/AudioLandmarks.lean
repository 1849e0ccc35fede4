import Sorotte.Fingerprint.PcmStream
import Sorotte.Fingerprint.TopRanked

/-! # Streaming does not depend on chunking

  The windows that are analysed and the landmarks that are kept are functions
  of the samples and of the set of pushes.
-/

namespace Sorotte.Fingerprint

open Sorotte.Framework

/-! ### The landmarks that are returned -/

theorem nodup_values {K V : Type} [Ord K] [Std.TransOrd K] [Std.LawfulEqOrd K] [DecidableEq K]
    (m : BTreeMap K V) {key : V → K} (hkey : ∀ (k : K) (v : V), m[k]? = some v → k = key v) :
    (m.toList.map (·.2)).Nodup := by
  refine List.Pairwise.map _ ?_ (List.Pairwise.and_mem.mp Std.ExtTreeMap.distinct_keys_toList)
  rintro ⟨k, v⟩ ⟨k', v'⟩ ⟨hmem, hmem', hdistinct⟩ hsame
  rw [Std.ExtTreeMap.mem_toList_iff_getElem?_eq_some] at hmem hmem'
  refine hdistinct ?_
  dsimp only at hsame ⊢
  rw [hkey k v hmem, hkey k' v' hmem', hsame]
  exact Std.ReflCmp.compare_self

/-- The landmarks of a reservoir, before they are sorted. -/
def AudioLandmarkReservoirV3.unsorted (s : AudioLandmarkReservoirV3) : List AudioLandmarkV3 :=
  s.regions.toList.flatMap fun region => region.2.intoLandmarks

variable {pushed pushed' : List AudioLandmarkV3}

theorem mem_intoLandmarks {r : AudioLandmarkRegionReservoirV3} {landmark : AudioLandmarkV3} :
    landmark ∈ r.intoLandmarks ↔ ∃ key : AudioLandmarkKeyV3, r.landmarks[key]? = some landmark := by
  unfold AudioLandmarkRegionReservoirV3.intoLandmarks sortLandmarks
  rw [(sortByKey_perm _ _).mem_iff, List.mem_map]
  constructor
  · rintro ⟨⟨key, _⟩, hmem, rfl⟩
    exact ⟨key, Std.ExtTreeMap.mem_toList_iff_getElem?_eq_some.mp hmem⟩
  · rintro ⟨key, hkey⟩
    exact ⟨(key, landmark), Std.ExtTreeMap.mem_toList_iff_getElem?_eq_some.mpr hkey, rfl⟩

/-- What is best of a minute was pushed in it. -/
theorem region_of_best {region limit : Nat} {landmark : AudioLandmarkV3}
    (h : landmark.entry ∈ best limit (inRegion region pushed)) : landmark.region = region := by
  have hranked := mem_ranking.mp (List.mem_of_mem_take h)
  obtain ⟨source, hsource, hentry⟩ := hranked.source
  have hregion : source.region = region := by
    simpa using (List.mem_filter.mp hsource).2
  rw [← hregion, entry_injective hentry]

/-- A minute of the reservoir, and what is kept of it. -/
theorem regionAt_of_mem {region : Nat × AudioLandmarkRegionReservoirV3}
    (h : region ∈ (reservoirAfter pushed).regions.toList) :
    (reservoirAfter pushed).regionAt region.1 = region.2 := by
  unfold AudioLandmarkReservoirV3.regionAt
  rw [Std.ExtTreeMap.mem_toList_iff_getElem?_eq_some.mp h]
  rfl

theorem kept_of_mem {region : Nat × AudioLandmarkRegionReservoirV3}
    (h : region ∈ (reservoirAfter pushed).regions.toList) {landmark : AudioLandmarkV3}
    (hlandmark : landmark ∈ region.2.intoLandmarks) :
    landmark.region = region.1
      ∧ landmark.entry ∈ best v3AudioRawRegionRetainLimit (inRegion region.1 pushed) := by
  obtain ⟨key, hkey⟩ := mem_intoLandmarks.mp hlandmark
  rw [← regionAt_of_mem h] at hkey
  have hbest := ((kept_after pushed _ _ _).mp hkey).2
  exact ⟨region_of_best hbest, hbest⟩

theorem mem_unsorted (landmark : AudioLandmarkV3) :
    landmark ∈ (reservoirAfter pushed).unsorted ↔
      landmark.entry ∈ best v3AudioRawRegionRetainLimit (inRegion landmark.region pushed) := by
  unfold AudioLandmarkReservoirV3.unsorted
  rw [List.mem_flatMap]
  constructor
  · rintro ⟨region, hregion, hlandmark⟩
    obtain ⟨hself, hbest⟩ := kept_of_mem hregion hlandmark
    rw [hself]
    exact hbest
  · intro hbest
    have hkept := (kept_after pushed landmark.region _ _).mpr ⟨rfl, hbest⟩
    unfold AudioLandmarkReservoirV3.regionAt at hkept
    cases hlookup : (reservoirAfter pushed).regions[landmark.region]? with
    | none =>
      rw [hlookup] at hkept
      simp [AudioLandmarkRegionReservoirV3.new] at hkept
    | some r =>
      rw [hlookup] at hkept
      exact ⟨(landmark.region, r), Std.ExtTreeMap.mem_toList_iff_getElem?_eq_some.mpr hlookup,
        mem_intoLandmarks.mpr ⟨_, hkept⟩⟩

theorem unsorted_nodup (pushed : List AudioLandmarkV3) :
    (reservoirAfter pushed).unsorted.Nodup := by
  unfold AudioLandmarkReservoirV3.unsorted
  rw [List.nodup_flatMap]
  constructor
  · intro region hregion
    have hr := (region_after pushed region.1).1
    rw [regionAt_of_mem hregion] at hr
    unfold AudioLandmarkRegionReservoirV3.intoLandmarks sortLandmarks
    rw [(sortByKey_perm _ _).nodup_iff]
    exact nodup_values _ fun key landmark h => (hr.kept key landmark h).1
  · -- Landmarks of different minutes differ.
    refine (List.Pairwise.and_mem.mp Std.ExtTreeMap.distinct_keys_toList).imp ?_
    rintro first second ⟨hfirst, hsecond, hdistinct⟩ landmark hmem hmem'
    refine hdistinct ?_
    rw [← (kept_of_mem hfirst hmem).1, ← (kept_of_mem hsecond hmem').1]
    exact Std.ReflCmp.compare_self

theorem best_perm (h : pushed.Perm pushed') (limit region : Nat) :
    best limit (inRegion region pushed) = best limit (inRegion region pushed') := by
  have hfilter : (inRegion region pushed).Perm (inRegion region pushed') := h.filter _
  unfold best
  rw [ranking_perm hfilter]

theorem intoLandmarks_perm (h : pushed.Perm pushed') :
    (reservoirAfter pushed).intoLandmarks = (reservoirAfter pushed').intoLandmarks := by
  refine sortLandmarks_perm ?_
  show (reservoirAfter pushed).unsorted.Perm (reservoirAfter pushed').unsorted
  rw [List.perm_ext_iff_of_nodup (unsorted_nodup pushed) (unsorted_nodup pushed')]
  intro landmark
  rw [mem_unsorted, mem_unsorted, best_perm h]

/-! ### Streaming and the reservoir -/

/-- **Streaming does not depend on chunking**: with a sample rate, the frames that
    are analysed are those that fit into the samples, in order; without one,
    none is.  **The reservoir keeps the best** of every minute. -/
theorem streaming_fingerprint_exact :
    (∀ (σ : Type) (analyze : σ → Nat → List Int16 → σ) (config : AudioConstellationV3Config)
        (start : σ) (pieces : List (List UInt8)),
        let samples := (asSamples pieces.flatten).1
        let stream := (AudioConstellationV3PcmStream.withConfig config start).pushPieces analyze
          pieces
        (config.sampleRate ≠ 0 →
            (∀ i, i < stream.builder.nextFrameIndex ↔
              i * config.hopSamples + config.windowSamples ≤ samples.length)
            ∧ stream.builder.analysis =
              analyzeFrames analyze config samples start stream.builder.nextFrameIndex)
          ∧ (config.sampleRate = 0 →
            stream.builder.nextFrameIndex = 0 ∧ stream.builder.analysis = start)
          ∧ (∀ (ρ : Type) (finishWithMetrics : AudioConstellationV3Builder σ → Nat → Nat → ρ),
            (∃ e, stream.finish finishWithMetrics = .error e) ↔ pieces.flatten.length % 2 = 1)
          ∧ ∀ pieces', pieces'.flatten = pieces.flatten →
            (AudioConstellationV3PcmStream.withConfig config start).pushPieces analyze pieces' =
              stream)
      ∧ (∀ (pushed : List AudioLandmarkV3) (region : Nat),
        let r := (reservoirAfter pushed).regionAt region
        (∀ (key : AudioLandmarkKeyV3) (landmark : AudioLandmarkV3),
            r.landmarks[key]? = some landmark ↔
              key = landmark.keyV3
                ∧ landmark.entry ∈ best v3AudioRawRegionRetainLimit (inRegion region pushed))
          ∧ ∀ (key : AudioLandmarkKeyV3) (landmark : AudioLandmarkV3),
            r.landmarks[key]? = some landmark → landmark.entry ∈ r.heap)
      ∧ ∀ pushed pushed' : List AudioLandmarkV3, pushed.Perm pushed' →
        (reservoirAfter pushed).intoLandmarks = (reservoirAfter pushed').intoLandmarks := by
  refine ⟨fun σ analyze config start pieces => ?_, fun pushed region => ?_,
    fun pushed pushed' h => intoLandmarks_perm h⟩
  · intro samples stream
    have hstream : Streamed analyze config start pieces.flatten stream :=
      streamed_pieces pieces streamed_withConfig
    refine ⟨fun hrate => ?_, fun hrate => ?_, fun ρ finishWithMetrics => ?_, fun pieces' h => ?_⟩
    · have hsettled := hstream.settled hrate
      exact ⟨hsettled.exact, hsettled.analysis⟩
    · rw [hstream.idle hrate]
      exact ⟨rfl, rfl⟩
    · rw [← asSamples_pending, ← hstream.pending]
      unfold AudioConstellationV3PcmStream.finish
      cases hpending : stream.pendingByte <;> simp
    · have hstream' : Streamed analyze config start pieces.flatten
          ((AudioConstellationV3PcmStream.withConfig config start).pushPieces analyze pieces') := by
        rw [← h]
        exact streamed_pieces pieces' streamed_withConfig
      exact hstream'.unique hstream
  · exact ⟨kept_after pushed region, (region_after pushed region).1.held⟩

/-- A stream of one sample, cut in two, with windows of one sample; and two
    landmarks of one minute. -/
theorem streaming_fingerprint_exact_sample :
    ((AudioConstellationV3PcmStream.withConfig ⟨8000, 1, 1, by decide, by decide⟩
        ([] : List (Nat × List Int16))).pushPieces (fun log i window => log ++ [(i, window)])
      [[1], [0]]).builder.analysis = [(0, [1])]
    ∧ (reservoirAfter [⟨1, 5, 9⟩, ⟨2, 5, 3⟩]).intoLandmarks =
      (reservoirAfter [⟨2, 5, 3⟩, ⟨1, 5, 9⟩]).intoLandmarks := by
  obtain ⟨hstreaming, -, hperm⟩ := streaming_fingerprint_exact
  have hrun := hstreaming (List (Nat × List Int16)) (fun log i window => log ++ [(i, window)])
    ⟨8000, 1, 1, by decide, by decide⟩ [] [[1], [0]]
  exact ⟨(hrun.1 (by decide)).2.trans (by decide +kernel), hperm _ _ (List.Perm.swap _ _ [])⟩

/-- Without a sample rate a window that fits is not analysed. -/
theorem streaming_without_sample_rate :
    ((AudioConstellationV3PcmStream.withConfig ⟨0, 1, 1, by decide, by decide⟩
        ([] : List (Nat × List Int16))).pushPieces (fun log i window => log ++ [(i, window)])
      [[1, 0]]).builder.analysis = []
    ∧ 0 * 1 + 1 ≤ (asSamples [1, 0]).1.length := by
  decide +kernel

end Sorotte.Fingerprint
