import Sorotte.Fingerprint.Codecs
import Sorotte.Framework.Maps

/-! # The landmark reservoir

  `AudioLandmarkReservoirV3` keeps the best landmarks of every minute.  Each
  region has a map of what is kept and a heap whose worst entry is evicted;
  entries of landmarks that were replaced or evicted stay in the heap until
  they surface.

  A `BinaryHeap` is the list of its entries, the greatest first.
-/

namespace Sorotte.Fingerprint

open Sorotte.Framework

structure AudioLandmarkKeyV3 where
  hash : UInt32
  tMs : UInt32
  deriving DecidableEq

instance : Ord AudioLandmarkKeyV3 :=
  ⟨compareLex (compareOn AudioLandmarkKeyV3.tMs) (compareOn AudioLandmarkKeyV3.hash)⟩

instance : Std.TransOrd AudioLandmarkKeyV3 :=
  inferInstanceAs (Std.TransCmp
    (compareLex (compareOn AudioLandmarkKeyV3.tMs) (compareOn AudioLandmarkKeyV3.hash)))

instance : Std.LawfulEqOrd AudioLandmarkKeyV3 where
  compare_self := Std.ReflCmp.compare_self
  eq_of_compare := by
    intro first second h
    have hboth : compareLex (compareOn AudioLandmarkKeyV3.tMs) (compareOn AudioLandmarkKeyV3.hash)
      first second = .eq := h
    rw [compareLex_eq_eq] at hboth
    obtain ⟨htime, hhash⟩ := hboth
    cases first
    cases second
    simp [compareOn] at htime hhash
    simp [htime, hhash]

/-- `AudioLandmarkKeyV3::from_landmark`. -/
def AudioLandmarkV3.keyV3 (landmark : AudioLandmarkV3) : AudioLandmarkKeyV3 :=
  ⟨landmark.hash, landmark.tMs⟩

structure AudioLandmarkHeapEntryV3 where
  key : AudioLandmarkKeyV3
  weight : UInt8
  deriving DecidableEq

/-- `AudioLandmarkHeapEntryV3::from_landmark`. -/
def AudioLandmarkV3.entry (landmark : AudioLandmarkV3) : AudioLandmarkHeapEntryV3 :=
  ⟨landmark.keyV3, landmark.weight⟩

/-- `u8::MAX.saturating_sub(self.weight)`. -/
def AudioLandmarkHeapEntryV3.inverseWeight (entry : AudioLandmarkHeapEntryV3) : Nat :=
  255 - entry.weight.toNat

/-- What `cmp` compares, in its order. -/
def AudioLandmarkHeapEntryV3.rank (entry : AudioLandmarkHeapEntryV3) : Nat × Nat × Nat :=
  (entry.inverseWeight, entry.key.tMs.toNat, entry.key.hash.toNat)

/-- `first <= second`: the first is the better one, or they are the same. -/
def Better (first second : AudioLandmarkHeapEntryV3) : Prop := keyLe first.rank second.rank

instance : DecidableRel Better := fun first second =>
  inferInstanceAs (Decidable (keyLe first.rank second.rank))

/-! ### The heap -/

abbrev BinaryHeap := List AudioLandmarkHeapEntryV3

/-- `BinaryHeap::push`. -/
def BinaryHeap.pushEntry (heap : BinaryHeap) (entry : AudioLandmarkHeapEntryV3) : BinaryHeap :=
  heap.orderedInsert (fun first second => Better second first) entry

/-! ### A region -/

structure AudioLandmarkRegionReservoirV3 where
  retainLimit : Nat
  landmarks : BTreeMap AudioLandmarkKeyV3 AudioLandmarkV3
  heap : BinaryHeap

def AudioLandmarkRegionReservoirV3.new (retainLimit : Nat) : AudioLandmarkRegionReservoirV3 where
  retainLimit := retainLimit
  landmarks := ∅
  heap := []

/-- The entry is of no landmark that is kept, or of another weight of it. -/
def AudioLandmarkRegionReservoirV3.isStale (r : AudioLandmarkRegionReservoirV3)
    (entry : AudioLandmarkHeapEntryV3) : Bool :=
  match r.landmarks[entry.key]? with
  | none => true
  | some landmark => landmark.weight != entry.weight

/-- `discard_stale_heap_entries`. -/
def AudioLandmarkRegionReservoirV3.discardStaleHeapEntries (r : AudioLandmarkRegionReservoirV3) :
    AudioLandmarkRegionReservoirV3 :=
  { r with heap := r.heap.dropWhile r.isStale }

/-- `self.landmarks.insert(key, landmark)` and the entry for it. -/
def AudioLandmarkRegionReservoirV3.retain (r : AudioLandmarkRegionReservoirV3)
    (landmark : AudioLandmarkV3) : AudioLandmarkRegionReservoirV3 :=
  { r with
    landmarks := r.landmarks.insert landmark.keyV3 landmark
    heap := r.heap.pushEntry landmark.entry }

/-- The worst entry is popped and its landmark forgotten. -/
def AudioLandmarkRegionReservoirV3.evict (r : AudioLandmarkRegionReservoirV3)
    (worst : AudioLandmarkHeapEntryV3) : AudioLandmarkRegionReservoirV3 :=
  { r with
    landmarks := r.landmarks.erase worst.key
    heap := r.heap.tail }

def AudioLandmarkRegionReservoirV3.push (r : AudioLandmarkRegionReservoirV3)
    (landmark : AudioLandmarkV3) : AudioLandmarkRegionReservoirV3 × Bool :=
  if r.retainLimit = 0 then (r, false)
  else
    match r.landmarks[landmark.keyV3]? with
    | some existing =>
        if existing.weight < landmark.weight then (r.retain landmark, true) else (r, false)
    | none =>
        if r.landmarks.size < r.retainLimit then (r.retain landmark, true)
        else
          let r := r.discardStaleHeapEntries
          match r.heap.head? with
          | none => (r.retain landmark, true)
          | some worst =>
              if Better worst landmark.entry then (r, false)
              else ((r.evict worst).retain landmark, true)

/-- `sort_by_key` on `(t_ms, hash, Reverse(weight))`. -/
def sortLandmarks (landmarks : List AudioLandmarkV3) : List AudioLandmarkV3 :=
  sortByKey (fun landmark =>
    (landmark.tMs.toNat, landmark.hash.toNat, 255 - landmark.weight.toNat)) landmarks

def AudioLandmarkRegionReservoirV3.intoLandmarks (r : AudioLandmarkRegionReservoirV3) :
    List AudioLandmarkV3 :=
  sortLandmarks (r.landmarks.toList.map (·.2))

/-! ### The reservoir -/

/-- `V3_AUDIO_RAW_REGION_RETAIN_LIMIT`. -/
def v3AudioRawRegionRetainLimit : Nat := 256

structure AudioLandmarkReservoirV3 where
  regions : BTreeMap Nat AudioLandmarkRegionReservoirV3
  emittedCount : Nat
  acceptedCount : Nat
  rejectedCount : Nat
  maxRetained : Nat

def AudioLandmarkReservoirV3.new : AudioLandmarkReservoirV3 where
  regions := ∅
  emittedCount := 0
  acceptedCount := 0
  rejectedCount := 0
  maxRetained := 0

def AudioLandmarkReservoirV3.len (s : AudioLandmarkReservoirV3) : Nat :=
  (s.regions.toList.map (·.2.landmarks.size)).sum

/-- The minute a landmark is in. -/
def AudioLandmarkV3.region (landmark : AudioLandmarkV3) : Nat := landmark.tMs.toNat / 60000

def AudioLandmarkReservoirV3.push (s : AudioLandmarkReservoirV3) (landmark : AudioLandmarkV3) :
    AudioLandmarkReservoirV3 :=
  let region := (s.regions[landmark.region]?).getD (.new v3AudioRawRegionRetainLimit)
  let (region, accepted) := region.push landmark
  let s := { s with
    regions := s.regions.insert landmark.region region
    emittedCount := s.emittedCount + 1
    acceptedCount := if accepted then s.acceptedCount + 1 else s.acceptedCount
    rejectedCount := if accepted then s.rejectedCount else s.rejectedCount + 1 }
  { s with maxRetained := max s.maxRetained s.len }

def AudioLandmarkReservoirV3.intoLandmarks (s : AudioLandmarkReservoirV3) :
    List AudioLandmarkV3 :=
  sortLandmarks (s.regions.toList.flatMap fun region => region.2.intoLandmarks)

/-! ### What is best -/

/-- The pushed keys, each with the largest weight it was pushed with. -/
def contenders (pushed : List AudioLandmarkV3) : List AudioLandmarkHeapEntryV3 :=
  ((pushed.map AudioLandmarkV3.entry).filter fun e =>
    pushed.all fun landmark => landmark.keyV3 != e.key || landmark.weight ≤ e.weight).dedup

/-- The contenders by weight, the largest first, then by time and by hash. -/
def ranking (pushed : List AudioLandmarkV3) : List AudioLandmarkHeapEntryV3 :=
  (contenders pushed).insertionSort Better

/-- The first of the ranking. -/
def best (limit : Nat) (pushed : List AudioLandmarkV3) : List AudioLandmarkHeapEntryV3 :=
  (ranking pushed).take limit

/-! ### The order of entries -/

theorem better_total (first second : AudioLandmarkHeapEntryV3) :
    Better first second ∨ Better second first := Std.Total.total first.rank second.rank

theorem better_trans {first second third : AudioLandmarkHeapEntryV3} (h : Better first second)
    (h' : Better second third) : Better first third :=
  IsTrans.trans first.rank second.rank third.rank h h'

theorem better_antisymm {first second : AudioLandmarkHeapEntryV3} (h : Better first second)
    (h' : Better second first) : first = second := by
  obtain ⟨⟨hash, tMs⟩, weight⟩ := first
  obtain ⟨⟨hash', tMs'⟩, weight'⟩ := second
  simp only [Better, AudioLandmarkHeapEntryV3.rank, AudioLandmarkHeapEntryV3.inverseWeight,
    keyLe] at h h'
  have hw := weight.toNat_lt
  have hw' := weight'.toNat_lt
  have hweight : weight.toNat = weight'.toNat := by omega
  have htime : tMs.toNat = tMs'.toNat := by omega
  have hhash : hash.toNat = hash'.toNat := by omega
  rw [UInt8.toNat_inj.mp hweight, UInt32.toNat_inj.mp htime, UInt32.toNat_inj.mp hhash]

/-- Of one key, the better entry is the heavier one. -/
theorem better_of_weight {key : AudioLandmarkKeyV3} {weight weight' : UInt8}
    (h : weight' ≤ weight) : Better ⟨key, weight⟩ ⟨key, weight'⟩ := by
  rw [UInt8.le_iff_toNat_le] at h
  simp only [Better, AudioLandmarkHeapEntryV3.rank, AudioLandmarkHeapEntryV3.inverseWeight, keyLe,
    le_refl, and_true, or_true]
  omega

theorem weight_of_better {key : AudioLandmarkKeyV3} {weight weight' : UInt8}
    (h : Better ⟨key, weight⟩ ⟨key, weight'⟩) : weight' ≤ weight := by
  rw [UInt8.le_iff_toNat_le]
  simp only [Better, AudioLandmarkHeapEntryV3.rank, AudioLandmarkHeapEntryV3.inverseWeight,
    keyLe] at h
  have hw := weight.toNat_lt
  have hw' := weight'.toNat_lt
  omega

/-! ### Contenders -/

/-- An entry that was pushed, with the largest weight of its key. -/
structure Contender (pushed : List AudioLandmarkV3) (e : AudioLandmarkHeapEntryV3) : Prop where
  source : ∃ landmark ∈ pushed, landmark.entry = e
  heaviest : ∀ landmark ∈ pushed, landmark.keyV3 = e.key → landmark.weight ≤ e.weight

theorem mem_contenders {pushed : List AudioLandmarkV3} {e : AudioLandmarkHeapEntryV3} :
    e ∈ contenders pushed ↔ Contender pushed e := by
  unfold contenders
  rw [List.mem_dedup, List.mem_filter, List.mem_map, List.all_eq_true]
  constructor
  · rintro ⟨hpushed, hall⟩
    refine ⟨hpushed, fun landmark hlandmark hkey => ?_⟩
    have hself := hall landmark hlandmark
    simpa [hkey] using hself
  · rintro ⟨hpushed, hall⟩
    refine ⟨hpushed, fun landmark hlandmark => ?_⟩
    by_cases hkey : landmark.keyV3 = e.key
    · simp [hall landmark hlandmark hkey]
    · simp [hkey]

variable {pushed : List AudioLandmarkV3} {e e' : AudioLandmarkHeapEntryV3}
  {landmark : AudioLandmarkV3}

theorem Contender.unique (h : Contender pushed e) (h' : Contender pushed e')
    (hkey : e.key = e'.key) : e = e' := by
  obtain ⟨first, hfirst, rfl⟩ := h.source
  obtain ⟨second, hsecond, rfl⟩ := h'.source
  have hle := h.heaviest second hsecond hkey.symm
  have hge := h'.heaviest first hfirst hkey
  have hweight : first.weight = second.weight := by
    rw [UInt8.le_iff_toNat_le] at hle hge
    exact UInt8.toNat_inj.mp (Nat.le_antisymm hge hle)
  show AudioLandmarkHeapEntryV3.mk first.keyV3 first.weight = ⟨second.keyV3, second.weight⟩
  rw [show first.keyV3 = second.keyV3 from hkey, hweight]

/-- Every pushed key has a contender. -/
theorem exists_contender (h : landmark ∈ pushed) :
    ∃ e, Contender pushed e ∧ e.key = landmark.keyV3 := by
  induction pushed generalizing landmark with
  | nil => cases h
  | cons first rest ih =>
    -- The contender of the rest, unless the first push outweighs it.
    by_cases hrest : ∃ other ∈ rest, other.keyV3 = landmark.keyV3
    · obtain ⟨other, hother, hsame⟩ := hrest
      obtain ⟨e, he, hkey⟩ := ih hother
      rw [hsame] at hkey
      by_cases hbeaten : first.keyV3 = e.key ∧ e.weight ≤ first.weight
      · refine ⟨first.entry, ⟨⟨first, List.mem_cons_self, rfl⟩, fun other hother hsame => ?_⟩,
          hbeaten.1.trans hkey⟩
        rcases List.mem_cons.mp hother with rfl | hother
        · exact UInt8.le_refl _
        · exact UInt8.le_trans (he.heaviest other hother (hsame.trans hbeaten.1)) hbeaten.2
      · obtain ⟨source, hsource, hentry⟩ := he.source
        refine ⟨e, ⟨⟨source, List.mem_cons_of_mem _ hsource, hentry⟩, fun other hother hsame => ?_⟩,
          hkey⟩
        rcases List.mem_cons.mp hother with rfl | hother
        · rcases UInt8.le_total other.weight e.weight with hle | hge
          · exact hle
          · exact absurd ⟨hsame, hge⟩ hbeaten
        · exact he.heaviest other hother hsame
    · have hfirst : landmark = first := by
        rcases List.mem_cons.mp h with hself | hmem
        · exact hself
        · exact absurd ⟨landmark, hmem, rfl⟩ hrest
      subst hfirst
      refine ⟨landmark.entry, ⟨⟨landmark, List.mem_cons_self, rfl⟩, fun other hother hsame => ?_⟩,
        rfl⟩
      rcases List.mem_cons.mp hother with rfl | hother
      · exact UInt8.le_refl _
      · exact absurd ⟨other, hother, hsame⟩ hrest

/-- A push changes the contenders of its own key only. -/
theorem contender_append_other (hkey : e.key ≠ landmark.keyV3) :
    Contender (pushed ++ [landmark]) e ↔ Contender pushed e := by
  constructor
  · rintro ⟨⟨source, hsource, hentry⟩, hheaviest⟩
    refine ⟨⟨source, ?_, hentry⟩, fun other hother =>
      hheaviest other (List.mem_append_left _ hother)⟩
    rcases List.mem_append.mp hsource with hmem | hself
    · exact hmem
    · rw [List.mem_singleton.mp hself] at hentry
      exact absurd (congrArg AudioLandmarkHeapEntryV3.key hentry.symm) hkey
  · rintro ⟨⟨source, hsource, hentry⟩, hheaviest⟩
    refine ⟨⟨source, List.mem_append_left _ hsource, hentry⟩, fun other hother hsame => ?_⟩
    rcases List.mem_append.mp hother with hmem | hself
    · exact hheaviest other hmem hsame
    · rw [List.mem_singleton.mp hself] at hsame
      exact absurd hsame.symm hkey

/-- A landmark at least as heavy as every push of its key is a contender. -/
theorem contender_append_self
    (h : ∀ e, Contender pushed e → e.key = landmark.keyV3 → e.weight ≤ landmark.weight) :
    Contender (pushed ++ [landmark]) landmark.entry := by
  refine ⟨⟨landmark, List.mem_append_right _ List.mem_cons_self, rfl⟩, fun other hother hsame => ?_⟩
  rcases List.mem_append.mp hother with hmem | hself
  · obtain ⟨e, he, hkey⟩ := exists_contender hmem
    exact UInt8.le_trans (he.heaviest other hmem hkey.symm) (h e he (hkey.trans hsame))
  · rw [List.mem_singleton.mp hself]
    exact UInt8.le_refl _

/-- A contender stays one when its key is pushed with no larger weight. -/
theorem contender_append_lighter (h : Contender pushed e)
    (hweight : landmark.weight ≤ e.weight) : Contender (pushed ++ [landmark]) e := by
  obtain ⟨source, hsource, hentry⟩ := h.source
  refine ⟨⟨source, List.mem_append_left _ hsource, hentry⟩, fun other hother hsame => ?_⟩
  rcases List.mem_append.mp hother with hmem | hself
  · exact h.heaviest other hmem hsame
  · rw [List.mem_singleton.mp hself]
    exact hweight

/-- A contender after a push was one before, or is the push. -/
theorem contender_of_append (h : Contender (pushed ++ [landmark]) e) :
    Contender pushed e ∨ e = landmark.entry := by
  obtain ⟨source, hsource, hentry⟩ := h.source
  rcases List.mem_append.mp hsource with hmem | hself
  · exact .inl ⟨⟨source, hmem, hentry⟩, fun other hother =>
      h.heaviest other (List.mem_append_left _ hother)⟩
  · rw [List.mem_singleton.mp hself] at hentry
    exact .inr hentry.symm

/-! ### The heap's entries -/

theorem mem_pushEntry {heap : BinaryHeap} : e' ∈ heap.pushEntry e ↔ e' = e ∨ e' ∈ heap :=
  List.mem_orderedInsert _

/-- The greatest entries first. -/
def BinaryHeap.Ordered (heap : BinaryHeap) : Prop :=
  heap.Pairwise fun first second => Better second first

theorem ordered_pushEntry {heap : BinaryHeap} (h : heap.Ordered) (e : AudioLandmarkHeapEntryV3) :
    (heap.pushEntry e).Ordered := by
  have : Std.Total fun first second => Better second first :=
    ⟨fun first second => better_total second first⟩
  have : IsTrans AudioLandmarkHeapEntryV3 fun first second => Better second first :=
    ⟨fun _ _ _ hfirst hsecond => better_trans hsecond hfirst⟩
  exact List.Pairwise.orderedInsert _ _ h

/-! ### What a region keeps -/

/-- A region after some pushes: what it keeps are contenders, a contender it does
    not keep is worse than all it keeps, and the heap has an entry for each. -/
structure Region (pushed : List AudioLandmarkV3) (r : AudioLandmarkRegionReservoirV3) : Prop where
  kept : ∀ (key : AudioLandmarkKeyV3) (landmark : AudioLandmarkV3),
    r.landmarks[key]? = some landmark →
      key = landmark.keyV3 ∧ Contender pushed landmark.entry
  bounded : r.landmarks.size ≤ r.retainLimit
  passed : ∀ e, Contender pushed e → r.landmarks[e.key]? = none →
    r.landmarks.size = r.retainLimit
      ∧ ∀ (key : AudioLandmarkKeyV3) (landmark : AudioLandmarkV3),
        r.landmarks[key]? = some landmark → Better landmark.entry e
  held : ∀ (key : AudioLandmarkKeyV3) (landmark : AudioLandmarkV3),
    r.landmarks[key]? = some landmark → landmark.entry ∈ r.heap
  ordered : r.heap.Ordered

variable {r : AudioLandmarkRegionReservoirV3}

theorem region_new (retainLimit : Nat) : Region [] (.new retainLimit) where
  kept := by simp [AudioLandmarkRegionReservoirV3.new]
  bounded := by simp [AudioLandmarkRegionReservoirV3.new]
  passed := by
    rintro e ⟨⟨_, hmem, -⟩, -⟩
    cases hmem
  held := by simp [AudioLandmarkRegionReservoirV3.new]
  ordered := List.Pairwise.nil

/-- An entry of a landmark that is kept is not stale. -/
theorem not_stale {key : AudioLandmarkKeyV3} (h : r.landmarks[key]? = some landmark)
    (hkey : key = landmark.keyV3) : r.isStale landmark.entry = false := by
  unfold AudioLandmarkRegionReservoirV3.isStale
  rw [show landmark.entry.key = key from hkey.symm, h]
  simp [AudioLandmarkV3.entry]

theorem kept_of_not_stale (hr : Region pushed r) (h : r.isStale e = false) :
    ∃ landmark, r.landmarks[e.key]? = some landmark ∧ landmark.entry = e := by
  unfold AudioLandmarkRegionReservoirV3.isStale at h
  cases hlookup : r.landmarks[e.key]? with
  | none =>
    rw [hlookup] at h
    cases h
  | some landmark =>
    rw [hlookup] at h
    have hweight : landmark.weight = e.weight := by simpa using h
    refine ⟨landmark, rfl, ?_⟩
    show AudioLandmarkHeapEntryV3.mk landmark.keyV3 landmark.weight = e
    rw [← (hr.kept _ _ hlookup).1, hweight]

theorem mem_dropWhile_of_not {α : Type} {p : α → Bool} {items : List α} {a : α} (h : a ∈ items)
    (ha : p a = false) : a ∈ items.dropWhile p := by
  induction items with
  | nil => cases h
  | cons first rest ih =>
    rw [List.dropWhile_cons]
    split
    · next hfirst =>
      rcases List.mem_cons.mp h with rfl | hmem
      · rw [ha] at hfirst
        cases hfirst
      · exact ih hmem
    · exact h

theorem Region.discardStale (hr : Region pushed r) : Region pushed r.discardStaleHeapEntries where
  kept := hr.kept
  bounded := hr.bounded
  passed := hr.passed
  held key landmark h :=
    mem_dropWhile_of_not (hr.held key landmark h) (not_stale h (hr.kept key landmark h).1)
  ordered := hr.ordered.sublist (List.dropWhile_sublist _)

/-- What surfaces after the stale entries were discarded is of a kept landmark. -/
theorem discardStale_head {worst : AudioLandmarkHeapEntryV3} {rest : BinaryHeap}
    (h : r.discardStaleHeapEntries.heap = worst :: rest) :
    r.discardStaleHeapEntries.isStale worst = false := by
  have hhead := List.head?_dropWhile_not r.isStale r.heap
  rw [show r.heap.dropWhile r.isStale = worst :: rest from h] at hhead
  exact hhead

theorem size_pos_of_lookup {key : AudioLandmarkKeyV3} (h : r.landmarks[key]? = some landmark) :
    0 < r.landmarks.size := by
  rcases Nat.eq_zero_or_pos r.landmarks.size with hzero | hpos
  · rw [Std.ExtTreeMap.eq_empty_iff_size_eq_zero.mpr hzero] at h
    simp at h
  · exact hpos

theorem lookup_retain (r : AudioLandmarkRegionReservoirV3) (key : AudioLandmarkKeyV3) :
    (r.retain landmark).landmarks[key]? =
      if key = landmark.keyV3 then some landmark else r.landmarks[key]? :=
  getElem?_insert_if _ _ _ _

theorem lookup_evict (r : AudioLandmarkRegionReservoirV3) (key : AudioLandmarkKeyV3) :
    (r.evict e).landmarks[key]? = if key = e.key then none else r.landmarks[key]? :=
  getElem?_erase_if _ _ _

/-- A landmark that is not kept, of a region that is not full, is the first of its key. -/
theorem Region.unseen (hr : Region pushed r) (hroom : r.landmarks.size < r.retainLimit)
    (hnone : r.landmarks[landmark.keyV3]? = none) (e : AudioLandmarkHeapEntryV3) :
    Contender pushed e → e.key ≠ landmark.keyV3 := by
  intro he hkey
  rw [← hkey] at hnone
  have hfull := (hr.passed e he hnone).1
  omega

/-- A landmark is kept beside what was kept of other keys. -/
theorem region_retain (hself : Contender (pushed ++ [landmark]) landmark.entry)
    (hbounded : (r.retain landmark).landmarks.size ≤ r.retainLimit)
    (hordered : r.heap.Ordered)
    (hkept : ∀ (key : AudioLandmarkKeyV3) (other : AudioLandmarkV3), key ≠ landmark.keyV3 →
      r.landmarks[key]? = some other →
        key = other.keyV3 ∧ Contender pushed other.entry ∧ other.entry ∈ r.heap)
    (hpassed : ∀ e, e.key ≠ landmark.keyV3 → Contender pushed e → r.landmarks[e.key]? = none →
      (r.retain landmark).landmarks.size = r.retainLimit ∧ Better landmark.entry e
        ∧ ∀ (key : AudioLandmarkKeyV3) (other : AudioLandmarkV3), key ≠ landmark.keyV3 →
          r.landmarks[key]? = some other → Better other.entry e) :
    Region (pushed ++ [landmark]) (r.retain landmark) := by
  refine ⟨fun key other hother => ?_, hbounded, fun e he hnone => ?_, fun key other hother => ?_,
    ordered_pushEntry hordered _⟩
  · rw [lookup_retain] at hother
    by_cases hsame : key = landmark.keyV3
    · rw [if_pos hsame] at hother
      cases hother
      exact ⟨hsame, hself⟩
    · rw [if_neg hsame] at hother
      obtain ⟨hkey, hc, -⟩ := hkept key other hsame hother
      have hother : other.entry.key ≠ landmark.keyV3 := fun h => hsame (hkey.trans h)
      exact ⟨hkey, (contender_append_other hother).mpr hc⟩
  · rw [lookup_retain] at hnone
    by_cases hsame : e.key = landmark.keyV3
    · rw [if_pos hsame] at hnone
      cases hnone
    · rw [if_neg hsame] at hnone
      obtain ⟨hfull, hbetter, hall⟩ :=
        hpassed e hsame ((contender_append_other hsame).mp he) hnone
      refine ⟨hfull, fun key other hother => ?_⟩
      rw [lookup_retain] at hother
      by_cases hself : key = landmark.keyV3
      · rw [if_pos hself] at hother
        cases hother
        exact hbetter
      · rw [if_neg hself] at hother
        exact hall key other hself hother
  · rw [lookup_retain] at hother
    refine mem_pushEntry.mpr ?_
    by_cases hself : key = landmark.keyV3
    · rw [if_pos hself] at hother
      cases hother
      exact .inl rfl
    · rw [if_neg hself] at hother
      exact .inr (hkept key other hself hother).2.2

theorem Region.entries (hr : Region pushed r) (key : AudioLandmarkKeyV3)
    (other : AudioLandmarkV3) (h : r.landmarks[key]? = some other) :
    key = other.keyV3 ∧ Contender pushed other.entry ∧ other.entry ∈ r.heap :=
  ⟨(hr.kept key other h).1, (hr.kept key other h).2, hr.held key other h⟩

/-- What is kept is no worse than the heap's first entry. -/
theorem Region.better_head (hr : Region pushed r) {worst : AudioLandmarkHeapEntryV3}
    {rest : BinaryHeap} (hheap : r.heap = worst :: rest) {key : AudioLandmarkKeyV3}
    {other : AudioLandmarkV3} (hother : r.landmarks[key]? = some other) :
    Better other.entry worst := by
  have hmem := hr.held key other hother
  have hordered := hr.ordered
  rw [hheap] at hmem hordered
  rcases List.mem_cons.mp hmem with hsame | hmem
  · rw [hsame]
    exact (better_total worst worst).elim id id
  · exact (List.pairwise_cons.mp hordered).1 _ hmem

theorem Region.heap_ne_nil (hr : Region pushed r) (hpos : 0 < r.landmarks.size) :
    r.heap ≠ [] := by
  intro hheap
  have hempty : r.landmarks = ∅ := by
    refine Std.ExtTreeMap.ext_getElem? fun key => ?_
    rw [Std.ExtTreeMap.getElem?_empty, Option.eq_none_iff_forall_ne_some]
    intro other hother
    have hmem := hr.held key other hother
    rw [hheap] at hmem
    cases hmem
  rw [Std.ExtTreeMap.eq_empty_iff_size_eq_zero] at hempty
  omega

/-- A heavier weight replaces the one kept. -/
theorem Region.upgrade (hr : Region pushed r) {existing : AudioLandmarkV3}
    (hexisting : r.landmarks[landmark.keyV3]? = some existing)
    (hweight : existing.weight < landmark.weight) :
    Region (pushed ++ [landmark]) (r.retain landmark) := by
  obtain ⟨hkey, hcontender⟩ := hr.kept _ _ hexisting
  have hle : existing.weight ≤ landmark.weight := UInt8.le_of_lt hweight
  have hbetter : Better landmark.entry existing.entry := by
    show Better ⟨landmark.keyV3, landmark.weight⟩ ⟨existing.keyV3, existing.weight⟩
    rw [← hkey]
    exact better_of_weight hle
  have hsize : (r.retain landmark).landmarks.size = r.landmarks.size := by
    show (r.landmarks.insert landmark.keyV3 landmark).size = _
    rw [Std.ExtTreeMap.size_insert, if_pos]
    rw [Std.ExtTreeMap.contains_eq_isSome_getElem?, hexisting]
    rfl
  have hself : Contender (pushed ++ [landmark]) landmark.entry := by
    refine contender_append_self fun e he hkey' => ?_
    rw [he.unique hcontender (hkey'.trans hkey)]
    exact hle
  refine region_retain hself (hsize.trans_le hr.bounded) hr.ordered
    (fun key other _ h => hr.entries key other h) fun e _ he hnone => ?_
  obtain ⟨hfull, hall⟩ := hr.passed e he hnone
  exact ⟨hsize.trans hfull, better_trans hbetter (hall _ _ hexisting),
    fun key other _ h => hall key other h⟩

/-- A weight no larger than the one kept changes nothing. -/
theorem Region.lighter (hr : Region pushed r) {existing : AudioLandmarkV3}
    (hexisting : r.landmarks[landmark.keyV3]? = some existing)
    (hweight : ¬existing.weight < landmark.weight) : Region (pushed ++ [landmark]) r := by
  obtain ⟨hkey, hcontender⟩ := hr.kept _ _ hexisting
  have hle : landmark.weight ≤ existing.weight := UInt8.not_lt.mp hweight
  refine ⟨fun key other hother => ?_, hr.bounded, fun e he hnone => ?_, hr.held, hr.ordered⟩
  · obtain ⟨hself, hc⟩ := hr.kept key other hother
    refine ⟨hself, ?_⟩
    by_cases hsame : other.entry.key = landmark.keyV3
    · rw [hc.unique hcontender (hsame.trans hkey)]
      exact contender_append_lighter hcontender hle
    · exact (contender_append_other hsame).mpr hc
  · have hother : e.key ≠ landmark.keyV3 := by
      intro hsame
      rw [hsame, hexisting] at hnone
      cases hnone
    exact hr.passed e ((contender_append_other hother).mp he) hnone

/-- A region that is not full keeps the landmark. -/
theorem Region.room (hr : Region pushed r) (hroom : r.landmarks.size < r.retainLimit)
    (hnone : r.landmarks[landmark.keyV3]? = none) :
    Region (pushed ++ [landmark]) (r.retain landmark) := by
  have hsize : (r.retain landmark).landmarks.size = r.landmarks.size + 1 := by
    show (r.landmarks.insert landmark.keyV3 landmark).size = _
    rw [Std.ExtTreeMap.size_insert, if_neg]
    rw [Std.ExtTreeMap.contains_eq_isSome_getElem?, hnone]
    exact Bool.false_ne_true
  have hself : Contender (pushed ++ [landmark]) landmark.entry :=
    contender_append_self fun e he hkey => absurd hkey (hr.unseen hroom hnone e he)
  refine region_retain hself (by omega) hr.ordered (fun key other _ h => hr.entries key other h)
    fun e _ he hmissing => ?_
  have hfull := (hr.passed e he hmissing).1
  omega

/-- A landmark no better than the worst kept one is passed over. -/
theorem Region.reject (hr : Region pushed r) (hnone : r.landmarks[landmark.keyV3]? = none)
    (hfull : r.landmarks.size = r.retainLimit)
    (hworst : ∀ (key : AudioLandmarkKeyV3) (other : AudioLandmarkV3),
      r.landmarks[key]? = some other → Better other.entry landmark.entry) :
    Region (pushed ++ [landmark]) r := by
  refine ⟨fun key other hother => ?_, hr.bounded, fun e he hmissing => ?_, hr.held, hr.ordered⟩
  · obtain ⟨hself, hc⟩ := hr.kept key other hother
    have hdiffers : other.entry.key ≠ landmark.keyV3 := by
      intro hsame
      rw [hself, show other.keyV3 = landmark.keyV3 from hsame, hnone] at hother
      cases hother
    exact ⟨hself, (contender_append_other hdiffers).mpr hc⟩
  · rcases contender_of_append he with hbefore | rfl
    · exact hr.passed e hbefore hmissing
    · exact ⟨hfull, hworst⟩

/-- A better landmark takes the place of the worst one kept. -/
theorem Region.replace (hr : Region pushed r) {worst : AudioLandmarkHeapEntryV3}
    {rest : BinaryHeap} (hnone : r.landmarks[landmark.keyV3]? = none)
    (hfull : r.landmarks.size = r.retainLimit) (hheap : r.heap = worst :: rest)
    (hfresh : r.isStale worst = false) (hbetter : ¬Better worst landmark.entry) :
    Region (pushed ++ [landmark]) ((r.evict worst).retain landmark) := by
  obtain ⟨loser, hloser, rfl⟩ := kept_of_not_stale hr hfresh
  have hbetter' : Better landmark.entry loser.entry := (better_total _ _).resolve_right hbetter
  have hrest : BinaryHeap.Ordered rest := by
    have hordered := hr.ordered
    rw [hheap] at hordered
    exact (List.pairwise_cons.mp hordered).2
  have hall : ∀ (key : AudioLandmarkKeyV3) (other : AudioLandmarkV3),
      r.landmarks[key]? = some other → Better other.entry loser.entry :=
    fun _ _ hother => hr.better_head hheap hother
  have hkeys : landmark.keyV3 ≠ loser.entry.key := by
    intro hsame
    rw [hsame, hloser] at hnone
    cases hnone
  -- An earlier contender of the landmark's key was already worse than the worst one kept.
  have hself : Contender (pushed ++ [landmark]) landmark.entry := by
    refine contender_append_self fun e he hkey => ?_
    rw [← hkey] at hnone
    have hpassed := (hr.passed e he hnone).2 _ _ hloser
    have hlost := better_trans hbetter' hpassed
    have hsplit : e = ⟨landmark.keyV3, e.weight⟩ := by rw [← hkey]
    rw [hsplit] at hlost
    exact weight_of_better hlost
  have hevicted : ∀ (key : AudioLandmarkKeyV3) (other : AudioLandmarkV3),
      (r.evict loser.entry).landmarks[key]? = some other →
        key ≠ loser.entry.key ∧ r.landmarks[key]? = some other := by
    intro key other hother
    rw [lookup_evict] at hother
    split at hother
    · cases hother
    · next hkey => exact ⟨hkey, hother⟩
  have hsize : ((r.evict loser.entry).retain landmark).landmarks.size = r.landmarks.size := by
    show ((r.landmarks.erase loser.entry.key).insert landmark.keyV3 landmark).size = _
    have hgone : (r.landmarks.erase loser.entry.key)[landmark.keyV3]? = none := by
      rw [getElem?_erase_if, if_neg hkeys]
      exact hnone
    have hthere : r.landmarks.contains loser.entry.key = true := by
      rw [Std.ExtTreeMap.contains_eq_isSome_getElem?, hloser]
      rfl
    have hpos := size_pos_of_lookup hloser
    rw [Std.ExtTreeMap.size_insert, if_neg, Std.ExtTreeMap.size_erase, if_pos hthere]
    · omega
    · rw [Std.ExtTreeMap.contains_eq_isSome_getElem?, hgone]
      exact Bool.false_ne_true
  refine region_retain hself (hsize.trans_le hr.bounded) ?_ ?_ ?_
  · show BinaryHeap.Ordered r.heap.tail
    rw [hheap]
    exact hrest
  · intro key other _ hother
    obtain ⟨hkey, hother⟩ := hevicted key other hother
    obtain ⟨hown, hc, hmem⟩ := hr.entries key other hother
    refine ⟨hown, hc, ?_⟩
    show other.entry ∈ r.heap.tail
    rw [hheap] at hmem ⊢
    rcases List.mem_cons.mp hmem with hsame | hmem
    · exact absurd (hown.trans (congrArg AudioLandmarkHeapEntryV3.key hsame)) hkey
    · exact hmem
  · intro e hdiffers he hmissing
    rw [lookup_evict] at hmissing
    by_cases hevict : e.key = loser.entry.key
    · -- The evicted landmark itself.
      have hsame : e = loser.entry := he.unique (hr.kept _ _ hloser).2 hevict
      rw [hsame]
      exact ⟨hsize.trans hfull, hbetter', fun key other _ hother =>
        hall key other (hevicted key other hother).2⟩
    · rw [if_neg hevict] at hmissing
      obtain ⟨-, hpassed⟩ := hr.passed e he hmissing
      exact ⟨hsize.trans hfull, better_trans hbetter' (hpassed _ _ hloser),
        fun key other _ hother => hpassed key other (hevicted key other hother).2⟩

/-- Every push keeps the region's invariant. -/
theorem Region.push (hr : Region pushed r) (landmark : AudioLandmarkV3) :
    Region (pushed ++ [landmark]) (r.push landmark).1 := by
  have hbounded := hr.bounded
  unfold AudioLandmarkRegionReservoirV3.push
  by_cases hzero : r.retainLimit = 0
  · rw [if_pos hzero]
    have hempty : ∀ (key : AudioLandmarkKeyV3) (other : AudioLandmarkV3),
        r.landmarks[key]? ≠ some other := by
      intro key other hother
      have hpos := size_pos_of_lookup hother
      omega
    refine hr.reject ?_ (by omega) fun key other hother => absurd hother (hempty key other)
    exact Option.eq_none_iff_forall_ne_some.mpr (hempty _)
  · rw [if_neg hzero]
    cases hlookup : r.landmarks[landmark.keyV3]? with
    | some existing =>
      dsimp only
      split
      · next hweight => exact hr.upgrade hlookup hweight
      · next hweight => exact hr.lighter hlookup hweight
    | none =>
      dsimp only
      split
      · next hroom => exact hr.room hroom hlookup
      · next hroom =>
        have hfull : r.landmarks.size = r.retainLimit := by omega
        have hs := hr.discardStale
        have hnone : r.discardStaleHeapEntries.landmarks[landmark.keyV3]? = none := hlookup
        have hsfull : r.discardStaleHeapEntries.landmarks.size =
            r.discardStaleHeapEntries.retainLimit := hfull
        have hpos : 0 < r.discardStaleHeapEntries.landmarks.size := by
          show 0 < r.landmarks.size
          omega
        have hfresh := @discardStale_head r
        generalize r.discardStaleHeapEntries = s at hs hnone hsfull hpos hfresh ⊢
        cases hheap : s.heap with
        | nil => exact absurd hheap (hs.heap_ne_nil hpos)
        | cons worst rest =>
          dsimp only [List.head?_cons]
          split
          · next hworst =>
            refine hs.reject hnone hsfull fun key other hother => ?_
            exact better_trans (hs.better_head hheap hother) hworst
          · next hbetter => exact hs.replace hnone hsfull hheap (hfresh hheap) hbetter

end Sorotte.Fingerprint
