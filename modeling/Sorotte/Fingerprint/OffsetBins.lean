import Sorotte.Fingerprint.Alignment
import Sorotte.Framework.Tally

/-! # What the offset bins hold

  The two loops of the aligner are one tally over the pairs of anchors that share
  a bucket, the first pair of every key.  Votes commute, so the bins do not
  depend on the order of the anchors.
-/

namespace Sorotte.Fingerprint

open Sorotte.Framework

/-- No two anchors have the same bucket and time. -/
def Distinct (anchors : List AudioAnchor) : Prop :=
  (anchors.map fun anchor => (anchor.bucket, anchor.tMs)).Nodup

instance : DecidablePred Distinct := fun _ => inferInstanceAs (Decidable (List.Nodup _))

theorem Distinct.perm {anchors anchors' : List AudioAnchor} (h : Distinct anchors)
    (hperm : anchors'.Perm anchors) : Distinct anchors' :=
  (hperm.map _).nodup_iff.mpr h

theorem Distinct.nodup {anchors : List AudioAnchor} (h : Distinct anchors) : anchors.Nodup :=
  List.Nodup.of_map _ h

/-! ### The pairs -/

/-- The pairs that the loops go over. -/
def matchedPairs (query candidate : List AudioAnchor) : List (AudioAnchor × AudioAnchor) :=
  query.flatMap fun anchor =>
    (candidate.filter fun other => other.bucket.toNat = anchor.bucket.toNat).map (anchor, ·)

variable {query candidate query' candidate' : List AudioAnchor}

theorem mem_matchedPairs {pair : AudioAnchor × AudioAnchor} :
    pair ∈ matchedPairs query candidate ↔
      pair.1 ∈ query ∧ pair.2 ∈ candidate ∧ pair.2.bucket = pair.1.bucket := by
  unfold matchedPairs
  simp only [List.mem_flatMap, List.mem_map, List.mem_filter, decide_eq_true_eq, UInt32.toNat_inj]
  constructor
  · rintro ⟨anchor, hanchor, other, ⟨hother, hbucket⟩, rfl⟩
    exact ⟨hanchor, hother, hbucket⟩
  · rintro ⟨hanchor, hother, hbucket⟩
    exact ⟨pair.1, hanchor, pair.2, ⟨hother, hbucket⟩, rfl⟩

theorem matchedPairs_perm (hquery : query'.Perm query) (hcandidate : candidate'.Perm candidate) :
    (matchedPairs query' candidate').Perm (matchedPairs query candidate) := by
  unfold matchedPairs
  apply hquery.flatMap
  intro anchor _
  exact (hcandidate.filter _).map _

theorem pairKey_injOn (hquery : Distinct query) (hcandidate : Distinct candidate)
    {pair pair' : AudioAnchor × AudioAnchor} (h : pair ∈ matchedPairs query candidate)
    (h' : pair' ∈ matchedPairs query candidate) (hkey : pairKey pair = pairKey pair') :
    pair = pair' := by
  obtain ⟨hfirst, hsecond, hbucket⟩ := mem_matchedPairs.mp h
  obtain ⟨hfirst', hsecond', hbucket'⟩ := mem_matchedPairs.mp h'
  unfold pairKey at hkey
  simp only [Prod.mk.injEq] at hkey
  obtain ⟨hsame, hquery_time, hcandidate_time⟩ := hkey
  apply Prod.ext
  · exact List.inj_on_of_nodup_map hquery hfirst hfirst' (Prod.ext hsame hquery_time)
  · exact List.inj_on_of_nodup_map hcandidate hsecond hsecond'
      (Prod.ext (hbucket.trans (hsame.trans hbucket'.symm)) hcandidate_time)

theorem matchedPairs_nodup (hquery : Distinct query) (hcandidate : Distinct candidate) :
    (matchedPairs query candidate).Nodup := by
  unfold matchedPairs
  rw [List.nodup_flatMap]
  constructor
  · intro anchor _
    exact (hcandidate.nodup.filter _).map fun _ _ h => (Prod.mk.inj h).2
  · apply hquery.nodup.imp
    intro anchor other hne pair hpair hpair'
    obtain ⟨_, -, rfl⟩ := List.mem_map.mp hpair
    obtain ⟨_, -, heq⟩ := List.mem_map.mp hpair'
    exact hne (Prod.mk.inj heq).1.symm

theorem pairKeys_nodup (hquery : Distinct query) (hcandidate : Distinct candidate) :
    ((matchedPairs query candidate).map pairKey).Nodup :=
  (matchedPairs_nodup hquery hcandidate).map_on fun _ h _ h' =>
    pairKey_injOn hquery hcandidate h h'

/-! ### The loops -/

theorem candidates_of_bucket (bucket : Nat) :
    (candidateByBucket candidate).getD bucket [] =
      candidate.filter fun anchor => anchor.bucket.toNat = bucket := by
  have htally : candidateByBucket candidate =
      tally (fun anchor : AudioAnchor => anchor.bucket.toNat)
        (fun held anchor => held ++ [anchor]) [] candidate := rfl
  rw [htally, getD_tally]
  generalize (candidate.filter fun anchor => anchor.bucket.toNat = bucket) = anchors
  induction anchors using List.reverseRecOn with
  | nil => rfl
  | append_singleton anchors anchor ih =>
    rw [List.foldl_append, ih]
    rfl

/-- Both loops are one tally. -/
theorem offsetBins_tally (query candidate : List AudioAnchor) :
    offsetBins query candidate = tally pairBin OffsetBin.vote {}
      (firsts pairKey [] (matchedPairs query candidate)) := by
  have hloops : offsetBins query candidate =
      (query.foldl (fun votes anchor => ((candidate.filter fun other =>
        other.bucket.toNat = anchor.bucket.toNat).map (anchor, ·)).foldl countPair votes)
          (([], ∅) : Votes)).2 := by
    unfold offsetBins
    apply congrArg Prod.snd
    apply List.foldl_ext
    intro votes anchor _
    rw [← candidates_of_bucket, Std.ExtTreeMap.getD_eq_getD_getElem?, List.foldl_map]
    cases (candidateByBucket candidate)[anchor.bucket.toNat]? with
    | none => rfl
    | some candidateAnchors => rfl
  rw [hloops, ← List.foldl_flatMap]
  apply foldl_firsts
  · intro seen held pair hseen
    exact if_pos hseen
  · intro seen held pair hseen
    exact if_neg hseen

theorem vote_comm (entry : OffsetBin) (pair pair' : AudioAnchor × AudioAnchor) :
    (entry.vote pair).vote pair' = (entry.vote pair').vote pair := by
  unfold OffsetBin.vote
  simp only [OffsetBin.mk.injEq, true_and]
  refine ⟨by omega, ?_, ?_⟩
  · apply Std.ExtTreeSet.ext_mem
    intro time
    simp only [Std.ExtTreeSet.mem_insert]
    exact or_left_comm
  · apply Std.ExtTreeSet.ext_mem
    intro time
    simp only [Std.ExtTreeSet.mem_insert]
    exact or_left_comm

/-- Of anchors without repetition every pair is counted. -/
theorem offsetBins_distinct (hquery : Distinct query) (hcandidate : Distinct candidate) :
    offsetBins query candidate =
      tally pairBin OffsetBin.vote {} (matchedPairs query candidate) := by
  rw [offsetBins_tally,
    firsts_of_nodup (pairKeys_nodup hquery hcandidate) fun _ _ h => by cases h]

theorem offsetBins_perm (hquery : Distinct query) (hcandidate : Distinct candidate)
    (hquery' : query'.Perm query) (hcandidate' : candidate'.Perm candidate) :
    offsetBins query' candidate' = offsetBins query candidate := by
  rw [offsetBins_distinct hquery hcandidate,
    offsetBins_distinct (hquery.perm hquery') (hcandidate.perm hcandidate')]
  exact tally_perm vote_comm (matchedPairs_perm hquery' hcandidate')

/-- **Alignment** does not depend on the order of the anchors. -/
theorem alignAudioAnchors_perm (hquery : Distinct query) (hcandidate : Distinct candidate)
    (hquery' : query'.Perm query) (hcandidate' : candidate'.Perm candidate) :
    alignAudioAnchors query' candidate' = alignAudioAnchors query candidate := by
  unfold alignAudioAnchors
  rw [hquery'.isEmpty_eq, hcandidate'.isEmpty_eq,
    offsetBins_perm hquery hcandidate hquery' hcandidate']

/-! ### The best bin -/

/-- The pairs that vote for a bin. -/
def binPairs (query candidate : List AudioAnchor) (bin : Int) :
    List (AudioAnchor × AudioAnchor) :=
  (matchedPairs query candidate).filter fun pair => pairBin pair = bin

/-- The score of a bin, which saturates. -/
def binScore (query candidate : List AudioAnchor) (bin : Int) : Nat :=
  min ((binPairs query candidate bin).map pairWeight).sum u32Max

/-- The buckets and times of the pairs that vote for a bin. -/
def binKeys (query candidate : List AudioAnchor) (bin : Int) : Finset PairKey :=
  ((binPairs query candidate bin).map pairKey).toFinset

theorem votes_pairCount (pairs : List (AudioAnchor × AudioAnchor)) (entry : OffsetBin) :
    (pairs.foldl OffsetBin.vote entry).pairCount = entry.pairCount + pairs.length := by
  induction pairs generalizing entry with
  | nil => rfl
  | cons pair pairs ih =>
    have hvote : (entry.vote pair).pairCount = entry.pairCount + 1 := rfl
    rw [List.foldl_cons, ih, hvote, List.length_cons]
    omega

theorem votes_score (pairs : List (AudioAnchor × AudioAnchor)) (entry : OffsetBin)
    (hentry : entry.score ≤ u32Max) :
    (pairs.foldl OffsetBin.vote entry).score =
      min (entry.score + (pairs.map pairWeight).sum) u32Max := by
  induction pairs generalizing entry with
  | nil => simpa using hentry
  | cons pair pairs ih =>
    have hvote : (entry.vote pair).score = min (entry.score + pairWeight pair) u32Max := rfl
    rw [List.foldl_cons, ih _ (by rw [hvote]; exact min_le_right _ _), hvote, List.map_cons,
      List.sum_cons]
    omega

theorem binKeys_card (hquery : Distinct query) (hcandidate : Distinct candidate) (bin : Int) :
    (binKeys query candidate bin).card = (binPairs query candidate bin).length := by
  have hnodup : ((binPairs query candidate bin).map pairKey).Nodup :=
    (pairKeys_nodup hquery hcandidate).sublist (List.filter_sublist.map pairKey)
  unfold binKeys
  rw [List.toFinset_card_of_nodup hnodup, List.length_map]

/-- What is held of a bin that some pair votes for. -/
theorem offsetBins_getElem? (hquery : Distinct query) (hcandidate : Distinct candidate)
    (bin : Int) : (offsetBins query candidate)[bin]? =
      if ∃ pair ∈ matchedPairs query candidate, pairBin pair = bin then
        some ((binPairs query candidate bin).foldl OffsetBin.vote {}) else none := by
  rw [offsetBins_distinct hquery hcandidate, getElem?_tally]
  rfl

theorem binLe_total (left right : Int × OffsetBin) : BinLe left right ∨ BinLe right left := by
  unfold BinLe
  omega

theorem BinLe.trans {left mid right : Int × OffsetBin} (h : BinLe left mid)
    (h' : BinLe mid right) : BinLe left right := by
  unfold BinLe at *
  omega

theorem binLe_sorted (bins : List (Int × OffsetBin)) :
    (bins.insertionSort BinLe).Pairwise BinLe := by
  have : Std.Total BinLe := ⟨binLe_total⟩
  have : IsTrans (Int × OffsetBin) BinLe := ⟨fun _ _ _ => BinLe.trans⟩
  exact List.pairwise_insertionSort _ _

/-- An alignment is that of the first bin of the order. -/
theorem best_of_align {alignment : MediaTimelineAlignment}
    (h : alignAudioAnchors query candidate = some alignment) :
    ∃ (bin : Int) (best : OffsetBin), (offsetBins query candidate)[bin]? = some best
      ∧ (∀ (other : Int) (entry : OffsetBin),
        (offsetBins query candidate)[other]? = some entry → entry.score ≤ best.score)
      ∧ alignment.offsetSeconds = (bin : ℚ) / 1000
      ∧ alignment.alignedPairs = best.pairCount := by
  have hsorted := binLe_sorted (offsetBins query candidate).toList
  have hmem : ∀ bin entry, (bin, entry) ∈ (offsetBins query candidate).toList.insertionSort BinLe ↔
      (offsetBins query candidate)[bin]? = some entry := by
    intro bin entry
    rw [List.mem_insertionSort, Std.ExtTreeMap.mem_toList_iff_getElem?_eq_some]
  unfold alignAudioAnchors at h
  generalize (offsetBins query candidate).toList.insertionSort BinLe = bins at h hsorted hmem
  by_cases hempty : query.isEmpty || candidate.isEmpty
  · rw [if_pos hempty] at h
    cases h
  rw [if_neg hempty] at h
  cases bins with
  | nil => cases h
  | cons first rest =>
    obtain ⟨bin, best⟩ := first
    simp only at h
    by_cases hfew : best.pairCount < 8 || best.score < 12
    · rw [if_pos hfew] at h
      cases h
    rw [if_neg hfew] at h
    cases h
    refine ⟨bin, best, (hmem bin best).mp List.mem_cons_self, ?_, rfl, rfl⟩
    intro other entry hentry
    rcases List.mem_cons.mp ((hmem other entry).mpr hentry) with hsame | hrest
    · rw [(Prod.mk.inj hsame).2]
    · have hle := List.rel_of_pairwise_cons hsorted hrest
      unfold BinLe at hle
      simp only at hle
      omega

/-- **The aligned pairs** are the pairs of buckets and times in the bin with the largest
    score. -/
theorem alignedPairs_eq (hquery : Distinct query) (hcandidate : Distinct candidate)
    {alignment : MediaTimelineAlignment}
    (h : alignAudioAnchors query candidate = some alignment) :
    ∃ bin : Int, alignment.offsetSeconds = (bin : ℚ) / 1000
      ∧ (∀ other, binScore query candidate other ≤ binScore query candidate bin)
      ∧ alignment.alignedPairs = (binKeys query candidate bin).card := by
  obtain ⟨bin, best, hbest, hlargest, hoffset, hpairs⟩ := best_of_align h
  have hscore : ∀ bin, ((binPairs query candidate bin).foldl OffsetBin.vote {}).score =
      binScore query candidate bin := by
    intro bin
    rw [votes_score _ _ (Nat.zero_le _)]
    unfold binScore
    rw [show ({} : OffsetBin).score = 0 from rfl, Nat.zero_add]
  have heq : best = (binPairs query candidate bin).foldl OffsetBin.vote {} := by
    rw [offsetBins_getElem? hquery hcandidate] at hbest
    by_cases hsome : ∃ pair ∈ matchedPairs query candidate, pairBin pair = bin
    · rw [if_pos hsome] at hbest
      exact (Option.some.inj hbest).symm
    · rw [if_neg hsome] at hbest
      cases hbest
  refine ⟨bin, hoffset, ?_, ?_⟩
  · intro other
    by_cases hsome : ∃ pair ∈ matchedPairs query candidate, pairBin pair = other
    · have hother := offsetBins_getElem? hquery hcandidate other
      rw [if_pos hsome] at hother
      have hle := hlargest other _ hother
      rw [hscore, heq, hscore] at hle
      exact hle
    · have hnone : binPairs query candidate other = [] := by
        apply List.filter_eq_nil_iff.mpr
        intro pair hpair
        simpa using fun hbin => hsome ⟨pair, hpair, hbin⟩
      have hzero : binScore query candidate other = 0 := by
        unfold binScore
        rw [hnone]
        rfl
      rw [hzero]
      exact Nat.zero_le _
  · rw [hpairs, heq, votes_pairCount, binKeys_card hquery hcandidate]
    exact Nat.zero_add _

end Sorotte.Fingerprint
