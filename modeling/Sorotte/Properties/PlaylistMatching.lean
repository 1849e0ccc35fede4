import Sorotte.Lifecycle.SettledSteps

/-! # Playlist reconciliation

  A snapshot binds an attempt to an entry when each is the other's only match,
  and to no other entry; the mapping from entries to attempts stays injective;
  and the order in which the snapshot lists its entries does not matter.
-/

namespace Sorotte.Lifecycle

open Framework

/-- A listed entry may be what became of an attempt of the snapshot's attachment
    epoch: both are unbound, the attempt has been handed over and has not ended,
    the entry was not there before it and plays what it asked for. -/
def MayBe (s : PlayerLifecycleState) (attachmentEpoch : PlayerAttachmentEpoch)
    (entries : List AuthoritativePlaylistEntry) (attemptId : LoadAttemptId)
    (playlistEntryId : PlaylistEntryId) : Prop :=
  ∃ attempt : LoadAttempt, ∃ entry ∈ entries, s.loadAttempts[attemptId]? = some attempt
    ∧ attempt.attachmentEpoch = attachmentEpoch ∧ attempt.state.isTerminal = false
    ∧ attempt.state ≠ .submitting ∧ attempt.playlistEntryId = none
    ∧ entry.id = playlistEntryId ∧ s.attemptForPlaylistEntry entry.id = none
    ∧ attempt.baselinePlaylistEntryIds.contains entry.id = false
    ∧ entry.originalFilename = some attempt.requestedTarget

/-- The step from `s` to `s'` bound the attempt to the entry. -/
def NewlyBound (s s' : PlayerLifecycleState) (attemptId : LoadAttemptId)
    (playlistEntryId : PlaylistEntryId) : Prop :=
  s'.attemptForPlaylistEntry playlistEntryId = some attemptId
    ∧ s.attemptForPlaylistEntry playlistEntryId ≠ some attemptId

namespace Reduction

variable {r : Reduction} {entries entries' : List AuthoritativePlaylistEntry}

/-! ### The contradicted attempt -/

/-- Retiring the active attempt when the playlist contradicts it: unbound
    attempts and listed entries are not concerned. -/
structure Retired (r r' : Reduction) (entries : List AuthoritativePlaylistEntry) : Prop where
  settled : AttemptsSettled r'.toLoadOwnership
  attachmentEpoch : r'.attachmentEpoch = r.attachmentEpoch
  unbound : ∀ (k : LoadAttemptId) (a : LoadAttempt), a.state.isTerminal = false →
    a.playlistEntryId = none → (r'.loadAttempts[k]? = some a ↔ r.loadAttempts[k]? = some a)
  listed : ∀ entry ∈ entries,
    r'.playlistEntryAttempts[entry.id]? = r.playlistEntryAttempts[entry.id]?
  kept : ∀ (e : PlaylistEntryId) (i : LoadAttemptId), r'.playlistEntryAttempts[e]? = some i →
    r.playlistEntryAttempts[e]? = some i

theorem mem_contradictedAttempts {attemptId : LoadAttemptId}
    (h : attemptId ∈ r.contradictedAttempts entries) :
    ∃ a e, r.loadAttempts[attemptId]? = some a ∧ a.playlistEntryId = some e
      ∧ ∀ entry ∈ entries, entry.id ≠ e := by
  unfold contradictedAttempts at h
  split at h
  · cases h
  · have hfound := (List.mem_filter.mp h).2
    cases ha : r.loadAttempts[attemptId]? with
    | none =>
      rw [ha] at hfound
      exact absurd hfound Bool.false_ne_true
    | some a =>
      rw [ha, Option.any_some, Bool.and_eq_true] at hfound
      cases he : a.playlistEntryId with
      | none =>
        rw [he] at hfound
        exact absurd hfound.2 Bool.false_ne_true
      | some e =>
        refine ⟨a, e, rfl, he, ?_⟩
        rintro entry hentry rfl
        have hcontains := hfound.2
        rw [he, Option.any_some, Bool.not_eq_true', List.contains_eq_mem,
          decide_eq_false_iff_not] at hcontains
        exact hcontains (List.mem_map_of_mem hentry)

theorem Retired.refl (h : AttemptsSettled r.toLoadOwnership) : Retired r r entries :=
  ⟨h, rfl, fun _ _ _ _ => Iff.rfl, fun _ _ => rfl, fun _ _ hmapped => hmapped⟩

theorem Retired.commit (h : AttemptsSettled r.toLoadOwnership) {attemptId : LoadAttemptId}
    {before : LoadAttempt} {e : PlaylistEntryId} (hbefore : r.loadAttempts[attemptId]? = some before)
    (hentry : before.playlistEntryId = some e) (hcontradicted : ∀ entry ∈ entries, entry.id ≠ e)
    (outcome : PlayerPhysicalLoadOutcome) :
    Retired r (r.commitPhysicalAttemptTerminal attemptId outcome) entries := by
  rcases commit_cases h attemptId outcome with hself | ⟨found, hfound, hlive, hcommitted⟩
  · rw [hself]
    exact Retired.refl h
  obtain rfl : before = found := Option.some.inj (hbefore.symm.trans hfound)
  have hentries : ∀ e' : PlaylistEntryId,
      (r.commitPhysicalAttemptTerminal attemptId outcome).playlistEntryAttempts[e']? =
        if e' = e then none else r.playlistEntryAttempts[e']? := by
    intro e'
    rw [hcommitted.playlistEntryAttempts, hentry]
    exact getElem?_erase_if _ _ _
  refine ⟨settled_commit h attemptId outcome, hcommitted.attachmentEpoch, ?_, ?_, ?_⟩
  · intro k a hstate hunbound
    rw [hcommitted.loadAttempts]
    split
    · next hk =>
      rw [hk, hbefore]
      -- The retired attempt was bound before and is terminal after.
      constructor
      · intro ha
        cases ha
        simp [endedRecord, LoadAttemptState.isTerminal] at hstate
      · intro ha
        cases ha
        rw [hentry] at hunbound
        cases hunbound
    · exact Iff.rfl
  · intro entry hlisted
    rw [hentries, if_neg (hcontradicted entry hlisted)]
  · intro e' i hmapped
    rw [hentries] at hmapped
    split at hmapped
    · cases hmapped
    · exact hmapped

theorem retired_contradicted (h : AttemptsSettled r.toLoadOwnership) :
    Retired r (r.commitAll (r.contradictedAttempts entries) .stopped) entries := by
  have hsingle : (r.contradictedAttempts entries).length ≤ 1 := by
    unfold contradictedAttempts
    split
    · exact Nat.zero_le 1
    · refine (List.length_filter_le _ _).trans ?_
      cases r.activeLoadAttempt with
      | none => exact Nat.zero_le 1
      | some attemptId => exact Nat.le_refl 1
  cases hlist : r.contradictedAttempts entries with
  | nil => exact Retired.refl h
  | cons attemptId rest =>
    have hrest : rest = [] := by
      rw [hlist, List.length_cons] at hsingle
      exact List.length_eq_zero_iff.mp (by omega)
    obtain ⟨before, e, hbefore, hentry, hcontradicted⟩ :=
      @mem_contradictedAttempts r entries attemptId (by rw [hlist]; simp)
    rw [hrest]
    exact Retired.commit h hbefore hentry hcontradicted .stopped

/-! ### Which edges are matches -/

theorem mem_candidateEntries {attempt : LoadAttempt} {e : PlaylistEntryId} :
    e ∈ r.candidateEntries entries attempt ↔ ∃ entry ∈ entries, entry.id = e
      ∧ r.playlistEntryAttempts[entry.id]? = none
      ∧ attempt.baselinePlaylistEntryIds.contains entry.id = false
      ∧ entry.originalFilename = some attempt.requestedTarget := by
  have hfree : ∀ e' : PlaylistEntryId, (!r.playlistEntryAttempts.contains e') = true ↔
      r.playlistEntryAttempts[e']? = none := by
    intro e'
    rw [Bool.not_eq_true', Std.ExtTreeMap.contains_eq_isSome_getElem?, Option.isSome_eq_false_iff]
    exact Option.isNone_iff_eq_none
  unfold candidateEntries
  simp only [List.mem_map, List.mem_filter, Bool.and_eq_true, hfree, Bool.not_eq_true',
    beq_iff_eq]
  constructor
  · rintro ⟨entry, ⟨hmem, ⟨hunmapped, hbaseline⟩, hfilename⟩, rfl⟩
    exact ⟨entry, hmem, rfl, hunmapped, hbaseline, hfilename⟩
  · rintro ⟨entry, hmem, rfl, hunmapped, hbaseline, hfilename⟩
    exact ⟨entry, ⟨hmem, ⟨hunmapped, hbaseline⟩, hfilename⟩, rfl⟩

theorem listed_candidateEdges {r' : Reduction} (h : AttemptsSettled r.toLoadOwnership)
    (hretired : Retired r r' entries) (attemptId : LoadAttemptId) (e : PlaylistEntryId) :
    listed (r'.candidateEdges entries) attemptId e ↔
      MayBe r.toPlayerLifecycleState r.attachmentEpoch entries attemptId e := by
  constructor
  · rintro ⟨candidates, hedge, he⟩
    obtain ⟨a, hmem, hepoch, hlive, hsubmitting, hunbound, heq⟩ := (mem_candidateEdges entries).mp hedge
    obtain ⟨rfl, rfl⟩ := Prod.mk.inj heq
    obtain ⟨entry, hentry, rfl, hfree, hbaseline, hfilename⟩ := mem_candidateEntries.mp he
    have ha := getElem?_of_mem_attempts hretired.settled.keyed hmem
    rw [hretired.listed entry hentry] at hfree
    exact ⟨a, entry, hentry, (hretired.unbound _ a hlive hunbound).mp ha,
      hepoch.trans hretired.attachmentEpoch, hlive, hsubmitting, hunbound, rfl, hfree, hbaseline,
      hfilename⟩
  · rintro ⟨a, entry, hentry, ha, hepoch, hlive, hsubmitting, hunbound, rfl, hfree, hbaseline,
      hfilename⟩
    have hid := h.keyed attemptId a ha
    have hfound := (hretired.unbound attemptId a hlive hunbound).mpr ha
    refine ⟨r'.candidateEntries entries a, (mem_candidateEdges entries).mpr ⟨a, ?_, ?_⟩, ?_⟩
    · exact mem_attempts.mpr ⟨attemptId, hfound⟩
    · exact ⟨hepoch.trans hretired.attachmentEpoch.symm, hlive, hsubmitting, hunbound, by rw [hid]⟩
    · have hunmapped : r.playlistEntryAttempts[entry.id]? = none := hfree
      rw [← hretired.listed entry hentry] at hunmapped
      exact mem_candidateEntries.mpr ⟨entry, hentry, rfl, hunmapped, hbaseline, hfilename⟩

theorem nodup_candidateEdges (hdistinct : (entries.map (·.id)).Nodup) :
    ∀ edge ∈ r.candidateEdges entries, edge.2.Nodup := by
  intro edge hedge
  obtain ⟨a, -, -, -, -, -, rfl⟩ := (mem_candidateEdges entries).mp hedge
  exact hdistinct.sublist (List.filter_sublist.map _)

/-- The mapping after a snapshot with entries. -/
theorem reconcilePlaylist_entries (h : AttemptsSettled r.toLoadOwnership)
    (hentries : entries ≠ []) (hdistinct : (entries.map (·.id)).Nodup)
    (currentPath : Option String) (e : PlaylistEntryId) (attemptId : LoadAttemptId) :
    (r.reconcilePlaylist entries currentPath).playlistEntryAttempts[e]? = some attemptId ↔
      (r.commitAll (r.contradictedAttempts entries) .stopped).playlistEntryAttempts[e]?
          = some attemptId
        ∨ SoleMatch (MayBe r.toPlayerLifecycleState r.attachmentEpoch entries) attemptId e := by
  have hretired := @retired_contradicted r entries h
  have hbound := boundAlong_bindCandidates hretired.settled
    (candidates_candidateEdges hretired.settled entries)
  rw [← SoleMatch.congr (listed_candidateEdges h hretired),
    soleMatch_listed (candidates_candidateEdges hretired.settled entries).distinct
      (nodup_candidateEdges hdistinct), ← hbound.mapped]
  unfold reconcilePlaylist
  rw [if_neg (by simpa using hentries)]
  extract_lets retired edges bound started
  have hstarted : started.playlistEntryAttempts[e]? = bound.playlistEntryAttempts[e]? := by
    dsimp only [started]
    rw [tryDeferredStarts_entries, startCurrentEntry_entries]
  have hfinal : (if started.attempts.any started.isUnresolved then
      ({ started with lastReconciliation := some .awaitingAcceptedAttempt
        }.scheduleReconciliation).push .requestLifecycleReconciliation
    else
      { started with
        deferredStartFiles := []
        lastReconciliation := some .resolved }.clearReconciliation).playlistEntryAttempts[e]?
      = bound.playlistEntryAttempts[e]? := by
    split
    · exact hstarted
    · exact hstarted
  rw [hfinal]

/-! ### The order of the entries -/

theorem contradictedAttempts_perm (hperm : entries.Perm entries') :
    r.contradictedAttempts entries = r.contradictedAttempts entries' := by
  have hcurrent : entries.any (·.current) = entries'.any (·.current) := by
    rw [Bool.eq_iff_iff, List.any_eq_true, List.any_eq_true]
    simp only [hperm.mem_iff]
  have hids : ∀ e, (entries.map (·.id)).contains e = (entries'.map (·.id)).contains e :=
    fun e => (hperm.map _).contains_eq
  unfold contradictedAttempts
  rw [hcurrent]
  simp only [hids]

theorem candidateEntries_perm (hperm : entries.Perm entries') (attempt : LoadAttempt) :
    (r.candidateEntries entries attempt).Perm (r.candidateEntries entries' attempt) :=
  (hperm.filter _).map _

/-- The two listings' edges, attempt by attempt. -/
theorem candidateEdges_perm (hperm : entries.Perm entries') :
    List.Forall₂ (fun edge edge' => edge.1 = edge'.1 ∧ edge.2.Perm edge'.2)
      (r.candidateEdges entries) (r.candidateEdges entries') := by
  unfold candidateEdges
  rw [List.forall₂_map_left_iff, List.forall₂_map_right_iff, List.forall₂_same]
  exact fun attempt _ => ⟨rfl, candidateEntries_perm hperm attempt⟩

theorem countP_edges {edges edges' : List (LoadAttemptId × List PlaylistEntryId)}
    (hedges : List.Forall₂ (fun edge edge' => edge.1 = edge'.1 ∧ edge.2.Perm edge'.2)
      edges edges') (e : PlaylistEntryId) :
    edges.countP (·.2.contains e) = edges'.countP (·.2.contains e) := by
  induction hedges with
  | nil => rfl
  | cons hedge _ ih =>
    rw [List.countP_cons, List.countP_cons, ih, hedge.2.contains_eq]

/-- One edge of either listing. -/
theorem bindCandidate_perm {edges edges' : List (LoadAttemptId × List PlaylistEntryId)}
    (hcount : ∀ e, edges.countP (·.2.contains e) = edges'.countP (·.2.contains e))
    {edge edge' : LoadAttemptId × List PlaylistEntryId}
    (hedge : edge.1 = edge'.1 ∧ edge.2.Perm edge'.2) :
    r.bindCandidate edges edge = r.bindCandidate edges' edge' := by
  obtain ⟨attemptId, candidates⟩ := edge
  obtain ⟨attemptId', candidates'⟩ := edge'
  obtain ⟨rfl, hcandidates⟩ : attemptId = attemptId' ∧ candidates.Perm candidates' := hedge
  unfold bindCandidate
  dsimp only
  by_cases hsingle : ∃ e, candidates = [e]
  · obtain ⟨e, rfl⟩ := hsingle
    obtain rfl := List.singleton_perm.mp hcandidates
    dsimp only
    rw [hcount]
  · have hsingle' : ∀ e, candidates' ≠ [e] := by
      rintro e rfl
      exact hsingle ⟨e, List.perm_singleton.mp hcandidates⟩
    split
    · next e => exact absurd ⟨e, rfl⟩ hsingle
    · rfl

theorem bindCandidates_perm {edges edges' : List (LoadAttemptId × List PlaylistEntryId)}
    (hedges : List.Forall₂ (fun edge edge' => edge.1 = edge'.1 ∧ edge.2.Perm edge'.2)
      edges edges') :
    edges.foldl (fun r edge => r.bindCandidate edges edge) r =
      edges'.foldl (fun r edge => r.bindCandidate edges' edge) r := by
  have hcount := countP_edges hedges
  have hloop : ∀ {todo todo' : List (LoadAttemptId × List PlaylistEntryId)},
      List.Forall₂ (fun edge edge' => edge.1 = edge'.1 ∧ edge.2.Perm edge'.2) todo todo' →
      ∀ r : Reduction, todo.foldl (fun r edge => r.bindCandidate edges edge) r =
        todo'.foldl (fun r edge => r.bindCandidate edges' edge) r := by
    intro todo todo' htodo
    induction htodo with
    | nil => exact fun r => rfl
    | cons hedge _ ih =>
      intro r
      rw [List.foldl_cons, List.foldl_cons, bindCandidate_perm hcount hedge]
      exact ih _
  exact hloop hedges r

/-- The current entry of a listing that has at most one. -/
theorem find?_current_perm (hperm : entries.Perm entries')
    (hcurrent : entries.countP (·.current) ≤ 1) :
    entries.find? (·.current) = entries'.find? (·.current) := by
  rw [← List.head?_filter, ← List.head?_filter]
  have hfiltered := hperm.filter (·.current)
  rw [List.countP_eq_length_filter] at hcurrent
  cases hlist : entries.filter (·.current) with
  | nil =>
    rw [hlist] at hfiltered
    rw [List.nil_perm.mp hfiltered]
  | cons entry rest =>
    rw [hlist] at hfiltered hcurrent
    have hrest : rest = [] := by
      rw [List.length_cons] at hcurrent
      exact List.length_eq_zero_iff.mp (by omega)
    rw [hrest] at hfiltered
    rw [List.singleton_perm.mp hfiltered |>.symm, hrest]

theorem reconcilePlaylist_perm (hperm : entries.Perm entries')
    (hcurrent : entries.countP (·.current) ≤ 1) (currentPath : Option String) :
    r.reconcilePlaylist entries currentPath = r.reconcilePlaylist entries' currentPath := by
  have hempty : entries.isEmpty = entries'.isEmpty := by
    rw [Bool.eq_iff_iff, List.isEmpty_iff_length_eq_zero, List.isEmpty_iff_length_eq_zero,
      hperm.length_eq]
  have hstart : ∀ s : Reduction, s.startCurrentEntry entries = s.startCurrentEntry entries' := by
    intro s
    unfold startCurrentEntry
    rw [find?_current_perm hperm hcurrent]
  unfold reconcilePlaylist
  dsimp only
  rw [hempty, contradictedAttempts_perm hperm, bindCandidates_perm (candidateEdges_perm hperm)]
  simp only [hstart]

end Reduction

/-- A snapshot with entries binds the sole matches and nothing else. -/
theorem newlyBound_iff_soleMatch {s : PlayerLifecycleState}
    (h : AttemptsSettled s.toLoadOwnership) {entries : List AuthoritativePlaylistEntry}
    (hentries : entries ≠ []) (hdistinct : (entries.map (·.id)).Nodup)
    (attachmentEpoch : PlayerAttachmentEpoch) (currentPath : Option String)
    (attemptId : LoadAttemptId) (playlistEntryId : PlaylistEntryId) :
    NewlyBound s (reducePlayerLifecycle s
        (.playlistSnapshot attachmentEpoch entries currentPath)).1 attemptId playlistEntryId ↔
      SoleMatch (MayBe s attachmentEpoch entries) attemptId playlistEntryId := by
  let r : Reduction := { s with effects := [] }
  show ((r.playlistSnapshot attachmentEpoch entries currentPath).playlistEntryAttempts[
    playlistEntryId]? = some attemptId ∧ s.playlistEntryAttempts[playlistEntryId]? ≠
      some attemptId) ↔ _
  unfold Reduction.playlistSnapshot
  by_cases hepoch : attachmentEpoch = s.attachmentEpoch
  · subst hepoch
    rw [if_neg (by simp [r]), Reduction.reconcilePlaylist_entries (r := r) h hentries hdistinct]
    have hretired := @Reduction.retired_contradicted r entries h
    constructor
    · rintro ⟨hkept | hmatch, hnew⟩
      · exact absurd (hretired.kept _ _ hkept) hnew
      · exact hmatch
    · intro hmatch
      refine ⟨.inr hmatch, ?_⟩
      obtain ⟨a, entry, -, -, -, -, -, -, rfl, hfree, -⟩ := hmatch.related
      have hunmapped : s.playlistEntryAttempts[entry.id]? = none := hfree
      rw [hunmapped]
      exact nofun
  · -- A snapshot of another epoch is ignored, and no attempt is of another epoch.
    rw [if_pos (by simpa [r] using hepoch)]
    constructor
    · rintro ⟨hmapped, hnew⟩
      exact absurd hmapped hnew
    · intro hmatch
      obtain ⟨a, entry, -, ha, hattempt, -⟩ := hmatch.related
      exact absurd (hattempt.symm.trans (h.epoch _ a ha)) hepoch

/-- **Playlist reconciliation binds only unambiguous matches.** -/
theorem playlist_snapshot_binds_sole_matches (firstEpoch : PlayerAttachmentEpoch)
    (operations : List Operation) (attachmentEpoch : PlayerAttachmentEpoch)
    (entries : List AuthoritativePlaylistEntry) (currentPath : Option String)
    (hentries : entries ≠ []) (hdistinct : (entries.map (·.id)).Nodup)
    (hcurrent : entries.countP (·.current) ≤ 1) :
    let s := PlayerLifecycleState.after firstEpoch operations
    let s' := (reducePlayerLifecycle s
      (.playlistSnapshot attachmentEpoch entries currentPath)).1
    (∀ attemptId playlistEntryId, NewlyBound s s' attemptId playlistEntryId ↔
        SoleMatch (MayBe s attachmentEpoch entries) attemptId playlistEntryId)
      ∧ (∀ first second attemptId, s'.attemptForPlaylistEntry first = some attemptId →
        s'.attemptForPlaylistEntry second = some attemptId → first = second)
      ∧ ∀ entries', entries.Perm entries' →
        reducePlayerLifecycle s (.playlistSnapshot attachmentEpoch entries' currentPath) =
          reducePlayerLifecycle s (.playlistSnapshot attachmentEpoch entries currentPath) := by
  intro s s'
  have hsettled : AttemptsSettled s.toLoadOwnership :=
    PlayerLifecycleState.settled_after firstEpoch operations
  have hsettled' : AttemptsSettled s'.toLoadOwnership :=
    Reduction.settled_reduce (r := { s with effects := [] }) hsettled _
  refine ⟨newlyBound_iff_soleMatch hsettled hentries hdistinct attachmentEpoch currentPath, ?_, ?_⟩
  · intro first second attemptId hfirst hsecond
    obtain ⟨a, ha, -, hentry⟩ := (hsettled'.mapped first attemptId).mp hfirst
    obtain ⟨b, hb, -, hentry'⟩ := (hsettled'.mapped second attemptId).mp hsecond
    rw [ha] at hb
    cases hb
    rw [hentry] at hentry'
    exact Option.some.inj hentry'
  · intro entries' hperm
    have hsame : ∀ r : Reduction, r.playlistSnapshot attachmentEpoch entries' currentPath =
        r.playlistSnapshot attachmentEpoch entries currentPath := by
      intro r
      unfold Reduction.playlistSnapshot
      rw [Reduction.reconcilePlaylist_perm hperm hcurrent currentPath]
    exact congrArg
      (fun reduction : Reduction => (reduction.toPlayerLifecycleState, reduction.effects)) (hsame _)

/-- An accepted load of `a.mkv`, the only one, and the only listed entry that plays it. -/
theorem playlist_snapshot_binds_sole_matches_accepted :
    SoleMatch (MayBe (PlayerLifecycleState.after 1
        [.reduce (.loadAttemptSubmitted (some 1) 1 "a.mkv" ∅),
          .reduce (.loadAttemptAccepted 1 1)]) 1
      [⟨7, some "a.mkv", true⟩, ⟨8, some "b.mkv", false⟩]) 1 7 :=
  ((playlist_snapshot_binds_sole_matches 1
    [.reduce (.loadAttemptSubmitted (some 1) 1 "a.mkv" ∅), .reduce (.loadAttemptAccepted 1 1)] 1
    [⟨7, some "a.mkv", true⟩, ⟨8, some "b.mkv", false⟩] (some "a.mkv") (by decide) (by decide)
    (by decide)).1 1 7).mp ⟨by decide +kernel, by decide +kernel⟩

end Sorotte.Lifecycle
