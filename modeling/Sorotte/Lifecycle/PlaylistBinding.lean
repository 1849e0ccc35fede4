import Sorotte.Framework.SoleMatch
import Sorotte.Lifecycle.SettledInputs

/-! # Binding by playlist reconciliation

  `reconcile_playlist` lists the candidate entries of every unbound attempt and
  then binds along the sole matches, while the loop changes the map that the
  candidates were read from.  The loop is right because what it binds was
  nobody else's candidate.
-/

namespace Sorotte.Lifecycle

open Framework

namespace Reduction

variable {r : Reduction}

/-- A record once it is bound. -/
def boundRecord (playlistEntryId : PlaylistEntryId) (attempt : LoadAttempt) : LoadAttempt :=
  { attempt with
    playlistEntryId := some playlistEntryId
    reconcileUntilTick := none
    state :=
      if attempt.state == .acceptedUnbound || attempt.state == .mayStillEmit then .bound
      else attempt.state }

/-- Binding an unbound live attempt to a free entry. -/
theorem bindAttempt_free {attemptId : LoadAttemptId} {playlistEntryId : PlaylistEntryId}
    {a : LoadAttempt} (ha : r.loadAttempts[attemptId]? = some a)
    (hepoch : a.attachmentEpoch = r.attachmentEpoch) (hlive : a.state.isTerminal = false)
    (hunbound : a.playlistEntryId = none)
    (hfree : r.playlistEntryAttempts[playlistEntryId]? = none) :
    (r.bindAttempt attemptId playlistEntryId).2.toLoadOwnership =
      { r.toLoadOwnership with
        loadAttempts := r.loadAttempts.modify attemptId (boundRecord playlistEntryId)
        playlistEntryAttempts := r.playlistEntryAttempts.insert playlistEntryId attemptId } := by
  unfold bindAttempt
  rw [if_neg (by rw [hfree]; exact Bool.false_ne_true)]
  split
  · next hnone =>
    rw [ha] at hnone
    cases hnone
  next found hfound =>
  obtain rfl : a = found := Option.some.inj (ha.symm.trans hfound)
  rw [if_neg (by simp [hepoch, hlive, hunbound])]
  extract_lets bound mapped
  rw [if_pos (by rw [hunbound]; rfl), queueEvent_own]
  rfl

/-- Binding a mapped attempt to its own entry once more leaves the mapping. -/
theorem bindAttempt_entries {attemptId : LoadAttemptId} {playlistEntryId : PlaylistEntryId}
    (hmapped : r.playlistEntryAttempts[playlistEntryId]? = some attemptId) (e : PlaylistEntryId) :
    (r.bindAttempt attemptId playlistEntryId).2.playlistEntryAttempts[e]? =
      r.playlistEntryAttempts[e]? := by
  unfold bindAttempt
  split
  · rfl
  · split
    · rfl
    · split
      · rfl
      · extract_lets bound mapped
        have hentries : mapped.playlistEntryAttempts[e]? = r.playlistEntryAttempts[e]? := by
          show (r.playlistEntryAttempts.insert playlistEntryId attemptId)[e]? = _
          rw [getElem?_insert_if]
          split
          · next he => rw [he, hmapped]
          · rfl
        split
        · show ((mapped.queueEvent _).2).toLoadOwnership.playlistEntryAttempts[e]? = _
          rw [queueEvent_own]
          exact hentries
        · exact hentries

/-- Starting a bound attempt leaves the mapping. -/
theorem startBoundAttempt_entries (attemptId : LoadAttemptId) (playlistEntryId : PlaylistEntryId)
    (startFileObserved : Bool) :
    (r.startBoundAttempt attemptId playlistEntryId startFileObserved).playlistEntryAttempts =
      r.playlistEntryAttempts := by
  have hdemote : ∀ (s : Reduction) (held : LoadAttemptState → Bool),
      (s.demoteActive attemptId held).playlistEntryAttempts = s.playlistEntryAttempts :=
    fun s held => (@demoteActive_fields s attemptId held).2.1
  unfold startBoundAttempt
  split
  · rfl
  split
  · rfl
  extract_lets quiescent firstStart marked demoted started
  have hmarked : marked.playlistEntryAttempts = r.playlistEntryAttempts := by
    dsimp only [marked]
    split <;> rfl
  have hstarted : started.playlistEntryAttempts = r.playlistEntryAttempts := by
    have hdemoted : demoted.playlistEntryAttempts = r.playlistEntryAttempts :=
      (hdemote marked _).trans hmarked
    dsimp only [started]
    split
    · exact hdemoted
    · exact hdemoted
  split
  · exact hmarked
  · split
    · exact hmarked
    · split
      · show ((started.queueEvent _).2).toLoadOwnership.playlistEntryAttempts = _
        rw [queueEvent_own]
        exact hstarted
      · exact hstarted

theorem startAttempt_entries {attemptId : LoadAttemptId} {playlistEntryId : PlaylistEntryId}
    (hmapped : r.playlistEntryAttempts[playlistEntryId]? = some attemptId)
    (startFileObserved : Bool) (e : PlaylistEntryId) :
    (r.startAttempt attemptId playlistEntryId startFileObserved).playlistEntryAttempts[e]? =
      r.playlistEntryAttempts[e]? := by
  have hbind := bindAttempt_entries hmapped e
  unfold startAttempt
  split
  next bound r' hr' =>
  rw [hr'] at hbind
  split
  · exact hbind
  · rw [startBoundAttempt_entries]
    exact hbind

/-- Replaying deferred starts leaves the mapping. -/
theorem tryDeferredStarts_entries (e : PlaylistEntryId) :
    r.tryDeferredStarts.playlistEntryAttempts[e]? = r.playlistEntryAttempts[e]? :=
  tryDeferredStarts_preserves
    (P := fun r' => r'.playlistEntryAttempts[e]? = r.playlistEntryAttempts[e]?) (fun _ _ h => h)
    (fun _ _ _ hmapped h => (startAttempt_entries hmapped true e).trans h) (fun _ h => h) rfl

theorem startCurrentEntry_entries (entries : List AuthoritativePlaylistEntry)
    (e : PlaylistEntryId) :
    (r.startCurrentEntry entries).playlistEntryAttempts[e]? = r.playlistEntryAttempts[e]? := by
  unfold startCurrentEntry
  split
  · rfl
  · split
    · rfl
    · next attemptId hmapped => exact startAttempt_entries hmapped false e

/-! ### The loop over the candidate edges -/

/-- The candidates of an attempt that may be bound. -/
structure Candidates (r : Reduction) (edges : List (LoadAttemptId × List PlaylistEntryId)) :
    Prop where
  distinct : (edges.map (·.1)).Nodup
  unbound : ∀ edge ∈ edges, ∃ a, r.loadAttempts[edge.1]? = some a
    ∧ a.state.isTerminal = false ∧ a.state ≠ .submitting ∧ a.playlistEntryId = none
  free : ∀ edge ∈ edges, ∀ e ∈ edge.2, r.playlistEntryAttempts[e]? = none

/-- The loop after the edges `done`: their sole matches are bound, and no other
    attempt was touched. -/
structure BoundAlong (base : Reduction) (edges done : List (LoadAttemptId × List PlaylistEntryId))
    (r : Reduction) : Prop where
  settled : AttemptsSettled r.toLoadOwnership
  attachmentEpoch : r.attachmentEpoch = base.attachmentEpoch
  untouched : ∀ k : LoadAttemptId, (∀ edge ∈ done, edge.1 ≠ k) →
    r.loadAttempts[k]? = base.loadAttempts[k]?
  mapped : ∀ (e : PlaylistEntryId) (i : LoadAttemptId), r.playlistEntryAttempts[e]? = some i ↔
    base.playlistEntryAttempts[e]? = some i
      ∨ (i, [e]) ∈ done ∧ edges.countP (·.2.contains e) = 1

theorem BoundAlong.step {base : Reduction} {edges done : List (LoadAttemptId × List PlaylistEntryId)}
    (hedges : Candidates base edges) {edge : LoadAttemptId × List PlaylistEntryId}
    (hedge : edge ∈ edges) (hdone : ∀ other ∈ done, other ∈ edges)
    (hnew : ∀ other ∈ done, other.1 ≠ edge.1) (h : BoundAlong base edges done r) :
    BoundAlong base edges (done ++ [edge]) (r.bindCandidate edges edge) := by
  have huntouched : ∀ k : LoadAttemptId, (∀ other ∈ done ++ [edge], other.1 ≠ k) →
      r.loadAttempts[k]? = base.loadAttempts[k]? := fun k hk =>
    h.untouched k fun other hother => hk other (List.mem_append_left _ hother)
  have hskip : (∀ e, ¬(edge.2 = [e] ∧ edges.countP (·.2.contains e) = 1)) →
      BoundAlong base edges (done ++ [edge]) r := by
    intro hnone
    refine ⟨h.settled, h.attachmentEpoch, huntouched, fun e i => ?_⟩
    rw [h.mapped e i]
    constructor
    · rintro (hbase | ⟨hmem, hcount⟩)
      · exact .inl hbase
      · exact .inr ⟨List.mem_append_left _ hmem, hcount⟩
    · rintro (hbase | ⟨hmem, hcount⟩)
      · exact .inl hbase
      · rcases List.mem_append.mp hmem with hmem | hmem
        · exact .inr ⟨hmem, hcount⟩
        · rw [List.mem_singleton] at hmem
          exact absurd ⟨by rw [← hmem], hcount⟩ (hnone e)
  unfold bindCandidate
  split
  · next e hcandidates =>
    split
    · next hcount =>
      have hcount : edges.countP (·.2.contains e) = 1 := eq_of_beq hcount
      obtain ⟨a, ha, hlive, hsubmitting, hunbound⟩ := hedges.unbound edge hedge
      have hfound : r.loadAttempts[edge.1]? = some a := by
        rw [h.untouched edge.1 hnew]
        exact ha
      -- Nobody took the entry meanwhile: it was this edge's candidate only.
      have hfree : r.playlistEntryAttempts[e]? = none := by
        cases hmapped : r.playlistEntryAttempts[e]? with
        | none => rfl
        | some i =>
          rcases (h.mapped e i).mp hmapped with hbase | ⟨hmem, -⟩
          · rw [hedges.free edge hedge e (by rw [hcandidates]; simp)] at hbase
            cases hbase
          · have hunique := (countP_eq_one_iff_forall hedges.distinct.of_map hedge
              (by rw [hcandidates]; simp)).mp hcount (i, [e]) (hdone _ hmem) (by simp)
            exact absurd (by rw [hunique]) (hnew _ hmem)
      have hown := bindAttempt_free hfound (h.settled.epoch _ a hfound) hlive hunbound hfree
      have hsettled := @settled_bindAttempt r h.settled edge.1 e (by
        intro b hb
        rw [hfound] at hb
        cases hb
        exact hsubmitting)
      refine ⟨hsettled.1, ?_, ?_, ?_⟩
      · rw [hown]
        exact h.attachmentEpoch
      · intro k hk
        rw [hown]
        show (r.loadAttempts.modify edge.1 _)[k]? = _
        rw [getElem?_modify_if, if_neg fun heq => hk edge (by simp) heq.symm]
        exact huntouched k hk
      · intro e' i
        rw [hown]
        show (r.playlistEntryAttempts.insert e edge.1)[e']? = some i ↔ _
        rw [getElem?_insert_if]
        by_cases he : e' = e
        · subst he
          rw [if_pos rfl]
          constructor
          · intro hi
            cases hi
            refine .inr ⟨List.mem_append_right _ ?_, hcount⟩
            rw [← hcandidates]
            exact List.mem_singleton_self edge
          · rintro (hbase | ⟨hmem, -⟩)
            · rw [hedges.free edge hedge e' (by rw [hcandidates]; simp)] at hbase
              cases hbase
            · have hmem' : (i, [e']) ∈ edges := by
                rcases List.mem_append.mp hmem with hmem | hmem
                · exact hdone _ hmem
                · rw [List.mem_singleton] at hmem
                  rw [hmem]
                  exact hedge
              have hunique := (countP_eq_one_iff_forall hedges.distinct.of_map hedge
                (by rw [hcandidates]; simp)).mp hcount (i, [e']) hmem' (by simp)
              rw [← hunique]
        · rw [if_neg he, h.mapped e' i]
          constructor
          · rintro (hbase | ⟨hmem, hcount'⟩)
            · exact .inl hbase
            · exact .inr ⟨List.mem_append_left _ hmem, hcount'⟩
          · rintro (hbase | ⟨hmem, hcount'⟩)
            · exact .inl hbase
            · rcases List.mem_append.mp hmem with hmem | hmem
              · exact .inr ⟨hmem, hcount'⟩
              · rw [List.mem_singleton] at hmem
                rw [← hmem] at hcandidates
                exact absurd (by simpa using hcandidates) he
    · next hcount =>
      refine hskip ?_
      rintro e' ⟨he', hcount'⟩
      rw [hcandidates] at he'
      obtain rfl : e = e' := by simpa using he'
      exact hcount (by rw [hcount']; rfl)
  · next hcandidates =>
    refine hskip ?_
    rintro e ⟨he, -⟩
    exact hcandidates e he

/-- The whole loop. -/
theorem boundAlong_bindCandidates (h : AttemptsSettled r.toLoadOwnership)
    {edges : List (LoadAttemptId × List PlaylistEntryId)} (hedges : Candidates r edges) :
    BoundAlong r edges edges (edges.foldl (fun r edge => r.bindCandidate edges edge) r) := by
  have hloop : ∀ (todo done : List (LoadAttemptId × List PlaylistEntryId)) (current : Reduction),
      done ++ todo = edges → BoundAlong r edges done current →
        BoundAlong r edges edges (todo.foldl (fun r edge => r.bindCandidate edges edge) current) := by
    intro todo
    induction todo with
    | nil =>
      intro done current hall hcurrent
      rw [List.append_nil] at hall
      rw [hall] at hcurrent
      exact hcurrent
    | cons edge todo ih =>
      intro done current hall hcurrent
      have hedge : edge ∈ edges := by
        rw [← hall]
        simp
      have hdone : ∀ other ∈ done, other ∈ edges := by
        intro other hother
        rw [← hall]
        exact List.mem_append_left _ hother
      have hnew : ∀ other ∈ done, other.1 ≠ edge.1 := by
        intro other hother
        have hdistinct := hedges.distinct
        rw [← hall, List.map_append, List.nodup_append] at hdistinct
        exact hdistinct.2.2 other.1 (List.mem_map_of_mem hother) edge.1 (by simp)
      refine ih (done ++ [edge]) _ ?_ (hcurrent.step hedges hedge hdone hnew)
      rw [← hall]
      simp
  refine hloop edges [] r rfl ⟨h, rfl, fun k _ => rfl, fun e i => ?_⟩
  simp

/-! ### The candidates that a snapshot gives -/

/-- Attempts are listed once each. -/
theorem nodup_attemptIds {s : PlayerLifecycleState} (hkeyed : s.Keyed) :
    (s.attempts.map (·.id)).Nodup := by
  have hkeys : s.attempts.map (·.id) = s.loadAttempts.toList.map (·.1) := by
    unfold PlayerLifecycleState.attempts
    rw [List.map_map]
    refine List.map_congr_left fun entry hentry => ?_
    exact hkeyed entry.1 entry.2 (Std.ExtTreeMap.mem_toList_iff_getElem?_eq_some.mp hentry)
  rw [hkeys]
  unfold List.Nodup
  rw [List.pairwise_map]
  refine (Std.ExtTreeMap.distinct_keys_toList).imp fun {a b} h heq => h ?_
  rw [heq]
  exact Std.ReflCmp.compare_self

theorem mem_candidateEdges (entries : List AuthoritativePlaylistEntry)
    {edge : LoadAttemptId × List PlaylistEntryId} :
    edge ∈ r.candidateEdges entries ↔ ∃ a ∈ r.attempts,
      a.attachmentEpoch = r.attachmentEpoch ∧ a.state.isTerminal = false ∧ a.state ≠ .submitting
        ∧ a.playlistEntryId = none ∧ edge = (a.id, r.candidateEntries entries a) := by
  unfold candidateEdges
  simp only [List.mem_map, List.mem_filter, Bool.and_eq_true, beq_iff_eq, bne_iff_ne, ne_eq,
    Option.isNone_iff_eq_none, LoadAttemptState.mayReceiveLifecycle, Bool.not_eq_true']
  constructor
  · rintro ⟨a, ⟨hmem, ⟨⟨hepoch, hlive⟩, hsubmitting⟩, hunbound⟩, rfl⟩
    exact ⟨a, hmem, hepoch, hlive, hsubmitting, hunbound, rfl⟩
  · rintro ⟨a, hmem, hepoch, hlive, hsubmitting, hunbound, rfl⟩
    exact ⟨a, ⟨hmem, ⟨⟨hepoch, hlive⟩, hsubmitting⟩, hunbound⟩, rfl⟩

theorem candidates_candidateEdges (h : AttemptsSettled r.toLoadOwnership)
    (entries : List AuthoritativePlaylistEntry) : Candidates r (r.candidateEdges entries) where
  distinct := by
    unfold candidateEdges
    rw [List.map_map]
    exact (nodup_attemptIds h.keyed).sublist (List.filter_sublist.map _)
  unbound := by
    intro edge hedge
    obtain ⟨a, hmem, -, hlive, hsubmitting, hunbound, rfl⟩ := (mem_candidateEdges entries).mp hedge
    exact ⟨a, getElem?_of_mem_attempts h.keyed hmem, hlive, hsubmitting, hunbound⟩
  free := by
    intro edge hedge e he
    obtain ⟨a, -, -, -, -, -, rfl⟩ := (mem_candidateEdges entries).mp hedge
    have hentry : e ∈ r.candidateEntries entries a := he
    unfold candidateEntries at hentry
    obtain ⟨entry, hlisted, rfl⟩ := List.mem_map.mp hentry
    have htests := (List.mem_filter.mp hlisted).2
    simp only [Bool.and_eq_true, Bool.not_eq_true'] at htests
    have hcontains := htests.1.1
    rw [Std.ExtTreeMap.contains_eq_isSome_getElem?, Option.isSome_eq_false_iff] at hcontains
    exact Option.isNone_iff_eq_none.mp hcontains

theorem settled_reconcilePlaylist (h : AttemptsSettled r.toLoadOwnership)
    (entries : List AuthoritativePlaylistEntry) (currentPath : Option String) :
    AttemptsSettled (r.reconcilePlaylist entries currentPath).toLoadOwnership := by
  unfold reconcilePlaylist
  split
  · unfold reconcileEmptyPlaylist
    split
    · exact h
    · split
      · exact h
      · exact settled_commitAll _ .stopped h
  · extract_lets retired edges bound started
    have hretired : AttemptsSettled retired.toLoadOwnership := settled_commitAll _ .stopped h
    have hbound : AttemptsSettled bound.toLoadOwnership :=
      (boundAlong_bindCandidates hretired (candidates_candidateEdges hretired entries)).settled
    have hstarted : AttemptsSettled started.toLoadOwnership := by
      refine settled_tryDeferredStarts ?_
      unfold startCurrentEntry
      split
      · exact hbound
      · split
        · exact hbound
        · next attemptId hmapped => exact settled_startAttempt hbound hmapped false
    split
    · exact hstarted
    · exact hstarted

end Reduction

end Sorotte.Lifecycle
