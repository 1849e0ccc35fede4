import Sorotte.Session.Undo

/-! # Playlist selection follows the media

  The row that a changed playlist selects, the selected element across a
  deletion, shuffles, and what an edit leaves to undo.
-/

namespace Sorotte.Session

open Framework

namespace ClientSession

variable {s : ClientSession}

/-- What holds of the files before an edit and of all that it publishes holds of
    the files after it. -/
theorem currentFiles_edited (sha256 : List UInt8 → List UInt8) (edit : PlaylistEdit)
    (P : List String → Prop) (hcurrent : P s.currentFiles)
    (hpublished : ∀ files, .setPlaylist files ∈ (s.actionsFor sha256 edit).1 → P files) :
    P (s.edited sha256 edit).currentFiles := by
  have hrecords := records_actionsFor (s := s) sha256 edit
  unfold edited
  generalize s.actionsFor sha256 edit = result at hrecords hpublished ⊢
  cases hrecords with
  | kept selected shuffleNonce =>
    dsimp only
    rw [currentFiles_apply_selections]
    exact hcurrent
  | changed files selected shuffleNonce undoSnapshots roomName hallowed hroom hfiles hundo =>
    have hafter := (currentFiles_apply_changed (s := { s with
      playlist.shuffleNonce := shuffleNonce
      playlist.undoSnapshots := undoSnapshots }) hallowed files selected).1
    dsimp only
    rw [hafter]
    exact hpublished files List.mem_cons_self

theorem shuffleRemaining_published (sha256 : List UInt8 → List UInt8) {files : List String}
    (h : .setPlaylist files ∈ (s.localPlaylistShuffleRemaining sha256).1) :
    files.Perm s.currentFiles ∧ ∀ selected, s.currentIndex = some selected →
      ∀ k, k ≤ selected → files[k]? = s.currentFiles[k]? := by
  unfold localPlaylistShuffleRemaining at h
  split at h
  · cases h
  split at h
  · next roomName playlist hroom hplaylist =>
    have hcurrent := currentFiles_of_playlist hplaylist
    have hindex := currentIndex_of_playlist hplaylist
    split at h
    · cases h
    next currentIndex hselected =>
    split at h
    · cases h
    dsimp only at h
    split at h
    · cases h
    unfold nextPlaylistShuffleSeed at h
    dsimp only at h
    split at h
    · cases h
    · simp only [List.mem_cons, ClientRuntimeAction.setPlaylist.injEq, reduceCtorEq,
        List.not_mem_nil, or_false] at h
      rw [h, hcurrent]
      constructor
      · conv_rhs => rw [← List.take_append_drop (currentIndex + 1) playlist.files]
        exact (shuffle_perm _ _).append_left _
      · intro selected hsame k hk
        rw [hindex, hselected] at hsame
        cases hsame
        rw [List.getElem?_append_left (by rw [List.length_take]; omega),
          List.getElem?_take_of_lt (by omega)]
  · cases h

theorem shuffleEntire_published (sha256 : List UInt8 → List UInt8) {files : List String}
    (h : .setPlaylist files ∈ (s.localPlaylistShuffleEntire sha256).1) :
    files.Perm s.currentFiles := by
  unfold localPlaylistShuffleEntire at h
  split at h
  · cases h
  split at h
  · next roomName playlist hroom hplaylist =>
    split at h
    · cases h
    unfold nextPlaylistShuffleSeed at h
    dsimp only at h
    rw [currentFiles_of_playlist hplaylist]
    rcases List.mem_append.mp h with h | h
    · split at h
      · simp only [List.mem_singleton, ClientRuntimeAction.setPlaylist.injEq] at h
        rw [h]
        exact shuffle_perm _ _
      · cases h
    · split at h
      · simp at h
      · cases h
  · cases h

@[simp] theorem usizeOf_natCast (n : Nat) : usizeOf (n : Int) = some n := by
  simp [usizeOf]

/-- The files and the row after new files and a valid row were published. -/
theorem edited_selected (h : s.sharedPlaylistRuntimeCommandsAllowed = true) {files : List String}
    {target : Nat} (htarget : target < files.length) :
    let s' := s.applyLocalPlaylistRuntimeActions [.setPlaylist files, .setPlaylistIndex target]
    s'.currentFiles = files ∧ s'.currentIndex = some target := by
  obtain ⟨roomName, localUsername, hroom, husername⟩ := allowed_names h
  have hfiles := (currentFiles_apply_changed h files [(target : Int)]).1
  refine ⟨hfiles, ?_⟩
  unfold applyLocalPlaylistRuntimeActions
  rw [hroom, husername]
  dsimp only [List.foldl_cons, List.foldl_nil]
  have hvalid : ¬files.length ≤ target := by omega
  simp only [applyPlaylistAction, usizeOf_natCast, hvalid, if_false, if_true]
  unfold currentIndex currentRoomPlaylist
  dsimp only
  rw [Option.bind_some, lookup_current, Option.bind_some, Option.bind_some, usizeOf_natCast]

/-- Deleting another row keeps the selected element selected. -/
theorem selected_after_delete (sha256 : List UInt8 → List UInt8)
    (hallowed : s.sharedPlaylistRuntimeCommandsAllowed = true) {playlist : RoomPlaylistView}
    (hplaylist : s.currentRoomPlaylist = some playlist) {selected deleted : Nat}
    (hselected : playlist.index = some (selected : Int)) (hvalid : selected < playlist.files.length)
    (hdeleted : deleted < playlist.files.length) (hother : deleted ≠ selected) :
    let s' := s.edited sha256 (.delete deleted)
    let target := if selected < deleted then selected else selected - 1
    s'.currentFiles = playlist.files.eraseIdx deleted ∧ s'.currentIndex = some target
      ∧ s'.currentFiles[target]? = playlist.files[selected]? := by
  intro s' target
  obtain ⟨roomName, localUsername, hroom, husername⟩ := allowed_names hallowed
  have hlength : (playlist.files.eraseIdx deleted).length = playlist.files.length - 1 :=
    List.length_eraseIdx_of_lt hdeleted
  have hresult : s.actionsFor sha256 (.delete deleted) =
      ([.setPlaylist (playlist.files.eraseIdx deleted), .setPlaylistIndex target],
        s.capturePlaylistUndoSnapshot roomName playlist.files
          (playlist.files.eraseIdx deleted)) := by
    show s.localPlaylistDelete deleted = _
    unfold localPlaylistDelete
    rw [if_neg (by simp [hallowed]), hroom, hplaylist, usizeOf_natCast]
    dsimp only
    have hnonempty : (playlist.files.eraseIdx deleted).isEmpty = false := by
      rw [List.isEmpty_eq_false_iff, ← List.length_pos_iff]
      omega
    rw [if_neg (by omega), hnonempty, if_neg Bool.false_ne_true, hselected]
    have htarget : indexAfterDelete ((some (selected : Int)).bind usizeOf) deleted
        (playlist.files.eraseIdx deleted).length = target := by
      rw [Option.bind_some, usizeOf_natCast]
      unfold indexAfterDelete
      rw [Option.map_some, Option.getD_some]
      dsimp only [target]
      split
      · omega
      · rw [if_pos (by omega)]
        omega
    rw [htarget]
  have hcaptured : (s.capturePlaylistUndoSnapshot roomName playlist.files
      (playlist.files.eraseIdx deleted)).sharedPlaylistRuntimeCommandsAllowed = true := by
    unfold capturePlaylistUndoSnapshot
    split
    · exact hallowed
    · split <;> exact hallowed
  have hlt : target < (playlist.files.eraseIdx deleted).length := by
    dsimp only [target]
    split <;> omega
  obtain ⟨hfiles, hindex⟩ := edited_selected hcaptured hlt
  have hs' : s' = (s.capturePlaylistUndoSnapshot roomName playlist.files
      (playlist.files.eraseIdx deleted)).applyLocalPlaylistRuntimeActions
        [.setPlaylist (playlist.files.eraseIdx deleted), .setPlaylistIndex target] := by
    dsimp only [s']
    unfold edited
    rw [hresult]
  rw [hs']
  refine ⟨hfiles, hindex, ?_⟩
  rw [hfiles, List.getElem?_eraseIdx]
  by_cases hbefore : selected < deleted
  · have htarget : target = selected := if_pos hbefore
    simp only [htarget, hbefore, if_true]
  · have htarget : target = selected - 1 := if_neg hbefore
    have hshifted : ¬selected - 1 < deleted := by omega
    have hback : selected - 1 + 1 = selected := by omega
    simp only [htarget, hshifted, if_false, hback]

end ClientSession

open ClientSession

/-- **Playlist selection follows the media**, the first row aside: where that is the only row left
    the new first row is selected. -/
theorem playlist_selection_follows_media (sha256 : List UInt8 → List UInt8) :
    (∀ currentFiles newFiles index, newFiles ≠ [] → index < currentFiles.length →
        FollowsMediaFrom 1 currentFiles newFiles index
          (localPlaylistTargetIndexFromChangedPlaylist currentFiles newFiles (some index)))
      ∧ (∀ currentFiles newFiles index, index < currentFiles.length →
        ¬Occurs currentFiles newFiles index →
        (∀ k, 1 ≤ k → ¬Occurs currentFiles newFiles k) →
        localPlaylistTargetIndexFromChangedPlaylist currentFiles newFiles (some index) = 0)
      ∧ (∀ currentFiles newFiles index, newFiles ≠ [] → index < currentFiles.length →
        (FollowsMedia currentFiles newFiles index
            (localPlaylistTargetIndexFromChangedPlaylist currentFiles newFiles (some index)) ↔
          newFiles.length = 1 ∨ index = 0 ∨ ¬Occurs currentFiles newFiles 0
            ∨ ∃ j, 1 ≤ j ∧ Occurs currentFiles newFiles j))
      ∧ (∀ files index, index < files.length →
        localPlaylistTargetIndexFromChangedPlaylist files files (some index) = index)
      ∧ (∀ (s : ClientSession) playlist (selected deleted : Nat),
        s.sharedPlaylistRuntimeCommandsAllowed = true → s.currentRoomPlaylist = some playlist →
        playlist.index = some (selected : Int) → selected < playlist.files.length →
        deleted < playlist.files.length → deleted ≠ selected →
          let s' := s.edited sha256 (.delete deleted)
          let target := if selected < deleted then selected else selected - 1
          s'.currentFiles = playlist.files.eraseIdx deleted ∧ s'.currentIndex = some target
            ∧ s'.currentFiles[target]? = playlist.files[selected]?)
      ∧ (∀ s : ClientSession, (s.edited sha256 .shuffleEntire).currentFiles.Perm s.currentFiles
        ∧ (s.edited sha256 .shuffleRemaining).currentFiles.Perm s.currentFiles
        ∧ ∀ selected, s.currentIndex = some selected → ∀ k, k ≤ selected →
          (s.edited sha256 .shuffleRemaining).currentFiles[k]? = s.currentFiles[k]?)
      ∧ (∀ (s : ClientSession) edit,
        (∀ files, .setPlaylist files ∈ (s.actionsFor sha256 edit).1 → ∃ roomName,
          s.roomName = some roomName ∧
            (s.actionsFor sha256 edit).2.playlist.undoSnapshots[roomName]? = some s.currentFiles)
        ∧ ((∀ files, .setPlaylist files ∉ (s.actionsFor sha256 edit).1) →
          (s.actionsFor sha256 edit).2.playlist.undoSnapshots = s.playlist.undoSnapshots)
        ∧ ((s.edited sha256 edit).currentFiles ≠ s.currentFiles →
          ((s.edited sha256 edit).edited sha256 .undo).currentFiles = s.currentFiles))
      ∧ ∀ s : ClientSession,
        ((s.edited sha256 .undo).edited sha256 .undo).currentFiles = s.currentFiles := by
  refine ⟨fun currentFiles newFiles index hnew _ => targetIndex_followsMediaFrom hnew index,
    fun currentFiles newFiles index _ => targetIndex_first,
    fun currentFiles newFiles index hnew _ => targetIndex_followsMedia_iff hnew index,
    fun files index hindex => targetIndex_self hindex,
    fun s playlist selected deleted hallowed hplaylist hselected hvalid hdeleted hother =>
      selected_after_delete sha256 hallowed hplaylist hselected hvalid hdeleted hother,
    fun s => ?_, fun s edit => ?_, fun s => undone_twice sha256⟩
  · have hremaining := currentFiles_edited (s := s) sha256 .shuffleRemaining
      (fun files => files.Perm s.currentFiles ∧ ∀ selected, s.currentIndex = some selected →
        ∀ k, k ≤ selected → files[k]? = s.currentFiles[k]?)
      ⟨List.Perm.refl _, fun _ _ _ _ => rfl⟩
      fun files h => shuffleRemaining_published sha256 h
    exact ⟨currentFiles_edited (s := s) sha256 .shuffleEntire
      (fun files => files.Perm s.currentFiles) (List.Perm.refl _)
      fun files h => shuffleEntire_published sha256 h, hremaining⟩
  · refine ⟨fun files hfiles => ?_, fun hnone => ?_, edited_then_undone sha256⟩
    · have hrecords := records_actionsFor (s := s) sha256 edit
      generalize s.actionsFor sha256 edit = result at hrecords hfiles ⊢
      cases hrecords with
      | kept selected shuffleNonce => simp at hfiles
      | changed published selected shuffleNonce undoSnapshots roomName _ hroom _ hundo =>
        exact ⟨roomName, hroom, hundo⟩
    · have hrecords := records_actionsFor (s := s) sha256 edit
      generalize s.actionsFor sha256 edit = result at hrecords hnone ⊢
      cases hrecords with
      | kept selected shuffleNonce => rfl
      | changed published selected shuffleNonce undoSnapshots roomName _ _ _ _ =>
        exact absurd List.mem_cons_self (hnone published)

/-- Rows that repeat a label: the second `a` stays the second `a`. -/
theorem playlist_selection_follows_media_repeated :
    FollowsMedia ["a", "b", "a"] ["x", "a", "a"] 2 2 :=
  ((playlist_selection_follows_media fun _ => []).2.2.1 ["a", "b", "a"] ["x", "a", "a"] 2
    (by decide) (by decide)).mpr (.inr (.inr (.inr ⟨2, by decide, "a", by decide, by decide⟩)))

/-- The selected row goes and only the first row is left, behind a new one: the
    new first row is selected, not the row after it. -/
theorem playlist_selection_misses_first_row :
    ¬FollowsMedia ["a", "b"] ["x", "a", "c"] 1
      (localPlaylistTargetIndexFromChangedPlaylist ["a", "b"] ["x", "a", "c"] (some 1)) := by
  intro h
  have hgone : ∀ k, 1 ≤ k → ¬Occurs ["a", "b"] ["x", "a", "c"] k := by
    rintro k hk ⟨label, hmem, hlabel⟩
    match k, hk with
    | 1, _ =>
      cases hlabel
      revert hmem
      decide
    | k + 2, _ => cases hlabel
  obtain ⟨p, ⟨label, hlabel, hat, -⟩, htarget⟩ := h.earlier hgone 0 (by decide) (by decide)
    ⟨"a", by decide, by decide⟩ fun k hk hlt => by omega
  cases hlabel
  have hp : p = 1 := by
    match p, hat with
    | 1, _ => rfl
    | 0, hat => exact absurd hat (by decide)
    | 2, hat => exact absurd hat (by decide)
    | p + 3, hat => cases hat
  subst hp
  revert htarget
  decide

end Sorotte.Session
