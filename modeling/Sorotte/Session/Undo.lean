import Sorotte.Session.Selection

/-! # Edits and their undo snapshots

  An edit that publishes new files keeps the files before it, and shuffles only
  reorder.  So the undo of an edit brings its files back, and so does the undo of
  an undo.
-/

namespace Sorotte.Session

open Framework

/-! ### Shuffles -/

theorem shuffleRound_perm (round : Array String × UInt64) (index : Nat) :
    (shuffleRound round index).1.toList.Perm round.1.toList := by
  unfold shuffleRound Array.swapIfInBounds
  dsimp only
  split
  · split
    · exact Array.perm_iff_toList_perm.mp (Array.swap_perm _ _)
    · exact List.Perm.refl _
  · exact List.Perm.refl _

theorem shuffle_perm (files : List String) (seed : UInt64) :
    (shufflePlaylistSlice files seed).Perm files := by
  have hloop : ∀ (indices : List Nat) (round : Array String × UInt64),
      (indices.foldl shuffleRound round).1.toList.Perm round.1.toList := by
    intro indices
    induction indices with
    | nil => exact fun round => List.Perm.refl _
    | cons index rest ih => exact fun round => (ih _).trans (shuffleRound_perm round index)
  exact hloop _ (files.toArray, seed)

namespace ClientSession

variable {s : ClientSession}

/-! ### What an edit records -/

/-- The result of an edit: perhaps another row is selected; or new files are
    published, and the room's undo snapshot holds those before. -/
inductive Records (s : ClientSession) : List ClientRuntimeAction × ClientSession → Prop
  | kept (selected : List Int) (shuffleNonce : UInt64) :
      Records s (selected.map .setPlaylistIndex, { s with playlist.shuffleNonce := shuffleNonce })
  | changed (files : List String) (selected : List Int) (shuffleNonce : UInt64)
      (undoSnapshots : BTreeMap String (List String)) (roomName : String)
      (hallowed : s.sharedPlaylistRuntimeCommandsAllowed = true)
      (hroom : s.roomName = some roomName) (hfiles : files ≠ s.currentFiles)
      (hundo : undoSnapshots[roomName]? = some s.currentFiles) :
      Records s (.setPlaylist files :: selected.map .setPlaylistIndex,
        { s with
          playlist.shuffleNonce := shuffleNonce
          playlist.undoSnapshots := undoSnapshots })

theorem Records.nothing : Records s ([], s) := Records.kept [] s.playlist.shuffleNonce

/-- Publishing other files after capturing the current ones. -/
theorem Records.captured {roomName : String} {files : List String} (selected : List Int)
    (shuffleNonce : UInt64) (hallowed : s.sharedPlaylistRuntimeCommandsAllowed = true)
    (hroom : s.roomName = some roomName) (hfiles : files ≠ s.currentFiles) :
    Records s (.setPlaylist files :: selected.map .setPlaylistIndex,
      ({ s with playlist.shuffleNonce := shuffleNonce } : ClientSession)
        |>.capturePlaylistUndoSnapshot roomName s.currentFiles files) := by
  unfold capturePlaylistUndoSnapshot
  rw [if_neg (by simpa using fun heq : s.currentFiles = files => hfiles heq.symm)]
  split
  · next hsame =>
    exact Records.changed files selected shuffleNonce s.playlist.undoSnapshots roomName hallowed
      hroom hfiles (eq_of_beq hsame)
  · refine Records.changed files selected shuffleNonce _ roomName hallowed hroom hfiles ?_
    exact (getElem?_insert_if _ _ _ _).trans (if_pos rfl)

theorem currentFiles_of_playlist {playlist : RoomPlaylistView}
    (h : s.currentRoomPlaylist = some playlist) : s.currentFiles = playlist.files := by
  unfold currentFiles
  rw [h]
  rfl

theorem currentIndex_of_playlist {playlist : RoomPlaylistView}
    (h : s.currentRoomPlaylist = some playlist) :
    s.currentIndex = playlist.index.bind usizeOf := by
  unfold currentIndex
  rw [h]
  rfl

theorem records_queue (fileName : String) (selectAfterQueue : Bool) :
    Records s (s.localPlaylistQueue fileName selectAfterQueue) := by
  unfold localPlaylistQueue
  split
  · exact Records.nothing
  next hallowed =>
  have hallowed : s.sharedPlaylistRuntimeCommandsAllowed = true := by simpa using hallowed
  split
  · exact Records.nothing
  next roomName hroom =>
  split
  · exact Records.nothing
  split
  · exact Records.nothing
  · dsimp only
    have hfiles : s.currentFiles ++ [fileName] ≠ s.currentFiles := by simp
    exact Records.captured [_] s.playlist.shuffleNonce hallowed hroom hfiles

theorem records_delete (index : Int) : Records s (s.localPlaylistDelete index) := by
  unfold localPlaylistDelete
  split
  · exact Records.nothing
  next hguard =>
  have hallowed : s.sharedPlaylistRuntimeCommandsAllowed = true := by
    simp only [Bool.or_eq_true, not_or] at hguard
    simpa using hguard.1
  split
  · next roomName playlist deleteIndex hroom hplaylist hindex =>
    split
    · exact Records.nothing
    · next hlt =>
      have hcurrent := currentFiles_of_playlist hplaylist
      have hfiles : playlist.files.eraseIdx deleteIndex ≠ s.currentFiles := by
        intro heq
        have hlength := congrArg List.length heq
        rw [hcurrent, List.length_eraseIdx_of_lt (by omega)] at hlength
        omega
      dsimp only
      rw [← hcurrent] at hfiles ⊢
      split
      · exact Records.captured [] s.playlist.shuffleNonce hallowed hroom hfiles
      · exact Records.captured [_] s.playlist.shuffleNonce hallowed hroom hfiles
  · exact Records.nothing

theorem records_replace (files : List String) (selectedIndex : Option Nat) :
    Records s (s.localPlaylistReplace files selectedIndex) := by
  unfold localPlaylistReplace
  split
  · exact Records.nothing
  next hallowed =>
  have hallowed : s.sharedPlaylistRuntimeCommandsAllowed = true := by simpa using hallowed
  split
  · exact Records.nothing
  next roomName hroom =>
  split
  · exact Records.nothing
  dsimp only
  by_cases hsame : files = s.currentFiles
  · have hchanged : (files != s.currentFiles) = false := by simp [hsame]
    rw [hchanged]
    simp only [Bool.false_eq_true, if_false, List.nil_append]
    split
    · exact Records.nothing
    · split
      · exact Records.kept [_] s.playlist.shuffleNonce
      · exact Records.nothing
  · have hchanged : (files != s.currentFiles) = true := by simpa using hsame
    rw [hchanged]
    simp only [if_true, List.cons_append, List.nil_append]
    split
    · exact Records.captured [] s.playlist.shuffleNonce hallowed hroom hsame
    · split
      · exact Records.captured [_] s.playlist.shuffleNonce hallowed hroom hsame
      · exact Records.captured [] s.playlist.shuffleNonce hallowed hroom hsame

theorem records_undo : Records s s.localPlaylistUndo := by
  unfold localPlaylistUndo
  split
  · exact Records.nothing
  next hallowed =>
  have hallowed : s.sharedPlaylistRuntimeCommandsAllowed = true := by simpa using hallowed
  split
  · next roomName playlist hroom hplaylist =>
    split
    · exact Records.nothing
    · next previousFiles hprevious =>
      split
      · exact Records.nothing
      · next hchanged =>
        have hcurrent := currentFiles_of_playlist hplaylist
        have hfiles : previousFiles ≠ s.currentFiles := by
          rw [hcurrent]
          simpa using hchanged
        dsimp only
        rw [← hcurrent]
        split
        · exact Records.captured [] s.playlist.shuffleNonce hallowed hroom hfiles
        · exact Records.captured [_] s.playlist.shuffleNonce hallowed hroom hfiles
  · exact Records.nothing

theorem records_shuffleRemaining (sha256 : List UInt8 → List UInt8) :
    Records s (s.localPlaylistShuffleRemaining sha256) := by
  unfold localPlaylistShuffleRemaining
  split
  · exact Records.nothing
  next hallowed =>
  have hallowed : s.sharedPlaylistRuntimeCommandsAllowed = true := by simpa using hallowed
  split
  · next roomName playlist hroom hplaylist =>
    have hcurrent := currentFiles_of_playlist hplaylist
    split
    · exact Records.nothing
    · split
      · exact Records.nothing
      · dsimp only
        split
        · exact Records.nothing
        · unfold nextPlaylistShuffleSeed
          dsimp only
          split
          · exact Records.kept [] _
          · next hchanged =>
            rw [← hcurrent] at hchanged ⊢
            exact Records.captured [_] (s.playlist.shuffleNonce + 1) hallowed hroom
              (by simpa using hchanged)
  · exact Records.nothing

theorem records_shuffleEntire (sha256 : List UInt8 → List UInt8) :
    Records s (s.localPlaylistShuffleEntire sha256) := by
  unfold localPlaylistShuffleEntire
  split
  · exact Records.nothing
  next hallowed =>
  have hallowed : s.sharedPlaylistRuntimeCommandsAllowed = true := by simpa using hallowed
  split
  · next roomName playlist hroom hplaylist =>
    have hcurrent := currentFiles_of_playlist hplaylist
    split
    · exact Records.nothing
    · unfold nextPlaylistShuffleSeed
      dsimp only
      rw [← hcurrent]
      generalize shufflePlaylistSlice s.currentFiles _ = shuffledFiles
      by_cases hsame : shuffledFiles = s.currentFiles
      · have hchanged : (shuffledFiles != s.currentFiles) = false := by simp [hsame]
        rw [hchanged]
        simp only [Bool.false_eq_true, if_false, List.nil_append, Bool.or_false]
        split
        · exact Records.kept [_] _
        · exact Records.kept [] _
      · have hchanged : (shuffledFiles != s.currentFiles) = true := by simpa using hsame
        rw [hchanged]
        simp only [if_true, List.cons_append, List.nil_append, Bool.or_true]
        exact Records.captured [0] (s.playlist.shuffleNonce + 1) hallowed hroom hsame
  · exact Records.nothing

/-- Every edit records what it replaces. -/
theorem records_actionsFor (sha256 : List UInt8 → List UInt8) (edit : PlaylistEdit) :
    Records s (s.actionsFor sha256 edit) := by
  cases edit with
  | queue fileName selectAfterQueue => exact records_queue fileName selectAfterQueue
  | delete index => exact records_delete index
  | replace files selectedIndex => exact records_replace files selectedIndex
  | undo => exact records_undo
  | shuffleRemaining => exact records_shuffleRemaining sha256
  | shuffleEntire => exact records_shuffleEntire sha256

/-! ### What applying actions does to the files -/

theorem allowed_names (h : s.sharedPlaylistRuntimeCommandsAllowed = true) :
    ∃ roomName localUsername, s.roomName = some roomName ∧ s.username = some localUsername := by
  unfold sharedPlaylistRuntimeCommandsAllowed at h
  rw [Bool.and_eq_true, Bool.and_eq_true] at h
  obtain ⟨localUsername, husername⟩ := Option.isSome_iff_exists.mp h.1.1
  obtain ⟨roomName, hroom⟩ := Option.isSome_iff_exists.mp h.1.2
  exact ⟨roomName, localUsername, hroom, husername⟩

/-- Selections leave the files alone. -/
theorem foldl_selections_files (roomName localUsername : String) (selected : List Int)
    (applied : AppliedActions) :
    ((selected.map ClientRuntimeAction.setPlaylistIndex).foldl
      (applyPlaylistAction roomName localUsername) applied).playlist.files =
        applied.playlist.files := by
  induction selected generalizing applied with
  | nil => rfl
  | cons index rest ih =>
    rw [List.map_cons, List.foldl_cons, ih]
    unfold applyPlaylistAction
    dsimp only
    split
    · rfl
    · split <;> rfl

theorem foldl_selections_changed (roomName localUsername : String) (selected : List Int)
    {applied : AppliedActions} (h : applied.playlistChanged = true) :
    ((selected.map ClientRuntimeAction.setPlaylistIndex).foldl
      (applyPlaylistAction roomName localUsername) applied).playlistChanged = true := by
  induction selected generalizing applied with
  | nil => exact h
  | cons index rest ih =>
    rw [List.map_cons, List.foldl_cons]
    refine ih ?_
    unfold applyPlaylistAction
    dsimp only
    split
    · exact h
    · split
      · exact h
      · rfl

/-- What applying actions leaves alone. -/
theorem apply_frame (actions : List ClientRuntimeAction) :
    let s' := s.applyLocalPlaylistRuntimeActions actions
    s'.username = s.username ∧ s'.phase = s.phase ∧ s'.roomName = s.roomName
      ∧ s'.playlist.undoSnapshots = s.playlist.undoSnapshots := by
  unfold applyLocalPlaylistRuntimeActions
  split
  · dsimp only
    split <;> exact ⟨rfl, rfl, rfl, rfl⟩
  · exact ⟨rfl, rfl, rfl, rfl⟩

theorem lookup_current {rooms : BTreeMap String RoomPlaylistView} {roomName : String}
    {playlist : RoomPlaylistView} : (rooms.insert roomName playlist)[roomName]? = some playlist :=
  (getElem?_insert_if _ _ _ _).trans (if_pos rfl)

theorem currentFiles_apply_selections (selected : List Int) :
    (s.applyLocalPlaylistRuntimeActions
      (selected.map .setPlaylistIndex)).currentFiles = s.currentFiles := by
  unfold applyLocalPlaylistRuntimeActions
  split
  · next roomName localUsername hroom husername =>
    dsimp only
    split
    · unfold currentFiles currentRoomPlaylist
      dsimp only
      rw [hroom, Option.bind_some, Option.bind_some, lookup_current, Option.map_some,
        Option.getD_some, foldl_selections_files]
      cases s.playlist.rooms[roomName]? <;> rfl
    · rfl
  · rfl

theorem currentFiles_apply_changed (h : s.sharedPlaylistRuntimeCommandsAllowed = true)
    (files : List String) (selected : List Int) :
    (s.applyLocalPlaylistRuntimeActions
        (.setPlaylist files :: selected.map .setPlaylistIndex)).currentFiles = files
      ∧ ∃ playlist, (s.applyLocalPlaylistRuntimeActions
        (.setPlaylist files :: selected.map .setPlaylistIndex)).currentRoomPlaylist
          = some playlist := by
  obtain ⟨roomName, localUsername, hroom, husername⟩ := allowed_names h
  unfold applyLocalPlaylistRuntimeActions
  rw [hroom, husername]
  dsimp only
  rw [List.foldl_cons, if_pos (foldl_selections_changed _ _ _ rfl)]
  unfold currentFiles currentRoomPlaylist
  dsimp only
  rw [Option.bind_some, lookup_current]
  refine ⟨?_, _, rfl⟩
  rw [Option.map_some, Option.getD_some, foldl_selections_files]
  rfl

/-! ### Undo -/

/-- An undo does nothing, and the snapshot holds nothing new, or it publishes the
    snapshot. -/
theorem undo_cases :
    (s.localPlaylistUndo = ([], s) ∧ ∀ roomName playlist previousFiles,
        s.sharedPlaylistRuntimeCommandsAllowed = true → s.roomName = some roomName →
        s.currentRoomPlaylist = some playlist →
        s.playlist.undoSnapshots[roomName]? = some previousFiles → previousFiles = playlist.files)
      ∨ ∃ roomName previousFiles selected s', s.roomName = some roomName
        ∧ s.playlist.undoSnapshots[roomName]? = some previousFiles
        ∧ previousFiles ≠ s.currentFiles ∧ s'.sharedPlaylistRuntimeCommandsAllowed = true
        ∧ s.localPlaylistUndo =
          (.setPlaylist previousFiles :: List.map .setPlaylistIndex selected, s') := by
  unfold localPlaylistUndo
  split
  · next hdenied =>
    refine .inl ⟨rfl, fun roomName playlist previousFiles hallowed => ?_⟩
    rw [hallowed] at hdenied
    cases hdenied
  next hallowed =>
  have hallowed : s.sharedPlaylistRuntimeCommandsAllowed = true := by simpa using hallowed
  split
  · next roomName playlist hroom hplaylist =>
    split
    · next hnone =>
      refine .inl ⟨rfl, fun room playlist' previousFiles _ hsame _ hundo => ?_⟩
      obtain rfl := Option.some.inj (hroom.symm.trans hsame)
      rw [hnone] at hundo
      cases hundo
    · next previousFiles hundo =>
      split
      · next hequal =>
        refine .inl ⟨rfl, fun room playlist' previousFiles' _ hsame hplaylist' hundo' => ?_⟩
        obtain rfl := Option.some.inj (hroom.symm.trans hsame)
        obtain rfl := Option.some.inj (hplaylist.symm.trans hplaylist')
        obtain rfl := Option.some.inj (hundo.symm.trans hundo')
        exact eq_of_beq hequal
      · next hchanged =>
        have hfiles : previousFiles ≠ s.currentFiles := by
          rw [currentFiles_of_playlist hplaylist]
          simpa using hchanged
        have hcaptured : (s.capturePlaylistUndoSnapshot roomName playlist.files
            previousFiles).sharedPlaylistRuntimeCommandsAllowed = true := by
          unfold capturePlaylistUndoSnapshot
          split
          · exact hallowed
          · split <;> exact hallowed
        dsimp only
        split
        · exact .inr ⟨roomName, previousFiles, [], _, hroom, hundo, hfiles, hcaptured, rfl⟩
        · exact .inr ⟨roomName, previousFiles, [_], _, hroom, hundo, hfiles, hcaptured, rfl⟩
  · next hnone =>
    refine .inl ⟨rfl, fun roomName playlist previousFiles _ hroom hplaylist => ?_⟩
    exact absurd hplaylist (hnone roomName playlist hroom)

theorem apply_nothing : s.applyLocalPlaylistRuntimeActions [] = s := by
  unfold applyLocalPlaylistRuntimeActions
  split <;> rfl

/-- An undo brings the snapshot back. -/
theorem edited_undo (sha256 : List UInt8 → List UInt8)
    (hallowed : s.sharedPlaylistRuntimeCommandsAllowed = true) {roomName : String}
    (hroom : s.roomName = some roomName) {playlist : RoomPlaylistView}
    (hplaylist : s.currentRoomPlaylist = some playlist) {previousFiles : List String}
    (hundo : s.playlist.undoSnapshots[roomName]? = some previousFiles) :
    (s.edited sha256 .undo).currentFiles = previousFiles := by
  unfold edited actionsFor
  rcases undo_cases (s := s) with ⟨hnothing, hsame⟩ | ⟨room, files, selected, s', hroom', hundo',
    -, hallowed', hresult⟩
  · rw [hnothing]
    show (s.applyLocalPlaylistRuntimeActions []).currentFiles = _
    rw [apply_nothing, currentFiles_of_playlist hplaylist,
      hsame roomName playlist previousFiles hallowed hroom hplaylist hundo]
  · obtain rfl := Option.some.inj (hroom.symm.trans hroom')
    obtain rfl := Option.some.inj (hundo.symm.trans hundo')
    rw [hresult]
    exact (currentFiles_apply_changed hallowed' previousFiles selected).1

/-- What is left after an edit: the same files, or others and the old ones to undo to. -/
theorem edited_cases (sha256 : List UInt8 → List UInt8) (edit : PlaylistEdit) :
    (s.edited sha256 edit).currentFiles = s.currentFiles
      ∨ (s.edited sha256 edit).sharedPlaylistRuntimeCommandsAllowed = true
        ∧ (∃ roomName, (s.edited sha256 edit).roomName = some roomName
          ∧ (s.edited sha256 edit).playlist.undoSnapshots[roomName]? = some s.currentFiles)
        ∧ ∃ playlist, (s.edited sha256 edit).currentRoomPlaylist = some playlist := by
  have hrecords := records_actionsFor (s := s) sha256 edit
  unfold edited
  generalize s.actionsFor sha256 edit = result at hrecords ⊢
  cases hrecords with
  | kept selected shuffleNonce => exact .inl (currentFiles_apply_selections selected)
  | changed files selected shuffleNonce undoSnapshots roomName hallowed hroom hfiles hundo =>
    right
    dsimp only
    generalize hs' : ({ s with
      playlist.shuffleNonce := shuffleNonce
      playlist.undoSnapshots := undoSnapshots } : ClientSession) = s'
    have hallowed' : s'.sharedPlaylistRuntimeCommandsAllowed = true := by
      rw [← hs']
      exact hallowed
    obtain ⟨husername, hphase, hsameroom, hsameundo⟩ :=
      apply_frame (s := s') (.setPlaylist files :: selected.map .setPlaylistIndex)
    obtain ⟨-, playlist, hplaylist⟩ := currentFiles_apply_changed hallowed' files selected
    refine ⟨?_, ⟨roomName, ?_, ?_⟩, playlist, hplaylist⟩
    · unfold sharedPlaylistRuntimeCommandsAllowed serverSharedPlaylistsSupported at hallowed' ⊢
      rw [husername, hphase, hsameroom]
      exact hallowed'
    · rw [hsameroom, ← hs']
      exact hroom
    · rw [hsameundo, ← hs']
      exact hundo

/-- The undo of an edit brings the files before the edit back. -/
theorem edited_then_undone (sha256 : List UInt8 → List UInt8) {edit : PlaylistEdit}
    (hchanged : (s.edited sha256 edit).currentFiles ≠ s.currentFiles) :
    ((s.edited sha256 edit).edited sha256 .undo).currentFiles = s.currentFiles := by
  rcases edited_cases (s := s) sha256 edit with hsame | ⟨hallowed, ⟨room, hroom, hundo⟩, playlist,
    hplaylist⟩
  · exact absurd hsame hchanged
  · exact edited_undo sha256 hallowed hroom hplaylist hundo

/-- An undo that changes no files changes nothing. -/
theorem undo_of_unchanged (sha256 : List UInt8 → List UInt8)
    (h : (s.edited sha256 .undo).currentFiles = s.currentFiles) :
    s.edited sha256 .undo = s := by
  unfold edited actionsFor at h ⊢
  rcases undo_cases (s := s) with ⟨hnothing, -⟩ | ⟨room, files, selected, s', -, -, hfiles,
    hallowed, hresult⟩
  · rw [hnothing]
    exact apply_nothing
  · rw [hresult] at h
    exact absurd ((currentFiles_apply_changed hallowed files selected).1.symm.trans h) hfiles

/-- Two undos in a row restore the files. -/
theorem undone_twice (sha256 : List UInt8 → List UInt8) :
    ((s.edited sha256 .undo).edited sha256 .undo).currentFiles = s.currentFiles := by
  by_cases hchanged : (s.edited sha256 .undo).currentFiles = s.currentFiles
  · rw [undo_of_unchanged sha256 hchanged, hchanged]
  · exact edited_then_undone sha256 hchanged

end ClientSession

end Sorotte.Session
