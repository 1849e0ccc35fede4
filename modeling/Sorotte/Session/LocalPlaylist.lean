import Sorotte.Framework.Maps

/-! # Local playlist edits

  The part of the client session that edits the shared playlist of the current
  room: every edit keeps the files it replaces as the room's undo snapshot and
  asks the runtime to publish the new files and the row to select.  The runtime
  applies the same actions to the session once they are on their way.
-/

namespace Sorotte.Session

open Framework

/-! ### State -/

structure RoomPlaylistView where
  files : List String := []
  index : Option Int := none
  setBy : Option String := none
  revision : UInt64 := 0
  deriving DecidableEq

structure PlaylistState where
  rooms : BTreeMap String RoomPlaylistView := ∅
  selectionRevisions : BTreeMap String UInt64 := ∅
  undoSnapshots : BTreeMap String (List String) := ∅
  shuffleNonce : UInt64 := 0

/-- What the negotiated connection lets the client do. -/
structure ServerCapabilities where
  sharedPlaylists : Bool := false

inductive ConnectionPhase where
  | disconnected | connecting | awaitingHello
  | active (capabilities : ServerCapabilities)
  | reconnecting (attempt : UInt32)
  | closing

structure ClientSession where
  username : Option String := none
  phase : ConnectionPhase := .disconnected
  roomName : Option String := none
  playlist : PlaylistState := {}

inductive ClientRuntimeAction where
  | setPlaylist (files : List String)
  | setPlaylistIndex (index : Int)
  deriving DecidableEq

/-- `usize::try_from(index).ok()`. -/
def usizeOf (index : Int) : Option Nat := if 0 ≤ index then some index.toNat else none

/-! ### The row to select in a changed playlist -/

section targets

variable (currentFiles newFiles : List String)

/-- `retained_index`: where the row went.  The same occurrence of its label, or
    the label's last one. -/
def retainedIndex (index : Nat) : Option Nat := do
  let fileName ← currentFiles[index]?
  let occurrence := (currentFiles.take index).countP (· == fileName)
  let positions := newFiles.findIdxs (· == fileName)
  positions[occurrence]? <|> positions.getLast?

/-- The first `while` loop: the row itself and the rows after it. -/
def retainedFrom (index : Nat) : Option Nat :=
  (List.range' index (currentFiles.length + 1 - index)).findSome?
    (retainedIndex currentFiles newFiles)

/-- The second `while` loop: the row itself and the rows before it, down to the
    second.  The row after what is retained is selected. -/
def retainedBefore (index : Nat) : Option Nat :=
  ((List.range' 1 index).reverse.findSome? (retainedIndex currentFiles newFiles)).map
    fun validIndex => if validIndex < newFiles.length - 1 then validIndex + 1 else validIndex

/-- `local_playlist_target_index_from_changed_playlist`. -/
def localPlaylistTargetIndexFromChangedPlaylist (currentIndex : Option Nat) : Nat :=
  match currentIndex with
  | none => 0
  | some currentIndex =>
    if newFiles.length ≤ 1 then 0
    else
      match retainedFrom currentFiles newFiles currentIndex with
      | some validIndex => validIndex
      | none => (retainedBefore currentFiles newFiles currentIndex).getD 0

end targets

/-! ### Shuffling -/

/-- `next_shuffle_state`. -/
def nextShuffleState (state : UInt64) : UInt64 :=
  state * 6364136223846793005 + 1442695040888963407

/-- One round of the shuffle loop. -/
def shuffleRound (round : Array String × UInt64) (index : Nat) : Array String × UInt64 :=
  let state := nextShuffleState round.2
  (round.1.swapIfInBounds index (state.toNat % (index + 1)), state)

/-- `shuffle_playlist_slice_in_place`. -/
def shufflePlaylistSlice (files : List String) (seed : UInt64) : List String :=
  ((List.range' 1 (files.length - 1)).reverse.foldl shuffleRound (files.toArray, seed)).1.toList

/-- `to_le_bytes`. -/
def leBytes (value : UInt64) : List UInt8 :=
  (List.range 8).map fun i => (value >>> (8 * i.toUInt64)).toUInt8

/-- `u64::from_le_bytes`. -/
def ofLeBytes (bytes : List UInt8) : UInt64 :=
  bytes.foldr (fun byte value => (value <<< 8) ||| byte.toUInt64) 0

/-- The digest that `next_playlist_shuffle_seed` takes its seed from. -/
def shuffleSeed (sha256 : List UInt8 → List UInt8) (files : List String) (currentIndex : Nat)
    (nonce : UInt64) (shuffleScopeRemaining : Bool) : UInt64 :=
  let scope := if shuffleScopeRemaining then "remaining" else "entire"
  let digest := sha256 (scope.toUTF8.toList ++ leBytes currentIndex.toUInt64 ++ leBytes nonce
    ++ files.flatMap fun fileName => fileName.toUTF8.toList ++ [0])
  let seed := ofLeBytes (digest.take 8)
  if seed == 0 then 0x9E3779B97F4A7C15 else seed

/-! ### Edits -/

namespace ClientSession

variable (s : ClientSession)

def serverSharedPlaylistsSupported : Bool :=
  match s.phase with
  | .active capabilities => capabilities.sharedPlaylists
  | _ => false

/-- `shared_playlist_runtime_commands_allowed`. -/
def sharedPlaylistRuntimeCommandsAllowed : Bool :=
  s.username.isSome && s.roomName.isSome && s.serverSharedPlaylistsSupported

/-- `current_room_playlist`. -/
def currentRoomPlaylist : Option RoomPlaylistView :=
  s.roomName.bind fun roomName => s.playlist.rooms[roomName]?

/-- The files of the current room, none before it has a playlist. -/
def currentFiles : List String := (s.currentRoomPlaylist.map (·.files)).getD []

/-- The selected row of the current room, as an index. -/
def currentIndex : Option Nat := s.currentRoomPlaylist.bind fun playlist =>
  playlist.index.bind usizeOf

/-- `capture_playlist_undo_snapshot`. -/
def capturePlaylistUndoSnapshot (roomName : String) (currentFiles newFiles : List String) :
    ClientSession :=
  if currentFiles == newFiles then s
  else if s.playlist.undoSnapshots[roomName]? == some currentFiles then s
  else
    { s with
      playlist.undoSnapshots := s.playlist.undoSnapshots.insert roomName currentFiles }

/-- `next_playlist_shuffle_seed`. -/
def nextPlaylistShuffleSeed (sha256 : List UInt8 → List UInt8) (files : List String)
    (currentIndex : Nat) (shuffleScopeRemaining : Bool) : UInt64 × ClientSession :=
  (shuffleSeed sha256 files currentIndex s.playlist.shuffleNonce shuffleScopeRemaining,
    { s with playlist.shuffleNonce := s.playlist.shuffleNonce + 1 })

/-- `runtime_actions_for_local_playlist_queue`. -/
def localPlaylistQueue (fileName : String) (selectAfterQueue : Bool) :
    List ClientRuntimeAction × ClientSession :=
  if !s.sharedPlaylistRuntimeCommandsAllowed then ([], s)
  else
    match s.roomName with
    | none => ([], s)
    | some roomName =>
      if fileName.isEmpty then ([], s)
      else if s.currentFiles.any (· == fileName) then ([], s)
      else
        let files := s.currentFiles ++ [fileName]
        let targetIndex :=
          if selectAfterQueue then files.length - 1
          else (s.currentIndex.filter (· < s.currentFiles.length)).getD 0
        ([.setPlaylist files, .setPlaylistIndex targetIndex],
          s.capturePlaylistUndoSnapshot roomName s.currentFiles files)

/-- The row selected after a deletion. -/
def indexAfterDelete (currentIndex : Option Nat) (deleteIndex remaining : Nat) : Nat :=
  min ((currentIndex.map fun current =>
    if current < deleteIndex then current
    else if deleteIndex < current then current - 1
    else min deleteIndex (remaining - 1)).getD 0) (remaining - 1)

/-- `runtime_actions_for_local_playlist_delete`. -/
def localPlaylistDelete (index : Int) : List ClientRuntimeAction × ClientSession :=
  if !s.sharedPlaylistRuntimeCommandsAllowed || index < 0 then ([], s)
  else
    match s.roomName, s.currentRoomPlaylist, usizeOf index with
    | some roomName, some playlist, some deleteIndex =>
      if playlist.files.length ≤ deleteIndex then ([], s)
      else
        let files := playlist.files.eraseIdx deleteIndex
        let captured := s.capturePlaylistUndoSnapshot roomName playlist.files files
        if files.isEmpty then ([.setPlaylist files], captured)
        else
          ([.setPlaylist files, .setPlaylistIndex
            (indexAfterDelete (playlist.index.bind usizeOf) deleteIndex files.length)], captured)
    | _, _, _ => ([], s)

/-- `runtime_actions_for_local_playlist_replace`. -/
def localPlaylistReplace (files : List String) (selectedIndex : Option Nat) :
    List ClientRuntimeAction × ClientSession :=
  if !s.sharedPlaylistRuntimeCommandsAllowed then ([], s)
  else
    match s.roomName with
    | none => ([], s)
    | some roomName =>
      if files.any (·.isEmpty) then ([], s)
      else
        let playlistChanged := files != s.currentFiles
        let captured :=
          if playlistChanged then s.capturePlaylistUndoSnapshot roomName s.currentFiles files
          else s
        let published := if playlistChanged then [.setPlaylist files] else []
        if files.isEmpty then (published, captured)
        else
          let targetIndex := (selectedIndex.filter (· < files.length)).getD
            (min (localPlaylistTargetIndexFromChangedPlaylist s.currentFiles files s.currentIndex)
              (files.length - 1))
          let selected :=
            if s.currentIndex != some targetIndex then [.setPlaylistIndex targetIndex] else []
          (published ++ selected, captured)

/-- `runtime_actions_for_local_playlist_undo`. -/
def localPlaylistUndo : List ClientRuntimeAction × ClientSession :=
  if !s.sharedPlaylistRuntimeCommandsAllowed then ([], s)
  else
    match s.roomName, s.currentRoomPlaylist with
    | some roomName, some playlist =>
      match s.playlist.undoSnapshots[roomName]? with
      | none => ([], s)
      | some previousFiles =>
        if previousFiles == playlist.files then ([], s)
        else
          let captured := s.capturePlaylistUndoSnapshot roomName playlist.files previousFiles
          if previousFiles.isEmpty then ([.setPlaylist previousFiles], captured)
          else
            let targetIndex := min (localPlaylistTargetIndexFromChangedPlaylist playlist.files
              previousFiles (playlist.index.bind usizeOf)) (previousFiles.length - 1)
            ([.setPlaylist previousFiles, .setPlaylistIndex targetIndex], captured)
    | _, _ => ([], s)

/-- `runtime_actions_for_local_playlist_shuffle_remaining`. -/
def localPlaylistShuffleRemaining (sha256 : List UInt8 → List UInt8) :
    List ClientRuntimeAction × ClientSession :=
  if !s.sharedPlaylistRuntimeCommandsAllowed then ([], s)
  else
    match s.roomName, s.currentRoomPlaylist with
    | some roomName, some playlist =>
      match playlist.index.bind usizeOf with
      | none => ([], s)
      | some currentIndex =>
        if playlist.files.length ≤ currentIndex then ([], s)
        else
          let shuffleStart := currentIndex + 1
          if playlist.files.length ≤ shuffleStart then ([], s)
          else
            let (seed, s) := s.nextPlaylistShuffleSeed sha256 playlist.files currentIndex true
            let shuffledFiles := playlist.files.take shuffleStart
              ++ shufflePlaylistSlice (playlist.files.drop shuffleStart) seed
            if shuffledFiles == playlist.files then ([], s)
            else
              ([.setPlaylist shuffledFiles, .setPlaylistIndex currentIndex],
                s.capturePlaylistUndoSnapshot roomName playlist.files shuffledFiles)
    | _, _ => ([], s)

/-- `runtime_actions_for_local_playlist_shuffle_entire`. -/
def localPlaylistShuffleEntire (sha256 : List UInt8 → List UInt8) :
    List ClientRuntimeAction × ClientSession :=
  if !s.sharedPlaylistRuntimeCommandsAllowed then ([], s)
  else
    match s.roomName, s.currentRoomPlaylist with
    | some roomName, some playlist =>
      if playlist.files.isEmpty then ([], s)
      else
        let currentIndex := playlist.index.bind usizeOf
        let (seed, s) :=
          s.nextPlaylistShuffleSeed sha256 playlist.files (currentIndex.getD 0) false
        let shuffledFiles := shufflePlaylistSlice playlist.files seed
        let playlistChanged := shuffledFiles != playlist.files
        let captured :=
          if playlistChanged then
            s.capturePlaylistUndoSnapshot roomName playlist.files shuffledFiles
          else s
        ((if playlistChanged then [.setPlaylist shuffledFiles] else [])
          ++ (if currentIndex != some 0 || playlistChanged then [.setPlaylistIndex 0] else []),
          captured)
    | _, _ => ([], s)

/-! ### Applying published actions -/

/-- What the loop of `apply_local_playlist_runtime_actions` works on: the room's
    playlist, the selection revisions and whether anything changed. -/
structure AppliedActions where
  playlist : RoomPlaylistView
  selectionRevisions : BTreeMap String UInt64
  playlistChanged : Bool

/-- One round of the loop. -/
def applyPlaylistAction (roomName localUsername : String) (applied : AppliedActions) :
    ClientRuntimeAction → AppliedActions
  | .setPlaylist files =>
    { applied with
      playlist :=
        { revision := applied.playlist.revision + 1
          files := files
          index := if files.isEmpty then none else applied.playlist.index
          setBy := some localUsername }
      playlistChanged := true }
  | .setPlaylistIndex index =>
    match usizeOf index with
    | none => applied
    | some indexUsize =>
      if applied.playlist.files.length ≤ indexUsize then applied
      else
        let selectionRevision := (applied.selectionRevisions[roomName]?).getD 0
        { playlist :=
            { applied.playlist with index := some index, setBy := some localUsername }
          selectionRevisions := applied.selectionRevisions.insert roomName (selectionRevision + 1)
          playlistChanged := true }

/-- `apply_local_playlist_runtime_actions`. -/
def applyLocalPlaylistRuntimeActions (actions : List ClientRuntimeAction) : ClientSession :=
  match s.roomName, s.username with
  | some roomName, some localUsername =>
    let applied := actions.foldl (applyPlaylistAction roomName localUsername)
      ⟨(s.playlist.rooms[roomName]?).getD {}, s.playlist.selectionRevisions, false⟩
    if applied.playlistChanged then
      { s with
        playlist.rooms := s.playlist.rooms.insert roomName applied.playlist
        playlist.selectionRevisions := applied.selectionRevisions }
    else s
  | _, _ => s

/-- The local edits of a playlist. -/
inductive PlaylistEdit where
  | queue (fileName : String) (selectAfterQueue : Bool)
  | delete (index : Int)
  | replace (files : List String) (selectedIndex : Option Nat)
  | undo
  | shuffleRemaining
  | shuffleEntire

/-- The actions that an edit asks for, and the session that remembers what they
    replace. -/
def actionsFor (sha256 : List UInt8 → List UInt8) : PlaylistEdit →
    List ClientRuntimeAction × ClientSession
  | .queue fileName selectAfterQueue => s.localPlaylistQueue fileName selectAfterQueue
  | .delete index => s.localPlaylistDelete index
  | .replace files selectedIndex => s.localPlaylistReplace files selectedIndex
  | .undo => s.localPlaylistUndo
  | .shuffleRemaining => s.localPlaylistShuffleRemaining sha256
  | .shuffleEntire => s.localPlaylistShuffleEntire sha256

/-- An edit whose actions were published and applied. -/
def edited (sha256 : List UInt8 → List UInt8) (edit : PlaylistEdit) : ClientSession :=
  let (actions, s) := s.actionsFor sha256 edit
  s.applyLocalPlaylistRuntimeActions actions

end ClientSession

end Sorotte.Session
