import Sorotte.Server.State

/-! # The room store

  `RoomPersistenceStore` of `persistence.rs`: one SQLite table of persisted
  rooms, written by an upsert and read back as a whole at server start.

  Every text column is declared `STRING`, which SQLite gives NUMERIC affinity:
  text that reads as a number is stored as that number.  SQLite's reading of
  numbers is the parameter `Sqlite`, and what its documentation says of it the
  hypothesis `Sqlite.Documented`.  The JSON codec of playlists is the parameter
  `JsonCodec`.
-/

namespace Sorotte.Persistence

open Sorotte.Server

/-! ### Numeric text -/

/-- A number of one of SQLite's two numeric storage classes. -/
inductive SqlNumber where
  | integer (value : Int)
  | real (value : ℚ)
  deriving DecidableEq

/-- A stored value. -/
inductive SqlValue where
  | null
  | number (value : SqlNumber)
  | text (value : String)
  deriving DecidableEq

/-- How SQLite reads text as a number: which text is one, and which number it is. -/
structure Sqlite where
  isNumeric : String → Bool
  number : String → SqlNumber

/-- The whitespace that may surround numeric text. -/
def isSqlSpace (c : Char) : Bool :=
  c == ' ' || (9 ≤ c.toNat && c.toNat ≤ 13)

/-- What follows an optional sign. -/
def dropSign : List Char → List Char
  | '-' :: rest | '+' :: rest => rest
  | rest => rest

/-- What follows an optional exponent.  An `e` that no digit follows is no exponent. -/
def dropExponent : List Char → List Char
  | c :: rest =>
    let digits := dropSign rest
    if (c == 'e' || c == 'E') && digits.head?.any Char.isDigit then digits.dropWhile Char.isDigit
    else c :: rest
  | [] => []

/-- Digits with an optional decimal point, one digit at least, and what follows them. -/
def takeDecimal (chars : List Char) : Option (List Char) :=
  let whole := chars.takeWhile Char.isDigit
  match chars.dropWhile Char.isDigit with
  | '.' :: rest =>
    let fraction := rest.takeWhile Char.isDigit
    if (whole ++ fraction).isEmpty then none else some (rest.dropWhile Char.isDigit)
  | rest => if whole.isEmpty then none else some rest

/-- Well-formed numeric text, surrounding whitespace aside. -/
def isNumericText (text : String) : Bool :=
  match takeDecimal (dropSign (text.toList.dropWhile isSqlSpace)) with
  | none => false
  | some rest => ((dropExponent rest).dropWhile isSqlSpace).isEmpty

/-- No NUL, with which a C string ends. -/
def nulFree (text : String) : Prop := '\x00' ∉ text.toList

instance (text : String) : Decidable (nulFree text) := inferInstanceAs (Decidable (_ ∉ _))

/-- **Documented affinity**: text without a NUL is a number exactly when it is well-formed numeric
    text.  Nothing is assumed of text with a NUL. -/
def Sqlite.Documented (sqlite : Sqlite) : Prop :=
  ∀ text, nulFree text → sqlite.isNumeric text = isNumericText text

/-- Largest `i64`. -/
def i64Max : Nat := 2 ^ 63 - 1

/-- What a NUMERIC column stores for a text. -/
def storedText (sqlite : Sqlite) (text : String) : SqlValue :=
  if sqlite.isNumeric text then .number (sqlite.number text) else .text text

/-! ### Rows -/

/-- `serde_json` on playlists. -/
structure JsonCodec where
  encode : List String → String
  decode : String → Option (List String)

structure PersistedRoomState where
  files : List String
  index : Option Int
  position : Seconds
  lastActivityAtSeconds : Seconds
  version : Nat
  ownerBucket : Option String
  createdAtSeconds : Seconds
  deriving DecidableEq

/-- `RoomPlaylistState::normalize_index`. -/
def normalizeIndex (playlist : RoomPlaylistState) : RoomPlaylistState × Bool :=
  let normalized : Option Int :=
    if playlist.files.isEmpty then none
    else some (max 0 (min (playlist.index.getD 0) (playlist.files.length - 1)))
  ({ playlist with index := normalized }, playlist.index != normalized)

/-- A playlist with these files and this index, its index normalized. -/
def normalizedIndex (files : List String) (index : Option Int) : Option Int :=
  (normalizeIndex { files, index, epoch := 0 }).1.index

/-- `playlist_as_multiline`. -/
def playlistAsMultiline (files : List String) : String := "\n".intercalate files

/-- `multiline_as_playlist`. -/
def multilineAsPlaylist (multiline : String) : List String :=
  if multiline.isEmpty then [] else multiline.splitOn "\n"

/-- One row of `persistent_rooms`.  The columns with a numeric type hold what is
    bound to them. -/
structure RoomRow where
  name : SqlValue
  playlist : SqlValue
  playlistJson : SqlValue
  playlistIndex : Option Int
  position : Seconds
  lastSavedUpdate : Seconds
  persistenceVersion : Nat
  ownerBucket : SqlValue
  createdAt : Seconds
  deriving DecidableEq

/-- The table, in row order; `name` is its primary key. -/
abbrev RoomTable := List RoomRow

inductive RoomPersistenceError where
  | sqlite (action : String)
  deriving DecidableEq

section store

variable (sqlite : Sqlite) (json : JsonCodec)

/-- The row that `save_room` writes. -/
def savedRow (roomName : String) (state : PersistedRoomState) : RoomRow :=
  { name := storedText sqlite roomName
    playlist := storedText sqlite (playlistAsMultiline state.files)
    playlistJson := storedText sqlite (json.encode state.files)
    playlistIndex := normalizedIndex state.files state.index
    position := state.position
    lastSavedUpdate := state.lastActivityAtSeconds
    persistenceVersion := state.version
    ownerBucket :=
      match state.ownerBucket with
      | some bucket => storedText sqlite bucket
      | none => .null
    createdAt := state.createdAtSeconds }

/-- The upsert: a conflicting row is replaced by a larger version only. -/
def upsertRow (table : RoomTable) (row : RoomRow) : RoomTable :=
  if table.any (·.name == row.name) then
    table.map fun old =>
      if old.name == row.name && old.persistenceVersion < row.persistenceVersion then row else old
  else table ++ [row]

/-- `save_room`; `none` is the panic on a version beyond `i64`. -/
def saveRoom (table : RoomTable) (roomName : String) (state : PersistedRoomState) :
    Option RoomTable :=
  if state.version ≤ i64Max then some (upsertRow table (savedRow sqlite json roomName state))
  else none

/-- `row.get::<_, String>`. -/
def getText : SqlValue → Except RoomPersistenceError String
  | .text value => .ok value
  | _ => .error (.sqlite "decode persisted room row")

/-- `row.get::<_, Option<String>>`. -/
def getOptionalText : SqlValue → Except RoomPersistenceError (Option String)
  | .null => .ok none
  | .text value => .ok (some value)
  | .number _ => .error (.sqlite "decode persisted room row")

/-- A decoded row: the room, its state, and which migrations it needs. -/
structure DecodedRow where
  roomName : String
  state : PersistedRoomState
  needsJsonMigration : Bool
  needsIndexMigration : Bool

def decodeRow (row : RoomRow) : Except RoomPersistenceError DecodedRow := do
  let roomName ← getText row.name
  let playlistMultiline ← getOptionalText row.playlist
  let playlistJson ← getOptionalText row.playlistJson
  let ownerBucket ← getOptionalText row.ownerBucket
  let decodedJson := playlistJson.bind json.decode
  let files := decodedJson.getD (multilineAsPlaylist (playlistMultiline.getD ""))
  let (playlist, needsIndexMigration) :=
    normalizeIndex { files, index := row.playlistIndex, epoch := 0 }
  return {
    roomName
    state :=
      { files := playlist.files
        index := playlist.index
        position := row.position
        lastActivityAtSeconds := row.lastSavedUpdate
        version := row.persistenceVersion
        ownerBucket
        createdAtSeconds := row.createdAt }
    needsJsonMigration := decodedJson.isNone
    needsIndexMigration }

/-- The write-back of a decoded row that needs a migration. -/
def migrateRow (table : RoomTable) (decoded : DecodedRow) : RoomTable :=
  let key := storedText sqlite decoded.roomName
  let table :=
    if decoded.needsJsonMigration then
      table.map fun row =>
        if row.name == key then
          { row with playlistJson := storedText sqlite (json.encode decoded.state.files) }
        else row
    else table
  if decoded.needsIndexMigration then
    table.map fun row =>
      if row.name == key then { row with playlistIndex := decoded.state.index } else row
  else table

/-- `load_rooms`: the rooms by name, and the migrated table. -/
def loadRooms (table : RoomTable) :
    Except RoomPersistenceError (BTreeMap String PersistedRoomState × RoomTable) := do
  let decodedRows ← table.mapM (decodeRow json)
  return (decodedRows.foldl (fun rooms row => rooms.insert row.roomName row.state) ∅,
    decodedRows.foldl (migrateRow sqlite json) table)

/-- The table after a sequence of saves. -/
def tableAfter : List (String × PersistedRoomState) → Option RoomTable :=
  List.foldlM (fun table save => saveRoom sqlite json table save.1 save.2) []

end store

end Sorotte.Persistence
