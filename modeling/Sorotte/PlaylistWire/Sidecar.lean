import Sorotte.Framework.PercentEncoding
import Sorotte.PlaylistWire.Payloads

/-! # The Plex sidecar

  A legacy client is sent file names, and the Plex URIs that they stand for go
  beside them, in an array that has a null where a file is not a Plex URI.  A
  text is cut and decoded as its UTF-8.
-/

namespace Sorotte.PlaylistWire

open Sorotte.Framework

/-- `SOROTTE_PLEX_PLAYLIST_URIS_KEY`. -/
def sorottePlexPlaylistUrisKey : String := "sorottePlexPlaylistUris"

/-! ### URIs -/

/-- `u8::to_ascii_lowercase`. -/
def toAsciiLowercase (byte : UInt8) : UInt8 :=
  if 0x41 ≤ byte && byte ≤ 0x5A then byte + 0x20 else byte

/-- `b"plex://"`. -/
def plexScheme : List UInt8 := [0x70, 0x6C, 0x65, 0x78, 0x3A, 0x2F, 0x2F]

/-- `is_sorotte_plex_playlist_uri`. -/
def isSorottePlexPlaylistUri (value : String) : Bool :=
  ((utf8Bytes value).take plexScheme.length).map toAsciiLowercase
    == plexScheme.map toAsciiLowercase

/-! ### Cutting -/

/-- `split_once`, at the first occurrence. -/
def splitOnce (separator : Char) : List Char → Option (List Char × List Char)
  | [] => none
  | c :: rest =>
    if c = separator then some ([], rest)
    else (splitOnce separator rest).map fun parts => (c :: parts.1, parts.2)

/-- `split`; a text without the separator is one piece. -/
def splitAll (separator : Char) : List Char → List (List Char)
  | [] => [[]]
  | c :: rest =>
    if c = separator then [] :: splitAll separator rest
    else match splitAll separator rest with
      | [] => [[c]]
      | piece :: pieces => (c :: piece) :: pieces

/-- `rsplit(['/', '\\']).next()`. -/
def lastSegment (text : List Char) : List Char :=
  text.rtakeWhile fun c => c != '/' && c != '\\'

/-! ### Decoding -/

def hexValue (byte : UInt8) : Option UInt8 :=
  if 0x30 ≤ byte && byte ≤ 0x39 then some (byte - 0x30)
  else if 0x61 ≤ byte && byte ≤ 0x66 then some (byte - 0x61 + 10)
  else if 0x41 ≤ byte && byte ≤ 0x46 then some (byte - 0x41 + 10)
  else none

/-- The loop of `percent_decode_query_value`. -/
def decodedBytes : List UInt8 → List UInt8
  | [] => []
  | byte :: rest =>
    if byte = plusSign then spaceByte :: decodedBytes rest
    else if byte = percentSign then
      match rest with
      | first :: second :: after =>
        match hexValue first, hexValue second with
        | some high, some low => ((high <<< 4) ||| low) :: decodedBytes after
        | _, _ => byte :: decodedBytes (first :: second :: after)
      | [next] => byte :: decodedBytes [next]
      | [] => [byte]
    else byte :: decodedBytes rest

/-- Whether a byte may follow the first byte of a sequence of three or four. -/
def secondByteFits (first second : UInt8) : Bool :=
  if first = 0xE0 then 0xA0 ≤ second && second ≤ 0xBF
  else if first = 0xED then 0x80 ≤ second && second ≤ 0x9F
  else if first = 0xF0 then 0x90 ≤ second && second ≤ 0xBF
  else if first = 0xF4 then 0x80 ≤ second && second ≤ 0x8F
  else 0x80 ≤ second && second ≤ 0xBF

/-- How many bytes of a broken sequence one replacement character stands for. -/
def brokenLength : List UInt8 → Nat
  | first :: second :: rest =>
    if 0xE0 ≤ first && first ≤ 0xF4 && secondByteFits first second then
      match rest with
      | third :: _ => if 0xF0 ≤ first && 0x80 ≤ third && third ≤ 0xBF then 3 else 2
      | [] => 2
    else 1
  | _ => 1

/-- `String::from_utf8_lossy`. -/
def fromUtf8Lossy (bytes : List UInt8) : List Char :=
  match bytes with
  | [] => []
  | first :: rest =>
    match (first :: rest).toByteArray.utf8DecodeChar? 0 with
    | some c => c :: fromUtf8Lossy (rest.drop (c.utf8Size - 1))
    | none => '\uFFFD' :: fromUtf8Lossy (rest.drop (brokenLength (first :: rest) - 1))
termination_by bytes.length
decreasing_by
  all_goals
    simp only [List.length_drop, List.length_cons]
    omega

/-- `percent_decode_query_value`. -/
def percentDecodeQueryValue (value : String) : String :=
  let decoded := decodedBytes (utf8Bytes value)
  (utf8Text decoded).getD (String.ofList (fromUtf8Lossy decoded))

/-! ### Names for legacy clients -/

/-- `plex_query_value`. -/
def plexQueryValue (uri key : String) : Option String := do
  let (_, query) ← splitOnce '?' uri.toList
  (splitAll '&' query).findSome? fun entry =>
    let (entryKey, entryValue) := (splitOnce '=' entry).getD (entry, [])
    if String.ofList entryKey = key then
      (some (percentDecodeQueryValue (String.ofList entryValue))).filter fun value =>
        !value.isEmpty
    else none

/-- `plex_playlist_display_name`. -/
def plexPlaylistDisplayName (uri : String) : Option String :=
  if !isSorottePlexPlaylistUri uri then none
  else
    ((plexQueryValue uri "file").map fun file => String.ofList (lastSegment file.toList)).orElse
      fun _ => plexQueryValue uri "title"

/-- `syncplay_playlist_file_name`. -/
def syncplayPlaylistFileName (entry : String) : String :=
  (plexPlaylistDisplayName entry).getD entry

/-! ### The sidecar -/

/-- The three variables of the loop. -/
structure SplitFiles where
  syncplayFiles : List String := []
  plexSidecar : List Value := []
  hasPlexUri : Bool := false

def SplitFiles.push (split : SplitFiles) (file : String) : SplitFiles :=
  if isSorottePlexPlaylistUri file then
    { syncplayFiles := split.syncplayFiles ++ [syncplayPlaylistFileName file]
      plexSidecar := split.plexSidecar ++ [.string file]
      hasPlexUri := true }
  else
    { split with
      syncplayFiles := split.syncplayFiles ++ [file]
      plexSidecar := split.plexSidecar ++ [.null] }

/-- `split_playlist_files_for_syncplay`. -/
def splitPlaylistFilesForSyncplay (files : List String) : List String × Option Value :=
  let split := files.foldl SplitFiles.push {}
  (split.syncplayFiles, if split.hasPlexUri then some (.array split.plexSidecar) else none)

/-- `playlist_change_with_plex_sidecar`. -/
def playlistChangeWithPlexSidecar (files : List String) (includePlexSidecar : Bool) :
    PlaylistChangePayload :=
  let (syncplayFiles, plexSidecar) := splitPlaylistFilesForSyncplay files
  let payload := PlaylistChangePayload.ofFiles syncplayFiles
  match plexSidecar with
  | some plexSidecar =>
    if includePlexSidecar then
      { payload with extra := payload.extra.insert sorottePlexPlaylistUrisKey plexSidecar }
    else payload
  | none => payload

/-- `canonical_playlist_files_from_change`. -/
def canonicalPlaylistFilesFromChange (payload : PlaylistChangePayload) : List String :=
  match payload.extra[sorottePlexPlaylistUrisKey]?.bind Value.asArray with
  | none => payload.files
  | some sidecarUris =>
    payload.files.mapIdx fun index file =>
      ((sidecarUris[index]?.bind Value.asStr).filter isSorottePlexPlaylistUri).getD file

end Sorotte.PlaylistWire
