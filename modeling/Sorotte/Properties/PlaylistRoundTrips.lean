import Sorotte.PlaylistWire.Codecs
import Sorotte.PlaylistWire.Sidecar

/-! # Playlists on the wire

  Payloads are read back as they were written, and objects are written back as
  they were read.  The sidecar puts every Plex URI back in its place, whatever a
  legacy client is sent instead.
-/

namespace Sorotte.PlaylistWire

open Sorotte.Framework

/-! ### The codecs -/

/-- A well-formed playlist change is read back. -/
theorem change_read_back {payload : PlaylistChangePayload} (h : payload.WellFormed) :
    PlaylistChangePayload.deserialize (.object payload.serialize) = .ok payload := by
  have hname : "files" ≠ "user" := by decide
  have hfiles : (entriesOf payload.serialize)["files"]? =
      some (.array (payload.files.map .string)) := by
    unfold PlaylistChangePayload.serialize
    rw [serializeMembers_lookup hname, if_pos rfl]
  have huser : ((entriesOf payload.serialize).erase "files")["user"]? =
      userValue payload.user payload.userIsNull := by
    unfold PlaylistChangePayload.serialize
    rw [getElem?_erase_if, if_neg hname.symm, serializeMembers_lookup hname, if_neg hname.symm,
      if_pos rfl]
  have hrest : ((entriesOf payload.serialize).erase "files").erase "user" = payload.extra :=
    serializeMembers_rest hname h.files_undeclared h.user_undeclared
  unfold PlaylistChangePayload.deserialize
  simp only [hfiles, stringsOf_array, huser, readUser_userValue "playlistChange" h.user, hrest]

/-- A well-formed playlist index is read back. -/
theorem index_read_back {payload : PlaylistIndexPayload} (h : payload.WellFormed) :
    PlaylistIndexPayload.deserialize (.object payload.serialize) = .ok payload := by
  have hname : "index" ≠ "user" := by decide
  have hindex : (entriesOf payload.serialize)["index"]? =
      some (PlaylistIndexPayload.indexMember payload.indexValue) := by
    unfold PlaylistIndexPayload.serialize
    rw [serializeMembers_lookup hname, if_pos rfl]
  have huser : ((entriesOf payload.serialize).erase "index")["user"]? =
      userValue payload.user payload.userIsNull := by
    unfold PlaylistIndexPayload.serialize
    rw [getElem?_erase_if, if_neg hname.symm, serializeMembers_lookup hname, if_neg hname.symm,
      if_pos rfl]
  have hrest : ((entriesOf payload.serialize).erase "index").erase "user" = payload.extra :=
    serializeMembers_rest hname h.index_undeclared h.user_undeclared
  have hoptional : (PlaylistIndexPayload.fromOptional payload.indexValue).index = payload.index
      ∧ (PlaylistIndexPayload.fromOptional payload.indexValue).indexIsNull =
        payload.indexIsNull := by
    unfold PlaylistIndexPayload.indexValue
    cases hnull : payload.indexIsNull with
    | true => exact ⟨(h.index hnull).symm, rfl⟩
    | false => exact ⟨rfl, rfl⟩
  unfold PlaylistIndexPayload.deserialize
  simp only [hindex, readIndex_indexMember, huser, readUser_userValue "playlistIndex" h.user,
    hrest, hoptional]

/-- What a playlist change was read of. -/
theorem change_of_read {members : List Member} {payload : PlaylistChangePayload}
    (h : PlaylistChangePayload.deserialize (.object members) = .ok payload) :
    payload.WellFormed
      ∧ (entriesOf members)["files"]? = some (.array (payload.files.map .string))
      ∧ (entriesOf members)["user"]? = userValue payload.user payload.userIsNull
      ∧ payload.extra = ((entriesOf members).erase "files").erase "user" := by
  have hname : "files" ≠ "user" := by decide
  unfold PlaylistChangePayload.deserialize at h
  dsimp only at h
  cases hvalue : (entriesOf members)["files"]? with
  | none => simp [hvalue] at h
  | some value =>
    cases hfiles : stringsOf value with
    | none => simp [hvalue, hfiles] at h
    | some files =>
      cases huser : readUser "playlistChange" ((entriesOf members).erase "files")["user"]? with
      | error error => simp [hvalue, hfiles, huser] at h
      | ok user =>
        simp only [hvalue, hfiles, huser, Except.ok.injEq] at h
        subst h
        obtain ⟨huser, hone⟩ := userValue_of_read huser
        rw [getElem?_erase_if, if_neg hname.symm] at huser
        refine ⟨⟨hone, ?_, ?_⟩, ?_, huser.symm, rfl⟩
        · simp
        · simp
        · rw [array_of_stringsOf hfiles]

theorem index_of_read {members : List Member} {payload : PlaylistIndexPayload}
    (h : PlaylistIndexPayload.deserialize (.object members) = .ok payload) :
    payload.WellFormed
      ∧ PlaylistIndexPayload.indexMember payload.indexValue =
        (entriesOf members)["index"]?.getD .null
      ∧ (entriesOf members)["user"]? = userValue payload.user payload.userIsNull
      ∧ payload.extra = ((entriesOf members).erase "index").erase "user" := by
  have hname : "index" ≠ "user" := by decide
  unfold PlaylistIndexPayload.deserialize at h
  dsimp only at h
  cases hindex : PlaylistIndexPayload.readIndex (entriesOf members)["index"]? with
  | error error => simp [hindex] at h
  | ok index =>
    cases huser : readUser "playlistIndex" ((entriesOf members).erase "index")["user"]? with
    | error error => simp [hindex, huser] at h
    | ok user =>
      simp only [hindex, huser, Except.ok.injEq] at h
      subst h
      obtain ⟨huser, hone⟩ := userValue_of_read huser
      rw [getElem?_erase_if, if_neg hname.symm] at huser
      refine ⟨⟨hone, ?_, ?_, ?_⟩, ?_, huser.symm, rfl⟩
      · cases index with
        | none => exact fun _ => rfl
        | some index => simp [PlaylistIndexPayload.fromOptional, PlaylistIndexPayload.ofIndex]
      · simp
      · simp
      · rw [← indexMember_of_read hindex]
        cases index with
        | none => rfl
        | some index => rfl

/-- An object with a member for the index: null, if it had none. -/
def withIndex (members : List Member) : List Member :=
  if "index" ∈ members.map Prod.fst then members else ("index", .null) :: members

/-- A playlist change is written back with the members it was read of. -/
theorem change_written_back {members : List Member} (hnames : (members.map Prod.fst).Nodup)
    {payload : PlaylistChangePayload}
    (h : PlaylistChangePayload.deserialize (.object members) = .ok payload) :
    payload.serialize.Perm members := by
  have hname : "files" ≠ "user" := by decide
  obtain ⟨-, hfiles, huser, hextra⟩ := change_of_read h
  apply members_perm (serializeMembers_names hname) hnames
  intro name
  rw [serializeMembers_lookup hname]
  by_cases hother : name = "files"
  · rw [if_pos hother, hother, hfiles]
  · rw [if_neg hother]
    by_cases hother' : name = "user"
    · rw [if_pos hother', hother', huser]
    · rw [if_neg hother', hextra, getElem?_erase_if, if_neg hother', getElem?_erase_if,
        if_neg hother]

theorem withIndex_names {members : List Member} (hnames : (members.map Prod.fst).Nodup) :
    ((withIndex members).map Prod.fst).Nodup := by
  unfold withIndex
  by_cases hindex : "index" ∈ members.map Prod.fst
  · rw [if_pos hindex]
    exact hnames
  · rw [if_neg hindex, List.map_cons]
    exact List.nodup_cons.mpr ⟨hindex, hnames⟩

theorem withIndex_lookup {members : List Member} (hnames : (members.map Prod.fst).Nodup)
    (name : String) : (entriesOf (withIndex members))[name]? =
      if name = "index" then some ((entriesOf members)["index"]?.getD .null)
      else (entriesOf members)[name]? := by
  apply Option.ext
  intro value
  rw [entriesOf_lookup (withIndex_names hnames)]
  unfold withIndex
  by_cases hindex : "index" ∈ members.map Prod.fst
  · rw [if_pos hindex]
    obtain ⟨member, hmember, hname⟩ := List.mem_map.mp hindex
    have hheld : (entriesOf members)["index"]? = some member.2 := by
      rw [entriesOf_lookup hnames, ← hname]
      exact hmember
    rw [← entriesOf_lookup hnames]
    by_cases hother : name = "index"
    · rw [if_pos hother, hother, hheld]
      rfl
    · rw [if_neg hother]
  · rw [if_neg hindex]
    have hnone : (entriesOf members)["index"]? = none := by
      apply Option.eq_none_iff_forall_ne_some.mpr
      intro held hheld
      rw [entriesOf_lookup hnames] at hheld
      exact hindex (List.mem_map.mpr ⟨_, hheld, rfl⟩)
    rw [List.mem_cons, Prod.mk.injEq, ← entriesOf_lookup hnames]
    by_cases hother : name = "index"
    · rw [if_pos hother, hother, hnone]
      simp [eq_comm]
    · rw [if_neg hother]
      simp [hother]

/-- A playlist index is written back, and says that it had no index. -/
theorem index_written_back {members : List Member} (hnames : (members.map Prod.fst).Nodup)
    {payload : PlaylistIndexPayload}
    (h : PlaylistIndexPayload.deserialize (.object members) = .ok payload) :
    payload.serialize.Perm (withIndex members) := by
  have hname : "index" ≠ "user" := by decide
  obtain ⟨-, hindex, huser, hextra⟩ := index_of_read h
  apply members_perm (serializeMembers_names hname) (withIndex_names hnames)
  intro name
  rw [serializeMembers_lookup hname, withIndex_lookup hnames]
  by_cases hother : name = "index"
  · rw [if_pos hother, if_pos hother, hindex]
  · rw [if_neg hother, if_neg hother]
    by_cases hother' : name = "user"
    · rw [if_pos hother', hother', huser]
    · rw [if_neg hother', hextra, getElem?_erase_if, if_neg hother', getElem?_erase_if,
        if_neg hother]

/-! ### The sidecar -/

/-- What a legacy client is sent of a file. -/
def sentName (file : String) : String :=
  if isSorottePlexPlaylistUri file then syncplayPlaylistFileName file else file

/-- What the sidecar says of a file. -/
def sidecarValue (file : String) : Value :=
  if isSorottePlexPlaylistUri file then .string file else .null

/-- The loop goes over each file on its own. -/
theorem split_foldl (files : List String) :
    files.foldl SplitFiles.push {} =
      { syncplayFiles := files.map sentName
        plexSidecar := files.map sidecarValue
        hasPlexUri := files.any isSorottePlexPlaylistUri } := by
  induction files using List.reverseRecOn with
  | nil => rfl
  | append_singleton files file ih =>
    rw [List.foldl_append, ih, List.foldl_cons, List.foldl_nil]
    simp only [List.map_append, List.map_singleton, List.any_append, List.any_cons, List.any_nil]
    unfold SplitFiles.push sentName sidecarValue
    by_cases hplex : isSorottePlexPlaylistUri file = true
    · simp [hplex]
    · simp [hplex]

theorem split_eq (files : List String) :
    splitPlaylistFilesForSyncplay files = (files.map sentName,
      if files.any isSorottePlexPlaylistUri then some (.array (files.map sidecarValue))
      else none) := by
  unfold splitPlaylistFilesForSyncplay
  rw [split_foldl]

theorem sidecar_files (files : List String) (includePlexSidecar : Bool) :
    (playlistChangeWithPlexSidecar files includePlexSidecar).files = files.map sentName := by
  unfold playlistChangeWithPlexSidecar
  rw [split_eq]
  by_cases hplex : files.any isSorottePlexPlaylistUri
  · cases includePlexSidecar with
    | true => simp [hplex, PlaylistChangePayload.ofFiles]
    | false => simp [hplex, PlaylistChangePayload.ofFiles]
  · simp [hplex, PlaylistChangePayload.ofFiles]

/-- Without the sidecar nothing goes beside the files. -/
theorem bare_extra (files : List String) : (playlistChangeWithPlexSidecar files false).extra = ∅ := by
  unfold playlistChangeWithPlexSidecar
  dsimp only
  split
  · rfl
  · rfl

theorem sidecar_extra (files : List String) :
    (playlistChangeWithPlexSidecar files true).extra =
      if files.any isSorottePlexPlaylistUri then
        (∅ : Entries).insert sorottePlexPlaylistUrisKey (.array (files.map sidecarValue))
      else ∅ := by
  unfold playlistChangeWithPlexSidecar
  rw [split_eq]
  by_cases hplex : files.any isSorottePlexPlaylistUri
  · simp [hplex, PlaylistChangePayload.ofFiles]
  · simp [hplex, PlaylistChangePayload.ofFiles]

theorem sidecar_wellFormed (files : List String) :
    (playlistChangeWithPlexSidecar files true).WellFormed := by
  have huser : (playlistChangeWithPlexSidecar files true).user = none := by
    unfold playlistChangeWithPlexSidecar
    dsimp only
    split
    · rfl
    · rfl
  have hextra : ∀ name, name ≠ sorottePlexPlaylistUrisKey →
      name ∉ (playlistChangeWithPlexSidecar files true).extra := by
    intro name hname
    rw [sidecar_extra]
    by_cases hplex : files.any isSorottePlexPlaylistUri
    · rw [if_pos hplex]
      simp [Ne.symm hname]
    · rw [if_neg hplex]
      simp
  exact ⟨by simp [huser], hextra _ (by decide), hextra _ (by decide)⟩

/-- The canonical files, one by one. -/
theorem canonical_entry (file : String) :
    (((some (sidecarValue file)).bind Value.asStr).filter isSorottePlexPlaylistUri).getD
      (sentName file) = file := by
  unfold sidecarValue sentName
  by_cases hplex : isSorottePlexPlaylistUri file = true
  · simp [hplex, Value.asStr, Option.filter]
  · simp [hplex, Value.asStr]

/-- **The sidecar** gives back the files that it was made of. -/
theorem canonical_of_sidecar (files : List String) :
    canonicalPlaylistFilesFromChange (playlistChangeWithPlexSidecar files true) = files := by
  unfold canonicalPlaylistFilesFromChange
  rw [sidecar_files, sidecar_extra]
  by_cases hplex : files.any isSorottePlexPlaylistUri
  · rw [if_pos hplex, Std.ExtTreeMap.getElem?_insert_self]
    simp only [Option.bind_some, Value.asArray]
    apply List.ext_getElem?
    intro index
    rw [List.getElem?_mapIdx, List.getElem?_map, List.getElem?_map]
    cases files[index]? with
    | none => rfl
    | some file => exact congrArg some (canonical_entry file)
  · rw [if_neg hplex]
    have hsent : ∀ file ∈ files, sentName file = id file := by
      intro file hfile
      apply if_neg
      intro hfile'
      exact hplex (List.any_eq_true.mpr ⟨file, hfile, hfile'⟩)
    have hplain : files.map sentName = files := by
      rw [List.map_congr_left hsent, List.map_id]
    simp [hplain]

theorem canonical_length (payload : PlaylistChangePayload) :
    (canonicalPlaylistFilesFromChange payload).length = payload.files.length := by
  unfold canonicalPlaylistFilesFromChange
  cases payload.extra[sorottePlexPlaylistUrisKey]?.bind Value.asArray with
  | none => rfl
  | some sidecarUris => exact List.length_mapIdx

/-! ### Percent-encoding -/

theorem hexValue_of_writes {digit : Fin 16} {byte : UInt8} (h : WritesDigit digit byte) :
    hexValue byte = some (UInt8.ofNat digit.val) := by
  have hlower : ∀ digit : Fin 16,
      hexValue (lowerHexDigit digit) = some (UInt8.ofNat digit.val) := by decide
  have hupper : ∀ digit : Fin 16,
      hexValue (upperHexDigit digit) = some (UInt8.ofNat digit.val) := by decide
  rcases h with rfl | rfl
  · exact hlower digit
  · exact hupper digit

theorem byte_of_digits (byte : UInt8) :
    (UInt8.ofNat (highDigit byte).val <<< 4) ||| UInt8.ofNat (lowDigit byte).val = byte := by
  have hall : ∀ n : Fin 256, (UInt8.ofNat (n.val / 16) <<< 4) ||| UInt8.ofNat (n.val % 16) =
      UInt8.ofNat n.val := by decide +kernel
  have hbyte := hall ⟨byte.toNat, byte.toNat_lt⟩
  rw [UInt8.ofNat_toNat] at hbyte
  exact hbyte

/-- The loop inverts every encoding. -/
theorem decodedBytes_of_encodes {bytes encoded : List UInt8} (h : PercentEncodes bytes encoded) :
    decodedBytes encoded = bytes := by
  induction h with
  | nil => rfl
  | raw hpercent hplus rest ih =>
    unfold decodedBytes
    rw [if_neg hplus, if_neg hpercent, ih]
  | plus rest ih =>
    unfold decodedBytes
    rw [if_pos rfl, ih]
  | hex hhigh hlow rest ih =>
    have hplus : percentSign ≠ plusSign := by decide
    unfold decodedBytes
    rw [if_neg hplus, if_pos rfl]
    simp only [hexValue_of_writes hhigh, hexValue_of_writes hlow, byte_of_digits, ih]

/-- A value that encodes a text is decoded to it. -/
theorem decode_of_encodes {text value : String}
    (h : PercentEncodes (utf8Bytes text) (utf8Bytes value)) :
    percentDecodeQueryValue value = text := by
  unfold percentDecodeQueryValue
  rw [decodedBytes_of_encodes h]
  dsimp only
  rw [utf8Text_utf8Bytes]
  rfl

/-- Every text has an encoding, in ASCII. -/
theorem decode_percentEncode (text : String) :
    percentDecodeQueryValue (asciiText (percentEncode (utf8Bytes text))) = text := by
  apply decode_of_encodes
  rw [utf8Bytes_asciiText fun byte hbyte => percentEncode_ascii hbyte]
  exact percentEncodes_percentEncode (utf8Bytes text)

/-! ### Round trips -/

/-- **Playlist payloads round-trip**, with and without the sidecar.  A legacy client is sent the
    legacy names of Plex URIs either way, and the URIs go beside them in the sidecar only. -/
theorem playlist_payloads_round_trip :
    (∀ files : List String,
      canonicalPlaylistFilesFromChange (playlistChangeWithPlexSidecar files true) = files
      ∧ (∃ payload,
          PlaylistChangePayload.deserialize
            (.object (playlistChangeWithPlexSidecar files true).serialize) = .ok payload
          ∧ canonicalPlaylistFilesFromChange payload = files)
      ∧ (∀ includePlexSidecar,
          (playlistChangeWithPlexSidecar files includePlexSidecar).files = files.map sentName)
      ∧ (playlistChangeWithPlexSidecar files true).extra =
          (if files.any isSorottePlexPlaylistUri then
            (∅ : Entries).insert sorottePlexPlaylistUrisKey (.array (files.map sidecarValue))
          else ∅)
      ∧ (playlistChangeWithPlexSidecar files false).extra = ∅
      ∧ (playlistChangeWithPlexSidecar files false).files.length = files.length
      ∧ ∀ (index : Nat) (file : String), files[index]? = some file →
          isSorottePlexPlaylistUri file = false →
          (playlistChangeWithPlexSidecar files false).files[index]? = some file)
    ∧ (∀ payload : PlaylistChangePayload, payload.WellFormed ↔
        PlaylistChangePayload.deserialize (.object payload.serialize) = .ok payload)
    ∧ (∀ payload : PlaylistIndexPayload, payload.WellFormed ↔
        PlaylistIndexPayload.deserialize (.object payload.serialize) = .ok payload)
    ∧ (∀ members : List Member, (members.map Prod.fst).Nodup →
        (∀ payload, PlaylistChangePayload.deserialize (.object members) = .ok payload →
          payload.serialize.Perm members)
        ∧ ∀ payload, PlaylistIndexPayload.deserialize (.object members) = .ok payload →
          payload.serialize.Perm (withIndex members))
    ∧ (∀ payload : PlaylistChangePayload,
        (canonicalPlaylistFilesFromChange payload).length = payload.files.length)
    ∧ (∀ text value : String, PercentEncodes (utf8Bytes text) (utf8Bytes value) →
        percentDecodeQueryValue value = text)
    ∧ ∀ text : String,
        percentDecodeQueryValue (asciiText (percentEncode (utf8Bytes text))) = text := by
  refine ⟨?_, ?_, ?_, ?_, canonical_length, ?_, decode_percentEncode⟩
  · intro files
    have hcanonical := canonical_of_sidecar files
    refine ⟨hcanonical, ⟨_, change_read_back (sidecar_wellFormed files), hcanonical⟩,
      sidecar_files files, sidecar_extra files, bare_extra files, ?_, ?_⟩
    · rw [sidecar_files, List.length_map]
    · intro index file hfile hplain
      have hsent : sentName file = file := if_neg (by rw [hplain]; exact Bool.false_ne_true)
      rw [sidecar_files, List.getElem?_map, hfile, Option.map_some, hsent]
  · intro payload
    constructor
    · exact change_read_back
    · exact fun h => (change_of_read h).1
  · intro payload
    constructor
    · exact index_read_back
    · exact fun h => (index_of_read h).1
  · intro members hnames
    constructor
    · intro payload h
      exact change_written_back hnames h
    · intro payload h
      exact index_written_back hnames h
  · intro text value h
    exact decode_of_encodes h

end Sorotte.PlaylistWire
