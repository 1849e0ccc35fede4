import Sorotte.Framework.Maps
import Sorotte.Persistence.Store

/-! # Persisted rooms round-trip exactly when their texts are no numbers

  A row reads back as it was saved if none of its texts reads as a number: the
  name, the multi-line playlist and the owner bucket.  One row that fails makes
  the whole load fail.
-/

namespace Sorotte.Persistence

open Sorotte.Framework Sorotte.Server

/-- No NUMERIC column turns the text into a number.  Without a NUL that is a question of its form;
    with one it is SQLite's own. -/
def ReadsAsText (sqlite : Sqlite) (text : String) : Prop :=
  if nulFree text then isNumericText text = false else sqlite.isNumeric text = false

/-- The codec restores this playlist, and writes it as a JSON array with its control characters
    escaped. -/
structure JsonCodec.Restores (json : JsonCodec) (files : List String) : Prop where
  decodes : json.decode (json.encode files) = some files
  array : ∃ rest, (json.encode files).toList = '[' :: rest
  escapes : nulFree (json.encode files)

/-- The versions grow from save to save and fit SQLite, as the runtime's
    version counter makes them. -/
structure IncreasingVersions (saves : List (String × PersistedRoomState)) : Prop where
  increasing : saves.Pairwise fun first second => first.2.version < second.2.version
  bounded : ∀ save ∈ saves, save.2.version ≤ i64Max

/-- What a load returns for a saved state. -/
def PersistedRoomState.normalized (state : PersistedRoomState) : PersistedRoomState :=
  { state with index := normalizedIndex state.files state.index }

/-- The state last saved for each room. -/
def finalStates (saves : List (String × PersistedRoomState)) :
    BTreeMap String PersistedRoomState :=
  saves.foldl (fun states save => states.insert save.1 save.2) ∅

/-- Every text that the row of this room stores reads as text. -/
structure Textual (sqlite : Sqlite) (name : String) (state : PersistedRoomState) : Prop where
  name : ReadsAsText sqlite name
  playlist : ReadsAsText sqlite (playlistAsMultiline state.files)
  owner : ∀ bucket, state.ownerBucket = some bucket → ReadsAsText sqlite bucket

/-- The saved rooms read back: each under its own name and as last saved, with
    its index normalized, and no two of them in one row. -/
def RoundTrips (sqlite : Sqlite) (json : JsonCodec) (saves : List (String × PersistedRoomState)) :
    Prop :=
  ∃ table rooms, tableAfter sqlite json saves = some table ∧
    loadRooms sqlite json table = .ok (rooms, table) ∧
    (∀ name : String, rooms[name]? = (finalStates saves)[name]?.map PersistedRoomState.normalized) ∧
    ∀ first ∈ saves, ∀ second ∈ saves, first.1 ≠ second.1 →
      storedText sqlite first.1 ≠ storedText sqlite second.1

/-! ### Stored texts -/

section texts

variable {sqlite : Sqlite} (hsqlite : sqlite.Documented)

include hsqlite

theorem readsAsText_iff {text : String} :
    ReadsAsText sqlite text ↔ sqlite.isNumeric text = false := by
  unfold ReadsAsText
  split
  · next hfree => rw [hsqlite text hfree]
  · rfl

theorem storedText_of_text {text : String} (h : ReadsAsText sqlite text) :
    storedText sqlite text = .text text := by
  rw [storedText, (readsAsText_iff hsqlite).mp h]
  rfl

theorem storedText_of_number {text : String} (h : ¬ReadsAsText sqlite text) :
    storedText sqlite text = .number (sqlite.number text) := by
  rw [readsAsText_iff hsqlite, Bool.not_eq_false] at h
  exact if_pos h

/-- A value that is stored as text is the text itself. -/
theorem text_of_stored {text value : String} (h : storedText sqlite text = .text value) :
    ReadsAsText sqlite text ∧ text = value := by
  by_cases ht : ReadsAsText sqlite text
  · rw [storedText_of_text hsqlite ht] at h
    exact ⟨ht, SqlValue.text.inj h⟩
  · rw [storedText_of_number hsqlite ht] at h
    cases h

omit hsqlite

/-- A text that opens like a JSON array is no number. -/
theorem readsAsText_of_bracket {text : String} {rest : List Char}
    (h : text.toList = '[' :: rest) (hfree : nulFree text) : ReadsAsText sqlite text := by
  have hspace : isSqlSpace '[' = false := by decide
  have hdigit : Char.isDigit '[' = false := by decide
  rw [ReadsAsText, if_pos hfree]
  simp [isNumericText, takeDecimal, dropSign, h, hspace, hdigit]

end texts

/-! ### The table after a sequence of saves -/

section table

/-- The row stored under a key. -/
def rowFor (table : RoomTable) (key : SqlValue) : Option RoomRow :=
  table.find? fun row => row.name == key

/-- No two rows share a key. -/
def UniqueKeys (table : RoomTable) : Prop := (table.map RoomRow.name).Nodup

theorem rowFor_mem {table : RoomTable} (h : UniqueKeys table) {row : RoomRow} :
    rowFor table row.name = some row ↔ row ∈ table := by
  constructor
  · intro hfind
    exact List.mem_of_find?_eq_some hfind
  · intro hmem
    induction table with
    | nil => cases hmem
    | cons first table ih =>
      have hunique := List.nodup_cons.mp h
      rcases List.mem_cons.mp hmem with rfl | hrest
      · simp [rowFor]
      · have hne : first.name ≠ row.name := by
          intro heq
          exact hunique.1 (by rw [heq]; exact List.mem_map_of_mem hrest)
        have hfalse : (first.name == row.name) = false := by simpa using hne
        rw [rowFor, List.find?_cons, hfalse]
        exact ih hunique.2 hrest

/-- The rows that an upsert of a larger version leaves. -/
theorem upsertRow_map {table : RoomTable} {row : RoomRow}
    (hversion : ∀ old ∈ table, old.persistenceVersion < row.persistenceVersion) :
    (table.map fun old =>
      if old.name == row.name && old.persistenceVersion < row.persistenceVersion then row else old) =
      table.map fun old => if old.name == row.name then row else old := by
  apply List.map_congr_left
  intro old hold
  simp [hversion old hold]

theorem upsertRow_unique {table : RoomTable} {row : RoomRow} (h : UniqueKeys table)
    (hversion : ∀ old ∈ table, old.persistenceVersion < row.persistenceVersion) :
    UniqueKeys (upsertRow table row) := by
  unfold upsertRow
  split
  · rw [upsertRow_map hversion]
    have hnames : (table.map fun old => if old.name == row.name then row else old).map
        RoomRow.name = table.map RoomRow.name := by
      rw [List.map_map]
      apply List.map_congr_left
      intro old _
      by_cases hkey : old.name = row.name
      · simp [hkey]
      · simp [hkey]
    rw [UniqueKeys, hnames]
    exact h
  · next hnone =>
    have habsent : row.name ∉ table.map RoomRow.name := by
      intro hmem
      obtain ⟨old, hold, hkey⟩ := List.mem_map.mp hmem
      apply hnone
      rw [List.any_eq_true]
      exact ⟨old, hold, by simpa using hkey⟩
    rw [UniqueKeys, List.map_append]
    exact List.nodup_append.mpr ⟨h, by simp, by
      intro key hkey key' hkey' heq
      rw [List.map_singleton, List.mem_singleton] at hkey'
      subst hkey' heq
      exact habsent hkey⟩

theorem rowFor_map {table : RoomTable} {row : RoomRow} (key : SqlValue) :
    rowFor (table.map fun old => if old.name == row.name then row else old) key =
      if row.name = key then (rowFor table key).map fun _ => row else rowFor table key := by
  induction table with
  | nil => simp [rowFor]
  | cons first table ih =>
    rw [rowFor] at ih
    rw [List.map_cons, rowFor, List.find?_cons, rowFor, List.find?_cons, ih, rowFor]
    by_cases hfirst : first.name = row.name
    · by_cases hkey : row.name = key
      · simp [hfirst, hkey]
      · have hne : (row.name == key) = false := by simpa using hkey
        simp [hfirst, hkey, hne]
    · by_cases hkey : row.name = key
      · have hne : (first.name == key) = false := by
          rw [← hkey]; simpa using hfirst
        simp [hkey, hne]
      · have hne' : (first.name == row.name) = false := by simpa using hfirst
        simp [hkey, hne']

/-- **Upsert**: a larger version replaces the row of its key, and no other. -/
theorem rowFor_upsertRow {table : RoomTable} {row : RoomRow}
    (hversion : ∀ old ∈ table, old.persistenceVersion < row.persistenceVersion) (key : SqlValue) :
    rowFor (upsertRow table row) key = if row.name = key then some row else rowFor table key := by
  unfold upsertRow
  split
  · next hany =>
    rw [upsertRow_map hversion, rowFor_map]
    by_cases hkey : row.name = key
    · rw [if_pos hkey, if_pos hkey]
      obtain ⟨old, hold⟩ : ∃ old, rowFor table key = some old := by
        apply Option.isSome_iff_exists.mp
        rw [rowFor, List.find?_isSome]
        obtain ⟨old, hmem, hname⟩ := List.any_eq_true.mp hany
        exact ⟨old, hmem, by rw [← hkey]; exact hname⟩
      rw [hold]
      rfl
    · rw [if_neg hkey, if_neg hkey]
  · next hnone =>
    rw [rowFor, List.find?_append]
    by_cases hkey : row.name = key
    · have habsent : table.find? (fun old => old.name == key) = none := by
        rw [List.find?_eq_none]
        intro old hold hname
        apply hnone
        rw [List.any_eq_true]
        exact ⟨old, hold, by rw [hkey]; exact hname⟩
      simp [habsent, hkey]
    · simp [hkey, rowFor]

/-- What the table holds after the saves. -/
structure Holds (sqlite : Sqlite) (json : JsonCodec) (saves : List (String × PersistedRoomState))
    (table : RoomTable) : Prop where
  unique : UniqueKeys table
  rows : ∀ key, rowFor table key =
    (lastFor (fun save => storedText sqlite save.1) saves key).map
      fun save => savedRow sqlite json save.1 save.2

theorem Holds.row_mem {sqlite : Sqlite} {json : JsonCodec}
    {saves : List (String × PersistedRoomState)} {table : RoomTable}
    (h : Holds sqlite json saves table) {row : RoomRow} (hrow : row ∈ table) :
    ∃ save ∈ saves, row = savedRow sqlite json save.1 save.2 ∧
      lastFor (fun save => storedText sqlite save.1) saves (storedText sqlite save.1) =
        some save := by
  have hfind := (rowFor_mem h.unique).mpr hrow
  rw [h.rows, Option.map_eq_some_iff] at hfind
  obtain ⟨save, hlast, rfl⟩ := hfind
  exact ⟨save, (lastFor_mem hlast).1, rfl, hlast⟩

theorem Holds.mem_row {sqlite : Sqlite} {json : JsonCodec}
    {saves : List (String × PersistedRoomState)} {table : RoomTable}
    (h : Holds sqlite json saves table) {save : String × PersistedRoomState}
    (hlast : lastFor (fun save => storedText sqlite save.1) saves (storedText sqlite save.1) =
      some save) : savedRow sqlite json save.1 save.2 ∈ table := by
  apply (rowFor_mem h.unique).mp
  rw [h.rows, show (savedRow sqlite json save.1 save.2).name = storedText sqlite save.1 from rfl,
    hlast]
  rfl

/-- **Saves**: every save with a larger version is stored. -/
theorem tableAfter_holds (sqlite : Sqlite) (json : JsonCodec)
    {saves : List (String × PersistedRoomState)} (h : IncreasingVersions saves) :
    ∃ table, tableAfter sqlite json saves = some table ∧ Holds sqlite json saves table := by
  induction saves using List.reverseRecOn with
  | nil => exact ⟨[], rfl, List.nodup_nil, fun key => rfl⟩
  | append_singleton saves save ih =>
    have hsplit := List.pairwise_append.mp h.increasing
    have hearlier : IncreasingVersions saves :=
      ⟨hsplit.1, fun save' hsave' => h.bounded save' (List.mem_append_left _ hsave')⟩
    obtain ⟨table, htable, hholds⟩ := ih hearlier
    have hbound : save.2.version ≤ i64Max :=
      h.bounded save (List.mem_append_right _ (List.mem_singleton_self save))
    have hversion : ∀ old ∈ table,
        old.persistenceVersion < (savedRow sqlite json save.1 save.2).persistenceVersion := by
      intro old hold
      obtain ⟨earlier, hmem, rfl, -⟩ := hholds.row_mem hold
      exact hsplit.2.2 earlier hmem save (List.mem_singleton_self save)
    refine ⟨upsertRow table (savedRow sqlite json save.1 save.2), ?_, ?_, ?_⟩
    · rw [tableAfter, List.foldlM_append, ← tableAfter, htable]
      simp [saveRoom, hbound]
    · exact upsertRow_unique hholds.unique hversion
    · intro key
      rw [rowFor_upsertRow hversion, lastFor_append, hholds.rows]
      by_cases hkey : storedText sqlite save.1 = key
      · rw [if_pos hkey, if_pos (show (savedRow sqlite json save.1 save.2).name = key from hkey)]
        rfl
      · rw [if_neg hkey, if_neg (show (savedRow sqlite json save.1 save.2).name ≠ key from hkey)]

end table

/-! ### Reading rows back -/

section rows

theorem normalizedIndex_idem (files : List String) (index : Option Int) :
    normalizedIndex files (normalizedIndex files index) = normalizedIndex files index := by
  unfold normalizedIndex normalizeIndex
  by_cases h : files.isEmpty
  · simp [h]
  · simp only [h, if_false, Bool.false_eq_true, Option.getD_some, Option.some.injEq]
    have hpos : 0 < files.length := by
      rw [List.length_pos_iff]
      simpa using h
    omega

theorem getOptionalText_stored {sqlite : Sqlite} (hsqlite : sqlite.Documented) {text : String}
    (h : ReadsAsText sqlite text) : getOptionalText (storedText sqlite text) = .ok (some text) := by
  rw [storedText_of_text hsqlite h]
  rfl

/-- A textual row is decoded to what was saved, and needs no migration. -/
theorem decodeRow_textual {sqlite : Sqlite} (hsqlite : sqlite.Documented) {json : JsonCodec}
    {name : String} {state : PersistedRoomState} (hjson : json.Restores state.files)
    (h : Textual sqlite name state) :
    decodeRow json (savedRow sqlite json name state) =
      .ok { roomName := name, state := state.normalized, needsJsonMigration := false,
            needsIndexMigration := false } := by
  obtain ⟨hdecode, ⟨rest, hbracket⟩, hescapes⟩ := hjson
  have hname : getText (storedText sqlite name) = .ok name := by
    rw [storedText_of_text hsqlite h.name]
    rfl
  have hplaylist := getOptionalText_stored hsqlite h.playlist
  have hencoded := getOptionalText_stored hsqlite (readsAsText_of_bracket hbracket hescapes)
  have howner : getOptionalText (savedRow sqlite json name state).ownerBucket =
      .ok state.ownerBucket := by
    cases hb : state.ownerBucket with
    | none => simp [savedRow, hb, getOptionalText]
    | some bucket =>
      simp only [savedRow, hb]
      exact getOptionalText_stored hsqlite (h.owner bucket hb)
  have hindex := normalizedIndex_idem state.files state.index
  simp only [decodeRow, howner]
  simp only [savedRow, hname, hplaylist, hencoded, bind, Except.bind, hdecode, Option.getD_some,
    Option.bind_some, Option.isNone_some]
  unfold normalizedIndex at hindex ⊢
  simp only [pure, Except.pure, PersistedRoomState.normalized, normalizedIndex, hindex]
  congr 2
  simp [normalizeIndex] at hindex ⊢
  exact hindex.symm

/-- A row that is decoded was textual. -/
theorem textual_of_decodeRow {sqlite : Sqlite} (hsqlite : sqlite.Documented) {json : JsonCodec}
    {name : String} {state : PersistedRoomState} {decoded : DecodedRow}
    (h : decodeRow json (savedRow sqlite json name state) = .ok decoded) :
    Textual sqlite name state := by
  have hfails (text : String) (hnumber : ¬ReadsAsText sqlite text) :
      getOptionalText (storedText sqlite text) = .error (.sqlite "decode persisted room row") := by
    rw [storedText_of_number hsqlite hnumber]
    rfl
  have hname : ReadsAsText sqlite name := by
    by_contra hn
    simp [decodeRow, savedRow, storedText_of_number hsqlite hn, getText, bind, Except.bind] at h
  have hplaylist : ReadsAsText sqlite (playlistAsMultiline state.files) := by
    by_contra hp
    simp [decodeRow, savedRow, storedText_of_text hsqlite hname, getText, hfails _ hp, bind,
      Except.bind] at h
  refine ⟨hname, hplaylist, ?_⟩
  intro bucket hbucket
  by_contra ho
  -- The owner is read after the playlist's JSON, which may itself fail.
  simp only [decodeRow, savedRow, storedText_of_text hsqlite hname, getText,
    getOptionalText_stored hsqlite hplaylist, hbucket, hfails _ ho, bind, Except.bind] at h
  split at h
  · cases h
  · cases h

/-! ### Loading a table -/

theorem mapM_ok {α β ε : Type} {f : α → Except ε β} {l : List α}
    (h : ∀ a ∈ l, ∃ b, f a = .ok b) :
    ∃ bs, l.mapM f = .ok bs ∧ List.Forall₂ (fun a b => f a = .ok b) l bs := by
  induction l with
  | nil => exact ⟨[], rfl, .nil⟩
  | cons a l ih =>
    obtain ⟨b, hb⟩ := h a List.mem_cons_self
    obtain ⟨bs, hbs, hall⟩ := ih fun a' ha' => h a' (List.mem_cons_of_mem a ha')
    refine ⟨b :: bs, ?_, .cons hb hall⟩
    simp [List.mapM_cons, hb, hbs, bind, Except.bind, pure, Except.pure]

theorem ok_of_mapM {α β ε : Type} {f : α → Except ε β} {l : List α} {bs : List β}
    (h : l.mapM f = .ok bs) : ∀ a ∈ l, ∃ b, f a = .ok b := by
  induction l generalizing bs with
  | nil => intro a ha; cases ha
  | cons a l ih =>
    intro a' ha'
    rw [List.mapM_cons] at h
    cases hb : f a with
    | error e => rw [hb] at h; cases h
    | ok b =>
      rw [hb] at h
      cases hrest : l.mapM f with
      | error e => simp [bind, Except.bind, hrest] at h
      | ok bs' =>
        rcases List.mem_cons.mp ha' with rfl | hmem
        · exact ⟨b, hb⟩
        · exact ih hrest a' hmem

/-- Decoded rows that need no migration leave the table as it is. -/
theorem migrate_nothing (sqlite : Sqlite) (json : JsonCodec) (table : RoomTable)
    {decodedRows : List DecodedRow}
    (h : ∀ decoded ∈ decodedRows,
      decoded.needsJsonMigration = false ∧ decoded.needsIndexMigration = false) :
    decodedRows.foldl (migrateRow sqlite json) table = table := by
  induction decodedRows with
  | nil => rfl
  | cons decoded decodedRows ih =>
    obtain ⟨hj, hi⟩ := h decoded List.mem_cons_self
    have hsame : migrateRow sqlite json table decoded = table := by
      simp [migrateRow, hj, hi]
    rw [List.foldl_cons, hsame]
    exact ih fun decoded' hmem => h decoded' (List.mem_cons_of_mem decoded hmem)

end rows

/-! ### The round trip -/

section roundTrip

variable {sqlite : Sqlite} {json : JsonCodec} {saves : List (String × PersistedRoomState)}

theorem finalStates_eq (saves : List (String × PersistedRoomState)) (name : String) :
    (finalStates saves)[name]? = (lastFor Prod.fst saves name).map Prod.snd :=
  lookup_foldl_insert Prod.fst Prod.snd saves name

/-- With textual names, the last save under a key is the last save of its room. -/
theorem lastFor_stored (hsqlite : sqlite.Documented) (hnames : ∀ save ∈ saves, ReadsAsText sqlite save.1) (name : String)
    (hname : ReadsAsText sqlite name) :
    lastFor (fun save => storedText sqlite save.1) saves (storedText sqlite name) =
      lastFor Prod.fst saves name := by
  induction saves using List.reverseRecOn with
  | nil => rfl
  | append_singleton saves save ih =>
    have hsave : ReadsAsText sqlite save.1 :=
      hnames save (List.mem_append_right _ (List.mem_singleton_self save))
    rw [lastFor_append, lastFor_append, storedText_of_text hsqlite hsave,
      ih fun save' hmem => hnames save' (List.mem_append_left _ hmem)]
    rw [storedText_of_text hsqlite hname]
    by_cases heq : save.1 = name
    · simp [heq]
    · simp [heq]

theorem textual_names
    (h : ∀ (name : String) state, (finalStates saves)[name]? = some state → Textual sqlite name state) :
    ∀ save ∈ saves, ReadsAsText sqlite save.1 := by
  intro save hsave
  obtain ⟨last, hlast⟩ : ∃ last, lastFor Prod.fst saves save.1 = some last :=
    lastFor_exists hsave rfl
  exact (h save.1 last.2 (by rw [finalStates_eq, hlast]; rfl)).name

/-- The rooms that decoded rows give, when each row is a last save and each
    last save has its row. -/
theorem rooms_of_decoded {decodedRows : List DecodedRow}
    (hrow : ∀ decoded ∈ decodedRows, ∃ save, lastFor Prod.fst saves save.1 = some save ∧
      decoded.roomName = save.1 ∧ decoded.state = save.2.normalized)
    (hsave : ∀ save, lastFor Prod.fst saves save.1 = some save →
      ∃ decoded ∈ decodedRows, decoded.roomName = save.1) (name : String) :
    (decodedRows.foldl (fun (rooms : BTreeMap String PersistedRoomState) row =>
      rooms.insert row.roomName row.state) ∅)[name]? =
        (finalStates saves)[name]?.map PersistedRoomState.normalized := by
  rw [lookup_foldl_insert, finalStates_eq]
  cases hlast : lastFor Prod.fst saves name with
  | none =>
    cases hdecoded : lastFor DecodedRow.roomName decodedRows name with
    | none => rfl
    | some decoded =>
      obtain ⟨hmem, hname⟩ := lastFor_mem hdecoded
      obtain ⟨save, hsome, hroom, -⟩ := hrow decoded hmem
      rw [← hroom, hname, hlast] at hsome
      cases hsome
  | some save =>
    have hkey : save.1 = name := (lastFor_mem hlast).2
    obtain ⟨present, hpresent, hroom⟩ := hsave save (by rw [hkey]; exact hlast)
    obtain ⟨decoded, hdecoded⟩ : ∃ decoded,
        lastFor DecodedRow.roomName decodedRows present.roomName = some decoded :=
      lastFor_exists hpresent rfl
    rw [hroom, hkey] at hdecoded
    rw [hdecoded]
    obtain ⟨hmem, hname⟩ := lastFor_mem hdecoded
    obtain ⟨save', hsome, hroom', hstate⟩ := hrow decoded hmem
    rw [← hroom', hname, hlast] at hsome
    obtain rfl := Option.some.inj hsome
    rw [Option.map_some, Option.map_some, Option.map_some, hstate]

theorem exists_of_forall₂ {α β : Type} {R : α → β → Prop} {l : List α} {bs : List β}
    (h : List.Forall₂ R l bs) :
    (∀ b ∈ bs, ∃ a ∈ l, R a b) ∧ ∀ a ∈ l, ∃ b ∈ bs, R a b := by
  induction h with
  | nil => simp
  | cons hab _ ih =>
    constructor
    · intro b hb
      rcases List.mem_cons.mp hb with rfl | hmem
      · exact ⟨_, List.mem_cons_self, hab⟩
      · obtain ⟨a, ha, hR⟩ := ih.1 b hmem
        exact ⟨a, List.mem_cons_of_mem _ ha, hR⟩
    · intro a ha
      rcases List.mem_cons.mp ha with rfl | hmem
      · exact ⟨_, List.mem_cons_self, hab⟩
      · obtain ⟨b, hb, hR⟩ := ih.2 a hmem
        exact ⟨b, List.mem_cons_of_mem _ hb, hR⟩

/-- Textual rooms read back. -/
theorem roundTrips_of_textual (hsqlite : sqlite.Documented) (hversions : IncreasingVersions saves)
    (hjson : ∀ save ∈ saves, json.Restores save.2.files)
    (h : ∀ (name : String) state, (finalStates saves)[name]? = some state → Textual sqlite name state) :
    RoundTrips sqlite json saves := by
  have hnames := textual_names h
  obtain ⟨table, htable, hholds⟩ := tableAfter_holds sqlite json hversions
  have hlastStored (save : String × PersistedRoomState) (hsave : save ∈ saves) :
      lastFor (fun save => storedText sqlite save.1) saves (storedText sqlite save.1) =
        lastFor Prod.fst saves save.1 :=
    lastFor_stored hsqlite hnames save.1 (hnames save hsave)
  have hdecode (save : String × PersistedRoomState)
      (hlast : lastFor Prod.fst saves save.1 = some save) :
      decodeRow json (savedRow sqlite json save.1 save.2) =
        .ok { roomName := save.1, state := save.2.normalized, needsJsonMigration := false,
              needsIndexMigration := false } := by
    have hmem := (lastFor_mem hlast).1
    apply decodeRow_textual hsqlite (hjson save hmem)
    exact h save.1 save.2 (by rw [finalStates_eq, hlast]; rfl)
  have hrows : ∀ row ∈ table, ∃ decoded, decodeRow json row = .ok decoded := by
    intro row hrow
    obtain ⟨save, hmem, rfl, hlast⟩ := hholds.row_mem hrow
    rw [hlastStored save hmem] at hlast
    exact ⟨_, hdecode save hlast⟩
  obtain ⟨decodedRows, hmapM, hall⟩ := mapM_ok hrows
  obtain ⟨hback, hforth⟩ := exists_of_forall₂ hall
  have hdecoded : ∀ decoded ∈ decodedRows, ∃ save, lastFor Prod.fst saves save.1 = some save ∧
      decoded = { roomName := save.1, state := save.2.normalized, needsJsonMigration := false,
                  needsIndexMigration := false } := by
    intro decoded hmem
    obtain ⟨row, hrow, heq⟩ := hback decoded hmem
    obtain ⟨save, hsave, rfl, hlast⟩ := hholds.row_mem hrow
    rw [hlastStored save hsave] at hlast
    rw [hdecode save hlast] at heq
    exact ⟨save, hlast, (Except.ok.inj heq).symm⟩
  have hrow : ∀ decoded ∈ decodedRows, ∃ save, lastFor Prod.fst saves save.1 = some save ∧
      decoded.roomName = save.1 ∧ decoded.state = save.2.normalized := by
    intro decoded hmem
    obtain ⟨save, hlast, rfl⟩ := hdecoded decoded hmem
    exact ⟨save, hlast, rfl, rfl⟩
  have hsave : ∀ save, lastFor Prod.fst saves save.1 = some save →
      ∃ decoded ∈ decodedRows, decoded.roomName = save.1 := by
    intro save hlast
    have hmem := (lastFor_mem hlast).1
    obtain ⟨decoded, hin, heq⟩ := hforth _ (hholds.mem_row ((hlastStored save hmem).trans hlast))
    rw [hdecode save hlast] at heq
    exact ⟨decoded, hin, by rw [← Except.ok.inj heq]⟩
  refine ⟨table, _, htable, ?_, rooms_of_decoded hrow hsave, ?_⟩
  · rw [loadRooms, hmapM]
    simp only [bind, Except.bind, pure, Except.pure]
    rw [migrate_nothing sqlite json table]
    intro decoded hmem
    obtain ⟨save, -, rfl⟩ := hdecoded decoded hmem
    exact ⟨rfl, rfl⟩
  · intro first hfirst second hsecond hne heq
    rw [storedText_of_text hsqlite (hnames first hfirst),
      storedText_of_text hsqlite (hnames second hsecond)] at heq
    exact hne (SqlValue.text.inj heq)

/-- Rooms that read back are textual. -/
theorem textual_of_roundTrips (hsqlite : sqlite.Documented) (hversions : IncreasingVersions saves)
    (h : RoundTrips sqlite json saves) (name : String) (state : PersistedRoomState)
    (hfinal : (finalStates saves)[name]? = some state) : Textual sqlite name state := by
  obtain ⟨table, rooms, htable, hload, -, -⟩ := h
  obtain ⟨table', htable', hholds⟩ := tableAfter_holds sqlite json hversions
  obtain rfl : table = table' := Option.some.inj (htable.symm.trans htable')
  have hrows : ∀ row ∈ table, ∃ decoded, decodeRow json row = .ok decoded := by
    cases hmapM : table.mapM (decodeRow json) with
    | error e => simp [loadRooms, hmapM, bind, Except.bind] at hload
    | ok decodedRows => exact ok_of_mapM hmapM
  -- The row under a saved name belongs to a textual save, so the name is textual.
  have hlastTextual (save : String × PersistedRoomState) (hsave : save ∈ saves) :
      ∃ last, lastFor (fun save => storedText sqlite save.1) saves (storedText sqlite save.1) =
        some last ∧ Textual sqlite last.1 last.2 ∧ ReadsAsText sqlite save.1 := by
    obtain ⟨last, hlast⟩ : ∃ last, lastFor (fun save => storedText sqlite save.1) saves
        (storedText sqlite save.1) = some last :=
      lastFor_exists hsave rfl
    have hkey : storedText sqlite last.1 = storedText sqlite save.1 := (lastFor_mem hlast).2
    obtain ⟨decoded, hdecoded⟩ := hrows _ (hholds.mem_row (by rw [hkey]; exact hlast))
    have htextual := textual_of_decodeRow hsqlite hdecoded
    refine ⟨last, hlast, htextual, ?_⟩
    rw [storedText_of_text hsqlite htextual.name] at hkey
    exact (text_of_stored hsqlite hkey.symm).1
  have hnames : ∀ save ∈ saves, ReadsAsText sqlite save.1 := by
    intro save hsave
    obtain ⟨-, -, -, hname⟩ := hlastTextual save hsave
    exact hname
  rw [finalStates_eq, Option.map_eq_some_iff] at hfinal
  obtain ⟨save, hlast, rfl⟩ := hfinal
  obtain ⟨hmem, rfl⟩ := lastFor_mem hlast
  obtain ⟨last, hstored, htextual, hname⟩ := hlastTextual save hmem
  rw [lastFor_stored hsqlite hnames save.1 hname, hlast] at hstored
  obtain rfl := Option.some.inj hstored
  exact htextual

/-- **Persisted rooms round-trip** exactly when every stored text of every room,
    as last saved, reads as text. -/
theorem persisted_rooms_round_trip {sqlite : Sqlite} (hsqlite : sqlite.Documented)
    (json : JsonCodec) (saves : List (String × PersistedRoomState)) (hversions : IncreasingVersions saves)
    (hjson : ∀ save ∈ saves, json.Restores save.2.files) :
    RoundTrips sqlite json saves ↔
      ∀ (name : String) state, (finalStates saves)[name]? = some state → Textual sqlite name state :=
  ⟨textual_of_roundTrips hsqlite hversions, roundTrips_of_textual hsqlite hversions hjson⟩

end roundTrip

/-! ### One room that reads back and one that does not -/

def digitsValue (digits : List Char) : Nat :=
  digits.foldl (fun value digit => 10 * value + (digit.toNat - '0'.toNat)) 0

/-- A SQLite that stops reading at the first NUL, and takes numbers for their leading digits, which
    is what integers without a sign are. -/
def digitSqlite : Sqlite where
  isNumeric text := isNumericText (String.ofList (text.toList.takeWhile (· != '\x00')))
  number text := .integer (digitsValue (text.toList.takeWhile Char.isDigit))

theorem digitSqlite_documented : digitSqlite.Documented := by
  intro text hfree
  have hwhole : text.toList.takeWhile (· != '\x00') = text.toList := by
    apply List.takeWhile_eq_self_iff.mpr
    intro c hc
    rw [bne_iff_ne]
    rintro rfl
    exact hfree hc
  show isNumericText (String.ofList _) = _
  rw [hwhole, String.ofList_toList]

/-- The codec on a playlist of one movie. -/
def movieCodec : JsonCodec :=
  ⟨fun _ => "[\"movie.mkv\"]", fun text =>
    if text = "[\"movie.mkv\"]" then some ["movie.mkv"] else none⟩

def movieState : PersistedRoomState :=
  { files := ["movie.mkv"]
    index := some 0
    position := 0
    lastActivityAtSeconds := 0
    version := 1
    ownerBucket := none
    createdAtSeconds := 0 }

theorem movieCodec_restores : movieCodec.Restores movieState.files :=
  ⟨rfl, ⟨_, rfl⟩, by decide⟩

theorem movie_versions (name : String) : IncreasingVersions [(name, movieState)] := by
  refine ⟨List.pairwise_singleton _ _, ?_⟩
  intro save hsave
  rw [List.mem_singleton.mp hsave]
  show 1 ≤ i64Max
  decide

theorem lounge_round_trips : RoundTrips digitSqlite movieCodec [("lounge", movieState)] := by
  apply (persisted_rooms_round_trip digitSqlite_documented movieCodec _ (movie_versions "lounge")
    ?_).mpr
  · intro name state hstate
    rw [finalStates_eq, lastFor, List.reverse_singleton, List.find?_singleton] at hstate
    split at hstate
    · next hname =>
      obtain rfl : "lounge" = name := by simpa using hname
      obtain rfl := Option.some.inj hstate
      have hlounge : ReadsAsText digitSqlite "lounge" :=
        (readsAsText_iff digitSqlite_documented).mpr (by decide)
      have hmovie : ReadsAsText digitSqlite "movie.mkv" :=
        (readsAsText_iff digitSqlite_documented).mpr (by decide)
      exact ⟨hlounge, hmovie, by intro bucket hbucket; cases hbucket⟩
    · cases hstate
  · intro save hsave
    rw [List.mem_singleton.mp hsave]
    exact movieCodec_restores

/-- A room called 007 is stored under the number 7, which no load reads back as
    a name; a room called 7 would share its row. -/
theorem numeric_room_name_is_lost :
    ¬ RoundTrips digitSqlite movieCodec [("007", movieState)] ∧
      storedText digitSqlite "7" = storedText digitSqlite "007" := by
  constructor
  · rintro ⟨table, rooms, htable, hload, -, -⟩
    have hrow : table = [savedRow digitSqlite movieCodec "007" movieState] :=
      (Option.some.inj htable).symm
    rw [hrow] at hload
    cases hload
  · decide

end Sorotte.Persistence
