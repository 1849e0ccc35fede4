import Sorotte.Membership.MessageWalks
import Sorotte.Refinement.Mapping
import Sorotte.Server.Listing

/-! # Live user names

  Sessions are told apart by name wherever the server keeps facts about users:
  on the roster, among the controllers, in the readiness seats and in the List
  snapshots.  None of these ever shows two live sessions as one.
-/

namespace Sorotte.Server

open Sorotte.Framework Sorotte.Framework.Prog

variable {s : ServerRuntime}

/-- A live session of a user in a room. -/
def ServerRuntime.Occupies (s : ServerRuntime) (room username clientId : String) : Prop :=
  ∃ session, s.sessions[clientId]? = some session ∧ session.room = room
    ∧ session.username = username

/-- A room and a name belong to one session at most. -/
theorem NamesSound.occupant (h : NamesSound s) {room username clientId other : String}
    (hclient : s.Occupies room username clientId) (hother : s.Occupies room username other) :
    clientId = other := by
  obtain ⟨session, hsession, -, hname⟩ := hclient
  obtain ⟨session', hsession', -, hname'⟩ := hother
  exact h.distinct _ _ session session' hsession hsession' (by rw [hname, hname'])

/-! ### Snapshots -/

/-- The last of the live sessions with this room and name, of which there is one. -/
theorem listRoomsSnapshot_lookup (h : NamesSound s) {room username : String}
    {entry : ListUserEntry} :
    nestedLookup s.listRoomsSnapshot room username = some entry ↔
      ∃ (clientId : String) (session : ServerSession), s.sessions[clientId]? = some session
        ∧ session.room = room ∧ session.username = username ∧ s.listUserEntry session = entry := by
  have hdistinct : ∀ a ∈ s.sessions.toList, ∀ b ∈ s.sessions.toList,
      (a.2.room, a.2.username) = (b.2.room, b.2.username) → a = b := by
    rintro ⟨c, session⟩ hc ⟨c', session'⟩ hc' hkey
    have hsession := Std.ExtTreeMap.mem_toList_iff_getElem?_eq_some.mp hc
    have hsession' := Std.ExtTreeMap.mem_toList_iff_getElem?_eq_some.mp hc'
    obtain ⟨-, hname⟩ := Prod.mk.injEq .. ▸ hkey
    have hname : session.username = session'.username := hname
    obtain rfl := h.distinct c c' session session' hsession hsession' (by rw [hname])
    rw [hsession] at hsession'
    cases hsession'
    rfl
  unfold ServerRuntime.listRoomsSnapshot
  rw [nestedLookup_foldl (fun e : String × ServerSession => e.2.room) (fun e => e.2.username)
    (fun e => s.listUserEntry e.2)]
  constructor
  · intro hentry
    obtain ⟨⟨c, session⟩, hlast, hvalue⟩ := Option.map_eq_some_iff.mp hentry
    obtain ⟨hmem, hkey⟩ := (lastFor_eq_some_iff hdistinct).mp hlast
    obtain ⟨hroom, hname⟩ := Prod.mk.injEq .. ▸ hkey
    exact ⟨c, session, Std.ExtTreeMap.mem_toList_iff_getElem?_eq_some.mp hmem, hroom, hname,
      hvalue⟩
  · rintro ⟨c, session, hsession, rfl, rfl, rfl⟩
    have hlast := (lastFor_eq_some_iff hdistinct).mpr
      ⟨Std.ExtTreeMap.mem_toList_iff_getElem?_eq_some.mpr hsession, rfl⟩
    rw [hlast]
    rfl

/-- What of an entry no limit and no missing capability leaves out. -/
def ListUserEntry.essential (entry : ListUserEntry) : ListUserEntry :=
  { entry with mediaMatch := false }

/-- The essential part of what a snapshot holds for a user. -/
def essentialLookup (rooms : ListRooms) (room username : String) : Option ListUserEntry :=
  (nestedLookup rooms room username).map (·.essential)

/-- Editing the files of the entries leaves the essentials. -/
theorem essentialLookup_map {f : String → String → ListUserEntry → ListUserEntry}
    (hf : ∀ room username entry, (f room username entry).essential = entry.essential)
    (rooms : ListRooms) (room username : String) :
    essentialLookup (rooms.map fun room users => users.map fun username entry =>
        f room username entry) room username = essentialLookup rooms room username := by
  unfold essentialLookup nestedLookup
  rw [Std.ExtTreeMap.getElem?_map]
  cases rooms[room]? with
  | none => rfl
  | some users =>
    simp only [Option.map_some, Option.bind_some]
    rw [Std.ExtTreeMap.getElem?_map]
    cases users[username]? with
    | none => rfl
    | some entry => simp [hf]

theorem essentialLookup_sanitize (clientId : String) (rooms : ListRooms) (room username : String) :
    essentialLookup (s.sanitizeListRoomsSnapshotForClient clientId rooms) room username =
      essentialLookup rooms room username := by
  unfold ServerRuntime.sanitizeListRoomsSnapshotForClient
  extract_lets supportsMediaMatch ownUsername
  refine essentialLookup_map (f := fun _ username entry =>
    if supportsMediaMatch && ownUsername != some username then entry
    else { entry with mediaMatch := false }) (fun room username entry => ?_) rooms room username
  split <;> rfl

theorem essentialLookup_omit (rooms : ListRooms) (room username : String) :
    essentialLookup (omitDiscoverySignatures rooms) room username =
      essentialLookup rooms room username :=
  essentialLookup_map (f := fun _ _ entry => { entry with mediaMatch := false })
    (fun _ _ _ => rfl) rooms room username

/-- The entries of empty rooms stay out of the others. -/
theorem nestedLookup_dummies {room : String} (hoccupied : s.clientsInRoom room ≠ [])
    (rooms : ListRooms) (username : String) :
    nestedLookup (s.addEmptyRoomDummyEntries rooms) room username =
      nestedLookup rooms room username := by
  have hkept : ∀ (writes : List (String × Nat)), (∀ e ∈ writes, e.1 ≠ room) →
      ∀ m : ListRooms, nestedLookup (writes.foldl (fun m e => nestedInsert m e.1
        (emptyRoomIdentity (e.2 + 1)) emptyPersistentRoomListEntry) m) room username =
          nestedLookup m room username := by
    intro writes
    induction writes with
    | nil => intro _ m; rfl
    | cons e writes ih =>
      intro hne m
      rw [List.foldl_cons, ih fun e he => hne e (List.mem_cons_of_mem _ he), nestedLookup_insert,
        if_neg fun h => hne e List.mem_cons_self h.1.symm]
  refine hkept _ (fun e he heq => ?_) rooms
  have hmem := List.fst_mem_of_mem_zipIdx he
  have hempty := (List.mem_filter.mp hmem).2
  rw [heq] at hempty
  exact hoccupied (List.isEmpty_iff.mp hempty)

/-- The rooms a client sees. -/
def ServerRuntime.Sees (s : ServerRuntime) (clientId room : String) : Prop :=
  s.isolateRooms = true → ∃ session, s.sessions[clientId]? = some session ∧ session.room = room

/-- In an occupied room a client sees the entries of its sessions, if it sees
    the room, and nothing else. -/
theorem listRoomsSnapshotForClient_lookup {room : String} (clientId : String)
    (isGuiUser fits : Bool) (hoccupied : s.clientsInRoom room ≠ []) (username : String) :
    (s.Sees clientId room → essentialLookup (s.listRoomsSnapshotForClient clientId isGuiUser fits)
        room username = essentialLookup s.listRoomsSnapshot room username)
      ∧ (¬ s.Sees clientId room →
        essentialLookup (s.listRoomsSnapshotForClient clientId isGuiUser fits) room username =
          none) := by
  have hfinish : ∀ rooms : ListRooms, essentialLookup
      (if fits then s.sanitizeListRoomsSnapshotForClient clientId
          (if s.sessions.contains clientId && isGuiUser then
            s.addEmptyRoomDummyEntries rooms else rooms)
        else omitDiscoverySignatures (s.sanitizeListRoomsSnapshotForClient clientId
          (if s.sessions.contains clientId && isGuiUser then
            s.addEmptyRoomDummyEntries rooms else rooms))) room username =
        essentialLookup rooms room username := by
    intro rooms
    have hdummies : essentialLookup (if s.sessions.contains clientId && isGuiUser then
        s.addEmptyRoomDummyEntries rooms else rooms) room username =
          essentialLookup rooms room username := by
      split
      · unfold essentialLookup
        rw [nestedLookup_dummies hoccupied]
      · rfl
    split
    · rw [essentialLookup_sanitize, hdummies]
    · rw [essentialLookup_omit, essentialLookup_sanitize, hdummies]
  unfold ServerRuntime.listRoomsSnapshotForClient ServerRuntime.Sees
  cases hisolated : s.isolateRooms with
  | false =>
    refine ⟨fun _ => ?_, fun hnot => absurd (fun h => absurd h (by decide)) hnot⟩
    exact hfinish s.listRoomsSnapshot
  | true =>
    cases hsession : s.sessions[clientId]? with
    | none =>
      refine ⟨fun hsees => ?_, fun _ => ?_⟩
      · obtain ⟨session, hheld, -⟩ := hsees rfl
        cases hheld
      · simp [essentialLookup, nestedLookup]
    | some session =>
      have hsees : ∀ room', (true = true → ∃ held, some session = some held ∧ held.room = room') ↔
          session.room = room' := by simp
      rw [hsees]
      simp only [if_true, Option.map_some]
      cases husers : s.listRoomsSnapshot[session.room]? with
      | none =>
        refine ⟨fun heq => (hfinish ∅).trans ?_, fun _ => (hfinish ∅).trans ?_⟩
        · rw [← heq]
          simp [essentialLookup, nestedLookup, husers]
        · simp [essentialLookup, nestedLookup]
      | some users =>
        have hown := hfinish ((∅ : ListRooms).insert session.room users)
        refine ⟨fun heq => hown.trans ?_, fun hne => hown.trans ?_⟩
        · rw [← heq]
          simp [essentialLookup, nestedLookup, husers]
        · simp [essentialLookup, nestedLookup, hne]

/-! ### No two sessions are merged -/

/-- Whatever is kept under a user's name is kept for one live session. -/
structure NeverMerged (s : ServerRuntime) : Prop where
  /-- The roster has an entry for each session, and no other. -/
  roster : ∀ room username, (s.rosterFlag room username).isSome = true ↔
    ∃! clientId, s.Occupies room username clientId
  /-- Granting or withdrawing control over a room is about one session. -/
  controllers : ∀ (c c' : String) session session', s.sessions[c]? = some session →
    s.sessions[c']? = some session' → c ≠ c' → ∀ room room',
    (s.addRoomController session.username room).userIsRoomController session'.username room' =
        s.userIsRoomController session'.username room'
      ∧ (s.removeRoomController session.username room).userIsRoomController
          session'.username room' = s.userIsRoomController session'.username room'
  /-- A readiness seat is that of the one session with its room and name. -/
  seats : ∀ room username p, s.readinessParticipant room username = some p →
    ∀ clientId, s.Occupies room username clientId ↔ clientId = p.clientId
  /-- In an occupied room a client that sees it is shown the sessions there are,
      each with its own facts. -/
  listed : ∀ clientId isGuiUser fits room username, s.clientsInRoom room ≠ [] →
    s.Sees clientId room → ∀ entry,
    (essentialLookup (s.listRoomsSnapshotForClient clientId isGuiUser fits) room username =
        some entry ↔
      ∃! c : String, ∃ session, s.sessions[c]? = some session ∧ session.room = room
        ∧ session.username = username ∧ (s.listUserEntry session).essential = entry)

theorem controllers_apart (s : ServerRuntime) {username other : String} (hne : username ≠ other)
    (room room' : String) :
    (s.addRoomController username room).userIsRoomController other room' =
        s.userIsRoomController other room'
      ∧ (s.removeRoomController username room).userIsRoomController other room' =
        s.userIsRoomController other room' := by
  constructor
  · unfold ServerRuntime.addRoomController
    extract_lets t
    have ht : t.userIsRoomController other room' = s.userIsRoomController other room' :=
      ServerRuntime.userIsRoomController_ensureRoomState s room other room'
    rw [← ht]
    unfold ServerRuntime.userIsRoomController
    dsimp only
    rw [getElem?_insert_if]
    by_cases hroom : room' = room
    · subst hroom
      rw [if_pos rfl, Std.ExtTreeMap.getD_eq_getD_getElem?]
      cases t.roomControllers[room']? <;> simp [hne]
    · rw [if_neg hroom]
  · unfold ServerRuntime.userIsRoomController ServerRuntime.removeRoomController
    dsimp only
    rw [getElem?_modify_if]
    by_cases hroom : room' = room
    · rw [if_pos hroom]
      cases s.roomControllers[room']? <;> simp [hne]
    · rw [if_neg hroom]

theorem occupies_unique (h : NamesSound s) {room username : String} {P : String → Prop}
    (hP : ∀ c, P c → s.Occupies room username c) : (∃ c, P c) ↔ ∃! c, P c := by
  constructor
  · rintro ⟨c, hc⟩
    exact ⟨c, hc, fun c' hc' => h.occupant (hP c' hc') (hP c hc)⟩
  · rintro ⟨c, hc, -⟩
    exact ⟨c, hc⟩

/-- Coherent seats and sound names keep sessions apart. -/
theorem neverMerged (hs : Seats s) (hnames : NamesSound s) : NeverMerged s where
  roster room username := by
    rw [← occupies_unique hnames fun _ h => h]
    exact hs.rostered room username
  controllers c c' session session' hsession hsession' hne room room' := by
    have hdiffer : session.username ≠ session'.username := fun hsame =>
      hne (hs.named c c' session session' hsession hsession' hsame)
    exact controllers_apart s hdiffer room room'
  seats room username p hp clientId := by
    obtain ⟨session, hsession, hroom, hname, -⟩ := hs.seated room username p hp
    have hholder : s.Occupies room username p.clientId := ⟨session, hsession, hroom, hname⟩
    constructor
    · exact fun hclient => hnames.occupant hclient hholder
    · rintro rfl
      exact hholder
  listed clientId isGuiUser fits room username hoccupied hsees entry := by
    rw [(listRoomsSnapshotForClient_lookup clientId isGuiUser fits hoccupied username).1 hsees]
    rw [← @occupies_unique _ hnames room username _
      fun c ⟨session, hsession, hroom, hname, _⟩ => ⟨session, hsession, hroom, hname⟩]
    unfold essentialLookup
    rw [Option.map_eq_some_iff]
    constructor
    · rintro ⟨held, hheld, rfl⟩
      obtain ⟨c, session, hsession, hroom, hname, rfl⟩ :=
        (listRoomsSnapshot_lookup hnames).mp hheld
      exact ⟨c, session, hsession, hroom, hname, rfl⟩
    · rintro ⟨c, session, hsession, hroom, hname, rfl⟩
      exact ⟨s.listUserEntry session,
        (listRoomsSnapshot_lookup hnames).mpr ⟨c, session, hsession, hroom, hname, rfl⟩, rfl⟩

/-- What a search for a free name answers. -/
structure FindsFreeUsername (s : ServerRuntime) (requested : String) (excluded : Option String) :
    Prop where
  candidates : (s.suffixedCandidates requested).length = s.maxUsernameLength
  found : ∀ username, s.findFreeUsername requested excluded = some username →
    ¬ s.NameTaken excluded username
  exhausted : s.findFreeUsername requested excluded = none → s.NameTaken excluded requested
    ∧ ∀ candidate ∈ s.suffixedCandidates requested, s.NameTaken excluded candidate

/-- **Live user names are unique and bounded**: in every reachable state names
    differ by more than ASCII case, are not empty and fit the limit; a search
    for a free name answers as it should, for every set of sessions; and no fact
    kept by user name is shared by two live sessions. -/
theorem live_usernames_unique (h : Reachable s) :
    NamesSound s ∧ NeverMerged s
      ∧ ∀ (t : ServerRuntime) requested excluded, FindsFreeUsername t requested excluded := by
  refine ⟨h.names, neverMerged h.seats h.names, fun t requested excluded => ?_⟩
  exact ⟨suffixedCandidates_length t requested, fun _ hfound => (findFreeUsername_some hfound).1,
    findFreeUsername_eq_none_iff.mp⟩

/-- alice, and another client that asks for the name ALICE. -/
def twoAlices : ServerRuntime :=
  let join (clientId username : String) : Action := .hello clientId
    { username, room := "movies", version := "1.7.0", capabilities := {} } true "token"
  (join "c2" "ALICE").next {} ((join "c1" "alice").next {} emptyServer)

theorem twoAlices_reachable : Reachable twoAlices :=
  ⟨emptyServer, emptyServer_initial,
    .tail (.single (.act _ _ {} (by decide +kernel))) (.act _ _ {} (by decide +kernel))⟩

theorem live_usernames_unique_alices :
    ∃ alice other, twoAlices.sessions["c1"]? = some alice ∧ twoAlices.sessions["c2"]? = some other
      ∧ alice.username = "alice" ∧ other.username = "ALICE_"
      ∧ asciiLowercase alice.username ≠ asciiLowercase other.username
      ∧ other.username.length ≤ twoAlices.maxUsernameLength := by
  have hsound := (live_usernames_unique twoAlices_reachable).1
  have hfirst : (twoAlices.sessions["c1"]?).map (·.username) = some "alice" := by decide +kernel
  have hsecond : (twoAlices.sessions["c2"]?).map (·.username) = some "ALICE_" := by
    decide +kernel
  obtain ⟨alice, halice, hname⟩ := Option.map_eq_some_iff.mp hfirst
  obtain ⟨other, hother, hname'⟩ := Option.map_eq_some_iff.mp hsecond
  refine ⟨alice, other, halice, hother, hname, hname', fun hsame => ?_,
    hsound.bounded "c2" other hother⟩
  have hclients := hsound.distinct "c1" "c2" alice other halice hother hsame
  exact absurd hclients (by decide)

end Sorotte.Server
