import Sorotte.Quotas.Changes

/-! # Persistent rooms as a ledger

  `PersistentRooms.ledger` reads persistent rooms as a ledger of owned rooms.  A
  playlist change that creates a room is a creation of that ledger, which its
  quota admits; every other change gives rooms up or leaves the ledger alone.
-/

namespace Sorotte.Server

open Sorotte.Framework Sorotte.Framework.Prog

/-! ### The ledger -/

namespace PersistentRooms

variable {p q : PersistentRooms} {room other : String}

/-- The room counts against the quotas. -/
def Counts (p : PersistentRooms) (room : String) : Prop :=
  p.files room ≠ [] ∧ p.enabled = true ∧ roomNameIsMarkedTemporary room = false
    ∧ p.permanent.contains room = false

/-- Rows are needed for a room that has none and would count with them. -/
def NeedsCreation (p : PersistentRooms) (room : String) (files : List String) : Prop :=
  files ≠ [] ∧ p.enabled = true ∧ roomNameIsMarkedTemporary room = false
    ∧ p.permanent.contains room = false ∧ p.files room = []

def quota (p : PersistentRooms) : Quota Seconds where
  maxHeld := p.maxRooms
  maxOwned := p.maxPerIdentity
  cooldown := p.cooldown

/-- Whose last creation a creation makes the runtime forget. -/
def dropped (p : PersistentRooms) (room identity : String) (now : Seconds) : Set String :=
  {other | other ≠ identity ∧ ∃ time, p.lastCreations[other]? = some time
    ∧ keepsCreation (p.owners.insert room identity) p.cooldown now other time = false}

def ledger (p : PersistentRooms) (hfinite : {room | p.Counts room}.Finite) :
    QuotaLedger String String Seconds where
  held := {room | p.Counts room}
  owner room := p.owners[room]?
  last identity := p.lastCreations[identity]?
  held_finite := hfinite
  owned_finite := by
    apply (finite_keys p.owners).subset
    intro room howned
    exact Option.ne_none_iff_exists'.mp howned

/-! ### Rooms given up -/

theorem counts_discard (p : PersistentRooms) (room other : String) :
    (p.discard room).Counts other ↔ p.Counts other ∧ other ≠ room := by
  by_cases hother : other = room
  · subst hother
    simp [Counts, discard]
  · simp [Counts, discard, hother]

/-- A discarded room is given up. -/
theorem discard_released (p : PersistentRooms) (room : String)
    (hp : {room | p.Counts room}.Finite) (hq : {other | (p.discard room).Counts other}.Finite) :
    QuotaLedger.Released (p.ledger hp) room ((p.discard room).ledger hq) where
  held := by
    ext other
    exact p.counts_discard room other
  owner_self := by
    show (p.owners.erase room)[room]? = none
    rw [getElem?_erase_if, if_pos rfl]
  owner_other other hother := by
    show (p.owners.erase room)[other]? = p.owners[other]?
    rw [getElem?_erase_if, if_neg hother]
  last := rfl

theorem discard_finite (hp : {room | p.Counts room}.Finite) (room : String) :
    {other | (p.discard room).Counts other}.Finite := by
  apply hp.subset
  intro other hother
  exact ((p.counts_discard room other).mp hother).1

theorem finite_discards (h : Relation.ReflTransGen Discards p q)
    (hp : {room | p.Counts room}.Finite) : {room | q.Counts room}.Finite := by
  induction h with
  | refl => exact hp
  | tail _ hstep ih =>
    cases hstep with
    | room room => exact discard_finite ih room

/-- Rooms that are discarded are given up one after the other. -/
theorem run_discards {quota : Quota Seconds} {start : QuotaLedger String String Seconds}
    {log : List (QuotaCreation String String Seconds)}
    (h : Relation.ReflTransGen Discards p q) (hp : {room | p.Counts room}.Finite)
    (hq : {room | q.Counts room}.Finite)
    (hrun : QuotaLedger.Run quota start log (p.ledger hp)) :
    QuotaLedger.Run quota start log (q.ledger hq) := by
  induction h with
  | refl => exact hrun
  | tail hbefore hstep ih =>
    cases hstep with
    | room room =>
      have hmiddle := finite_discards hbefore hp
      exact (ih hmiddle).release (discard_released _ room hmiddle hq)

theorem quota_discards (h : Relation.ReflTransGen Discards p q) : q.quota = p.quota := by
  induction h with
  | refl => rfl
  | tail _ hstep ih =>
    cases hstep with
    | room room => exact ih

/-! ### Rooms edited and created -/

theorem counts_update {files : List String} (hother : room ≠ other) :
    (p.edit room files).Counts other ↔ p.Counts other := by
  simp [Counts, edit, Ne.symm hother]

/-- New rows in a room that needs no creation leave the ledger as it is. -/
theorem counts_edit {files : List String} (hfiles : files ≠ [])
    (hneeds : ¬ p.NeedsCreation room files) (other : String) :
    (p.edit room files).Counts other ↔ p.Counts other := by
  by_cases hother : room = other
  · subst hother
    have hself : (p.edit room files).files room = files := Function.update_self ..
    constructor
    · rintro ⟨-, henabled, htemporary, hpermanent⟩
      refine ⟨?_, henabled, htemporary, hpermanent⟩
      intro hnone
      exact hneeds ⟨hfiles, henabled, htemporary, hpermanent, hnone⟩
    · rintro ⟨-, hrest⟩
      exact ⟨by rwa [hself], hrest⟩
  · exact counts_update hother

/-- A room that is created is held under the name of its creator. -/
theorem counts_create {files : List String} {identity : String} {now : Seconds}
    (hneeds : p.NeedsCreation room files) (other : String) :
    (p.create room files identity now).Counts other ↔ other = room ∨ p.Counts other := by
  obtain ⟨hfiles, henabled, htemporary, hpermanent, -⟩ := hneeds
  have hsame : (p.create room files identity now).Counts other ↔
      (p.edit room files).Counts other := Iff.rfl
  by_cases hother : room = other
  · subst hother
    have hself : (p.edit room files).files room = files := Function.update_self ..
    simp only [true_or, iff_true]
    exact hsame.mpr ⟨by rwa [hself], henabled, htemporary, hpermanent⟩
  · rw [hsame, counts_update hother]
    simp [Ne.symm hother]

/-- The creator is an active owner, so its own creation is remembered. -/
theorem keepsCreation_self (owners : BTreeMap String String) (room identity : String)
    (cooldown now time : Seconds) :
    keepsCreation (owners.insert room identity) cooldown now identity time = true := by
  have howner : identity ∈ (owners.insert room identity).toList.map Prod.snd := by
    apply mem_map_toList.mpr
    exact ⟨room, by rw [getElem?_insert_if, if_pos rfl]⟩
  unfold keepsCreation
  simp only [Bool.or_eq_true, List.contains_iff_mem]
  exact .inl howner

theorem lastCreations_create (p : PersistentRooms) (room : String) (files : List String)
    (identity : String) (now : Seconds) (other : String) :
    (p.create room files identity now).lastCreations[other]? =
      (if identity = other then some now else p.lastCreations[other]?).filter
        (keepsCreation (p.owners.insert room identity) p.cooldown now other) := by
  show ((p.lastCreations.insert identity now).filter _)[other]? = _
  rw [Std.ExtTreeMap.getElem?_filter', getElem?_insert_if]
  congr 1
  simp [eq_comm]

theorem create_created {files : List String} {identity : String} {now : Seconds}
    (hneeds : p.NeedsCreation room files) (hp : {room | p.Counts room}.Finite)
    (hq : {other | (p.create room files identity now).Counts other}.Finite) :
    QuotaLedger.Created p.quota (p.ledger hp)
      { resource := room, owner := identity, reading := now
        dropped := p.dropped room identity now }
      ((p.create room files identity now).ledger hq) where
  held := by
    ext other
    exact counts_create hneeds other
  owner_self := by
    show (p.owners.insert room identity)[room]? = some identity
    rw [getElem?_insert_if, if_pos rfl]
  owner_other other hother := by
    show (p.owners.insert room identity)[other]? = p.owners[other]?
    rw [getElem?_insert_if, if_neg hother]
  last_self := by
    show (p.create room files identity now).lastCreations[identity]? = some now
    rw [lastCreations_create, if_pos rfl, Option.filter_some, keepsCreation_self, if_pos rfl]
  last_kept other hother hkept := by
    show (p.create room files identity now).lastCreations[other]? = p.lastCreations[other]?
    rw [lastCreations_create, if_neg (Ne.symm hother)]
    cases hlast : p.lastCreations[other]? with
    | none => rfl
    | some time =>
      have hkeeps : keepsCreation (p.owners.insert room identity) p.cooldown now other time
          = true := by
        by_contra hnot
        exact hkept ⟨hother, time, hlast, Bool.eq_false_iff.mpr hnot⟩
      rw [Option.filter_some, hkeeps, if_pos rfl]
  last_dropped other hdropped := by
    obtain ⟨hother, time, hlast, hkeeps⟩ := hdropped
    refine ⟨hother, ?_, time, hlast, ?_⟩
    · show (p.create room files identity now).lastCreations[other]? = none
      rw [lastCreations_create, if_neg (Ne.symm hother), hlast, Option.filter_some, hkeeps]
      rfl
    · unfold keepsCreation at hkeeps
      simp only [Bool.or_eq_false_iff, Bool.and_eq_false_iff, decide_eq_false_iff_not] at hkeeps
      rintro ⟨hle, hpause⟩
      rcases hkeeps.2 with hlate | hover
      · exact hlate hle
      · exact hover hpause

theorem create_finite {files : List String} (hneeds : p.NeedsCreation room files)
    (hp : {room | p.Counts room}.Finite) (identity : String) (now : Seconds) :
    {other | (p.create room files identity now).Counts other}.Finite := by
  apply (hp.insert room).subset
  intro other hother
  exact (counts_create hneeds other).mp hother

end PersistentRooms

/-! ### The runtime -/

namespace ServerRuntime

variable (s : ServerRuntime)

theorem counts_iff (room : String) : s.persistentRooms.Counts room ↔
    (s.roomPlaylistState room).files ≠ [] ∧ s.roomIsPersistent room = true
      ∧ s.roomIsPermanent room = false := by
  unfold PersistentRooms.Counts persistentRooms roomIsPersistent roomIsPermanent
  simp [and_assoc]

theorem counts_lookup (room : String) : s.persistentRooms.Counts room ↔
    ∃ playlist, s.roomPlaylists[room]? = some playlist ∧ (!playlist.files.isEmpty
      && s.roomIsPersistent room && !s.roomIsPermanent room) = true := by
  rw [counts_iff]
  unfold roomPlaylistState
  rw [Std.ExtTreeMap.getD_eq_getD_getElem?]
  cases s.roomPlaylists[room]? with
  | none => simp
  | some playlist => simp [and_assoc]

theorem counts_finite : {room | s.persistentRooms.Counts room}.Finite := by
  apply (finite_keys s.roomPlaylists).subset
  intro room hcounts
  obtain ⟨playlist, hplaylist, -⟩ := (s.counts_lookup room).mp hcounts
  exact ⟨playlist, hplaylist⟩

def ledger : QuotaLedger String String Seconds := s.persistentRooms.ledger s.counts_finite

theorem needsCreation_iff (room : String) (files : List String) :
    s.persistentRooms.NeedsCreation room files ↔
      s.persistentRoomCreationRequired room files = true := by
  unfold PersistentRooms.NeedsCreation persistentRoomCreationRequired roomIsPersistent
    roomIsPermanent persistentRooms
  simp [and_assoc]

/-- The rooms that the admission check counts. -/
def retainedClientRooms : Nat :=
  (s.roomPlaylists.toList.filter fun entry =>
    !entry.2.files.isEmpty && s.roomIsPersistent entry.1 && !s.roomIsPermanent entry.1).length

/-- The rooms that the admission check counts for an identity. -/
def roomsOwnedByIdentity (identity : String) : Nat :=
  (s.persistentRoomOwnerByRoom.toList.filter fun entry => entry.2 == identity).length

theorem retained_ncard : s.retainedClientRooms = s.ledger.held.ncard := by
  unfold retainedClientRooms
  rw [length_filter_toList]
  congr 1
  ext room
  exact (s.counts_lookup room).symm

theorem owned_ncard (identity : String) :
    s.roomsOwnedByIdentity identity = (s.ledger.owned identity).ncard := by
  unfold roomsOwnedByIdentity
  rw [length_filter_toList]
  congr 1
  ext room
  show (∃ owner, s.persistentRoomOwnerByRoom[room]? = some owner ∧ (owner == identity) = true) ↔
    s.persistentRoomOwnerByRoom[room]? = some identity
  simp

/-- What the admission check of a new room has established. -/
theorem admits_of_allowed {room : String} {files : List String} {identity : String}
    {now : Seconds} (hrequired : s.persistentRoomCreationRequired room files = true)
    (h : s.persistentRoomCreationAllowed room files identity now = true) :
    QuotaLedger.Admits s.persistentRooms.quota s.ledger identity now := by
  unfold persistentRoomCreationAllowed at h
  rw [hrequired] at h
  simp only [Bool.not_true, Bool.false_eq_true, if_false] at h
  have hretained := s.retained_ncard
  have howned := s.owned_ncard identity
  unfold retainedClientRooms at hretained
  unfold roomsOwnedByIdentity at howned
  rw [hretained, howned] at h
  split at h
  · cases h
  · next hroom =>
    split at h
    · cases h
    · next hshare =>
      refine ⟨not_le.mp hroom, not_le.mp hshare, ?_⟩
      intro time htime
      have hlast : s.persistentRoomLastCreationByIdentity[identity]? = some time := htime
      rw [hlast] at h
      show time ≤ now ∧ s.persistentRoomCreationCooldownSeconds ≤ now - time
      simpa using h

end ServerRuntime

end Sorotte.Server
