import Sorotte.Framework.Maps
import Sorotte.Status.Evidence
import Sorotte.Status.Session

/-! # What an operation does to the participant status

  Membership operations drop views or leave them where they are, and touch no
  fence.  Everything else empties the views, adopts a snapshot, moves the scope or
  marks a receipt.
-/

namespace Sorotte.Status

open Sorotte.Framework

variable {SharedFile : Type}

namespace ClientSession

variable {s s' : ClientSession SharedFile}

/-! ### Membership -/

/-- The room a user is known to be in. -/
def roomOf (s : ClientSession SharedFile) (username : String) : Option String :=
  s.users[username]?.bind (·.room)

/-- Revision, mode and scope. -/
def fences (s : ClientSession SharedFile) :
    Option Nat × ParticipantStatusSnapshotMode × Option ParticipantPlaybackScope :=
  (s.participantStatusSnapshotRevision, s.participantStatusSnapshotMode,
    s.participantStatusAuthoritativeScope)

/-- There is neither a view nor a receipt of the user. -/
def Gone (s : ClientSession SharedFile) (username : String) : Prop :=
  s.participantStatuses[username]? = none ∧ s.participantStatusReceipts[username]? = none

/-- Every user loses view and receipt together, or keeps them and the room. -/
structure Shrinks (s s' : ClientSession SharedFile) : Prop where
  fences : s'.fences = s.fences
  roomName : s'.roomName = s.roomName
  users : ∀ username, s'.Gone username
    ∨ s'.participantStatuses[username]? = s.participantStatuses[username]?
      ∧ s'.participantStatusReceipts[username]? = s.participantStatusReceipts[username]?
      ∧ s'.roomOf username = s.roomOf username

theorem Shrinks.refl (s : ClientSession SharedFile) : Shrinks s s :=
  ⟨rfl, rfl, fun _ => .inr ⟨rfl, rfl, rfl⟩⟩

theorem Shrinks.trans {s'' : ClientSession SharedFile} (h : Shrinks s s')
    (h' : Shrinks s' s'') : Shrinks s s'' := by
  refine ⟨h'.fences.trans h.fences, h'.roomName.trans h.roomName, ?_⟩
  intro username
  rcases h'.users username with hgone | ⟨hstatus, hreceipt, hroom⟩
  · exact .inl hgone
  · rcases h.users username with hgone | ⟨hstatus', hreceipt', hroom'⟩
    · exact .inl ⟨hstatus.trans hgone.1, hreceipt.trans hgone.2⟩
    · exact .inr ⟨hstatus.trans hstatus', hreceipt.trans hreceipt', hroom.trans hroom'⟩

/-- Dropping the views of one user, who may have moved. -/
theorem Shrinks.of_invalidated {username : String}
    (h : ∀ other, other ≠ username → s'.roomOf other = s.roomOf other)
    (hstatuses : s'.participantStatuses = s.participantStatuses.erase username)
    (hreceipts : s'.participantStatusReceipts = s.participantStatusReceipts.erase username)
    (hfences : s'.fences = s.fences) (hroom : s'.roomName = s.roomName) : Shrinks s s' := by
  refine ⟨hfences, hroom, ?_⟩
  intro other
  by_cases hother : other = username
  · refine .inl ⟨?_, ?_⟩
    · rw [hstatuses, getElem?_erase_if, if_pos hother]
    · rw [hreceipts, getElem?_erase_if, if_pos hother]
  · refine .inr ⟨?_, ?_, h other hother⟩
    · rw [hstatuses, getElem?_erase_if, if_neg hother]
    · rw [hreceipts, getElem?_erase_if, if_neg hother]

theorem invalidateUser_shrinks (s : ClientSession SharedFile) (username : String) :
    Shrinks s (s.invalidateUserParticipantStatus username) :=
  .of_invalidated (fun _ _ => rfl) rfl rfl rfl rfl

/-- Reading a user after one was replaced. -/
theorem roomOf_insert (s : ClientSession SharedFile) (username other : String)
    (user : ClientUserView SharedFile) (hother : other ≠ username) :
    roomOf { s with users := s.users.insert username user } other = s.roomOf other := by
  unfold roomOf
  rw [getElem?_insert_if, if_neg hother]

/-- The room of the user an operation creates or edits. -/
theorem userOrDefault_room (s : ClientSession SharedFile) (username : String) :
    (s.userOrDefault username).room = s.roomOf username := by
  unfold userOrDefault roomOf
  rw [Std.ExtTreeMap.getD_eq_getD_getElem?]
  cases s.users[username]? with
  | none => rfl
  | some user => rfl

/-- Replacing a user whose room stays drops nothing. -/
theorem edit_shrinks (s : ClientSession SharedFile) (username : String)
    {user : ClientUserView SharedFile} (hroom : user.room = s.roomOf username) :
    Shrinks s { s with users := s.users.insert username user } := by
  refine ⟨rfl, rfl, fun other => .inr ⟨rfl, rfl, ?_⟩⟩
  by_cases hother : other = username
  · subst hother
    show (s.users.insert other user)[other]?.bind (·.room) = _
    rw [getElem?_insert_if, if_pos rfl]
    exact hroom
  · exact s.roomOf_insert username other user hother

theorem setUserRoom_shrinks (s : ClientSession SharedFile) (username : String)
    (roomName : Option String) : Shrinks s (s.setUserRoom username roomName) := by
  unfold setUserRoom
  dsimp only
  split
  · next hsame =>
    apply edit_shrinks
    show roomName = s.roomOf username
    rw [← hsame]
    exact s.userOrDefault_room username
  · refine .of_invalidated ?_ rfl rfl rfl rfl
    intro other hother
    exact s.roomOf_insert username other _ hother

theorem setUserFile_shrinks [DecidableEq SharedFile] (s : ClientSession SharedFile)
    (username : String) (file : Option SharedFile) :
    Shrinks s (s.setUserFile username file) := by
  have hedit : Shrinks s { s with
      users := s.users.insert username { s.userOrDefault username with file := file } } :=
    s.edit_shrinks username (s.userOrDefault_room username)
  unfold setUserFile
  dsimp only
  split
  · exact hedit
  · exact hedit.trans (invalidateUser_shrinks _ username)

theorem setUserCapabilities_shrinks (s : ClientSession SharedFile) (username : String)
    (participantStatusV1 : Option Bool) :
    Shrinks s (s.setUserCapabilities username participantStatusV1) := by
  have hedit : Shrinks s { s with
      users := s.users.insert username (s.userOrDefault username) } :=
    s.edit_shrinks username (s.userOrDefault_room username)
  unfold setUserCapabilities
  dsimp only
  have hlast : ∀ s₁ : ClientSession SharedFile, Shrinks s s₁ →
      Shrinks s (if s₁.participantStatusCapabilities[username]? = some true then s₁
        else s₁.invalidateUserParticipantStatus username) := by
    intro s₁ h
    split
    · exact h
    · exact h.trans (invalidateUser_shrinks _ username)
  apply hlast
  cases participantStatusV1 with
  | none => exact hedit
  | some supported =>
    dsimp only
    have hsupported : Shrinks s { s with
        users := s.users.insert username (s.userOrDefault username)
        participantStatusCapabilities :=
          s.participantStatusCapabilities.insert username supported } :=
      ⟨hedit.fences, hedit.roomName, hedit.users⟩
    split
    · exact hsupported
    · exact hsupported.trans (invalidateUser_shrinks _ username)

theorem userJoined_shrinks (s : ClientSession SharedFile) (username : String) :
    Shrinks s (s.userJoined username) :=
  .of_invalidated (fun _ _ => rfl) rfl rfl rfl rfl

theorem removeUser_shrinks (s : ClientSession SharedFile) (username : String) :
    Shrinks s (s.removeUser username) := by
  refine .of_invalidated ?_ rfl rfl rfl rfl
  intro other hother
  unfold roomOf removeUser
  dsimp only
  rw [getElem?_erase_if, if_neg hother]

/-! ### Emptied sessions -/

/-- No views and no scope. -/
structure Emptied (s : ClientSession SharedFile) : Prop where
  gone : ∀ username, s.Gone username
  mode : s.participantStatusSnapshotMode = .full
  scope : s.participantStatusAuthoritativeScope = none

theorem invalidate_emptied (s : ClientSession SharedFile) :
    s.invalidateParticipantStatusEvidence.Emptied := by
  refine ⟨fun username => ⟨?_, ?_⟩, rfl, rfl⟩
  · exact Std.ExtTreeMap.getElem?_empty
  · exact Std.ExtTreeMap.getElem?_empty

theorem clear_emptied (s : ClientSession SharedFile) : s.clearParticipantStatusViews.Emptied :=
  ⟨s.invalidate_emptied.gone, rfl, rfl⟩

theorem Emptied.shrinks (h : s.Emptied) (hshrinks : Shrinks s s') : s'.Emptied := by
  refine ⟨?_, ?_, ?_⟩
  · intro username
    rcases hshrinks.users username with hgone | ⟨hstatus, hreceipt, -⟩
    · exact hgone
    · exact ⟨hstatus.trans (h.gone username).1, hreceipt.trans (h.gone username).2⟩
  · exact (congrArg (·.2.1) hshrinks.fences).trans h.mode
  · exact (congrArg (·.2.2) hshrinks.fences).trans h.scope

/-- Emptied by a state with the same views and fences. -/
theorem Emptied.of_same (h : s.Emptied) (hstatuses : s'.participantStatuses = s.participantStatuses)
    (hreceipts : s'.participantStatusReceipts = s.participantStatusReceipts)
    (hfences : s'.fences = s.fences) : s'.Emptied := by
  refine ⟨?_, (congrArg (·.2.1) hfences).trans h.mode, (congrArg (·.2.2) hfences).trans h.scope⟩
  intro username
  unfold Gone
  rw [hstatuses, hreceipts]
  exact h.gone username

/-- The local room stays, or the session is emptied. -/
theorem updateLocalRoom_cases (s : ClientSession SharedFile) (roomName : String) :
    s.roomName = some roomName ∧ s.updateLocalRoom roomName = s
      ∨ s.roomName ≠ some roomName ∧ (s.updateLocalRoom roomName).Emptied
        ∧ (s.updateLocalRoom roomName).participantStatusSnapshotRevision = none := by
  unfold updateLocalRoom
  by_cases hsame : s.roomName = some roomName
  · rw [if_pos hsame]
    refine .inl ⟨hsame, ?_⟩
    rw [← hsame]
  · rw [if_neg hsame]
    exact .inr ⟨hsame, s.clear_emptied.of_same rfl rfl rfl, rfl⟩

theorem Emptied.updateLocalRoom (h : s.Emptied) (roomName : String) :
    (s.updateLocalRoom roomName).Emptied := by
  rcases s.updateLocalRoom_cases roomName with ⟨-, hsame⟩ | ⟨-, hemptied, -⟩
  · rw [hsame]
    exact h
  · exact hemptied

/-- Operations that only shrink an emptied session leave it so. -/
theorem foldl_emptied {α : Type} {f : ClientSession SharedFile → α → ClientSession SharedFile}
    (hf : ∀ s a, Shrinks s (f s a)) (entries : List α) :
    ∀ {s : ClientSession SharedFile}, s.Emptied → (entries.foldl f s).Emptied := by
  induction entries with
  | nil => exact fun h => h
  | cons a entries ih =>
    intro s h
    exact ih (h.shrinks (hf s a))

theorem listUser_shrinks [DecidableEq SharedFile] (room : String) (s : ClientSession SharedFile)
    (entry : String × ClientListUser SharedFile) : Shrinks s (listUser room s entry) := by
  unfold listUser
  split
  · exact .refl s
  · exact ((s.setUserRoom_shrinks entry.1 (some room)).trans
      (setUserFile_shrinks _ entry.1 entry.2.file)).trans
        (setUserCapabilities_shrinks _ entry.1 entry.2.participantStatusV1)

theorem listed_shrinks [DecidableEq SharedFile] (s : ClientSession SharedFile)
    (room : String × BTreeMap String (ClientListUser SharedFile)) :
    Shrinks s (room.2.toList.foldl (listUser room.1) s) := by
  generalize room.2.toList = entries
  induction entries generalizing s with
  | nil => exact .refl s
  | cons entry entries ih => exact (listUser_shrinks room.1 s entry).trans (ih _)

theorem applyList_emptied [DecidableEq SharedFile] (s : ClientSession SharedFile)
    (rooms : BTreeMap String (BTreeMap String (ClientListUser SharedFile))) :
    (s.applyList rooms).Emptied := by
  have hcleared : Emptied { s.clearParticipantStatusViews with
      users := ∅, participantStatusCapabilities := ∅ } :=
    s.clear_emptied.of_same rfl rfl rfl
  have hlisted := foldl_emptied
    (f := fun s (room : String × BTreeMap String (ClientListUser SharedFile)) =>
      room.2.toList.foldl (listUser room.1) s)
    listed_shrinks rooms.toList hcleared
  unfold applyList
  dsimp only
  cases (rooms.toList.filter fun room =>
      s.username.any fun username => trimText username != "" && room.2.contains username).getLast?
    with
  | none => exact hlisted
  | some room => exact hlisted.updateLocalRoom room.1

theorem migrate_emptied (s : ClientSession SharedFile) (assigned : String) (h : s.Emptied) :
    (s.migrateProvisionalLocalIdentity assigned).Emptied := by
  unfold migrateProvisionalLocalIdentity
  split
  · exact h
  · split
    · exact h
    · exact h.of_same rfl rfl rfl

theorem applyHello_emptied [DecidableEq SharedFile] (s : ClientSession SharedFile)
    (hello : ClientHello) (restoredFile : Option SharedFile) : (s.applyHello hello restoredFile).Emptied := by
  have hmigrated := migrate_emptied _ hello.username s.clear_emptied
  unfold applyHello
  dsimp only
  generalize s.clearParticipantStatusViews.migrateProvisionalLocalIdentity hello.username = s₁
    at hmigrated ⊢
  have hnamed : Emptied { s₁ with username := some hello.username } :=
    hmigrated.of_same rfl rfl rfl
  have hentered := (hnamed.updateLocalRoom hello.room).shrinks
    (setUserRoom_shrinks _ hello.username (some hello.room))
  cases restoredFile with
  | none => exact hentered.of_same rfl rfl rfl
  | some file =>
    exact (hentered.shrinks (setUserFile_shrinks _ hello.username (some file))).of_same rfl rfl rfl

theorem markInactive_emptied (s : ClientSession SharedFile) : s.markInactive.Emptied :=
  s.clear_emptied.of_same rfl rfl rfl

theorem resetForReconnect_emptied (s : ClientSession SharedFile) :
    s.resetSyncStateForReconnect.Emptied := by
  have hreset : Emptied { s.markInactive with users := ∅, participantStatusCapabilities := ∅ } :=
    s.markInactive_emptied.of_same rfl rfl rfl
  unfold resetSyncStateForReconnect
  dsimp only
  split
  · exact hreset.shrinks (setUserRoom_shrinks _ _ _)
  · exact hreset

/-! ### Updates -/

/-- What an update must have to be adopted. -/
theorem disposition_adopted {scope : Option ParticipantPlaybackScope}
    {snapshot : Option ParticipantStatusSnapshot} {scopeInvalid : Bool} {room : String}
    {adopted : ParticipantStatusSnapshot}
    (h : s.disposition scope snapshot scopeInvalid = .adopted room adopted) :
    s.roomName = some room ∧ snapshot = some adopted ∧ s.scopeIsStale scope = false
      ∧ ∀ revision, s.participantStatusSnapshotRevision = some revision →
        revision < adopted.revision := by
  unfold disposition at h
  split at h
  · split at h
    · cases h
    · next current hroom =>
      split at h
      · cases h
      · dsimp only at h
        split at h
        · cases h
        · next hfenced =>
          simp only [Bool.or_eq_true, not_or, Bool.not_eq_true] at hfenced
          cases hsnapshot : snapshot.filter fun snapshot => snapshot.revision != 0 with
          | none =>
            rw [hsnapshot] at h
            cases h
          | some found =>
            rw [hsnapshot] at h hfenced
            cases h
            refine ⟨hroom, (Option.filter_eq_some_iff.mp hsnapshot).1, hfenced.2, ?_⟩
            intro revision hrevision
            have hlater := hfenced.1
            unfold snapshotIsStale at hlater
            rw [hrevision] at hlater
            simpa using hlater
  · cases h

theorem disposition_scopeOnly {scope : Option ParticipantPlaybackScope}
    {snapshot : Option ParticipantStatusSnapshot} {scopeInvalid : Bool}
    (h : s.disposition scope snapshot scopeInvalid = .scopeOnly) :
    s.scopeIsStale scope = false := by
  unfold disposition at h
  split at h
  · split at h
    · cases h
    · split at h
      · cases h
      · dsimp only at h
        split at h
        · cases h
        · next hfenced =>
          simp only [Bool.or_eq_true, not_or, Bool.not_eq_true] at hfenced
          exact hfenced.2
  · cases h

/-- The authoritative scope after one that is not older came. -/
theorem not_older_of_current {scope : Option ParticipantPlaybackScope}
    (h : s.scopeIsStale scope = false) {current : ParticipantPlaybackScope}
    (hcurrent : s.participantStatusAuthoritativeScope = some current) :
    ∃ next, scope.or s.participantStatusAuthoritativeScope = some next
      ∧ next.isOlder current = false := by
  cases scope with
  | none => exact ⟨current, hcurrent, ParticipantPlaybackScope.isOlder_irrefl current⟩
  | some candidate =>
    unfold scopeIsStale at h
    rw [hcurrent] at h
    exact ⟨candidate, rfl, h⟩

theorem moveScope_scope (s : ClientSession SharedFile) (scope : Option ParticipantPlaybackScope) :
    (s.moveScope scope).participantStatusAuthoritativeScope =
      scope.or s.participantStatusAuthoritativeScope := by
  unfold moveScope
  cases scope with
  | none => rfl
  | some candidate =>
    dsimp only
    split
    · next hsame => exact hsame
    · rfl

theorem moveScope_rest (s : ClientSession SharedFile) (scope : Option ParticipantPlaybackScope) :
    (s.moveScope scope).participantStatusSnapshotRevision = s.participantStatusSnapshotRevision
      ∧ (s.moveScope scope).participantStatusReceipts = s.participantStatusReceipts
      ∧ (s.moveScope scope).roomName = s.roomName
      ∧ ((s.moveScope scope).participantStatuses = s.participantStatuses
        ∨ (s.moveScope scope).participantStatuses =
          s.participantStatuses.map fun _ status => status.redactPreciseScopeEvidence)
      ∧ ∀ username, (s.moveScope scope).roomOf username = s.roomOf username := by
  unfold moveScope
  cases scope with
  | none => exact ⟨rfl, rfl, rfl, .inl rfl, fun _ => rfl⟩
  | some candidate =>
    dsimp only
    split
    · exact ⟨rfl, rfl, rfl, .inl rfl, fun _ => rfl⟩
    · exact ⟨rfl, rfl, rfl, .inr rfl, fun _ => rfl⟩

theorem inRoom_roomOf {room username : String} (h : s.inRoom room username = true) :
    s.roomOf username = some room := by
  unfold inRoom at h
  unfold roomOf
  cases hlookup : s.users[username]? with
  | none =>
    rw [hlookup] at h
    cases h
  | some user =>
    rw [hlookup] at h
    simpa using h

theorem projected_sound (mode : ParticipantStatusSnapshotMode)
    (authoritative : Option ParticipantPlaybackScope) (wireView : ParticipantStatusView) :
    (projected mode authoritative wireView).Sound := by
  have hsound := ClientParticipantStatusView.fromWire_sound wireView
  unfold projected
  cases mode with
  | compact => exact ClientParticipantStatusView.retainCompact_sound hsound
  | unavailable => exact hsound
  | full =>
    dsimp only
    split
    · exact ClientParticipantStatusView.redactPrecise_sound hsound
    · exact hsound

/-- An adopted view is of a user in the room. -/
theorem adoptedStatuses_placed {room username : String}
    {scope : Option ParticipantPlaybackScope} {snapshot : ParticipantStatusSnapshot}
    {view : ClientParticipantStatusView}
    (h : (s.adoptedStatuses room scope snapshot)[username]? = some view) :
    s.roomOf username = some room ∧ view.Sound := by
  unfold adoptedStatuses at h
  split at h
  · rw [Std.ExtTreeMap.getElem?_filterMap', Option.bind_eq_some_iff] at h
    obtain ⟨user, -, hview⟩ := h
    split at hview
    · next hreports =>
      rw [Bool.and_eq_true] at hreports
      cases hview
      exact ⟨inRoom_roomOf hreports.1, ClientParticipantStatusView.fromWire_sound _⟩
    · cases hview
  · rw [Std.ExtTreeMap.getElem?_filterMap', Option.bind_eq_some_iff] at h
    obtain ⟨wireView, -, hview⟩ := h
    split at hview
    · next hadmits =>
      unfold admits at hadmits
      rw [Bool.and_eq_true, Bool.and_eq_true] at hadmits
      cases hview
      exact ⟨inRoom_roomOf hadmits.1.2, projected_sound _ _ _⟩
    · cases hview

/-! ### Queries -/

/-- A query changes nothing, or marks the receipt of the user. -/
theorem query_cases (s : ClientSession SharedFile) (username : String) (nowSeconds : F64) :
    (s.userParticipantStatusAt username nowSeconds).1 = s
      ∨ ∃ receipt, s.participantStatusReceipts[username]? = some receipt
        ∧ (s.userParticipantStatusAt username nowSeconds).1 =
          { s with
            participantStatusReceipts := s.participantStatusReceipts.insert username
              { receipt with clockInvalidated := true } } := by
  unfold userParticipantStatusAt
  split
  · split
    · exact .inl rfl
    · next receipt hreceipt =>
      split
      · exact .inl rfl
      · dsimp only
        split
        · exact .inr ⟨receipt, hreceipt, rfl⟩
        · exact .inl rfl
  · exact .inl rfl

end ClientSession

end Sorotte.Status
