import Sorotte.Status.Steps

/-! # Participant status over runs

  The stored views are placed in the current room and have their receipts, the
  revision and the scope only move forward between invalidations, and a receipt
  whose clock went back is never trusted again.
-/

namespace Sorotte.Status

open Sorotte.Framework
open ClientSession

variable {SharedFile : Type}

/-- The session after a run. -/
def after [DecidableEq SharedFile] (ops : List (Op SharedFile)) : ClientSession SharedFile :=
  runFrom step {} ops

/-! ### Stored views -/

/-- Every stored view is of a user known to be in the current room, and has a receipt. -/
structure Kept (s : ClientSession SharedFile) : Prop where
  placed : ∀ (username : String) (view : ClientParticipantStatusView),
    s.participantStatuses[username]? = some view →
    ∃ room, s.roomName = some room ∧ s.roomOf username = some room
  receipts : ∀ username : String,
    s.participantStatusReceipts[username]?.isSome = s.participantStatuses[username]?.isSome
  sound : ∀ (username : String) (view : ClientParticipantStatusView),
    s.participantStatuses[username]? = some view → view.Sound

theorem Kept.of_emptied {s : ClientSession SharedFile} (h : s.Emptied) : Kept s := by
  refine ⟨?_, ?_, ?_⟩
  · intro username view hview
    rw [(h.gone username).1] at hview
    cases hview
  · intro username
    rw [(h.gone username).1, (h.gone username).2]
    rfl
  · intro username view hview
    rw [(h.gone username).1] at hview
    cases hview

theorem Kept.shrinks {s s' : ClientSession SharedFile} (h : Kept s) (hshrinks : Shrinks s s') :
    Kept s' := by
  refine ⟨?_, ?_, ?_⟩
  · intro username view hview
    rcases hshrinks.users username with hgone | ⟨hstatus, -, hroom⟩
    · rw [hgone.1] at hview
      cases hview
    · rw [hstatus] at hview
      obtain ⟨room, hname, hplaced⟩ := h.placed username view hview
      exact ⟨room, hshrinks.roomName.trans hname, hroom.trans hplaced⟩
  · intro username
    rcases hshrinks.users username with hgone | ⟨hstatus, hreceipt, -⟩
    · rw [hgone.1, hgone.2]
      rfl
    · rw [hstatus, hreceipt]
      exact h.receipts username
  · intro username view hview
    rcases hshrinks.users username with hgone | ⟨hstatus, -, -⟩
    · rw [hgone.1] at hview
      cases hview
    · rw [hstatus] at hview
      exact h.sound username view hview

theorem Kept.updateLocalRoom {s : ClientSession SharedFile} (h : Kept s) (roomName : String) :
    Kept (s.updateLocalRoom roomName) := by
  rcases s.updateLocalRoom_cases roomName with ⟨-, hsame⟩ | ⟨-, hemptied, -⟩
  · rw [hsame]
    exact h
  · exact .of_emptied hemptied

theorem Kept.moveScope {s : ClientSession SharedFile} (h : Kept s)
    (scope : Option ParticipantPlaybackScope) : Kept (s.moveScope scope) := by
  obtain ⟨-, hreceipts, hroom, hstatuses, hplaces⟩ := s.moveScope_rest scope
  have hbefore : ∀ (username : String) (view : ClientParticipantStatusView),
      (s.moveScope scope).participantStatuses[username]? = some view →
      ∃ stored, s.participantStatuses[username]? = some stored
        ∧ (view = stored ∨ view = stored.redactPreciseScopeEvidence) := by
    intro username view hview
    rcases hstatuses with hsame | hredacted
    · rw [hsame] at hview
      exact ⟨view, hview, .inl rfl⟩
    · rw [hredacted, Std.ExtTreeMap.getElem?_map, Option.map_eq_some_iff] at hview
      obtain ⟨stored, hstored, rfl⟩ := hview
      exact ⟨stored, hstored, .inr rfl⟩
  refine ⟨?_, ?_, ?_⟩
  · intro username view hview
    obtain ⟨stored, hstored, -⟩ := hbefore username view hview
    obtain ⟨room, hname, hplaced⟩ := h.placed username stored hstored
    exact ⟨room, hroom.trans hname, (hplaces username).trans hplaced⟩
  · intro username
    rw [hreceipts, h.receipts username]
    rcases hstatuses with hsame | hredacted
    · rw [hsame]
    · rw [hredacted, Std.ExtTreeMap.getElem?_map, Option.isSome_map]
  · intro username view hview
    obtain ⟨stored, hstored, rfl | rfl⟩ := hbefore username view hview
    · exact h.sound username view hstored
    · exact ClientParticipantStatusView.redactPrecise_sound (h.sound username stored hstored)

theorem Kept.adoptSnapshot {s : ClientSession SharedFile} {room : String}
    (hroom : s.roomName = some room) (scope : Option ParticipantPlaybackScope)
    (snapshot : ParticipantStatusSnapshot) (receivedAtSeconds : F64) :
    Kept (s.adoptSnapshot room scope snapshot receivedAtSeconds) := by
  refine ⟨?_, ?_, ?_⟩
  · intro username view hview
    exact ⟨room, hroom, (adoptedStatuses_placed hview).1⟩
  · intro username
    show ((s.adoptedStatuses room scope snapshot).map _)[username]?.isSome = _
    rw [Std.ExtTreeMap.getElem?_map, Option.isSome_map]
    rfl
  · intro username view hview
    exact (adoptedStatuses_placed hview).2

theorem Kept.query {s : ClientSession SharedFile} (h : Kept s) (username : String)
    (nowSeconds : F64) : Kept (s.userParticipantStatusAt username nowSeconds).1 := by
  rcases s.query_cases username nowSeconds with hsame | ⟨receipt, hreceipt, hmarked⟩
  · rw [hsame]
    exact h
  · rw [hmarked]
    refine ⟨h.placed, ?_, h.sound⟩
    intro other
    dsimp only
    rw [getElem?_insert_if]
    split
    · next hother =>
      subst hother
      rw [← h.receipts other, hreceipt]
      rfl
    · exact h.receipts other

theorem step_kept [DecidableEq SharedFile] (s : ClientSession SharedFile) (op : Op SharedFile)
    (h : Kept s) : Kept (step s op) := by
  cases op with
  | update scope snapshot scopeInvalid receivedAtSeconds =>
    show Kept (s.applyParticipantStatusUpdate scope snapshot scopeInvalid receivedAtSeconds)
    unfold applyParticipantStatusUpdate
    split
    · exact .of_emptied s.clear_emptied
    · exact .of_emptied s.invalidate_emptied
    · exact h
    · exact h.moveScope scope
    · next room adopted hadopted =>
      exact .adoptSnapshot (disposition_adopted hadopted).1 scope adopted receivedAtSeconds
  | query username nowSeconds => exact h.query username nowSeconds
  | setUserRoom username roomName => exact h.shrinks (s.setUserRoom_shrinks username roomName)
  | setUserFile username file => exact h.shrinks (s.setUserFile_shrinks username file)
  | setUserCapabilities username supported =>
    exact h.shrinks (s.setUserCapabilities_shrinks username supported)
  | userJoined username => exact h.shrinks (s.userJoined_shrinks username)
  | removeUser username => exact h.shrinks (s.removeUser_shrinks username)
  | updateLocalRoom roomName => exact h.updateLocalRoom roomName
  | mediaChanged => exact .of_emptied s.invalidate_emptied
  | list rooms => exact .of_emptied (s.applyList_emptied rooms)
  | hello hello restoredFile => exact .of_emptied (s.applyHello_emptied hello restoredFile)
  | markInactive => exact .of_emptied s.markInactive_emptied
  | reconnect => exact .of_emptied s.resetForReconnect_emptied
  | initializeLocalIdentity username room =>
    have hnamed : Kept { s with username := some username } := ⟨h.placed, h.receipts, h.sound⟩
    exact (hnamed.updateLocalRoom room).shrinks (setUserRoom_shrinks _ username (some room))

theorem after_kept [DecidableEq SharedFile] (ops : List (Op SharedFile)) : Kept (after ops) := by
  have hfirst : Emptied ({} : ClientSession SharedFile) :=
    ⟨fun _ => ⟨Std.ExtTreeMap.getElem?_empty, Std.ExtTreeMap.getElem?_empty⟩, rfl, rfl⟩
  exact invariant_of_step step_kept (Kept.of_emptied hfirst) ops

/-! ### The two fences -/

/-- The operation calls `clear_participant_status_views`. -/
def Clears (s : ClientSession SharedFile) : Op SharedFile → Prop
  | .update scope snapshot scopeInvalid _ => s.disposition scope snapshot scopeInvalid = .disabled
  | .updateLocalRoom roomName => s.roomName ≠ some roomName
  | .initializeLocalIdentity _ room => s.roomName ≠ some room
  | .list _ | .hello _ _ | .markInactive | .reconnect => True
  | _ => False

/-- The operation calls `invalidate_participant_status_evidence`, alone or to clear. -/
def Invalidates (s : ClientSession SharedFile) (op : Op SharedFile) : Prop :=
  Clears s op ∨ op = .mediaChanged
    ∨ ∃ scope snapshot scopeInvalid receivedAtSeconds,
      op = .update scope snapshot scopeInvalid receivedAtSeconds
        ∧ s.disposition scope snapshot scopeInvalid = .malformed

/-- The operation adopts a snapshot of the revision. -/
def Adopts (s : ClientSession SharedFile) (op : Op SharedFile) (revision : Nat) : Prop :=
  ∃ scope snapshot scopeInvalid receivedAtSeconds room adopted,
    op = .update scope snapshot scopeInvalid receivedAtSeconds
      ∧ s.disposition scope snapshot scopeInvalid = .adopted room adopted
      ∧ adopted.revision = revision

/-- What a step that does not clear does to revision and scope. -/
inductive Advance [DecidableEq SharedFile] (s : ClientSession SharedFile) (op : Op SharedFile) :
    Prop where
  /-- The evidence is invalidated, behind the revision. -/
  | invalidated (invalidates : Invalidates s op)
      (revision : (step s op).participantStatusSnapshotRevision =
        s.participantStatusSnapshotRevision)
      (unadopted : ∀ revision, ¬Adopts s op revision)
  | still (fences : (step s op).fences = s.fences) (unadopted : ∀ revision, ¬Adopts s op revision)
  | moved (revision : (step s op).participantStatusSnapshotRevision =
        s.participantStatusSnapshotRevision)
      (scope : ∀ current, s.participantStatusAuthoritativeScope = some current →
        ∃ next, (step s op).participantStatusAuthoritativeScope = some next
          ∧ next.isOlder current = false)
      (unadopted : ∀ revision, ¬Adopts s op revision)
  | adopted (revision : Nat) (adopts : Adopts s op revision)
      (only : ∀ other, Adopts s op other → other = revision)
      (now : (step s op).participantStatusSnapshotRevision = some revision)
      (later : ∀ earlier, s.participantStatusSnapshotRevision = some earlier → earlier < revision)
      (scope : ∀ current, s.participantStatusAuthoritativeScope = some current →
        ∃ next, (step s op).participantStatusAuthoritativeScope = some next
          ∧ next.isOlder current = false)

theorem not_adopts_of_disposition {s : ClientSession SharedFile}
    {scope : Option ParticipantPlaybackScope} {snapshot : Option ParticipantStatusSnapshot}
    {scopeInvalid : Bool} {receivedAtSeconds : F64}
    (h : ∀ room adopted, s.disposition scope snapshot scopeInvalid ≠ .adopted room adopted)
    (revision : Nat) : ¬Adopts s (.update scope snapshot scopeInvalid receivedAtSeconds) revision := by
  rintro ⟨_, _, _, _, room, adopted, heq, hadopted, -⟩
  cases heq
  exact h room adopted hadopted

theorem not_adopts_of_other {s : ClientSession SharedFile} {op : Op SharedFile}
    (h : ∀ scope snapshot scopeInvalid receivedAtSeconds,
      op ≠ .update scope snapshot scopeInvalid receivedAtSeconds)
    (revision : Nat) : ¬Adopts s op revision := by
  rintro ⟨scope, snapshot, scopeInvalid, receivedAtSeconds, _, _, heq, -⟩
  exact h scope snapshot scopeInvalid receivedAtSeconds heq

theorem update_advance [DecidableEq SharedFile] (s : ClientSession SharedFile)
    (scope : Option ParticipantPlaybackScope) (snapshot : Option ParticipantStatusSnapshot) (scopeInvalid : Bool) (receivedAtSeconds : F64)
    (h : ¬Clears s (.update scope snapshot scopeInvalid receivedAtSeconds)) :
    Advance s (.update scope snapshot scopeInvalid receivedAtSeconds) := by
  have hstep : step s (.update scope snapshot scopeInvalid receivedAtSeconds) =
      s.applyParticipantStatusUpdate scope snapshot scopeInvalid receivedAtSeconds := rfl
  unfold applyParticipantStatusUpdate at hstep
  cases hdisposition : s.disposition scope snapshot scopeInvalid with
  | disabled => exact absurd hdisposition h
  | malformed =>
    rw [hdisposition] at hstep
    refine .invalidated (.inr (.inr ⟨_, _, _, _, rfl, hdisposition⟩)) ?_
      (not_adopts_of_disposition (by simp [hdisposition]))
    rw [hstep]
    rfl
  | rejected =>
    rw [hdisposition] at hstep
    exact .still (congrArg fences hstep) (not_adopts_of_disposition (by simp [hdisposition]))
  | scopeOnly =>
    rw [hdisposition] at hstep
    refine .moved ?_ ?_ (not_adopts_of_disposition (by simp [hdisposition]))
    · rw [hstep]
      exact (s.moveScope_rest scope).1
    · intro current hcurrent
      rw [hstep]
      dsimp only
      rw [moveScope_scope]
      exact not_older_of_current (disposition_scopeOnly hdisposition) hcurrent
  | adopted room adopted =>
    rw [hdisposition] at hstep
    obtain ⟨-, -, hscope, hlater⟩ := disposition_adopted hdisposition
    refine .adopted adopted.revision ⟨_, _, _, _, room, adopted, rfl, hdisposition, rfl⟩ ?_ ?_
      hlater ?_
    · rintro other ⟨_, _, _, _, room', adopted', heq, hadopted', rfl⟩
      cases heq
      rw [hdisposition] at hadopted'
      cases hadopted'
      rfl
    · rw [hstep]
      rfl
    · intro current hcurrent
      rw [hstep]
      exact not_older_of_current hscope hcurrent

theorem Advance.of_shrinks [DecidableEq SharedFile] {s : ClientSession SharedFile}
    {op : Op SharedFile} (h : Shrinks s (step s op))
    (hother : ∀ scope snapshot scopeInvalid receivedAtSeconds,
      op ≠ .update scope snapshot scopeInvalid receivedAtSeconds) : Advance s op :=
  .still h.fences (not_adopts_of_other hother)

theorem step_advance [DecidableEq SharedFile] (s : ClientSession SharedFile) (op : Op SharedFile)
    (h : ¬Clears s op) : Advance s op := by
  cases op with
  | update scope snapshot scopeInvalid receivedAtSeconds =>
    exact update_advance s scope snapshot scopeInvalid receivedAtSeconds h
  | query username nowSeconds =>
    refine .still ?_ (not_adopts_of_other fun _ _ _ _ h => nomatch h)
    show (s.userParticipantStatusAt username nowSeconds).1.fences = _
    rcases s.query_cases username nowSeconds with hsame | ⟨receipt, -, hmarked⟩
    · rw [hsame]
    · rw [hmarked]
      rfl
  | setUserRoom username roomName =>
    exact .of_shrinks (s.setUserRoom_shrinks username roomName) fun _ _ _ _ h => nomatch h
  | setUserFile username file =>
    exact .of_shrinks (s.setUserFile_shrinks username file) fun _ _ _ _ h => nomatch h
  | setUserCapabilities username supported =>
    exact .of_shrinks (s.setUserCapabilities_shrinks username supported) fun _ _ _ _ h => nomatch h
  | userJoined username =>
    exact .of_shrinks (s.userJoined_shrinks username) fun _ _ _ _ h => nomatch h
  | removeUser username =>
    exact .of_shrinks (s.removeUser_shrinks username) fun _ _ _ _ h => nomatch h
  | updateLocalRoom roomName =>
    refine .still ?_ (not_adopts_of_other fun _ _ _ _ h => nomatch h)
    show (s.updateLocalRoom roomName).fences = _
    rcases s.updateLocalRoom_cases roomName with ⟨-, hsame⟩ | ⟨hmoved, -⟩
    · rw [hsame]
    · exact absurd hmoved h
  | mediaChanged =>
    exact .invalidated (.inr (.inl rfl)) rfl (not_adopts_of_other fun _ _ _ _ h => nomatch h)
  | initializeLocalIdentity username room =>
    refine .still ?_ (not_adopts_of_other fun _ _ _ _ h => nomatch h)
    have hroom := setUserRoom_shrinks
      ({ s with username := some username }.updateLocalRoom room) username (some room)
    refine hroom.fences.trans ?_
    rcases updateLocalRoom_cases { s with username := some username } room with
      ⟨-, hsame⟩ | ⟨hmoved, -⟩
    · rw [hsame]
      rfl
    · exact absurd hmoved h
  | list rooms => exact absurd trivial h
  | hello hello restoredFile => exact absurd trivial h
  | markInactive => exact absurd trivial h
  | reconnect => exact absurd trivial h

/-- The snapshot revision is at least the one given. -/
def ReachedRevision (revision : Nat) (s : ClientSession SharedFile) : Prop :=
  ∃ current, s.participantStatusSnapshotRevision = some current ∧ revision ≤ current

theorem step_reached [DecidableEq SharedFile] {revision : Nat} (s : ClientSession SharedFile)
    (op : Op SharedFile) (hs : ReachedRevision revision s) (hop : ¬Clears s op) :
    ReachedRevision revision (step s op) := by
  obtain ⟨current, hcurrent, hle⟩ := hs
  cases step_advance s op hop with
  | invalidated _ hrevision => exact ⟨current, hrevision.trans hcurrent, hle⟩
  | still hfences => exact ⟨current, (congrArg Prod.fst hfences).trans hcurrent, hle⟩
  | moved hrevision => exact ⟨current, hrevision.trans hcurrent, hle⟩
  | adopted next _ _ hnow hlater =>
    have hlt := hlater current hcurrent
    exact ⟨next, hnow, by omega⟩

/-- Two adoptions without a clear between them are of increasing revisions. -/
theorem adoptions_increase [DecidableEq SharedFile] {s : ClientSession SharedFile}
    {op op' : Op SharedFile} {middle : List (Op SharedFile)} {revision revision' : Nat} (h : Adopts s op revision)
    (hmiddle : Along step (fun s op => ¬Clears s op) (step s op) middle)
    (h' : Adopts (runFrom step (step s op) middle) op' revision') : revision < revision' := by
  have hclears : ∀ {s : ClientSession SharedFile} {op : Op SharedFile} {revision : Nat},
      Adopts s op revision → ¬Clears s op := by
    rintro s op revision ⟨_, _, _, _, room, adopted, rfl, hadopted, -⟩ hdisabled
    change s.disposition _ _ _ = .disabled at hdisabled
    rw [hadopted] at hdisabled
    cases hdisabled
  have hfirst : ReachedRevision revision (step s op) := by
    cases step_advance s op (hclears h) with
    | invalidated _ _ hnone => exact absurd h (hnone revision)
    | still _ hnone => exact absurd h (hnone revision)
    | moved _ _ hnone => exact absurd h (hnone revision)
    | adopted next _ honly hnow =>
      rw [honly revision h]
      exact ⟨next, hnow, Nat.le_refl _⟩
  obtain ⟨current, hcurrent, hle⟩ := invariant_along step_reached hfirst hmiddle
  cases step_advance _ op' (hclears h') with
  | invalidated _ _ hnone => exact absurd h' (hnone revision')
  | still _ hnone => exact absurd h' (hnone revision')
  | moved _ _ hnone => exact absurd h' (hnone revision')
  | adopted next _ honly _ hlater =>
    rw [honly revision' h']
    have hlt := hlater current hcurrent
    omega

/-- The authoritative scope is not older than the one given. -/
def NotOlderThan (scope : ParticipantPlaybackScope) (s : ClientSession SharedFile) : Prop :=
  ∃ current, s.participantStatusAuthoritativeScope = some current
    ∧ current.isOlder scope = false

theorem step_notOlder [DecidableEq SharedFile] {scope : ParticipantPlaybackScope}
    (s : ClientSession SharedFile) (op : Op SharedFile) (hs : NotOlderThan scope s) (hop : ¬Invalidates s op) :
    NotOlderThan scope (step s op) := by
  obtain ⟨current, hcurrent, hold⟩ := hs
  have hmoved : (∃ next, (step s op).participantStatusAuthoritativeScope = some next
      ∧ next.isOlder current = false) → NotOlderThan scope (step s op) := by
    rintro ⟨next, hnext, hnew⟩
    exact ⟨next, hnext, ParticipantPlaybackScope.not_isOlder_trans hold hnew⟩
  cases step_advance s op fun hclears => hop (.inl hclears) with
  | invalidated hinvalidates => exact absurd hinvalidates hop
  | still hfences => exact ⟨current, (congrArg (·.2.2) hfences).trans hcurrent, hold⟩
  | moved _ hscope => exact hmoved (hscope current hcurrent)
  | adopted _ _ _ _ _ hscope => exact hmoved (hscope current hcurrent)

/-! ### Receipts whose clock went back -/

/-- The receipt of the user is marked, or there is none. -/
def Distrusted (username : String) (s : ClientSession SharedFile) : Prop :=
  ∀ receipt, s.participantStatusReceipts[username]? = some receipt →
    receipt.clockInvalidated = true

theorem Distrusted.of_emptied {username : String} {s : ClientSession SharedFile}
    (h : s.Emptied) : Distrusted username s := by
  intro receipt hreceipt
  rw [(h.gone username).2] at hreceipt
  cases hreceipt

theorem Distrusted.shrinks {username : String} {s s' : ClientSession SharedFile}
    (h : Distrusted username s) (hshrinks : Shrinks s s') : Distrusted username s' := by
  intro receipt hreceipt
  rcases hshrinks.users username with hgone | ⟨-, hkept, -⟩
  · rw [hgone.2] at hreceipt
    cases hreceipt
  · rw [hkept] at hreceipt
    exact h receipt hreceipt

theorem Distrusted.updateLocalRoom {username : String} {s : ClientSession SharedFile}
    (h : Distrusted username s) (roomName : String) :
    Distrusted username (s.updateLocalRoom roomName) := by
  rcases s.updateLocalRoom_cases roomName with ⟨-, hsame⟩ | ⟨-, hemptied, -⟩
  · rw [hsame]
    exact h
  · exact .of_emptied hemptied

/-- Only the adoption of a snapshot brings a receipt that is trusted. -/
theorem step_distrusted [DecidableEq SharedFile] {username : String}
    (s : ClientSession SharedFile) (op : Op SharedFile) (hs : Distrusted username s) (hop : ∀ revision, ¬Adopts s op revision) :
    Distrusted username (step s op) := by
  cases op with
  | update scope snapshot scopeInvalid receivedAtSeconds =>
    show Distrusted username
      (s.applyParticipantStatusUpdate scope snapshot scopeInvalid receivedAtSeconds)
    unfold applyParticipantStatusUpdate
    split
    · exact .of_emptied s.clear_emptied
    · exact .of_emptied s.invalidate_emptied
    · exact hs
    · intro receipt hreceipt
      rw [(s.moveScope_rest scope).2.1] at hreceipt
      exact hs receipt hreceipt
    · next room adopted hadopted =>
      exact absurd ⟨_, _, _, _, room, adopted, rfl, hadopted, rfl⟩ (hop adopted.revision)
  | query other nowSeconds =>
    show Distrusted username (s.userParticipantStatusAt other nowSeconds).1
    rcases s.query_cases other nowSeconds with hsame | ⟨marked, -, hmarked⟩
    · rw [hsame]
      exact hs
    · rw [hmarked]
      intro receipt hreceipt
      dsimp only at hreceipt
      rw [getElem?_insert_if] at hreceipt
      split at hreceipt
      · cases hreceipt
        rfl
      · exact hs receipt hreceipt
  | setUserRoom other roomName => exact hs.shrinks (s.setUserRoom_shrinks other roomName)
  | setUserFile other file => exact hs.shrinks (s.setUserFile_shrinks other file)
  | setUserCapabilities other supported =>
    exact hs.shrinks (s.setUserCapabilities_shrinks other supported)
  | userJoined other => exact hs.shrinks (s.userJoined_shrinks other)
  | removeUser other => exact hs.shrinks (s.removeUser_shrinks other)
  | updateLocalRoom roomName => exact hs.updateLocalRoom roomName
  | mediaChanged => exact .of_emptied s.invalidate_emptied
  | list rooms => exact .of_emptied (s.applyList_emptied rooms)
  | hello hello restoredFile => exact .of_emptied (s.applyHello_emptied hello restoredFile)
  | markInactive => exact .of_emptied s.markInactive_emptied
  | reconnect => exact .of_emptied s.resetForReconnect_emptied
  | initializeLocalIdentity other room =>
    have hnamed : Distrusted username { s with username := some other } := hs
    exact (hnamed.updateLocalRoom room).shrinks (setUserRoom_shrinks _ other (some room))

/-- A query that sees the clock behind the receipt of the user. -/
structure SeesRollback (s : ClientSession SharedFile) (username : String) (nowSeconds : F64) :
    Prop where
  user : s.users[username]?.isSome
  view : s.participantStatuses[username]?.isSome
  rollback : ∃ receipt, s.participantStatusReceipts[username]? = some receipt
    ∧ invalidClock (elapsedSeconds nowSeconds receipt.receivedAtSeconds) = true

theorem SeesRollback.distrusted [DecidableEq SharedFile] {s : ClientSession SharedFile}
    {username : String} {nowSeconds : F64} (h : SeesRollback s username nowSeconds) :
    Distrusted username (step s (.query username nowSeconds)) := by
  obtain ⟨huser, hview, receipt, hreceipt, hback⟩ := h
  obtain ⟨user, huser⟩ := Option.isSome_iff_exists.mp huser
  obtain ⟨view, hview⟩ := Option.isSome_iff_exists.mp hview
  show Distrusted username (s.userParticipantStatusAt username nowSeconds).1
  unfold userParticipantStatusAt
  rw [huser, hview, hreceipt]
  dsimp only
  split
  · next hmarked =>
    intro receipt' hreceipt'
    dsimp only at hreceipt'
    rw [hreceipt] at hreceipt'
    cases hreceipt'
    exact hmarked
  · intro receipt' hreceipt'
    dsimp only at hreceipt'
    rw [getElem?_insert_if, if_pos rfl] at hreceipt'
    cases hreceipt'
    rfl

/-- A query of a distrusted receipt shows nothing, or the view closed as stale. -/
theorem query_distrusted {s : ClientSession SharedFile} {username : String} {nowSeconds : F64}
    (h : Distrusted username s) :
    (s.userParticipantStatusAt username nowSeconds).2 = none
      ∨ ∃ view, s.participantStatuses[username]? = some view
        ∧ (s.userParticipantStatusAt username nowSeconds).2 = some view.failClosedStale := by
  unfold userParticipantStatusAt
  split
  · next user view huser hview =>
    split
    · exact .inr ⟨view, hview, rfl⟩
    · next receipt hreceipt =>
      rw [if_pos (h receipt hreceipt)]
      exact .inr ⟨view, hview, rfl⟩
  · exact .inl rfl

/-! ### Exact views -/

/-- In full mode an exact view that is shown is of the authoritative scope, or
    stripped of everything that came from a scope. -/
theorem query_exact {s : ClientSession SharedFile} (hkept : Kept s) {username : String}
    {nowSeconds : F64} {scope : ParticipantPlaybackScope} {view : ClientParticipantStatusView}
    (hmode : s.participantStatusSnapshotMode = .full)
    (hscope : s.participantStatusAuthoritativeScope = some scope)
    (hview : (s.userParticipantStatusAt username nowSeconds).2 = some view)
    (hexact : view.status.correlation = some .exact) :
    view.status.playbackScope = some scope ∨ view.Stripped := by
  unfold userParticipantStatusAt at hview
  split at hview
  · next user stored huser hstored =>
    have hsound := hkept.sound username stored hstored
    have hclosed : some stored.failClosedStale = some view → view.Stripped := by
      intro heq
      cases heq
      exact ClientParticipantStatusView.failClosed_exact hsound hexact
    split at hview
    · exact .inr (hclosed hview)
    · next receipt hreceipt =>
      split at hview
      · exact .inr (hclosed hview)
      · dsimp only at hview
        split at hview
        · exact .inr (hclosed hview)
        · -- The view is redacted unless it is of the scope, and only then it stays exact.
          split at hview
          · cases hview
            have hredacted := ClientParticipantStatusView.redactPrecise_sound hsound
            have hbefore := (ClientParticipantStatusView.agedBy_exact hredacted hexact).1
            exact absurd hbefore (ClientParticipantStatusView.redactPrecise_same stored).2.1
          · next hagrees =>
            cases hview
            obtain ⟨hbefore, hscoped⟩ := ClientParticipantStatusView.agedBy_exact hsound hexact
            refine hscoped.imp ?_ id
            intro hkeeps
            rw [hkeeps]
            by_contra hdiffers
            exact hagrees ⟨hmode, by rw [hscope]; rfl, hbefore, by rw [hscope]; exact hdiffers⟩
  · cases hview

/-! ### Updates that are refused -/

/-- One of the fences refuses the update: its snapshot is not later than the adopted
    one, or its scope is older than the authoritative one. -/
def Fenced (s : ClientSession SharedFile) (scope : Option ParticipantPlaybackScope)
    (snapshot : Option ParticipantStatusSnapshot) : Prop :=
  (∃ offered revision, snapshot = some offered ∧ offered.revision ≠ 0
      ∧ s.participantStatusSnapshotRevision = some revision ∧ offered.revision ≤ revision)
    ∨ ∃ candidate current, scope = some candidate
      ∧ s.participantStatusAuthoritativeScope = some current ∧ candidate.isOlder current = true

theorem disposition_fenced {s : ClientSession SharedFile}
    {scope : Option ParticipantPlaybackScope} {snapshot : Option ParticipantStatusSnapshot}
    (henabled : s.inboundIsEnabled = true) (hwell : scope.all (!·.malformed) = true)
    (h : Fenced s scope snapshot) : s.disposition scope snapshot false = .rejected := by
  have hroom : ∃ room, s.roomName = some room := by
    unfold inboundIsEnabled at henabled
    rw [Bool.and_eq_true] at henabled
    exact Option.isSome_iff_exists.mp henabled.2
  obtain ⟨room, hroom⟩ := hroom
  have hscope : scope.any (·.malformed) = false := by
    cases scope with
    | none => rfl
    | some candidate => simpa using hwell
  unfold disposition
  rw [if_pos henabled, hroom]
  dsimp only
  rw [hscope, if_neg (by simp)]
  rw [if_pos]
  rw [Bool.or_eq_true]
  rcases h with ⟨offered, revision, rfl, hnonzero, hrevision, hle⟩
    | ⟨candidate, current, rfl, hcurrent, holder⟩
  · left
    have hkept : (some offered : Option ParticipantStatusSnapshot).filter
        (fun snapshot => snapshot.revision != 0) = some offered := by
      simp [Option.filter, hnonzero]
    rw [hkept]
    unfold snapshotIsStale
    rw [hrevision]
    exact decide_eq_true hle
  · right
    unfold scopeIsStale
    rw [hcurrent]
    exact holder

theorem disposition_malformed {s : ClientSession SharedFile}
    {scope : Option ParticipantPlaybackScope} (snapshot : Option ParticipantStatusSnapshot)
    {scopeInvalid : Bool} (henabled : s.inboundIsEnabled = true)
    (h : scopeInvalid = true ∨ scope.any (·.malformed) = true) :
    s.disposition scope snapshot scopeInvalid = .malformed := by
  have hroom : ∃ room, s.roomName = some room := by
    unfold inboundIsEnabled at henabled
    rw [Bool.and_eq_true] at henabled
    exact Option.isSome_iff_exists.mp henabled.2
  obtain ⟨room, hroom⟩ := hroom
  unfold disposition
  rw [if_pos henabled, hroom]
  exact if_pos (by rw [Bool.or_eq_true]; exact h)

/-! ### Participant status -/

/-- **No status from a superseded scope.**  Between clears adopted revisions
    increase; an update that a fence refuses changes nothing, and a malformed scope
    drops everything but the revision; the order of scopes is strict, and without an
    invalidation the authoritative scope never becomes older; a view shown as exact in
    full mode is of that scope or stripped; stored views are placed and have receipts;
    and once a receipt saw its clock go back its queries are closed as stale. -/
theorem participant_status_scoped [DecidableEq SharedFile] :
    (∀ (front : List (Op SharedFile)) op middle op' revision revision',
        Adopts (after front) op revision →
        Along step (fun s op => ¬Clears s op) (after (front ++ [op])) middle →
        Adopts (after (front ++ op :: middle)) op' revision' → revision < revision')
      ∧ (∀ (ops : List (Op SharedFile)) scope snapshot receivedAtSeconds,
        (after ops).inboundIsEnabled = true → scope.all (!·.malformed) = true →
        Fenced (after ops) scope snapshot →
        step (after ops) (.update scope snapshot false receivedAtSeconds) = after ops)
      ∧ (∀ (ops : List (Op SharedFile)) scope snapshot scopeInvalid receivedAtSeconds,
        (after ops).inboundIsEnabled = true →
        (scopeInvalid = true ∨ scope.any (·.malformed) = true) →
        (step (after ops) (.update scope snapshot scopeInvalid receivedAtSeconds)).Emptied
          ∧ (step (after ops) (.update scope snapshot scopeInvalid receivedAtSeconds)
            ).participantStatusSnapshotRevision = (after ops).participantStatusSnapshotRevision)
      ∧ (∀ scope : ParticipantPlaybackScope, scope.isOlder scope = false)
      ∧ (∀ first second third : ParticipantPlaybackScope, first.isOlder second = true →
        second.isOlder third = true → first.isOlder third = true)
      ∧ (∀ (front span : List (Op SharedFile)) scope,
        (after front).participantStatusAuthoritativeScope = some scope →
        Along step (fun s op => ¬Invalidates s op) (after front) span →
        ∃ current, (after (front ++ span)).participantStatusAuthoritativeScope = some current
          ∧ current.isOlder scope = false)
      ∧ (∀ (ops : List (Op SharedFile)) username nowSeconds scope view,
        (after ops).participantStatusSnapshotMode = .full →
        (after ops).participantStatusAuthoritativeScope = some scope →
        ((after ops).userParticipantStatusAt username nowSeconds).2 = some view →
        view.status.correlation = some .exact →
        view.status.playbackScope = some scope ∨ view.Stripped)
      ∧ (∀ (ops : List (Op SharedFile)) (username : String) (view : ClientParticipantStatusView),
        (after ops).participantStatuses[username]? = some view →
        (∃ room, (after ops).roomName = some room ∧ (after ops).roomOf username = some room)
          ∧ (after ops).participantStatusReceipts[username]?.isSome)
      ∧ ∀ (front : List (Op SharedFile)) username nowSeconds rest laterSeconds,
        SeesRollback (after front) username nowSeconds →
        Along step (fun s op => ∀ revision, ¬Adopts s op revision)
          (after (front ++ [.query username nowSeconds])) rest →
        ((after (front ++ .query username nowSeconds :: rest)).userParticipantStatusAt username
            laterSeconds).2 = none
          ∨ ∃ view, (after (front ++ .query username nowSeconds :: rest)).participantStatuses[
              username]? = some view
            ∧ ((after (front ++ .query username nowSeconds :: rest)).userParticipantStatusAt
              username laterSeconds).2 = some view.failClosedStale := by
  have hsnoc : ∀ (front : List (Op SharedFile)) op, after (front ++ [op]) = step (after front) op :=
    fun front op => runFrom_append ..
  have hsplit : ∀ (front : List (Op SharedFile)) op rest,
      after (front ++ op :: rest) = runFrom step (step (after front) op) rest :=
    fun front op rest => runFrom_append ..
  refine ⟨?_, ?_, ?_, ParticipantPlaybackScope.isOlder_irrefl,
    fun _ _ _ => ParticipantPlaybackScope.isOlder_trans, ?_, ?_, ?_, ?_⟩
  · intro front op middle op' revision revision' h hmiddle h'
    rw [hsnoc] at hmiddle
    rw [hsplit] at h'
    exact adoptions_increase h hmiddle h'
  · intro ops scope snapshot receivedAtSeconds henabled hwell hfenced
    show (after ops).applyParticipantStatusUpdate scope snapshot false receivedAtSeconds = _
    unfold applyParticipantStatusUpdate
    rw [disposition_fenced henabled hwell hfenced]
  · intro ops scope snapshot scopeInvalid receivedAtSeconds henabled hmalformed
    have hstep : step (after ops) (.update scope snapshot scopeInvalid receivedAtSeconds) =
        (after ops).invalidateParticipantStatusEvidence := by
      show (after ops).applyParticipantStatusUpdate scope snapshot scopeInvalid
        receivedAtSeconds = _
      unfold applyParticipantStatusUpdate
      rw [disposition_malformed snapshot henabled hmalformed]
    rw [hstep]
    exact ⟨(after ops).invalidate_emptied, rfl⟩
  · intro front span scope hscope hspan
    have hstart : NotOlderThan scope (after front) :=
      ⟨scope, hscope, ParticipantPlaybackScope.isOlder_irrefl scope⟩
    have hend := invariant_along step_notOlder hstart hspan
    rw [show after (front ++ span) = runFrom step (after front) span from runFrom_append ..]
    exact hend
  · intro ops username nowSeconds scope view hmode hscope hview hexact
    exact query_exact (after_kept ops) hmode hscope hview hexact
  · intro ops username view hview
    refine ⟨(after_kept ops).placed username view hview, ?_⟩
    rw [(after_kept ops).receipts username, hview]
    rfl
  · intro front username nowSeconds rest laterSeconds hrollback hrest
    rw [hsnoc] at hrest
    rw [hsplit]
    exact query_distrusted (invariant_along step_distrusted hrollback.distrusted hrest)

/-- A row that a playing participant reports in a scope. -/
def playingRow (scope : ParticipantPlaybackScope) : ParticipantStatusView where
  availability := .fresh
  correlation := some .exact
  playbackScope := some scope
  playerConnection := some .connected
  phase := some .playing
  timelineKind := some .vod
  positionSeconds := some (.finite 42)
  sampleAgeMs := some 0
  positionSampleAgeMs := some 0
  reportAgeMs := some 0
  roomOffsetSeconds := some (.finite 0)

/-- The scope of the room in the runs below. -/
def loungeScope : ParticipantPlaybackScope := ⟨1, some 1, some 1⟩

/-- Alice adopts a row of Bob, who is in her room. -/
def adoptedRun : List (Op String) :=
  [.hello ⟨"alice", "lounge", true⟩ none, .setUserRoom "bob" (some "lounge"),
    .update (some loungeScope) (some ⟨1, .full, .ofList [("bob", playingRow loungeScope)]⟩) false
      (.finite 0)]

/-- The row is shown with its scope while it is fresh. -/
theorem participant_status_scoped_fresh :
    ∃ view, ((after adoptedRun).userParticipantStatusAt "bob" (.finite 1)).2 = some view
      ∧ (view.status.playbackScope = some loungeScope ∨ view.Stripped) := by
  have hview : (((after adoptedRun).userParticipantStatusAt "bob" (.finite 1)).2.any fun view =>
      view.status.correlation == some .exact) = true := by decide +kernel
  obtain ⟨view, hview, hexact⟩ := Option.any_eq_true .. |>.mp hview
  exact ⟨view, hview, participant_status_scoped.2.2.2.2.2.2.1 adoptedRun "bob" (.finite 1)
    loungeScope view (by decide +kernel) (by decide +kernel) hview (by simpa using hexact)⟩

/-- Eleven seconds later it is still exact and has no scope any more. -/
theorem exact_view_without_scope :
    (after adoptedRun).participantStatusSnapshotMode = .full
      ∧ (after adoptedRun).participantStatusAuthoritativeScope = some loungeScope
      ∧ (((after adoptedRun).userParticipantStatusAt "bob" (.finite 11)).2.map fun view =>
          (view.status.correlation, view.status.playbackScope)) = some (some .exact, none) := by
  decide +kernel

end Sorotte.Status
