import Sorotte.Framework.Runs
import Sorotte.Status.Views

/-! # Participant status of a session

  What a client session keeps of the participants of its room: who is there, the
  adopted rows of the server's snapshots with the receipts that age them, and the
  two fences, the revision of the snapshots and the scope of the room's playback.
  Files are compared and never looked into.
-/

namespace Sorotte.Status

/-! ### State -/

structure ClientUserView (SharedFile : Type) where
  room : Option String := none
  file : Option SharedFile := none

structure ParticipantStatusReceipt where
  receivedAtSeconds : F64
  clockInvalidated : Bool := false

structure ClientSession (SharedFile : Type) where
  active : Bool := false
  participantStatusV1 : Bool := false
  username : Option String := none
  roomName : Option String := none
  users : BTreeMap String (ClientUserView SharedFile) := ∅
  participantStatusCapabilities : BTreeMap String Bool := ∅
  participantStatuses : BTreeMap String ClientParticipantStatusView := ∅
  participantStatusReceipts : BTreeMap String ParticipantStatusReceipt := ∅
  participantStatusSnapshotRevision : Option Nat := none
  participantStatusSnapshotMode : ParticipantStatusSnapshotMode := .full
  participantStatusAuthoritativeScope : Option ParticipantPlaybackScope := none

/-- The difference of two clock values. -/
def elapsedSeconds : F64 → F64 → F64
  | .finite nowSeconds, .finite receivedAt => .finite (nowSeconds - receivedAt)
  | _, _ => .nonFinite

/-- A difference that no forward clock produces. -/
def invalidClock : F64 → Bool
  | .nonFinite => true
  | .finite elapsed => decide (elapsed < 0)

variable {SharedFile : Type}

namespace ClientSession

/-! ### Invalidation -/

def invalidateParticipantStatusEvidence (s : ClientSession SharedFile) :
    ClientSession SharedFile :=
  { s with
    participantStatuses := ∅
    participantStatusReceipts := ∅
    participantStatusSnapshotMode := .full
    participantStatusAuthoritativeScope := none }

def clearParticipantStatusViews (s : ClientSession SharedFile) : ClientSession SharedFile :=
  { s.invalidateParticipantStatusEvidence with participantStatusSnapshotRevision := none }

def invalidateUserParticipantStatus (s : ClientSession SharedFile) (username : String) :
    ClientSession SharedFile :=
  { s with
    participantStatuses := s.participantStatuses.erase username
    participantStatusReceipts := s.participantStatusReceipts.erase username }

/-! ### Queries -/

/-- The view of a user aged to a time; a clock that went back marks the receipt. -/
def userParticipantStatusAt (s : ClientSession SharedFile) (username : String)
    (nowSeconds : F64) : ClientSession SharedFile × Option ClientParticipantStatusView :=
  match s.users[username]?, s.participantStatuses[username]? with
  | some _, some status =>
      match s.participantStatusReceipts[username]? with
      | none => (s, some status.failClosedStale)
      | some receipt =>
          if receipt.clockInvalidated then (s, some status.failClosedStale)
          else
            let elapsed := elapsedSeconds nowSeconds receipt.receivedAtSeconds
            if invalidClock elapsed then
              ({ s with
                  participantStatusReceipts := s.participantStatusReceipts.insert username
                    { receipt with clockInvalidated := true } },
                some status.failClosedStale)
            else
              let status :=
                if s.participantStatusSnapshotMode = .full
                    ∧ s.participantStatusAuthoritativeScope.isSome
                    ∧ status.status.correlation = some .exact
                    ∧ status.status.playbackScope ≠ s.participantStatusAuthoritativeScope then
                  status.redactPreciseScopeEvidence
                else status
              (s, some (status.agedBy elapsed))
  | _, _ => (s, none)

/-! ### Updates -/

def inboundIsEnabled (s : ClientSession SharedFile) : Bool :=
  s.active && s.participantStatusV1 && s.roomName.isSome

/-- The snapshot is not later than the last one adopted. -/
def snapshotIsStale (s : ClientSession SharedFile) (snapshot : Option ParticipantStatusSnapshot) :
    Bool :=
  match snapshot, s.participantStatusSnapshotRevision with
  | some snapshot, some revision => decide (snapshot.revision ≤ revision)
  | _, _ => false

/-- The scope is older than the authoritative one. -/
def scopeIsStale (s : ClientSession SharedFile) (scope : Option ParticipantPlaybackScope) : Bool :=
  match scope, s.participantStatusAuthoritativeScope with
  | some candidate, some current => candidate.isOlder current
  | _, _ => false

/-- The view of a row, as a snapshot of the mode brings it under a scope. -/
def projected (mode : ParticipantStatusSnapshotMode)
    (authoritative : Option ParticipantPlaybackScope) (wireView : ParticipantStatusView) :
    ClientParticipantStatusView :=
  let view := ClientParticipantStatusView.fromWire wireView
  match mode with
  | .compact => view.retainCompactSnapshotFields
  | .full =>
      if authoritative.isSome ∧ view.status.correlation = some .exact
          ∧ view.status.playbackScope ≠ authoritative then
        view.redactPreciseScopeEvidence
      else view
  | .unavailable => view

/-- The user is known to be in the room. -/
def inRoom (s : ClientSession SharedFile) (room username : String) : Bool :=
  s.users[username]?.any fun user => user.room == some room

/-- A row of a snapshot is admitted for the user. -/
def admits (s : ClientSession SharedFile) (room username : String)
    (wireView : ParticipantStatusView) : Bool :=
  trimText username != "" && s.inRoom room username
    && !(s.participantStatusCapabilities[username]? == some false
      && wireView.availability != .unsupported)

/-- The views a snapshot leaves: its admitted rows, or an unavailable row for
    everybody in the room who reports. -/
def adoptedStatuses (s : ClientSession SharedFile) (room : String)
    (scope : Option ParticipantPlaybackScope) (snapshot : ParticipantStatusSnapshot) :
    BTreeMap String ClientParticipantStatusView :=
  if snapshot.mode = .unavailable then
    s.users.filterMap fun username _ =>
      if s.inRoom room username && s.participantStatusCapabilities[username]? == some true then
        some (.fromWire { availability := .unavailable })
      else none
  else
    snapshot.participants.filterMap fun username wireView =>
      if s.admits room username wireView then
        some (projected snapshot.mode (scope.or s.participantStatusAuthoritativeScope) wireView)
      else none

def adoptSnapshot (s : ClientSession SharedFile) (room : String)
    (scope : Option ParticipantPlaybackScope) (snapshot : ParticipantStatusSnapshot)
    (receivedAtSeconds : F64) : ClientSession SharedFile :=
  let statuses := s.adoptedStatuses room scope snapshot
  { s with
    participantStatusAuthoritativeScope := scope.or s.participantStatusAuthoritativeScope
    participantStatusSnapshotRevision := some snapshot.revision
    participantStatusSnapshotMode := snapshot.mode
    participantStatuses := statuses
    participantStatusReceipts := statuses.map fun _ _ => { receivedAtSeconds } }

/-- A scope that comes alone supersedes the precision of the views. -/
def moveScope (s : ClientSession SharedFile) (scope : Option ParticipantPlaybackScope) :
    ClientSession SharedFile :=
  match scope with
  | none => s
  | some candidate =>
      if s.participantStatusAuthoritativeScope = some candidate then s
      else
        { s with
          participantStatusAuthoritativeScope := some candidate
          participantStatuses :=
            s.participantStatuses.map fun _ status => status.redactPreciseScopeEvidence }

/-- What becomes of an update. -/
inductive Disposition where
  /-- Participant status is not negotiated. -/
  | disabled
  | malformed
  /-- One of the two fences refuses the update as a whole. -/
  | rejected
  | scopeOnly
  | adopted (room : String) (snapshot : ParticipantStatusSnapshot)

def disposition (s : ClientSession SharedFile) (scope : Option ParticipantPlaybackScope)
    (snapshot : Option ParticipantStatusSnapshot) (scopeInvalid : Bool) : Disposition :=
  if s.inboundIsEnabled then
    match s.roomName with
    | none => .disabled
    | some room =>
        if scopeInvalid || scope.any (·.malformed) then .malformed
        else
          let snapshot := snapshot.filter fun snapshot => snapshot.revision != 0
          if s.snapshotIsStale snapshot || s.scopeIsStale scope then .rejected
          else snapshot.elim .scopeOnly (.adopted room)
  else .disabled

def applyParticipantStatusUpdate (s : ClientSession SharedFile)
    (scope : Option ParticipantPlaybackScope) (snapshot : Option ParticipantStatusSnapshot)
    (scopeInvalid : Bool) (receivedAtSeconds : F64) : ClientSession SharedFile :=
  match s.disposition scope snapshot scopeInvalid with
  | .disabled => s.clearParticipantStatusViews
  | .malformed => s.invalidateParticipantStatusEvidence
  | .rejected => s
  | .scopeOnly => s.moveScope scope
  | .adopted room snapshot => s.adoptSnapshot room scope snapshot receivedAtSeconds

/-! ### Membership -/

/-- `users.entry(username).or_default()`. -/
def userOrDefault (s : ClientSession SharedFile) (username : String) :
    ClientUserView SharedFile :=
  s.users.getD username {}

def setUserRoom (s : ClientSession SharedFile) (username : String) (roomName : Option String) :
    ClientSession SharedFile :=
  let user := s.userOrDefault username
  let moved := { s with users := s.users.insert username { user with room := roomName } }
  if user.room = roomName then moved else moved.invalidateUserParticipantStatus username

def setUserFile [DecidableEq SharedFile] (s : ClientSession SharedFile) (username : String)
    (file : Option SharedFile) : ClientSession SharedFile :=
  let user := s.userOrDefault username
  let changed := { s with users := s.users.insert username { user with file := file } }
  if user.file = file then changed else changed.invalidateUserParticipantStatus username

def setUserCapabilities (s : ClientSession SharedFile) (username : String)
    (participantStatusV1 : Option Bool) : ClientSession SharedFile :=
  let previous := s.participantStatusCapabilities[username]?
  let s := { s with users := s.users.insert username (s.userOrDefault username) }
  let s :=
    match participantStatusV1 with
    | none => s
    | some supported =>
        let s := { s with
          participantStatusCapabilities :=
            s.participantStatusCapabilities.insert username supported }
        if previous = some supported then s else s.invalidateUserParticipantStatus username
  if s.participantStatusCapabilities[username]? = some true then s
  else s.invalidateUserParticipantStatus username

/-- A joined event: the connection behind a user name is a new one. -/
def userJoined (s : ClientSession SharedFile) (username : String) : ClientSession SharedFile :=
  { s.invalidateUserParticipantStatus username with
    participantStatusCapabilities := s.participantStatusCapabilities.erase username }

def removeUser (s : ClientSession SharedFile) (username : String) : ClientSession SharedFile :=
  { s.invalidateUserParticipantStatus username with
    users := s.users.erase username
    participantStatusCapabilities := s.participantStatusCapabilities.erase username }

def updateLocalRoom (s : ClientSession SharedFile) (roomName : String) :
    ClientSession SharedFile :=
  let entered := if s.roomName = some roomName then s else s.clearParticipantStatusViews
  { entered with roomName := some roomName }

/-! ### Messages and connections -/

structure ClientListUser (SharedFile : Type) where
  file : Option SharedFile
  participantStatusV1 : Option Bool

def listUser [DecidableEq SharedFile] (room : String) (s : ClientSession SharedFile)
    (entry : String × ClientListUser SharedFile) : ClientSession SharedFile :=
  if trimText entry.1 = "" then s
  else
    ((s.setUserRoom entry.1 (some room)).setUserFile entry.1 entry.2.file).setUserCapabilities
      entry.1 entry.2.participantStatusV1

/-- A List replaces everybody; the room it has this user in is the current one. -/
def applyList [DecidableEq SharedFile] (s : ClientSession SharedFile)
    (rooms : BTreeMap String (BTreeMap String (ClientListUser SharedFile))) :
    ClientSession SharedFile :=
  let cleared :=
    { s.clearParticipantStatusViews with users := ∅, participantStatusCapabilities := ∅ }
  let listed := rooms.toList.foldl
    (fun s room => room.2.toList.foldl (listUser room.1) s) cleared
  let own := rooms.toList.filter fun room =>
    s.username.any fun username => trimText username != "" && room.2.contains username
  own.getLast?.elim listed fun room => listed.updateLocalRoom room.1

/-- The name the server assigns takes over what was known of the provisional one. -/
def migrateProvisionalLocalIdentity (s : ClientSession SharedFile) (assigned : String) :
    ClientSession SharedFile :=
  match s.username with
  | none => s
  | some provisional =>
      if provisional = assigned then s
      else
        let file := s.users[provisional]?.bind (·.file)
        let users := s.users.erase provisional
        let user := users.getD assigned {}
        { s with
          users :=
            if file.isSome then users.insert assigned { user with file := user.file.or file }
            else users
          participantStatusCapabilities :=
            let remaining := s.participantStatusCapabilities.erase provisional
            s.participantStatusCapabilities[provisional]?.elim remaining
              fun supported => remaining.insertIfNew assigned supported }

structure ClientHello where
  username : String
  room : String
  participantStatusV1 : Bool

def applyHello [DecidableEq SharedFile] (s : ClientSession SharedFile) (hello : ClientHello)
    (restoredFile : Option SharedFile) : ClientSession SharedFile :=
  let s := s.clearParticipantStatusViews.migrateProvisionalLocalIdentity hello.username
  let s := { s with username := some hello.username }
  let s := (s.updateLocalRoom hello.room).setUserRoom hello.username (some hello.room)
  let s := restoredFile.elim s fun file => s.setUserFile hello.username (some file)
  { s with participantStatusV1 := hello.participantStatusV1, active := true }

/-- `mark_connecting` and the other changes of the phase away from an active one. -/
def markInactive (s : ClientSession SharedFile) : ClientSession SharedFile :=
  { s.clearParticipantStatusViews with participantStatusV1 := false, active := false }

def resetSyncStateForReconnect (s : ClientSession SharedFile) : ClientSession SharedFile :=
  let s := { s.markInactive with users := ∅, participantStatusCapabilities := ∅ }
  match s.username, s.roomName with
  | some username, some room => s.setUserRoom username (some room)
  | _, _ => s

def initializeLocalIdentity (s : ClientSession SharedFile) (username room : String) :
    ClientSession SharedFile :=
  ({ s with username := some username }.updateLocalRoom room).setUserRoom username (some room)

end ClientSession

/-! ### Runs -/

inductive Op (SharedFile : Type) where
  | update (scope : Option ParticipantPlaybackScope) (snapshot : Option ParticipantStatusSnapshot)
      (scopeInvalid : Bool) (receivedAtSeconds : F64)
  | query (username : String) (nowSeconds : F64)
  | setUserRoom (username : String) (roomName : Option String)
  | setUserFile (username : String) (file : Option SharedFile)
  | setUserCapabilities (username : String) (participantStatusV1 : Option Bool)
  | userJoined (username : String)
  | removeUser (username : String)
  | updateLocalRoom (roomName : String)
  /-- The playlist or its index changed the media of the current room. -/
  | mediaChanged
  | list (rooms : BTreeMap String (BTreeMap String (ClientSession.ClientListUser SharedFile)))
  | hello (hello : ClientSession.ClientHello) (restoredFile : Option SharedFile)
  | markInactive
  | reconnect
  | initializeLocalIdentity (username room : String)

variable [DecidableEq SharedFile]

def step (s : ClientSession SharedFile) : Op SharedFile → ClientSession SharedFile
  | .update scope snapshot scopeInvalid receivedAtSeconds =>
      s.applyParticipantStatusUpdate scope snapshot scopeInvalid receivedAtSeconds
  | .query username nowSeconds => (s.userParticipantStatusAt username nowSeconds).1
  | .setUserRoom username roomName => s.setUserRoom username roomName
  | .setUserFile username file => s.setUserFile username file
  | .setUserCapabilities username participantStatusV1 =>
      s.setUserCapabilities username participantStatusV1
  | .userJoined username => s.userJoined username
  | .removeUser username => s.removeUser username
  | .updateLocalRoom roomName => s.updateLocalRoom roomName
  | .mediaChanged => s.invalidateParticipantStatusEvidence
  | .list rooms => s.applyList rooms
  | .hello hello restoredFile => s.applyHello hello restoredFile
  | .markInactive => s.markInactive
  | .reconnect => s.resetSyncStateForReconnect
  | .initializeLocalIdentity username room => s.initializeLocalIdentity username room

end Sorotte.Status
