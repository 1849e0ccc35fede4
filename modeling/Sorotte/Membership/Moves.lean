import Sorotte.Membership.SeatEdits

/-! # Moves

  What the server can do to memberships, once for the whole server.  A move is
  an update that leaves no debt behind: a generation is replaced together with
  the projections it changes, a session loses readiness support together with
  its membership.  Every handler is a walk of moves, and every invariant is
  proved for moves.
-/

namespace Sorotte.Server

open Sorotte.Framework Sorotte.Framework.Prog

namespace ServerRuntime

/-! ### Effects -/

/-- Writes a member's Ready projection back to the roster. -/
def projectReady (s : ServerRuntime) (room username : String) : ServerRuntime :=
  { s with
    roomRoster := Roster.joinRoomWithReady s.roomRoster username room
      (some ((s.readinessRecord room username).any (·.roomReady))) }

/-- Users with a seat in the room. -/
def members (s : ServerRuntime) (room : String) : List String :=
  (s.roomReadiness[room]?.map fun k => k.participants.keys).getD []

/-- Writes the projections of these members back, in order. -/
def projectAll (s : ServerRuntime) (room : String) (usernames : List String) : ServerRuntime :=
  usernames.foldl (fun s username => s.projectReady room username) s

/-- Seats a client, restored from a detached membership that the presented
    token names, and shows its projection. -/
def attachSeat (s : ServerRuntime) (clientId : String) (session : ServerSession)
    (presentedToken : Option String) (freshToken : String) (seedSyncplayReadyIntent : Bool) :
    ServerRuntime :=
  ((s.bindReconnectIdentity clientId session presentedToken freshToken).attachMembership clientId
    session (s.restorableMembership session presentedToken) seedSyncplayReadyIntent
    ).projectReady session.room session.username

/-- Takes a seat away, and keeps it for the client's reconnect token. -/
def detachSeat (s : ServerRuntime) (clientId : String) (session : ServerSession)
    (participant : ServerReadinessParticipant) (retainForReconnect : Bool) : ServerRuntime :=
  let roomRevision := (s.roomReadiness[session.room]?.map (·.revision + 1)).getD 0
  let removed := s.removeParticipant session.room session.username
  match retainForReconnect, removed.readinessReconnectIdentityByClient[clientId]? with
  | true, some token => removed.retainForReconnect session participant roomRevision token
  | _, _ => removed

/-- A user's intent, its acceptance and its projection. -/
def acceptSeat (s : ServerRuntime) (session : ServerSession) (request : ReadinessIntentRequest)
    (source : ReadinessMutationSource) : ServerRuntime :=
  let target := request.targetUsername.getD session.username
  let mutated := s.mutateReadinessIntent session.room target request.desired source
    session.username (some request.operationId)
  (mutated.recordAcceptedOperation session request
    ((mutated.roomReadiness[session.room]?.map (·.revision)).getD 0)
    (((mutated.readinessRecord session.room target).map (·.userIntentRevision)).getD 0)
    ).projectReady session.room target

end ServerRuntime

/-! ### Free names -/

/-- The name, up to ASCII case, of a session other than the excluded one. -/
def ServerRuntime.NameTaken (s : ServerRuntime) (excludedClientId : Option String)
    (username : String) : Prop :=
  ∃ (clientId : String) (session : ServerSession), s.sessions[clientId]? = some session
    ∧ excludedClientId ≠ some clientId
    ∧ asciiLowercase session.username = asciiLowercase username

/-- A name that a new session may take. -/
structure ServerRuntime.NameAdmitted (s : ServerRuntime) (username : String) : Prop where
  nonempty : username ≠ ""
  bounded : username.length ≤ s.maxUsernameLength
  free : ¬ s.NameTaken none username

theorem ServerRuntime.NameAdmitted.other {s : ServerRuntime} {username : String}
    (h : s.NameAdmitted username) (clientId : String) (session : ServerSession)
    (hsession : s.sessions[clientId]? = some session) : session.username ≠ username := by
  intro hname
  exact h.free ⟨clientId, session, hsession, nofun, by rw [hname]⟩

/-! ### Moves -/

/-- Names of moves, with what properties of runs ask about them. -/
inductive Move where
  | quiet
  | prune
  | reconcile
  | regenerate
  | attach (clientId : String) (presentedToken : Option String) (freshToken : String)
  | detach (clientId : String)
  | demote (clientId : String)
  | dissolve
  | spend
  | intend
  | accept (clientId : String) (request : ReadinessIntentRequest)
  | report
  | enter (clientId : String)
  | leave (clientId : String)
  | relocate (clientId : String)
  | publish
  | discard (room : String)
  | flag

inductive Moves : Move → ServerRuntime → ServerRuntime → Prop where
  | quiet {s s' : ServerRuntime} (h : Quiet s s') : Moves .quiet s s'
  | prune {s : ServerRuntime} : Moves .prune s s.pruneReadinessReconnectCache
  | reconcile {s : ServerRuntime} (room : String) :
      Moves .reconcile s (s.reconcileMixedReadinessCohortState room)
  /-- The projections may wait for States that are sent in between. -/
  | regenerate {s t : ServerRuntime} (room : String) (generation : Option Nat)
      (ownsStartPause : Bool)
      (h : Quiet (s.replaceReadinessGeneration room generation ownsStartPause) t) :
      Moves .regenerate s (t.projectAll room (t.members room))
  | attach {s : ServerRuntime} {clientId : String} {session : ServerSession}
      (presentedToken : Option String) (freshToken : String) (seed : Bool)
      (hsession : s.sessions[clientId]? = some session) (henabled : s.readinessEnabled = true)
      (hcapable : session.capabilities.readinessV2 = true) :
      Moves (.attach clientId presentedToken freshToken) s
        (s.attachSeat clientId session presentedToken freshToken seed)
  | detach {s : ServerRuntime} {clientId : String} {session : ServerSession}
      {participant : ServerReadinessParticipant} (retain : Bool)
      (hsession : s.sessions[clientId]? = some session)
      (hseat : s.readinessParticipant session.room session.username = some participant)
      (hclient : participant.clientId = clientId) :
      Moves (.detach clientId) s (s.detachSeat clientId session participant retain)
  /-- A session that gives up readiness support loses its seat. -/
  | demote {s t : ServerRuntime} {clientId : String} {session : ServerSession}
      {participant : ServerReadinessParticipant} (capabilities : ServerClientCapabilities)
      (h : Quiet (s.updateSession clientId fun session => { session with capabilities }) t)
      (hsession : t.sessions[clientId]? = some session)
      (hseat : t.readinessParticipant session.room session.username = some participant)
      (hclient : participant.clientId = clientId) :
      Moves (.demote clientId) s (t.detachSeat clientId session participant true)
  | dissolve {s : ServerRuntime} (room : String) :
      Moves .dissolve s (s.discardEmptyCoordinator room)
  | spend {s : ServerRuntime} (room username : String) (nonce : Nat) :
      Moves .spend s (s.updateParticipant room username fun participant =>
        { participant with highestRequestNonce := nonce })
  | intend {s : ServerRuntime} {room username : String} (desired : UserReadinessIntent)
      (source : ReadinessMutationSource) (actor : String)
      (hseat : (s.readinessParticipant room username).isSome = true) :
      Moves .intend s ((s.mutateReadinessIntent room username desired source actor none
        ).projectReady room username)
  | accept {s : ServerRuntime} {clientId : String} {session : ServerSession}
      {request : ReadinessIntentRequest} (source : ReadinessMutationSource)
      (hsession : s.sessions[clientId]? = some session)
      (hseat : (s.readinessParticipant session.room
        (request.targetUsername.getD session.username)).isSome = true) :
      Moves (.accept clientId request) s (s.acceptSeat session request source)
  | report {s : ServerRuntime} {session : ServerSession} (report : TechnicalReadinessReport)
      {generation : Nat}
      (hgeneration : s.readinessMediaGeneration session.room = some generation)
      (hseat : (s.readinessParticipant session.room session.username).isSome = true) :
      Moves .report s ((s.storeTechnicalReport session report generation
        ).projectReady session.room session.username)
  | enter {s : ServerRuntime} {clientId : String} {session : ServerSession} (now : Seconds)
      (hnew : s.sessions[clientId]? = none)
      (hname : s.NameAdmitted session.username) :
      Moves (.enter clientId) s (s.joinSession clientId session now)
  | leave {s : ServerRuntime} {clientId : String} {session : ServerSession}
      (hsession : s.sessions[clientId]? = some session) (hunattached : Unattached clientId s) :
      Moves (.leave clientId) s (s.removeSessionTracking clientId session)
  | relocate {s : ServerRuntime} {clientId newRoom : String} {session : ServerSession}
      {roster : BTreeMap String (BTreeMap String (Option Bool))} (now : Seconds)
      (hsession : s.sessions[clientId]? = some session) (hunattached : Unattached clientId s)
      (hroom : session.room ≠ newRoom)
      (hleft : Roster.leaveRoom s.roomRoster session.username session.room = .ok roster) :
      Moves (.relocate clientId) s (s.moveSession clientId session newRoom roster now)
  | publish {s : ServerRuntime} {clientId : String} (f : ServerSession → ServerSession)
      (hf : ∀ session, (f session).username = session.username
        ∧ (f session).room = session.room)
      (hcapable : (∀ session, s.sessions[clientId]? = some session →
          session.capabilities.readinessV2 = true → (f session).capabilities.readinessV2 = true)
        ∨ Unattached clientId s) :
      Moves .publish s (s.updateSession clientId f)
  | discard {s : ServerRuntime} {room : String} (hempty : s.clientsInRoom room = []) :
      Moves (.discard room) s ((s.removeRoomRuntimeState room).deletePersistedRoomIfNeeded room)
  | flag {s : ServerRuntime} {room username : String} (ready : Bool)
      (hflag : (s.rosterFlag room username).isSome = true)
      (hseat : s.readinessParticipant room username = none) :
      Moves .flag s { s with
        roomRoster := Roster.joinRoomWithReady s.roomRoster username room (some ready) }

/-- Runtimes connected by quiet moves and moves that `ok` allows. -/
abbrev Walk (ok : Move → Prop) : ServerRuntime → ServerRuntime → Prop :=
  Relation.ReflTransGen fun s s' => ∃ move, (move = .quiet ∨ ok move) ∧ Moves move s s'

theorem Walk.quiet {ok : Move → Prop} {s s' : ServerRuntime} (h : Quiet s s') : Walk ok s s' :=
  .single ⟨.quiet, .inl rfl, .quiet h⟩

theorem Walk.move {ok : Move → Prop} {s s' : ServerRuntime} {move : Move} (hok : ok move)
    (h : Moves move s s') : Walk ok s s' :=
  .single ⟨move, .inr hok, h⟩

theorem Walk.mono {ok ok' : Move → Prop} (h : ∀ move, ok move → ok' move) {s s' : ServerRuntime}
    (hwalk : Walk ok s s') : Walk ok' s s' :=
  Relation.ReflTransGen.mono (fun _ _ ⟨move, hok, hmove⟩ => ⟨move, hok.imp id (h move), hmove⟩)
    s s' hwalk

theorem succeeds_walk {α : Type} {ok : Move → Prop} {s : ServerRuntime} {m : ServerM α}
    (h : Succeeds Quiet s m) : Succeeds (Walk ok) s m :=
  h.mono fun _ hquiet => .quiet hquiet

/-- **Invariant rule**: what the quiet moves and the allowed moves preserve, a
    walk preserves. -/
theorem Walk.preserves {ok : Move → Prop} {inv : ServerRuntime → Prop} {s s' : ServerRuntime}
    (hwalk : Walk ok s s')
    (hmove : ∀ move t t', move = .quiet ∨ ok move → Moves move t t' → inv t → inv t')
    (hs : inv s) : inv s' := by
  induction hwalk with
  | refl => exact hs
  | tail _ hstep ih =>
    obtain ⟨move, hok, hmoved⟩ := hstep
    exact hmove move _ _ hok hmoved ih

end Sorotte.Server
