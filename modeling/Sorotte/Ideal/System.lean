import Sorotte.Server.Readiness

/-! # The ideal server

  An abstract transition system for the rooms of a server.  Messages, frames,
  rate windows, persistence, deadlines and derived revisions are gone; what is
  left is who is in which room, who owns a pause, what a room plays, and the
  lifecycles of starts, policies and request identities.

  A label is one indivisible change.  Guards say what the code has checked when
  it makes the change; the refinement modules prove that every handler only
  makes changes of this system.
-/

namespace Sorotte.Ideal

open Server

/-! ### State -/

/-- A member of a room's readiness coordinator. -/
structure Member where
  clientId : String
  record : ParticipantReadiness

/-- A readiness coordinator: the generation it waits for, who owns the pause
    and its members by user name. -/
structure Gate where
  mediaGeneration : Option Nat := none
  pauseOwner : RoomPauseOwner := .none
  members : String → Option Member := fun _ => none

/-- A room's buffering policy.  `requestedGeneration` is the generation of the
    configuration a reconnecting owner gets back. -/
structure Policy where
  mediaGeneration : Nat
  requestedGeneration : Nat
  pausedByPolicy : Bool

def Policy.withPause (k : Policy) (paused : Bool) : Policy := { k with pausedByPolicy := paused }

structure State where
  sessions : String → Option ServerSession
  /-- By room and user name. -/
  enrolled : String → String → Bool
  /-- By room and user name. -/
  controllers : String → String → Bool
  playlist : String → RoomPlaylistState
  paused : String → Bool
  position : String → Seconds
  /-- The position a client last reported or was seeded with. -/
  sample : String → Option Seconds
  barrier : String → Option RoomPlaybackBarrier
  policy : String → Option Policy
  gate : String → Option Gate
  /-- By room and request identity: the end of the replay retention. -/
  tombstone : String → String → Option Seconds
  generation : Nat
  revision : Nat
  readinessEnabled : Bool
  passwords : RoomPasswordProvider
  ttl : Seconds
  now : Seconds
  history : List Event

/-- A cached start-eligibility flag is backed by the facts it summarises. -/
def Gate.Coherent (g : Gate) : Prop :=
  ∀ username m, g.members username = some m → m.record.startEligible = true →
    m.record.participationRole = .required ∧ m.record.userIntent = .ready ∧
    m.record.terminalTechnicalBlock = none ∧
    ∃ generation, m.record.technicalState = .playable generation ∧
      g.mediaGeneration = some generation

def Gate.withOwner (g : Gate) (owner : RoomPauseOwner) : Gate := { g with pauseOwner := owner }

/-- The coordinator after its generation is replaced: nobody is playable yet. -/
def Gate.replaceGeneration (g : Gate) (generation : Option Nat) : Gate :=
  { g with
    mediaGeneration := generation
    members := fun username => (g.members username).map fun m =>
      { m with
        record := recomputeParticipantReadiness
          { m.record with
            technicalState := initialTechnicalState generation
            terminalTechnicalBlock := none } generation } }

/-- A start that has not ended. -/
def active (b : RoomPlaybackBarrier) : Prop := b.phase = .preparing ∨ b.phase = .committed

namespace State

def inRoom (s : State) (clientId room : String) : Prop :=
  ∃ session, s.sessions clientId = some session ∧ session.room = room

def preparing (s : State) (room : String) : Prop :=
  ∃ b, s.barrier room = some b ∧ b.phase = .preparing

def setSample (s : State) (clientId : String) (position : Option Seconds) : State :=
  { s with sample := Function.update s.sample clientId position }

def setPlayback (s : State) (room : String) (paused : Bool) (position : Seconds) : State :=
  { s with
    paused := Function.update s.paused room paused
    position := Function.update s.position room position }

open Classical in
/-- Every member of the room is placed at `position`. -/
noncomputable def seed (s : State) (room : String) (position : Seconds) : State :=
  { s with
    sample := fun clientId => if s.inRoom clientId room then some position else s.sample clientId }

/-- The room plays or pauses at `position`, and every member is placed there. -/
noncomputable def setTransport (s : State) (room : String) (paused : Bool)
    (position : Seconds) : State :=
  (s.setPlayback room paused position).seed room position

def setOwner (s : State) (room : String) (owner : RoomPauseOwner) : State :=
  { s with
    gate := Function.update s.gate room ((s.gate room).map (·.withOwner owner)) }

def setGate (s : State) (room : String) (g : Option Gate) : State :=
  { s with gate := Function.update s.gate room g }

def setBarrier (s : State) (room : String) (b : Option RoomPlaybackBarrier) : State :=
  { s with barrier := Function.update s.barrier room b }

def setPolicy (s : State) (room : String) (k : Option Policy) : State :=
  { s with policy := Function.update s.policy room k }

def setSession (s : State) (clientId : String) (session : Option ServerSession) : State :=
  { s with sessions := Function.update s.sessions clientId session }

def enrol (s : State) (room username : String) (value : Bool) : State :=
  { s with
    enrolled := Function.update s.enrolled room
      (Function.update (s.enrolled room) username value) }

def setController (s : State) (room username : String) (value : Bool) : State :=
  { s with
    controllers := Function.update s.controllers room
      (Function.update (s.controllers room) username value) }

def record (s : State) (events : List Event) : State := { s with history := events ++ s.history }

/-- The policy gives up the pause it made. -/
def relax (s : State) (room : String) : State :=
  s.setPolicy room ((s.policy room).map (·.withPause false))

/-- The policy's configuration is the requested one again. -/
def restorePolicy (s : State) (room : String) : State :=
  s.setPolicy room ((s.policy room).map fun k =>
    { k with mediaGeneration := k.requestedGeneration })

/-- The coordinator follows a new start and claims its pause, unless a user
    holds it. -/
def beginGeneration (s : State) (room : String) (generation : Nat) : State :=
  if s.readinessEnabled then
    s.setGate room ((s.gate room).map fun g =>
      (g.replaceGeneration (some generation)).withOwner
        (if g.pauseOwner.isUser then g.pauseOwner else .readinessStartGate generation))
  else s

/-- The coordinator of a room whose selection moved on. -/
def endGeneration (s : State) (room : String) : State :=
  s.setGate room ((s.gate room).map fun g =>
    (g.replaceGeneration none).withOwner
      (if g.pauseOwner.isUser then g.pauseOwner else .endOfPlaylist))

/-- The policy a new start of `generation` leaves in place. -/
def policyForStart (s : State) (room : String) (generation : Nat) : Option Policy :=
  match s.policy room with
  | none => none
  | some k =>
      if k.mediaGeneration = generation then some (k.withPause false) else none

@[simp] theorem setBarrier_self (s : State) (room : String) (b : Option RoomPlaybackBarrier) :
    (s.setBarrier room b).barrier room = b := Function.update_self ..

@[simp] theorem setPolicy_self (s : State) (room : String) (k : Option Policy) :
    (s.setPolicy room k).policy room = k := Function.update_self ..

@[simp] theorem setGate_self (s : State) (room : String) (g : Option Gate) :
    (s.setGate room g).gate room = g := Function.update_self ..

@[simp] theorem setTransport_paused_self (s : State) (room : String) (paused : Bool)
    (position : Seconds) : (s.setTransport room paused position).paused room = paused :=
  Function.update_self ..

/-- Everything a discarded room loses. -/
def discard (s : State) (room : String) : State :=
  { s with
    controllers := Function.update s.controllers room fun _ => false
    playlist := Function.update s.playlist room {}
    paused := Function.update s.paused room true
    position := Function.update s.position room 0
    barrier := Function.update s.barrier room none
    policy := Function.update s.policy room none
    tombstone := Function.update s.tombstone room fun _ => none
    history := .roomDiscarded room :: s.history }

end State

/-! ### Request identities -/

/-- The last thing that happened to a request identity in a room. -/
inductive RequestStatus where
  | unknown
  | accepted
  | displaced (at_ : Seconds)

/-- Reads the status of a request identity off a history, newest event first. -/
def requestStatus (room requestId : String) : List Event → RequestStatus
  | [] => .unknown
  | .prepareAccepted room' requestId' _ _ :: rest =>
      if room' = room ∧ requestId' = some requestId then .accepted
      else requestStatus room requestId rest
  | .requestDisplaced room' requestId' at_ :: rest =>
      if room' = room ∧ requestId' = requestId then .displaced at_
      else requestStatus room requestId rest
  | .roomDiscarded room' :: rest =>
      if room' = room then .unknown else requestStatus room requestId rest
  | _ :: rest => requestStatus room requestId rest

/-- A new start may take this identity: it is not current in the room, no
    tombstone holds it, and the identity it replaces was retained. -/
def FreshIdentity (s : State) (room : String) (requestId : Option String) : Prop :=
  (∀ b id, s.barrier room = some b → b.prepare.requestId = some id →
    requestStatus room id s.history ≠ .accepted ∧ requestId ≠ some id) ∧
  ∀ id, requestId = some id → s.tombstone room id = none

/-! ### Changes of a barrier -/

/-- No participant counts as Started that did not before. -/
def NoNewStarted (b b' : RoomPlaybackBarrier) : Prop :=
  ∀ (clientId : String) p', b'.participants[clientId]? = some p' →
    ∃ p, b.participants[clientId]? = some p ∧
      (p'.status.phase = .started → p.status.phase = .started)

/-- The start ends without a commit, or after it. -/
structure Settles (b b' : RoomPlaybackBarrier) : Prop where
  prepare : b'.prepare = b.prepare
  commit : b'.commit = b.commit
  stateRevision : b'.stateRevision = b.stateRevision
  phase : b'.phase = .degraded ∨ (b.phase = .preparing ∧ b'.phase = .awaitingDecision)
  participants : NoNewStarted b b'

/-- The one commit of a start. -/
structure Commits (b b' : RoomPlaybackBarrier) (payload : CommitStartPayload) : Prop where
  prepare : b'.prepare = b.prepare
  commit : b'.commit = some payload
  stateRevision : b'.stateRevision = some payload.stateRevision
  phase : b'.phase = .committed
  participants : NoNewStarted b b'

/-- A preparing start follows the required cohort, whose clients are `live`;
    every other start stays as it is. -/
structure Reconciles (live : String → Prop) (b b' : RoomPlaybackBarrier) : Prop where
  prepare : b'.prepare = b.prepare
  commit : b'.commit = b.commit
  stateRevision : b'.stateRevision = b.stateRevision
  phase : b'.phase = b.phase
  settled : b.phase ≠ .preparing → b' = b
  cohort : b.phase = .preparing → ∀ (clientId : String) p, b'.participants[clientId]? = some p →
    live clientId ∧ (b.participants[clientId]? = some p ∨ p.status = .pending)

/-! ### What a commit has checked -/

/-- A participant counts as ready for a governed or ungoverned start. -/
def readyParticipant (room : String) (snapshot : CommitSnapshot) (governed : Prop)
    (clientId : String) (p : RoomPlaybackBarrierParticipant) : Prop :=
  p.status.phase = .ready ∧
    (governed → ∃ session, snapshot.sessions[clientId]? = some session ∧ session.room = room)

/-- The start policy holds of the barrier at the moment of commit. -/
def PolicyMet (room : String) (snapshot : CommitSnapshot) (governed : Prop) : Prop :=
  match snapshot.barrier.prepare.policy with
  | .allEligible => ∀ (clientId : String) p, snapshot.barrier.participants[clientId]? = some p →
      p.status.phase = .degraded ∨ readyParticipant room snapshot governed clientId p
  | .controller => ∃ p,
      snapshot.barrier.participants[snapshot.barrier.initiatorClientId]? = some p ∧
      readyParticipant room snapshot governed snapshot.barrier.initiatorClientId p
  | .quorum => 1 ≤ snapshot.barrier.prepare.quorum.getD u32Max →
      ∃ (clientId : String) (p : _), snapshot.barrier.participants[clientId]? = some p ∧
        readyParticipant room snapshot governed clientId p

/-- What a coordinator has checked when it lets a start commit. -/
structure GovernedStart (room : String) (snapshot : CommitSnapshot)
    (coordinator : RoomReadinessCoordinator) : Prop where
  owner : coordinator.pauseOwner =
    .readinessStartGate snapshot.barrier.prepare.mediaGeneration
  revision : snapshot.payload.readinessRevision = some coordinator.revision
  nonempty : ∃ (username : String) (p : ServerReadinessParticipant),
    coordinator.participants[username]? = some p ∧ p.record.participationRole = .required
  required : ∀ (username : String) p, coordinator.participants[username]? = some p →
    p.record.participationRole = .required →
    p.record.startEligible = true ∧ p.clientId ∈ snapshot.barrier.participants ∧
      ∃ session, snapshot.sessions[p.clientId]? = some session ∧ session.room = room
  mixed : snapshot.mixedReadinessPolicy = .requireAllMembers →
    ∀ (clientId : String) session, snapshot.sessions[clientId]? = some session →
      session.room = room → clientId ∉ snapshot.fencedClients →
      session.capabilities.readinessV2 = true ∧ session.capabilities.playbackBarrierV1 = true
  policy : PolicyMet room snapshot True

/-- What any commit has checked. -/
structure LawfulCommit (s : State) (room : String) (snapshot : CommitSnapshot) : Prop where
  barrier : s.barrier room = some snapshot.barrier
  phase : snapshot.barrier.phase = .preparing
  sessions : ∀ clientId : String, snapshot.sessions[clientId]? = s.sessions clientId
  stateRevision : snapshot.payload.stateRevision = s.revision + 1
  mediaGeneration : snapshot.payload.mediaGeneration = snapshot.barrier.prepare.mediaGeneration
  /-- The coordinator the commit read is the room's. -/
  coordinator : snapshot.coordinator.map (fun room => (room.mediaGeneration, room.pauseOwner)) =
    (s.gate room).map fun g => (g.mediaGeneration, g.pauseOwner)
  members : ∀ room', snapshot.coordinator = some room' → ∃ g, s.gate room = some g ∧
    ∀ username : String, g.members username =
      room'.participants[username]?.map fun p => ⟨p.clientId, p.record⟩
  governed : s.readinessEnabled = true → ∀ room', snapshot.coordinator = some room' →
    GovernedStart room snapshot room'
  ungoverned : snapshot.coordinator = none →
    snapshot.timedOut = true ∨
      (PolicyMet room snapshot False ∧ ∃ clientId, clientId ∈ snapshot.barrier.participants)

/-! ### Labels -/

/-- Where the generation of a configured buffering policy comes from. -/
inductive PolicySource where
  /-- The client named it. -/
  | explicit
  /-- The start it accompanies. -/
  | paired
  /-- The policy it replaces, in a room without a start. -/
  | inherited
  /-- The server allocated it. -/
  | allocated
  deriving DecidableEq

inductive Label where
  | clock (now : Seconds)
  -- members
  | join (clientId : String) (session : ServerSession) (position : Option Seconds)
  | leave (clientId : String) (session : ServerSession)
  | move (clientId : String) (session : ServerSession) (room : String)
      (position : Option Seconds)
  | describe (clientId : String) (session session' : ServerSession)
  | grant (clientId : String) (session : ServerSession) (room password : String)
  -- rooms
  | playlist (room : String) (playlist : RoomPlaylistState) (expected : Option (Int × Nat))
  | discard (room : String)
  -- transport
  | refresh (room : String) (position : Seconds)
  | place (room : String) (paused : Bool) (position : Seconds)
  | play (room : String) (position : Seconds)
  | recover (room : String) (position : Seconds)
  | sample (clientId : String) (session : ServerSession) (position : Option Seconds)
  | hold (room : String) (position : Seconds) (owner : RoomPauseOwner)
  | resume (room : String) (position : Seconds)
  | select (room : String)
  -- pause ownership
  | pause (room actor : String) (position : Seconds)
  | claim (room actor : String)
  | arm (room : String) (b : RoomPlaybackBarrier)
  | rearm (room : String) (b : RoomPlaybackBarrier)
  | release (room : String)
  | disown (room : String)
  | automatic (room : String) (owner : RoomPauseOwner)
  | selectOwner (room : String)
  -- the coordinator
  | records (room : String) (g g' : Gate)
  | follow (room : String) (generation : Nat) (source : PolicySource)
  | enroll (room username : String) (member : Member) (generation : Option Nat)
  | withdraw (room username : String)
  | dissolve (room : String)
  | reconcile (room : String) (g g' : Gate) (b' : Option RoomPlaybackBarrier)
  -- the barrier
  | prepare (room : String) (b : RoomPlaybackBarrier)
  | commit (room : String) (snapshot : CommitSnapshot) (b' : RoomPlaybackBarrier)
  | ready (clientId room : String) (b : RoomPlaybackBarrier) (ready : MediaReadyPayload)
  | disconnect (clientId room : String) (b : RoomPlaybackBarrier)
  | started (clientId room : String) (b : RoomPlaybackBarrier) (started : StartedAckPayload)
      (observedPosition : Seconds)
  | settle (room : String) (b b' : RoomPlaybackBarrier)
  | rebind (clientId : String) (session : ServerSession) (sequence : Nat)
      (b : RoomPlaybackBarrier)
  | drop (room : String)
  -- the policy
  | configure (room : String) (generation : Nat) (source : PolicySource)
  | relax (room : String)
  | restorePolicy (room : String)
  -- request identities
  | retain (room : String) (requestIds : List String)
  | prune
  | allocate

/-! ### Steps -/

/-- Nothing in the room's coordinator or start still counts on this client. -/
def Departed (s : State) (clientId : String) (session : ServerSession) : Prop :=
  (∀ b p, s.barrier session.room = some b → b.phase = .preparing →
    b.participants[clientId]? = some p → p.status.phase = .degraded) ∧
  ∀ g m, s.gate session.room = some g → g.members session.username = some m →
    m.clientId ≠ clientId

/-- A joining member is placed where the room is paused, or nowhere. -/
def JoinsAt (s : State) (room : String) (position : Option Seconds) : Prop :=
  ∀ x, position = some x → s.paused room = true → x = s.position room

/-- The coordinators before and after an edit that keeps its members, its
    generation and its owner. -/
def KeepsMembers (g g' : Gate) : Prop :=
  g'.mediaGeneration = g.mediaGeneration ∧ g'.pauseOwner = g.pauseOwner ∧
  (∀ username, (g'.members username).map Member.clientId =
    (g.members username).map Member.clientId) ∧
  (g.Coherent → g'.Coherent)

/-- A start as it is installed. -/
structure Prepares (s : State) (room : String) (b : RoomPlaybackBarrier) : Prop where
  phase : b.phase = .preparing
  commit : b.commit = none
  stateRevision : b.stateRevision = none
  generation : b.prepare.mediaGeneration = s.generation + 1
  target : 0 ≤ b.prepare.targetPosition
  cohort : ∀ (clientId : String) p, b.participants[clientId]? = some p →
    p.status = .pending ∧ s.inRoom clientId room
  nonempty : ∃ clientId, clientId ∈ b.participants
  quorum : b.prepare.policy = .quorum → ∃ q, b.prepare.quorum = some q ∧ 1 ≤ q
  previous : ∀ b₀, s.barrier room = some b₀ → ¬ active b₀
  identity : FreshIdentity s room b.prepare.requestId

/-- The generation of a policy fits its source. -/
def PolicySource.Allows (s : State) (room : String) (generation : Nat) : PolicySource → Prop
  | .explicit => 1 ≤ generation ∧
      ∀ b, s.barrier room = some b → b.prepare.mediaGeneration ≤ generation
  | .paired => ∃ b, s.barrier room = some b ∧ generation = b.prepare.mediaGeneration
  | .inherited => s.barrier room = none ∧
      ∃ k, s.policy room = some k ∧ generation = k.mediaGeneration
  | .allocated => 1 ≤ generation ∧ generation = s.generation ∧
      ∀ b, s.barrier room = some b → ¬ active b

/-- The generation a joining member brings to its coordinator. -/
def JoiningGeneration (s : State) (room : String) (generation : Option Nat) : Prop :=
  match (s.gate room).bind Gate.mediaGeneration with
  | some g => generation = some g
  | none =>
      (∃ b, s.barrier room = some b ∧ active b ∧ generation = some b.prepare.mediaGeneration) ∨
      (∀ b, s.barrier room = some b → ¬ active b) ∧
        (generation = none ∨ ∃ k, s.policy room = some k ∧ generation = some k.mediaGeneration)

/-- What the code has checked when it makes the change `label`. -/
def guard (s : State) : Label → Prop
  | .clock now => s.now ≤ now
  | .join clientId session position =>
      s.sessions clientId = none ∧
      (∀ other held, s.sessions other = some held → held.username ≠ session.username) ∧
      JoinsAt s session.room position
  | .leave clientId session => s.sessions clientId = some session ∧ Departed s clientId session
  | .move clientId session room position =>
      s.sessions clientId = some session ∧ session.room ≠ room ∧ Departed s clientId session ∧
      JoinsAt s room position
  | .describe clientId session session' =>
      s.sessions clientId = some session ∧ session'.username = session.username ∧
      session'.room = session.room
  | .grant clientId session room password =>
      s.sessions clientId = some session ∧ s.passwords.check room password = .ok true
  | .playlist room playlist expected =>
      playlist.epoch = (s.playlist room).epoch ∧
      ∀ index epoch, expected = some (index, epoch) →
        (s.playlist room).index = some index ∧ (s.playlist room).epoch = epoch
  | .discard room => ∀ clientId, ¬ s.inRoom clientId room
  | .refresh room position =>
      ∃ clientId x, s.inRoom clientId room ∧ s.sample clientId = some x ∧
        (s.paused room = true → position = x)
  | .place room paused _ =>
      (¬ s.preparing room ∨ s.paused room = false) ∧ (paused = false → s.paused room = false)
  | .play room _ => ¬ s.preparing room
  | .recover room _ =>
      ¬ s.preparing room ∧ ∀ g, s.gate room = some g → g.pauseOwner = .recovery
  | .sample clientId session _ =>
      s.sessions clientId = some session ∧ ¬ s.preparing session.room
  | .hold room _ _ => s.paused room = false ∧ ∃ k, s.policy room = some k
  | .resume room _ =>
      (∃ k, s.policy room = some k ∧ k.pausedByPolicy = true) ∧
      ∀ g, s.gate room = some g → ∃ generation revision,
        g.pauseOwner = .roomBufferingPolicy generation revision
  | .select room => ∀ b, s.barrier room = some b → ¬ active b
  | .pause room _ _ => s.paused room = false
  | .claim room _ => s.paused room = true
  | .arm room b =>
      s.barrier room = some b ∧ b.phase = .preparing ∧
      ∀ g, s.gate room = some g → g.pauseOwner.isUser = false
  | .rearm room b => s.barrier room = some b ∧ b.phase = .preparing
  | .release room => ∀ g, s.gate room = some g → g.pauseOwner.isUser = false
  | .disown room => s.paused room = false
  | .automatic room owner =>
      s.paused room = true ∧
      ∀ g, s.gate room = some g → g.pauseOwner = .none ∨ g.pauseOwner = owner
  | .selectOwner room =>
      (∀ g, s.gate room = some g → g.pauseOwner.isUser = false) ∧
      ∀ clientId session, s.sessions clientId = some session → session.room = room →
        session.capabilities.playbackBarrierV1 = false
  | .records room g g' => s.gate room = some g ∧ KeepsMembers g g'
  | .follow room generation source =>
      (∃ k, s.policy room = some k ∧ generation = k.mediaGeneration) ∧
      (source = .explicit → ∀ b, s.barrier room = some b → b.prepare.mediaGeneration ≤ generation) ∧
      (source ≠ .explicit → ∀ b, s.barrier room = some b → ¬ active b)
  | .enroll room username member generation =>
      s.readinessEnabled = true ∧
      (∃ session, s.sessions member.clientId = some session ∧ session.room = room ∧
        session.username = username) ∧
      JoiningGeneration s room generation ∧ member.record.startEligible = false
  | .withdraw _ _ => True
  | .dissolve room => ∀ g username, s.gate room = some g → g.members username = none
  | .reconcile room g g' b' =>
      s.gate room = some g ∧ KeepsMembers g g' ∧
      Option.Rel (Reconciles fun clientId => s.inRoom clientId room) (s.barrier room) b'
  | .prepare room b => Prepares s room b
  | .commit room snapshot b' =>
      LawfulCommit s room snapshot ∧ Commits snapshot.barrier b' snapshot.payload
  | .ready clientId room b ready =>
      s.barrier room = some b ∧ b.phase = .preparing ∧ s.inRoom clientId room ∧
      ready.mediaGeneration = b.prepare.mediaGeneration ∧ clientId ∈ b.participants
  | .disconnect clientId room b => s.barrier room = some b ∧ active b ∧ clientId ∈ b.participants
  | .started clientId room b started _ =>
      s.barrier room = some b ∧ b.phase = .committed ∧
      started.mediaGeneration = b.prepare.mediaGeneration ∧
      b.stateRevision = some started.stateRevision ∧ clientId ∈ b.participants
  | .settle room b b' => s.barrier room = some b ∧ Settles b b'
  | .rebind clientId session _ b =>
      s.sessions clientId = some session ∧ s.barrier session.room = some b
  | .drop room =>
      ∀ b, s.barrier room = some b → ¬ active b ∧
        ∀ id, b.prepare.requestId = some id → requestStatus room id s.history ≠ .accepted
  | .configure room generation source => source.Allows s room generation
  | .relax _ => True
  | .restorePolicy _ => True
  | .retain _ _ => True
  | .prune => True
  | .allocate => True

/-- The state after the change `label`. -/
noncomputable def effect (s : State) : Label → State
  | .clock now => { s with now }
  | .join clientId session position =>
      ((s.setSession clientId (some session)).enrol session.room session.username true
        ).setSample clientId position
  | .leave clientId session =>
      ((((s.setSession clientId none).enrol session.room session.username false
        ).setController session.room session.username false).setSample clientId none).record
          [.sessionEnded clientId]
  | .move clientId session room position =>
      (((((s.setSession clientId (some { session with room })).enrol session.room
        session.username false).enrol room session.username true).setController session.room
        session.username false).setSample clientId position).record
          [.leftRoom clientId session.room]
  | .describe clientId _ session' => s.setSession clientId (some session')
  | .grant clientId session room password =>
      (s.setController room session.username true).record
        [.controllerAuthenticated clientId room password]
  | .playlist room playlist expected =>
      { s with playlist := Function.update s.playlist room playlist.advanceEpoch }.record
        [.playlistAccepted room playlist.epoch expected]
  | .discard room => s.discard room
  | .refresh room position => { s with position := Function.update s.position room position }
  | .place room paused position => s.setTransport room paused position
  | .play room position | .recover room position =>
      (s.setTransport room false position).setOwner room .none
  | .sample clientId _ position => s.setSample clientId position
  | .hold room position owner =>
      ((s.setPolicy room ((s.policy room).map (·.withPause true))
        ).setTransport room true position).setOwner room owner
  | .resume room position => ((s.relax room).setTransport room false position).setOwner room .none
  | .select room => (s.endGeneration room).setTransport room true 0
  | .pause room actor position => (s.setTransport room true position).setOwner room (.user actor)
  | .claim room actor => s.setOwner room (.user actor)
  | .arm room b | .rearm room b =>
      s.setOwner room (.readinessStartGate b.prepare.mediaGeneration)
  | .release room | .disown room => s.setOwner room .none
  | .automatic room owner => s.setOwner room owner
  | .selectOwner room => s.setOwner room .endOfPlaylist
  | .records room _ g' => s.setGate room (some g')
  | .follow room generation _ =>
      s.setGate room ((s.gate room).map fun g => g.replaceGeneration (some generation))
  | .enroll room username member generation =>
      s.setGate room (some
        { mediaGeneration := generation
          pauseOwner := ((s.gate room).map Gate.pauseOwner).getD .none
          members := Function.update ((s.gate room).elim (fun _ => none) Gate.members) username
            (some member) })
  | .withdraw room username =>
      s.setGate room ((s.gate room).map fun g =>
        { g with members := Function.update g.members username none })
  | .dissolve room => (s.setGate room none).record [.coordinatorRemoved room]
  | .reconcile room _ g' b' => (s.setGate room (some g')).setBarrier room b'
  | .prepare room b =>
      ((({ s with
          generation := b.prepare.mediaGeneration
        }.record [.prepareAccepted room b.prepare.requestId b.prepare.mediaGeneration s.now]
        ).setPolicy room (s.policyForStart room b.prepare.mediaGeneration)).setBarrier room (some b)
        |>.setTransport room true b.prepare.targetPosition
        |>.beginGeneration room b.prepare.mediaGeneration)
  | .commit room snapshot b' =>
      let s' := (({ s with revision := s.revision + 1 }.record [.committed room snapshot]
        ).setBarrier room (some b')).setTransport room false
          snapshot.barrier.prepare.targetPosition
      if snapshot.payload.readinessRevision.isSome then s'.setOwner room .none else s'
  | .ready clientId room b ready =>
      s.setBarrier room (some (b.mapParticipant clientId (readyStatus ready)))
  | .disconnect clientId room b =>
      s.setBarrier room (some (b.mapParticipant clientId disconnectedStatus))
  | .started clientId room b started observedPosition =>
      let b' := b.withStarted clientId observedPosition
      (s.setBarrier room (some b')).record
        ((if b'.phase = .complete then [.becameComplete room b'] else []) ++
          [.startedAcknowledged room started.mediaGeneration started.stateRevision clientId])
  | .settle room _ b' => s.setBarrier room (some b')
  | .rebind clientId session sequence b =>
      (s.setBarrier session.room
          (some (reboundBarrier b clientId session.username sequence))).record
        [.ownerRebound session.room b.prepare.mediaGeneration b.initiatorClientId clientId]
  | .drop room => s.setBarrier room none
  | .configure room generation _ =>
      s.setPolicy room (some
        { mediaGeneration := generation, requestedGeneration := generation,
          pausedByPolicy := false })
  | .relax room => s.relax room
  | .restorePolicy room => s.restorePolicy room
  | .retain room requestIds =>
      { s with
          tombstone := Function.update s.tombstone room fun id =>
            if id ∈ requestIds then some (s.now + s.ttl) else s.tombstone room id
        }.record (requestIds.map (Event.requestDisplaced room · s.now))
  | .prune =>
      { s with
        tombstone := fun room id => (s.tombstone room id).filter fun until_ => s.now < until_ }
  | .allocate => { s with generation := s.generation + 1 }

/-- One step of the ideal server. -/
def step (s : State) (label : Label) (s' : State) : Prop :=
  guard s label ∧ s' = effect s label

/-- Steps whose labels satisfy `allowed`. -/
def Steps (allowed : Label → Prop) (s s' : State) : Prop := ∃ label, allowed label ∧ step s label s'

/-! ### Departures -/

/-- What happens in a room while one of its clients is on the way out; the room it moves to is
    refreshed meanwhile. -/
def departingLabel (room : String) : Label → Prop
  | .withdraw r _ | .release r | .dissolve r | .commit r _ _ | .hold r _ _ | .resume r _
  | .relax r => r = room
  | .refresh _ _ => True
  | _ => False

/-- The room's start is told that the client is gone. -/
def disconnectLabel (clientId room : String) : Label → Prop
  | .disconnect c r _ => c = clientId ∧ r = room
  | .commit r _ _ => r = room
  | _ => False

/-- Labels that only occur inside a departure. -/
def Label.departs : Label → Prop
  | .disconnect _ _ _ | .leave _ _ | .move _ _ _ _ => True
  | _ => False

/-- Everything a room does before it lets a client go. -/
def Departing (allowed : Label → Prop) (clientId room : String) (s s' : State) : Prop :=
  ∃ s₁ s₂,
    Relation.ReflTransGen (Steps fun l => departingLabel room l ∧ allowed l) s s₁ ∧
    Relation.ReflTransGen (Steps fun l => disconnectLabel clientId room l ∧ allowed l) s₁ s₂ ∧
    Relation.ReflTransGen (Steps fun l => departingLabel room l ∧ allowed l) s₂ s'

/-- A step of the server, or a whole departure: no other program sees a client
    that is on its way out. -/
inductive Move (allowed : Label → Prop) (s s' : State) : Prop
  | step (label : Label) (hallowed : allowed label)
      (hstays : ¬ label.departs) (h : step s label s')
  | leave (clientId : String) (session : ServerSession) (t : State)
      (hdeparting : Departing allowed clientId session.room s t)
      (hallowed : allowed (.leave clientId session)) (h : Ideal.step t (.leave clientId session) s')
  | move (clientId : String) (session : ServerSession) (room : String)
      (position : Option Seconds) (t : State)
      (hdeparting : Departing allowed clientId session.room s t)
      (hallowed : allowed (.move clientId session room position))
      (h : Ideal.step t (.move clientId session room position) s')

theorem Steps.mono {allowed allowed' : Label → Prop} (h : ∀ l, allowed l → allowed' l)
    (s s' : State) : Steps allowed s s' → Steps allowed' s s' := by
  rintro ⟨l, hl, hstep⟩
  exact ⟨l, h l hl, hstep⟩

end Sorotte.Ideal
