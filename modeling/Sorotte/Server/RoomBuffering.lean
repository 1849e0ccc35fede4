import Sorotte.Server.PlaybackRequests

/-! # Room buffering policy

  The ongoing buffering policy of a room: a debounced state machine over the
  members' transport reports that may pause the room and resume it again, but
  only while the policy still owns the pause.
-/

namespace Sorotte.Server

open Sorotte.Framework

inductive RoomBufferingTransition where
  | pause | resume
  deriving DecidableEq, Repr

def roomBufferingConfigSeconds (valueMs : Option Nat) : Seconds := (valueMs.getD 0 : ℚ) / 1000

def normalizeRoomBufferingDurationMs (requestedMs : Option Nat)
    (defaultSeconds minSeconds maxSeconds : Seconds) : Nat :=
  let requestedSeconds : Seconds := match requestedMs with
    | some milliseconds => (milliseconds : ℚ) / 1000
    | none => defaultSeconds
  (max minSeconds (min requestedSeconds maxSeconds) * 1000).floor.toNat

/-- One evaluation of the policy: the next control record and the playstate
    transition it asks for. -/
def roomBufferingStep (control : RoomBufferingControl) (conditionActive : Bool)
    (elapsed : Seconds) : RoomBufferingControl × Option RoomBufferingTransition :=
  let debounceSeconds := roomBufferingConfigSeconds control.config.debounceMs
  let hysteresisSeconds := roomBufferingConfigSeconds control.config.resumeHysteresisMs
  let maxPauseSeconds := roomBufferingConfigSeconds control.config.maxPauseMs
  if control.config.policy = .independent then
    let idle := { control with
      conditionActiveSince := none, conditionClearSince := none, failOpenLatched := false }
    if control.pausedByPolicy then
      ({ idle with pausedByPolicy := false, pauseDeadline := none }, some .resume)
    else (idle, none)
  else if control.failOpenLatched then
    let control := { control with conditionActiveSince := none }
    if conditionActive then ({ control with conditionClearSince := none }, none)
    else
      let clearSince := control.conditionClearSince.getD elapsed
      if hysteresisSeconds ≤ elapsed - clearSince then
        ({ control with conditionClearSince := none, failOpenLatched := false }, none)
      else ({ control with conditionClearSince := some clearSince }, none)
  else if control.pausedByPolicy then
    let released := { control with
      pausedByPolicy := false, pauseDeadline := none
      conditionActiveSince := none, conditionClearSince := none }
    if control.pauseDeadline.any (· ≤ elapsed) then
      ({ released with failOpenLatched := true }, some .resume)
    else if conditionActive then ({ control with conditionClearSince := none }, none)
    else
      let clearSince := control.conditionClearSince.getD elapsed
      if hysteresisSeconds ≤ elapsed - clearSince then (released, some .resume)
      else ({ control with conditionClearSince := some clearSince }, none)
  else if conditionActive then
    let activeSince := control.conditionActiveSince.getD elapsed
    if debounceSeconds ≤ elapsed - activeSince then
      ({ control with
          conditionClearSince := none, conditionActiveSince := none
          pausedByPolicy := true, pauseDeadline := some (elapsed + maxPauseSeconds) },
        some .pause)
    else
      ({ control with conditionClearSince := none, conditionActiveSince := some activeSince },
        none)
  else ({ control with conditionActiveSince := none, conditionClearSince := none }, none)

namespace ServerRuntime

/-- The policy's pause condition over the fresh reports of eligible members. -/
def roomBufferingCondition (s : ServerRuntime) (roomName : String)
    (control : RoomBufferingControl) : Bool :=
  let reports := s.bufferingReports roomName control
  match control.config.policy with
  | .independent => false
  | .pauseController => reports.any (·.1 == control.configuredByClientId)
  | .pauseAnyEligible => 0 < reports.length
  | .quorum =>
      let required := roomBufferingQuorumRequired (s.bufferingEligible roomName).length
        (control.config.quorumPercent.getD roomBufferingDefaultQuorumPercent)
      0 < required && required ≤ reports.length

/-! ### Canonical transport writes -/

/-- Installs a new canonical playstate: opens a transport-authority boundary,
    reseeds every member's sample and queues the room for persistence. -/
def establishRoomTransport (s : ServerRuntime) (roomName : String) (state : RoomPlaybackState) :
    ServerRuntime :=
  (((s.setRoomPlaybackState roomName state).advanceTransportAuthorityRevision roomName
    ).seedRoomClientPlaybackStates roomName state.position state.updatedAtSeconds
    ).persistRoomIfNeeded roomName

/-- The transition changes the playstate, and a resume still owns the pause. -/
def roomBufferingTransitionApplies (s : ServerRuntime) (roomName : String)
    (transition : RoomBufferingTransition) : Bool :=
  let owned := s.roomBufferingControls[roomName]?.all fun control =>
    s.readinessPauseOwnedByBufferingPolicy roomName control.config.mediaGeneration
      control.config.stateRevision
  (transition == .pause || owned)
    && (s.roomPlaybackState roomName).paused != (transition == .pause)

/-- The pause owner a transition installs; none without a control record. -/
def roomBufferingTransitionOwner (s : ServerRuntime) (roomName : String)
    (transition : RoomBufferingTransition) : Option RoomPauseOwner :=
  s.roomBufferingControls[roomName]?.map fun control =>
    match transition with
    | .pause =>
        .roomBufferingPolicy control.config.mediaGeneration control.config.stateRevision
    | .resume => .none

def applyRoomBufferingTransition (s : ServerRuntime) (roomName : String)
    (transition : RoomBufferingTransition) (setBy : String) (now : Seconds) : ServerRuntime :=
  if s.roomBufferingTransitionApplies roomName transition then
    let transported := s.establishRoomTransport roomName
      { position := (s.roomPlaybackStateAt roomName now).position
        paused := transition == .pause
        setBy := some setBy
        updatedAtSeconds := now }
    match s.roomBufferingTransitionOwner roomName transition with
    | some owner => transported.setReadinessPauseOwner roomName owner
    | none => transported
  else s

end ServerRuntime

/-- The messages of a buffering transition that took `before` to `after`:
    forced States first, then the readiness snapshot. -/
def publishRoomBufferingTransition (before after : ServerRuntime) (roomName : String)
    (transition : RoomBufferingTransition) (setBy : String) (now : Seconds) :
    ServerM Outbound := do
  if before.roomBufferingTransitionApplies roomName transition then
    let states ← forcedStateFanout (after.clientsInRoom roomName)
      (before.roomPlaybackStateAt roomName now).position (transition == .pause) (some false)
      (some setBy)
    let snapshot :=
      if (before.roomBufferingTransitionOwner roomName transition).any
          (before.readinessPauseOwnerDiffers roomName ·) then
        after.readinessSnapshotFanout roomName
      else []
    pure (states ++ snapshot)
  else
    pure []

namespace ServerRuntime

def installControl (s : ServerRuntime) (roomName : String) (control : RoomBufferingControl) :
    ServerRuntime :=
  { s with roomBufferingControls := s.roomBufferingControls.insert roomName control }

/-- The control record and transition of one evaluation; the policy never
    claims a pause that someone else already made. -/
def evaluatedControl (s : ServerRuntime) (roomName : String) (control : RoomBufferingControl) :
    RoomBufferingControl × Option RoomBufferingTransition :=
  let elapsed := s.localTimeSeconds
  let fresh := { control with
    reports := control.reports.filter fun _ report => roomBufferingReportIsFresh report elapsed }
  let stepped := roomBufferingStep fresh (s.roomBufferingCondition roomName fresh) elapsed
  if stepped.2 = some .pause ∧ (s.roomPlaybackState roomName).paused then
    ({ stepped.1 with pausedByPolicy := false, pauseDeadline := none }, none)
  else stepped

/-- The runtime after one evaluation of the room's policy. -/
def evaluateRoomBuffering (s : ServerRuntime) (roomName : String) (now : Seconds) :
    ServerRuntime :=
  match s.roomBufferingControls[roomName]? with
  | none => s
  | some control =>
      let evaluated := s.evaluatedControl roomName control
      let installed := s.installControl roomName evaluated.1
      match evaluated.2 with
      | none => installed
      | some transition =>
          installed.applyRoomBufferingTransition roomName transition
            control.configuredByUsername now

end ServerRuntime

def evaluateRoomBufferingAt (roomName : String) (now : Seconds) (alwaysPublishStatus : Bool) :
    ServerM Outbound := do
  let before ← Prog.get
  match before.roomBufferingControls[roomName]? with
  | none => pure []
  | some control => do
      let evaluated := before.evaluatedControl roomName control
      let reportsExpired := evaluated.1.reports.size != control.reports.size
      Prog.modify (·.evaluateRoomBuffering roomName now)
      let transitioned ← match evaluated.2 with
        | none => pure []
        | some transition =>
            publishRoomBufferingTransition (before.installControl roomName evaluated.1)
              (before.evaluateRoomBuffering roomName now) roomName transition
              control.configuredByUsername now
      let s ← Prog.get
      let afterStatus := s.roomBufferingStatusAt roomName now
      let publish := alwaysPublishStatus || reportsExpired
        || before.roomBufferingStatusAt roomName now != afterStatus || !transitioned.isEmpty
      if publish && afterStatus.isSome then
        pure (transitioned ++ s.roomBufferingFanout roomName { bufferingStatus := afterStatus })
      else
        pure transitioned

namespace ServerRuntime

/-- Records a transport report that names the current policy generation. -/
def acceptBufferingReport (s : ServerRuntime) (clientId username roomName : String)
    (report : TransportBufferingReportPayload) : ServerRuntime :=
  s.updateControl roomName fun control =>
    { control with
      reports := control.reports.insert clientId
        { username
          buffering := report.buffering
          bufferedSeconds := report.bufferedSeconds.bind F64.finite?
          reportedAtSeconds := s.localTimeSeconds } }

end ServerRuntime

/-- The report is well formed: a generation and revision other than zero,
    finite times and a non-negative amount of buffered media. -/
def bufferingReportIsValid (report : TransportBufferingReportPayload) : Bool :=
  report.mediaGeneration != 0 && report.stateRevision != some 0
    && report.bufferedSeconds.all (fun seconds => match seconds with
      | .finite seconds => decide (0 ≤ seconds)
      | .nonFinite => false)
    && report.observedAt.all F64.isFinite

def recordRoomBufferingReport (clientId : String) (report : TransportBufferingReportPayload) :
    ServerM Outbound := do
  let s ← Prog.get
  match s.sessions[clientId]? with
  | none => Prog.throw (.missingSession clientId)
  | some session =>
    match s.roomBufferingControls[session.room]? with
    | none => pure []
    | some control =>
      if !session.capabilities.playbackBarrierV1 || !bufferingReportIsValid report
          || control.retiredForSelection
          || report.mediaGeneration != control.config.mediaGeneration
          || (control.config.stateRevision.isSome
            && report.stateRevision != control.config.stateRevision) then
        pure []
      else do
        Prog.modify (·.acceptBufferingReport clientId session.username session.room report)
        evaluateRoomBufferingAt session.room s.currentTimeSeconds true

/-- Re-evaluates the eligible cohort for a newly capable member and sends it
    the room's policy. -/
def refreshRoomBufferingParticipant (clientId : String) : ServerM Outbound := do
  let s ← Prog.get
  match s.sessions[clientId]? with
  | none => pure []
  | some session =>
      if !session.capabilities.playbackBarrierV1
          || s.playbackBarrierFencedClients.contains clientId
          || !s.roomBufferingControls.contains session.room then
        pure []
      else do
        let evaluated ← evaluateRoomBufferingAt session.room s.currentTimeSeconds true
        let s ← Prog.get
        pure (evaluated ++ s.roomBufferingSnapshotForClient session.room clientId)

/-- The control of a room whose policy owner went away. -/
def ownerlessControl (control : RoomBufferingControl) (clientId : String) : RoomBufferingControl :=
  { control with
    reports := control.reports.erase clientId
    config := { control.config with policy := .independent, quorumPercent := none }
    conditionActiveSince := none
    conditionClearSince := none
    pausedByPolicy := false
    pauseDeadline := none
    failOpenLatched := false }

namespace ServerRuntime

/-- Retires the departed owner's policy; a pause it still held is released. -/
def retireOwnerlessPolicy (s : ServerRuntime) (roomName clientId : String) (now : Seconds) :
    ServerRuntime :=
  match s.roomBufferingControls[roomName]? with
  | none => s
  | some control =>
      let installed := s.installControl roomName (ownerlessControl control clientId)
      if control.pausedByPolicy then
        installed.applyRoomBufferingTransition roomName .resume control.configuredByUsername now
      else installed

end ServerRuntime

def markRoomBufferingParticipantDisconnected (clientId roomName : String) :
    ServerM Outbound := do
  let s ← Prog.get
  match s.roomBufferingControls[roomName]? with
  | none => pure []
  | some control =>
      if s.playbackBarrierFencedClients.contains clientId
          && control.configuredByClientId != clientId && !control.reports.contains clientId then
        pure []
      else if control.configuredByClientId = clientId then do
        let before := s.installControl roomName (ownerlessControl control clientId)
        Prog.modify (·.retireOwnerlessPolicy roomName clientId s.currentTimeSeconds)
        let released ←
          if control.pausedByPolicy then
            publishRoomBufferingTransition before
              (s.retireOwnerlessPolicy roomName clientId s.currentTimeSeconds) roomName .resume
              control.configuredByUsername s.currentTimeSeconds
          else
            pure []
        let s ← Prog.get
        pure (released ++ s.roomBufferingFanout roomName
          { bufferingStatus := s.roomBufferingStatus roomName })
      else do
        Prog.modify (·.updateControl roomName fun control =>
          { control with reports := control.reports.erase clientId })
        evaluateRoomBufferingAt roomName s.currentTimeSeconds true

end Sorotte.Server
