import Sorotte.Membership.MessageWalks

/-! # Samples never outrun room authority

  Authorities only go up while a room's state exists.  A sample is labelled with
  the authority of the room it is taken in, except in one place: a room switch
  labels the new sample before the session names the new room.  Runs whose
  switches only go up keep every sample within its room's authority.
-/

namespace Sorotte.Server

open Sorotte.Framework Sorotte.Framework.Prog

variable {s s' : ServerRuntime}

/-! ### Authorities -/

/-- Every authority is kept or raised, unless its room is discarded on the way. -/
def AuthoritiesRise (s s' : ServerRuntime) : Prop :=
  ∃ fresh, s'.history = fresh ++ s.history ∧ ∀ room before, s.authority room = some before →
    .roomDiscarded room ∈ fresh ∨ ∃ after, s'.authority room = some after ∧ before ≤ after

theorem AuthoritiesKept.rise (h : AuthoritiesKept s s') (hhistory : s.history <:+ s'.history) :
    AuthoritiesRise s s' := by
  obtain ⟨fresh, hfresh⟩ := hhistory
  exact ⟨fresh, hfresh.symm, fun room before hbefore => .inr (h room before hbefore)⟩

theorem AuthoritiesRise.refl (s : ServerRuntime) : AuthoritiesRise s s :=
  (AuthoritiesKept.refl s).rise (List.suffix_refl _)

theorem AuthoritiesRise.trans {t : ServerRuntime} (h : AuthoritiesRise s t)
    (h' : AuthoritiesRise t s') : AuthoritiesRise s s' := by
  obtain ⟨first, hfirst, hrise⟩ := h
  obtain ⟨second, hsecond, hrise'⟩ := h'
  refine ⟨second ++ first, by rw [hsecond, hfirst, List.append_assoc], ?_⟩
  intro room before hbefore
  rcases hrise room before hbefore with hdiscarded | ⟨middle, hmiddle, hle⟩
  · exact .inl (List.mem_append.mpr (.inr hdiscarded))
  · rcases hrise' room middle hmiddle with hdiscarded | ⟨after, hafter, hle'⟩
    · exact .inl (List.mem_append.mpr (.inl hdiscarded))
    · exact .inr ⟨after, hafter, le_trans hle hle'⟩

theorem Moves.authoritiesRise {move : Move} (h : Moves move s s') : AuthoritiesRise s s' := by
  by_cases hkeeps : move.keepsSamples
  · have hkept := h.samplesKept hkeeps
    exact hkept.authorities.rise hkept.history
  · cases h with
    | relocate now hsession hunattached hroom hleft =>
      exact (moveSession_samples now hsession hroom).1.rise
        (moveSession_samples now hsession hroom).2.1
    | @discard _ room hempty =>
      obtain ⟨hkept, fresh, hfresh⟩ := discard_authorities s room
      refine ⟨.roomDiscarded room :: fresh, hfresh, fun a before hbefore => ?_⟩
      by_cases ha : a = room
      · exact .inl (by simp [ha])
      · exact .inr (hkept a before ha hbefore)
    | _ => exact absurd trivial hkeeps

theorem Walk.authoritiesRise {ok : Move → Prop} (h : Walk ok s s') : AuthoritiesRise s s' := by
  induction h with
  | refl => exact .refl s
  | tail _ hstep ih =>
    obtain ⟨move, -, hmoved⟩ := hstep
    exact ih.trans hmoved.authoritiesRise

theorem Seated.authoritiesRise {clientId freshToken : String} {ok : Move → Prop}
    (h : Seated clientId freshToken ok s s') : AuthoritiesRise s s' := by
  rcases h with hwalk | ⟨t, t', presentedToken, hbefore, hattach, hafter⟩
  · exact hwalk.authoritiesRise
  · exact (hbefore.authoritiesRise.trans hattach.authoritiesRise).trans hafter.authoritiesRise

theorem Action.Changes.authoritiesRise {action : Action} (h : action.Changes s s') :
    AuthoritiesRise s s' := by
  cases action with
  | hello clientId command framesFit freshToken => exact Seated.authoritiesRise h
  | setCommand clientId freshToken command next =>
    cases h with
    | stays h => exact h.authoritiesRise
    | moves hbefore hmove hafter =>
      exact (hbefore.authoritiesRise.trans hmove.authoritiesRise).trans hafter.authoritiesRise
  | _ => exact Walk.authoritiesRise h

/-! ### Samples -/

/-- Every move keeps samples sound that does not relocate its client. -/
theorem Moves.samplesSound {move : Move} (h : Moves move s s') (hs : SamplesSound s)
    (hstays : ∀ clientId, move ≠ .relocate clientId) : SamplesSound s' := by
  by_cases hkeeps : move.keepsSamples
  · exact (h.samplesKept hkeeps).samples hs
  · cases h with
    | relocate now hsession hunattached hroom hleft => exact absurd rfl (hstays _)
    | discard hempty => exact discard_samples hempty hs
    | _ => exact absurd trivial hkeeps

theorem Move.plain.stays {move : Move} (h : move.plain) (clientId : String) :
    move ≠ .relocate clientId := by
  rintro rfl
  exact h

theorem Walk.samplesSound {ok : Move → Prop} (h : Walk ok s s') (hs : SamplesSound s)
    (hok : ∀ move, ok move → move.plain) : SamplesSound s' := by
  refine h.preserves (fun move t t' hmove hmoved ht => hmoved.samplesSound ht fun clientId => ?_) hs
  rcases hmove with rfl | hmove
  · intro hquiet
    cases hquiet
  · exact (hok move hmove).stays clientId

theorem Seated.samplesSound {clientId freshToken : String} {ok : Move → Prop}
    (h : Seated clientId freshToken ok s s') (hs : SamplesSound s)
    (hok : ∀ move, ok move → move.plain) : SamplesSound s' := by
  rcases h with hwalk | ⟨t, t', presentedToken, hbefore, hattach, hafter⟩
  · exact hwalk.samplesSound hs hok
  · have ht := hbefore.samplesSound hs hok
    exact hafter.samplesSound (hattach.samplesSound ht fun c hc => by cases hc) hok

/-! ### Switches -/

/-- A room command, of a session that it moves, goes up: after the departure
    from its old room, that room's authority is below the new room's; or they
    are equal and the new room has no seed position for joiners. -/
def Action.SwitchesUp (action : Action) (s : ServerRuntime) : Prop :=
  match action with
  | .setCommand clientId _ (.room roomName) _ =>
      ∀ session, s.sessions[clientId]? = some session →
        session.room ≠ truncateTextToMaxChars roomName defaultMaxRoomNameLength →
          SwitchesUpwards (after (departure clientId session.room) s) session.room
            (truncateTextToMaxChars roomName defaultMaxRoomNameLength)
  | _ => True

theorem switchRoom_samples {clientId newRoom freshToken : String} {session : ServerSession}
    (hs : Seats s) (hsound : SamplesSound s) (hsession : s.sessions[clientId]? = some session)
    (hroom : session.room ≠ newRoom)
    (hup : SwitchesUpwards (after (departure clientId session.room) s) session.room newRoom) :
    Succeeds (fun _ t => SamplesSound t) s (switchRoom clientId session newRoom freshToken) := by
  obtain ⟨out, roster, s', hrun, hheld, hmove, hseated⟩ :=
    switchRoom_run hs hsession hroom freshToken
  obtain ⟨-, -, -, -, -, -, -, -, hwalk, -⟩ :=
    @departure_run _ clientId hs session.room
  have hdeparted := hwalk.samplesSound hsound fun _ h => (Move.detaches.stationary h).plain
  exact ⟨out, s', hrun, hseated.samplesSound
    ((moveSession_samples _ hheld hroom).2.2 hup hdeparted) fun _ => Move.stationary.plain⟩

theorem applySetCommand_samples {clientId freshToken : String} {command : ServerSetCommand}
    {next : Option ServerSetCommand} (hs : Seats s) (hsound : SamplesSound s)
    (hsession : (s.sessions[clientId]?).isSome = true)
    (hup : (Action.setCommand clientId freshToken command next).SwitchesUp s) :
    Succeeds (fun _ t => SamplesSound t) s (applySetCommand clientId freshToken command next) := by
  by_cases hcommand : ∃ name, command = .room name
  · obtain ⟨name, rfl⟩ := hcommand
    obtain ⟨session, hsession⟩ := Option.isSome_iff_exists.mp hsession
    refine succeeds_get_bind ?_
    rw [hsession]
    refine succeeds_pair ?_
    unfold setRoom
    extract_lets newRoom
    split
    · exact ⟨[], s, rfl, hsound⟩
    · next hroom => exact switchRoom_samples hs hsound hsession hroom (hup session hsession hroom)
  · have hstays : ∀ name, command ≠ .room name := fun name hname => hcommand ⟨name, hname⟩
    exact (applySetCommand_seated hs hsession freshToken command next hstays).mono
      fun _ hseated => hseated.samplesSound hsound fun _ => Move.stationary.plain

/-- **Step lemma**: an action whose switch goes up keeps samples sound. -/
theorem Action.samplesSound {action : Action} (hs : Seats s) (hsound : SamplesSound s)
    (hup : action.SwitchesUp s) : SamplesSound (after action.run s) := by
  have hchanges := action.changes hs
  cases action with
  | hello clientId command framesFit freshToken =>
    exact Seated.samplesSound hchanges hsound fun _ => id
  | setCommand clientId freshToken command next =>
    by_cases hsession : (s.sessions[clientId]?).isSome = true
    · obtain ⟨out, t, hrun, ht⟩ := applySetCommand_samples hs hsound hsession hup
      have hsilent : Action.run (.setCommand clientId freshToken command next) s = (.ok (), t) := by
        show silently _ s = _
        unfold silently
        rw [bind_of_ok hrun]
        rfl
      rw [after, hsilent]
      exact ht
    · have hmissing : Action.run (.setCommand clientId freshToken command next) s =
          (.error (.missingSession clientId), s) := by
        show silently (applySetCommand clientId freshToken command next) s = _
        unfold silently applySetCommand
        rw [bind_run, get_bind_run, Option.not_isSome_iff_eq_none.mp hsession]
        rfl
      rw [after, hmissing]
      exact hsound
  | _ => exact Walk.samplesSound hchanges hsound fun _ => id

theorem Initial.samplesSound (h : Initial s) : SamplesSound s := by
  intro clientId session hsession
  rw [h.noSessions, Std.ExtTreeMap.getElem?_empty] at hsession
  cases hsession

/-- **Run lemma**. -/
theorem RunOf.samplesSound {s₀ : ServerRuntime} (hinitial : Initial s₀)
    (h : RunOf Action.SwitchesUp s₀ s) : Seats s ∧ SamplesSound s := by
  induction h with
  | refl => exact ⟨hinitial.seats, hinitial.samplesSound⟩
  | @step t action clock _ hclock hup ih =>
    obtain ⟨hseats, hsound⟩ := ih
    have hquiet := quiet_clock t clock
    have hseats := hseats.quiet hquiet
    exact ⟨(action.changes hseats).seats hseats,
      Action.samplesSound hseats (hquiet.samples hsound) hup⟩

/-! ### Accepted samples -/

/-- `state`, the sample of `clientId`, passes for a current one of `roomName`. -/
structure AcceptedSample (s : ServerRuntime) (roomName clientId : String)
    (session : ServerSession) (state : ClientPlaybackState) : Prop where
  held : s.sessions[clientId]? = some session
  room : session.room = roomName
  sampled : s.clientPlaybackStates[clientId]? = some state
  label : state.transportRevision = none
    ∨ state.transportRevision = s.transportAuthorityRevisionForRoom roomName
  position : state.position.isSome = true

/-- A fold that keeps what it holds or takes it from the next entry. -/
theorem exists_of_foldl {α β : Type} {f : Option β → α → Option β} {P : α → β → Prop}
    (hf : ∀ held a b, f held a = some b → held = some b ∨ P a b) (l : List α) {b : β}
    (h : l.foldl f none = some b) : ∃ a ∈ l, P a b := by
  induction l using List.reverseRecOn with
  | nil => cases h
  | append_singleton l a ih =>
    rw [List.foldl_append] at h
    rcases hf _ _ _ h with hheld | hfound
    · obtain ⟨a', hmem, ha'⟩ := ih hheld
      exact ⟨a', List.mem_append.mpr (.inl hmem), ha'⟩
    · exact ⟨a, by simp, hfound⟩

/-- The slowest-client rule takes an entry over with the entry's own sample, or keeps
    the entry it holds. -/
theorem slowest_takes {sample : String × ServerSession → Option Seconds}
    {joinOrder : String → Nat} (slowest : Option (String × Seconds × Nat))
    (entry : String × ServerSession) (found : String × Seconds × Nat)
    (h : (match sample entry with
      | none => slowest
      | some position =>
          let order := joinOrder entry.1
          match slowest with
          | none => some (entry.2.username, position, order)
          | some (_, heldPosition, heldOrder) =>
              if position < heldPosition || (position == heldPosition && order < heldOrder) then
                some (entry.2.username, position, order)
              else slowest) = some found) :
    slowest = some found ∨ (sample entry = some found.2.1 ∧ entry.2.username = found.1) := by
  dsimp only at h
  split at h
  · exact .inl h
  · next position hposition =>
    split at h
    · cases h
      exact .inr ⟨hposition, rfl⟩
    · split at h
      · cases h
        exact .inr ⟨hposition, rfl⟩
      · exact .inl h

/-- What the slowest-client rule returns is an accepted sample's position. -/
theorem slowest_accepted {roomName username : String} {roomPaused : Bool} {now position : Seconds}
    (h : s.slowestRoomPlaybackClientAt roomName roomPaused now = some (username, position)) :
    ∃ clientId session state, AcceptedSample s roomName clientId session state
      ∧ session.username = username ∧ state.positionAt roomPaused now = some position := by
  unfold ServerRuntime.slowestRoomPlaybackClientAt at h
  extract_lets controlledRoom current sample slowest at h
  obtain ⟨⟨name, held, order⟩, hslowest, hheld⟩ := Option.map_eq_some_iff.mp h
  cases hheld
  obtain ⟨⟨clientId, session⟩, hmem, hsample, hname⟩ := exists_of_foldl slowest_takes _ hslowest
  have hsession : s.sessions[clientId]? = some session :=
    Std.ExtTreeMap.mem_toList_iff_getElem?_eq_some.mp hmem
  simp only [sample] at hsample
  split at hsample
  · cases hsample
  · next hin =>
    split at hsample
    · cases hsample
    · split at hsample
      · cases hsample
      · obtain ⟨state, hstate, haccepted⟩ := Option.bind_eq_some_iff.mp hsample
        split at haccepted
        · cases haccepted
        · next hlabel =>
          refine ⟨clientId, session, state, ⟨hsession, ?_, hstate, ?_, ?_⟩, hname, haccepted⟩
          · simp only [Bool.or_eq_true, bne_iff_ne, ne_eq, not_or, not_not] at hin
            exact hin.1
          · cases hrevision : state.transportRevision with
            | none => exact .inl rfl
            | some revision =>
              rw [hrevision] at hlabel
              exact .inr (by simpa [current] using hlabel)
          · unfold ClientPlaybackState.positionAt at haccepted
            obtain ⟨position, hposition, -⟩ := Option.map_eq_some_iff.mp haccepted
            rw [hposition]
            rfl

theorem SamplesSound.accepted {roomName clientId : String} {session : ServerSession}
    {state : ClientPlaybackState} (hs : SamplesSound s)
    (h : AcceptedSample s roomName clientId session state) :
    s.sampleRooms[clientId]? = some roomName := by
  obtain ⟨current, hcurrent, hfits⟩ := hs clientId session h.held
  rcases (hfits state h.sampled).taken with htaken | hnone | ⟨revision, hrevision, hlt⟩
  · rw [htaken, h.room]
  · have hposition := h.position
    rw [hnone] at hposition
    cases hposition
  · -- a label below the room's authority is not the authority
    have hauthority : s.transportAuthorityRevisionForRoom roomName = some current := by
      rw [← h.room]
      exact hcurrent
    rcases h.label with hlabel | hlabel
    · rw [hrevision] at hlabel
      cases hlabel
    · rw [hrevision, hauthority] at hlabel
      cases hlabel
      exact absurd hlt (lt_irrefl _)

/-! ### Runs -/

/-- **Samples never outrun room authority** in runs whose room switches go up:
    labels stay within the authority of the session's room, an accepted sample
    was taken in the room it counts for, and no step lowers an authority. -/
theorem samples_within_authority {s₀ : ServerRuntime} (hinitial : Initial s₀)
    (h : RunOf Action.SwitchesUp s₀ s) :
    (∀ (clientId : String) session state, s.sessions[clientId]? = some session →
      s.clientPlaybackStates[clientId]? = some state →
      ∃ current, s.authority session.room = some current
        ∧ ∀ revision, state.transportRevision = some revision → revision ≤ current)
    ∧ (∀ roomName clientId session state, AcceptedSample s roomName clientId session state →
      s.sampleRooms[clientId]? = some roomName)
    ∧ (∀ roomName roomPaused now username position,
      s.slowestRoomPlaybackClientAt roomName roomPaused now = some (username, position) →
      ∃ clientId session state, AcceptedSample s roomName clientId session state
        ∧ session.username = username ∧ state.positionAt roomPaused now = some position)
    ∧ (∀ (action : Action) clock, AuthoritiesRise s (action.next clock s)) := by
  obtain ⟨hseats, hsound⟩ := h.samplesSound hinitial
  refine ⟨fun clientId session state hsession hstate => ?_,
    fun _ _ _ _ haccepted => hsound.accepted haccepted,
    fun _ _ _ _ _ hslowest => slowest_accepted hslowest, fun action clock => ?_⟩
  · obtain ⟨current, hcurrent, hfits⟩ := hsound clientId session hsession
    exact ⟨current, hcurrent, (hfits state hstate).bounded⟩
  · have hquiet := quiet_clock s clock
    have hchanges := action.changes (hseats.quiet hquiet)
    exact (hquiet.authorities.rise hquiet.history).trans
      (Action.Changes.authoritiesRise hchanges)

/-! ### alice follows bob -/

def seekIn (clientId : String) : Action :=
  .state clientId
    { playstate := some
        { position := some (.finite 5), paused := some false, doSeek := some true } } 0

def aliceJoinsMovies : Action :=
  .hello "c1" { username := "alice", room := "movies", version := "1.7.0", capabilities := {} } true
    "token"

def bobJoinsLobby : Action :=
  .hello "c2" { username := "bob", room := "lobby", version := "1.7.0", capabilities := {} } true
    "token"

def aliceMovesToLobby : Action := .setCommand "c1" "token" (.room "lobby") none

/-- alice joins a room; bob joins another one and seeks in it. -/
def seekInLobby : ServerRuntime :=
  (seekIn "c2").next {} (bobJoinsLobby.next {} (aliceJoinsMovies.next {} emptyServer))

/-- alice goes up to bob's room. -/
def meetInLobby : ServerRuntime := aliceMovesToLobby.next {} seekInLobby

instance decidableSwitchesUpwards (s : ServerRuntime) (oldRoom newRoom : String) :
    Decidable (SwitchesUpwards s oldRoom newRoom) := inferInstanceAs (Decidable (_ ∨ _))

/-- The room that alice leaves is at revision 1, and bob's at revision 2. -/
theorem lobby_readings :
    (emptyServer.clock.le {} ∧ (aliceJoinsMovies.next {} emptyServer).clock.le {} ∧
      (bobJoinsLobby.next {} (aliceJoinsMovies.next {} emptyServer)).clock.le {} ∧
      seekInLobby.clock.le {}) ∧
    (seekInLobby.sessions["c1"]?).map (·.room) = some "movies" ∧
    SwitchesUpwards (after (departure "c1" "movies") { seekInLobby with clock := {} }) "movies"
      (truncateTextToMaxChars "lobby" defaultMaxRoomNameLength) ∧
    (meetInLobby.sessions["c1"]?).map (·.room) = some "lobby" ∧
    (meetInLobby.clientPlaybackStates["c1"]?).isSome = true := by
  decide +kernel

theorem meetInLobby_run : RunOf Action.SwitchesUp emptyServer meetInLobby := by
  have ⟨⟨hempty, hjoined, hbob, hsought⟩, hroom, hup, _⟩ := lobby_readings
  have hseek : RunOf Action.SwitchesUp emptyServer seekInLobby :=
    .step _ {} (.step _ {} (.step _ {} (.refl _) hempty trivial) hjoined trivial) hbob trivial
  refine .step aliceMovesToLobby {} hseek hsought ?_
  intro session hsession _
  have hsame : some session.room = some "movies" := by
    rw [← hroom]
    exact (congrArg (Option.map (·.room)) hsession).symm
  rw [Option.some.inj hsame]
  exact hup

theorem samples_within_authority_lobby :
    ∃ session state, meetInLobby.sessions["c1"]? = some session ∧ session.room = "lobby"
      ∧ meetInLobby.clientPlaybackStates["c1"]? = some state
      ∧ ∃ current, meetInLobby.authority session.room = some current
        ∧ ∀ revision, state.transportRevision = some revision → revision ≤ current := by
  have ⟨_, _, _, hroom, hstate⟩ := lobby_readings
  obtain ⟨session, hsession, hlobby⟩ := Option.map_eq_some_iff.mp hroom
  obtain ⟨state, hstate⟩ := Option.isSome_iff_exists.mp hstate
  exact ⟨session, state, hsession, hlobby, hstate,
    (samples_within_authority emptyServer_initial meetInLobby_run).1 "c1" session state hsession
      hstate⟩

/-! ### alice switches down -/

/-- alice joins a room and seeks in it. -/
def seekInMovies : ServerRuntime := (seekIn "c1").next {} (aliceJoinsMovies.next {} emptyServer)

/-- From a room at revision 2 alice switches to a fresh room at revision 1 and
    keeps the label of the room she left. -/
theorem switch_outruns_authority :
    ∃ s, Reachable s ∧ ∃ session state, s.sessions["c1"]? = some session
      ∧ s.clientPlaybackStates["c1"]? = some state ∧ s.authority session.room = some 1
      ∧ state.transportRevision = some 2 := by
  refine ⟨aliceMovesToLobby.next {} seekInMovies, ?_, ?_⟩
  · exact ⟨emptyServer, emptyServer_initial, .tail (.tail (.tail .refl (.act _ _ {} (by decide +kernel)))
      (.act _ _ {} (by decide +kernel))) (.act _ _ {} (by decide +kernel))⟩
  · generalize hmoved : aliceMovesToLobby.next {} seekInMovies
      = moved
    have hread : (moved.sessions["c1"]?).map (·.room) = some "lobby"
        ∧ (moved.clientPlaybackStates["c1"]?).map (·.transportRevision) = some (some 2)
        ∧ moved.authority "lobby" = some 1 := by
      rw [← hmoved]
      decide +kernel
    obtain ⟨session, hsession, hroom⟩ := Option.map_eq_some_iff.mp hread.1
    obtain ⟨state, hstate, hlabel⟩ := Option.map_eq_some_iff.mp hread.2.1
    exact ⟨session, state, hsession, hstate, by rw [hroom]; exact hread.2.2, hlabel⟩

end Sorotte.Server
