import Sorotte.Properties.RoomHistories
import Sorotte.Refinement.Selections
import Sorotte.Server.Dispatch

/-! # Races for the next entry

  Several players report the end of the same entry.  Each asks for the next one
  under the index and the epoch it saw; the first request moves the epoch, and
  every other one leaves the room as it is.
-/

namespace Sorotte.Server

open Sorotte.Framework Sorotte.Framework.Prog Sorotte.Ideal ServerRuntime

variable {s t : ServerRuntime} {clientId : String} {session : ServerSession}

/-! ### What one command does -/

/-- The playlist has moved by one epoch, and the mutation is recorded. -/
structure PlaylistMoved (s t : ServerRuntime) (room : String) (files : List String)
    (guard : Option (Int × Nat)) : Prop where
  files : (t.roomPlaylistState room).files = files
  epoch : (t.roomPlaylistState room).epoch = (s.roomPlaylistState room).epoch + 1
  recorded : mutations room t.history =
    ((s.roomPlaylistState room).epoch, guard) :: mutations room s.history

/-- Playlists, playback, readiness and barriers are as they were, and nothing is recorded. -/
structure PlaylistRefused (s t : ServerRuntime) : Prop where
  playlists : t.roomPlaylistState = s.roomPlaylistState
  playback : t.roomPlaybackState = s.roomPlaybackState
  readiness : t.roomReadiness = s.roomReadiness
  barriers : t.roomPlaybackBarriers = s.roomPlaybackBarriers
  policies : t.roomBufferingControls = s.roomBufferingControls
  history : t.history = s.history

theorem playlistRefused_ensureRoomState (s : ServerRuntime) (room : String) :
    PlaylistRefused s (s.ensureRoomState room) where
  playlists := roomPlaylistState_ensureRoomState s room
  playback := roomPlaybackState_ensureRoomState s room
  readiness := rfl
  barriers := rfl
  policies := rfl
  history := rfl

/-- A stored playlist that only follow-ups come after. -/
theorem moved_of_follows {room : String} {plain : Prop} {playlist : RoomPlaylistState}
    {guard : Option (Int × Nat)} (hepoch : playlist.epoch = (s.roomPlaylistState room).epoch)
    (h : Relation.ReflTransGen (Steps (followUpLabel room plain))
      (s.acceptPlaylist room playlist guard).ideal t.ideal) :
    t.roomPlaylistState room = playlist.advanceEpoch
      ∧ PlaylistMoved s t room playlist.files guard := by
  have hfollow : ∀ l, followUpLabel room plain l →
      (∀ playlist expected, l ≠ .playlist room playlist expected) ∧ l ≠ .discard room := by
    intro l hl
    constructor
    · rintro playlist expected rfl
      exact hl
    · rintro rfl
      exact hl
  obtain ⟨hkept, hmutations⟩ := playlist_kept_of_steps hfollow h
  rw [ideal_acceptPlaylist] at hkept hmutations
  have hstored : t.roomPlaylistState room = playlist.advanceEpoch := by
    have hlookup : t.roomPlaylistState room =
        Function.update s.roomPlaylistState room playlist.advanceEpoch room := hkept
    rwa [Function.update_self] at hlookup
  have hrecorded : mutations room t.history =
      (playlist.epoch, guard) :: mutations room s.history := by
    have hevents : mutations room t.history =
        mutations room (.playlistAccepted room playlist.epoch guard :: s.history) := hmutations
    rw [hevents]
    simp [mutations, mutation]
  refine ⟨hstored, ?_, ?_, ?_⟩
  · rw [hstored]
    rfl
  · rw [hstored, ← hepoch]
    rfl
  · rw [hrecorded, hepoch]

/-! ### Indexes -/

theorem setPlaylistIndex_moves (hs : Seats s) (command : ServerPlaylistIndexCommand)
    (h : (s.ensureRoomState session.room).acceptsPlaylistIndex session command = true) :
    (after (setPlaylistIndex clientId session command) s).roomPlaylistState session.room =
        { s.roomPlaylistState session.room with
          index := command.index, epoch := (s.roomPlaylistState session.room).epoch + 1 }
      ∧ PlaylistMoved s (after (setPlaylistIndex clientId session command) s) session.room
        (s.roomPlaylistState session.room).files command.precondition.guard := by
  have hsame := roomPlaylistState_ensureRoomState s session.room
  have hensured := hs.quiet (s.quiet_ensureRoomState session.room)
  unfold ServerRuntime.acceptsPlaylistIndex at h
  rw [Bool.and_eq_true, Bool.and_eq_true] at h
  obtain ⟨⟨hcontrol, hindex⟩, hmatches⟩ := h
  have hrun : after (setPlaylistIndex clientId session command) s =
      after (acceptPlaylistIndex session command) (s.ensureRoomState session.room) := by
    unfold setPlaylistIndex
    rw [after_modify_bind, after_get_bind]
    dsimp only
    rw [hmatches, hcontrol, hindex]
    simp
  rw [hrun]
  have hfollows := acceptPlaylistIndex_follows hensured session command
  have hepoch : ({ (s.ensureRoomState session.room).roomPlaylistState session.room with
      index := command.index } : RoomPlaylistState).epoch =
        ((s.ensureRoomState session.room).roomPlaylistState session.room).epoch := rfl
  obtain ⟨hstored, hmoved⟩ := moved_of_follows hepoch hfollows
  rw [hsame] at hstored
  refine ⟨hstored, ?_, ?_, ?_⟩
  · rw [hstored]
    rfl
  · rw [hstored]
    rfl
  · rw [hmoved.recorded, hsame]
    rfl

theorem setPlaylistIndex_refuses (command : ServerPlaylistIndexCommand)
    (h : (s.ensureRoomState session.room).acceptsPlaylistIndex session command = false) :
    PlaylistRefused s (after (setPlaylistIndex clientId session command) s) := by
  have hrun : after (setPlaylistIndex clientId session command) s =
      s.ensureRoomState session.room := by
    unfold ServerRuntime.acceptsPlaylistIndex at h
    dsimp only at h
    unfold setPlaylistIndex
    rw [after_modify_bind, after_get_bind]
    dsimp only
    split
    · rfl
    · rw [h]
      rfl
  rw [hrun]
  exact playlistRefused_ensureRoomState s session.room

/-! ### Changes -/

theorem setPlaylistChange_moves (hs : Seats s) (files : List String)
    (next : Option ServerSetCommand)
    (h : (s.ensureRoomState session.room).acceptsPlaylistChange clientId session files = true) :
    PlaylistMoved s (after (setPlaylistChange clientId session files next) s) session.room files
      none := by
  have hsame := roomPlaylistState_ensureRoomState s session.room
  have hensured := hs.quiet (s.quiet_ensureRoomState session.room)
  unfold setPlaylistChange
  rw [after_modify_bind, after_get_bind, if_pos h]
  dsimp only
  rw [after_bind_pure]
  set ensured := s.ensureRoomState session.room
  set lifecycleAuthority := ensured.roomUsesPlaybackLifecycleAuthority session.room
  set compoundIndex : Option ServerPlaylistIndexCommand :=
    if lifecycleAuthority = true then compoundIndexOf files next else none
  have hepoch := changedPlaylist_epoch (ensured.roomPlaylistState session.room) files
    compoundIndex lifecycleAuthority
  have hfollows := Relation.ReflTransGen.mono
    (Steps.mono (@followUp_of_select session.room False)) _ _
    (@acceptPlaylistChange_follows ensured clientId hensured session files compoundIndex
      lifecycleAuthority)
  obtain ⟨-, hmoved⟩ := moved_of_follows hepoch hfollows
  refine ⟨?_, ?_, ?_⟩
  · rw [hmoved.files, changedPlaylist_files]
  · rw [hmoved.epoch, hsame]
  · rw [hmoved.recorded, hsame]
    rfl

theorem setPlaylistChange_refuses (files : List String) (next : Option ServerSetCommand)
    (h : (s.ensureRoomState session.room).acceptsPlaylistChange clientId session files = false) :
    PlaylistRefused s (after (setPlaylistChange clientId session files next) s) := by
  have hrun : after (setPlaylistChange clientId session files next) s =
      s.ensureRoomState session.room := by
    unfold setPlaylistChange
    rw [after_modify_bind, after_get_bind, if_neg (by rw [h]; decide)]
    rfl
  rw [hrun]
  exact playlistRefused_ensureRoomState s session.room

/-! ### Runs -/

/-- What a member's command does is what its handler does. -/
theorem after_playlistIndex (hsession : s.sessions[clientId]? = some session) (freshToken : String)
    (command : ServerPlaylistIndexCommand) (next : Option ServerSetCommand) :
    after (Action.setCommand clientId freshToken (.playlistIndex command) next).run s =
      after (setPlaylistIndex clientId session command) s := by
  unfold Action.run
  rw [after_silently]
  unfold applySetCommand
  rw [after_get_bind, hsession]
  dsimp only
  rw [after_bind_pure]

theorem after_playlistChange (hsession : s.sessions[clientId]? = some session)
    (freshToken : String) (files : List String) (next : Option ServerSetCommand) :
    after (Action.setCommand clientId freshToken (.playlistChange files) next).run s =
      after (setPlaylistChange clientId session files next) s := by
  unfold Action.run
  rw [after_silently]
  unfold applySetCommand
  rw [after_get_bind, hsession]

/-- **A playlist advances once**: in every reachable server an accepted index or change moves the
    epoch of its room's playlist by one, and every other one leaves playlists, playback, readiness
    and barriers as they are; over any run the epoch counts the accepted mutations, and at most
    one of them was accepted under any one guard, until the room is discarded. -/
theorem playlist_advances_once (h : Reachable s) :
    (∀ (clock : Clock) (clientId freshToken : String) (session : ServerSession)
        (command : ServerPlaylistIndexCommand) (next : Option ServerSetCommand),
      s.sessions[clientId]? = some session →
      let before : ServerRuntime := { s with clock }
      let t := (Action.setCommand clientId freshToken (.playlistIndex command) next).next clock s
      if (before.ensureRoomState session.room).acceptsPlaylistIndex session command then
        (t.roomPlaylistState session.room).index = command.index
          ∧ PlaylistMoved before t session.room (before.roomPlaylistState session.room).files
            command.precondition.guard
      else PlaylistRefused before t)
    ∧ (∀ (clock : Clock) (clientId freshToken : String) (session : ServerSession)
        (files : List String) (next : Option ServerSetCommand),
      s.sessions[clientId]? = some session →
      let before : ServerRuntime := { s with clock }
      let t := (Action.setCommand clientId freshToken (.playlistChange files) next).next clock s
      if (before.ensureRoomState session.room).acceptsPlaylistChange clientId session files then
        PlaylistMoved before t session.room files none
      else PlaylistRefused before t)
    ∧ ∀ t, Relation.ReflTransGen Step s t → ∀ room,
        ∃ newer, t.history = newer ++ s.history ∧ (.roomDiscarded room ∉ newer →
          (t.roomPlaylistState room).epoch =
            (s.roomPlaylistState room).epoch + (mutations room newer).length
          ∧ (mutations room newer = [] → t.roomPlaylistState room = s.roomPlaylistState room)
          ∧ ∀ index epoch,
            (mutations room newer).countP (fun m => m.2 = some (index, epoch)) ≤ 1) := by
  refine ⟨?_, ?_, ?_⟩
  · intro clock clientId freshToken session command next hsession before t
    have hbefore : Seats before := h.seats.quiet (quiet_clock s clock)
    have hheld : before.sessions[clientId]? = some session := hsession
    have hrun : t = after (setPlaylistIndex clientId session command) before :=
      after_playlistIndex hheld freshToken command next
    rw [hrun]
    split
    · next haccepts =>
      obtain ⟨hstored, hmoved⟩ := @setPlaylistIndex_moves before clientId session hbefore command
        haccepts
      exact ⟨by rw [hstored], hmoved⟩
    · next hrefuses => exact setPlaylistIndex_refuses command (Bool.eq_false_iff.mpr hrefuses)
  · intro clock clientId freshToken session files next hsession before t
    have hbefore : Seats before := h.seats.quiet (quiet_clock s clock)
    have hheld : before.sessions[clientId]? = some session := hsession
    have hrun : t = after (setPlaylistChange clientId session files next) before :=
      after_playlistChange hheld freshToken files next
    rw [hrun]
    split
    · next haccepts => exact setPlaylistChange_moves hbefore files next haccepts
    · next hrefuses => exact setPlaylistChange_refuses files next (Bool.eq_false_iff.mpr hrefuses)
  · intro t hrun room
    obtain ⟨newer, hhistory, hcounted⟩ := counted_of_steps (h.ideal_steps hrun) room
    refine ⟨newer, hhistory, fun hkept => ?_⟩
    have hroom := hcounted hkept
    exact ⟨hroom.epoch, hroom.unchanged, count_guard_le_one hroom.orderly⟩

theorem selectedFilm_reachable : Reachable selectedFilm := by
  have ⟨_, ⟨hempty, hjoined, hdirected, hlisted, _⟩, _⟩ := history_readings
  have hstudio : Relation.ReflTransGen Step emptyServer directedStudio :=
    .tail (.single (.act _ _ {} hempty)) (.act _ _ {} hjoined)
  exact ⟨emptyServer, emptyServer_initial,
    .tail (hstudio.tail (.act _ _ {} hdirected)) (.act _ _ {} hlisted)⟩

/-- alice moves on from the film, and her second request for it changes nothing. -/
theorem playlist_advances_once_sequel :
    PlaylistMoved selectedFilm (aliceMovesOn.next {} selectedFilm) studio
        (selectedFilm.roomPlaylistState studio).files (some (0, 2))
      ∧ PlaylistRefused { aliceMovesOn.next {} selectedFilm with clock := {} } selectedSequel
      ∧ ∀ newer, selectedSequel.history = newer ++ selectedFilm.history →
        .roomDiscarded studio ∉ newer →
        (mutations studio newer).countP (fun m => m.2 = some (0, 2)) ≤ 1 := by
  have ⟨_, ⟨_, _, _, _, hselected, hmoved⟩, _⟩ := history_readings
  have haccepts : selectedFilm.sessions["c1"]?.map (fun session => (session.room,
      ({ selectedFilm with clock := {} }.ensureRoomState session.room).acceptsPlaylistIndex session
        { index := some 1, precondition := .expected 0 2 })) = some (studio, true) := by
    decide +kernel
  have hrefuses : (aliceMovesOn.next {} selectedFilm).sessions["c1"]?.map (fun session =>
      ({ aliceMovesOn.next {} selectedFilm with clock := {} }.ensureRoomState
        session.room).acceptsPlaylistIndex session
          { index := some 1, precondition := .expected 0 2 }) = some false := by
    decide +kernel
  obtain ⟨session, hsession, haccepts⟩ := Option.map_eq_some_iff.mp haccepts
  obtain ⟨later, hlater, hrefuses⟩ := Option.map_eq_some_iff.mp hrefuses
  obtain ⟨hroom, haccepts⟩ := Prod.mk.inj haccepts
  have hreached : Reachable (aliceMovesOn.next {} selectedFilm) :=
    selectedFilm_reachable.run (.single (.act _ aliceMovesOn {} hselected))
  have hfirst := (playlist_advances_once selectedFilm_reachable).1 {} "c1" "" session
    { index := some 1, precondition := .expected 0 2 } none hsession
  have hsecond := (playlist_advances_once hreached).1 {} "c1" "" later
    { index := some 1, precondition := .expected 0 2 } none hlater
  dsimp only at hfirst hsecond
  rw [if_pos haccepts, hroom] at hfirst
  rw [if_neg (by rw [hrefuses]; decide)] at hsecond
  refine ⟨⟨hfirst.2.files, hfirst.2.epoch, hfirst.2.recorded⟩, hsecond, ?_⟩
  intro newer hhistory hkept
  have hrun : Relation.ReflTransGen Step selectedFilm selectedSequel :=
    .tail (.single (.act _ aliceMovesOn {} hselected)) (.act _ aliceMovesOn {} hmoved)
  obtain ⟨newer', hhistory', hcounted⟩ :=
    (playlist_advances_once selectedFilm_reachable).2.2 selectedSequel hrun studio
  have hsame : newer = newer' := by
    rw [hhistory] at hhistory'
    exact List.append_cancel_right hhistory'
  rw [hsame]
  exact (hcounted (hsame ▸ hkept)).2.2 0 2

end Sorotte.Server
