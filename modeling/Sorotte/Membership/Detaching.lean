import Sorotte.Membership.Attaching

/-! # Detaching

  A seat that is taken away goes to the reconnect cache under the client's own
  token.  The other seats stay, and the client has no seat left.
-/

namespace Sorotte.Server

open Sorotte.Framework Sorotte.Framework.Prog

variable {stale : String → String → Prop} {excused : String → Prop} {s s' : ServerRuntime}

/-! ### Tokens -/

theorem prune_onlyTokens (s : ServerRuntime) : OnlyTokens s s.pruneReadinessReconnectCache :=
  ⟨rfl, rfl, rfl, rfl, rfl, rfl, rfl, rfl⟩

theorem retain_onlyTokens (s : ServerRuntime) (session : ServerSession)
    (participant : ServerReadinessParticipant) (roomRevision : Nat) (token : String) :
    OnlyTokens s (s.retainForReconnect session participant roomRevision token) := by
  unfold ServerRuntime.retainForReconnect ServerRuntime.pruneReadinessReconnectCache
  exact ⟨rfl, rfl, rfl, rfl, rfl, rfl, rfl, rfl⟩

/-! ### Removing a seat -/

/-- A removed seat, and what remains. -/
structure SeatRemoved (room username : String) (s s' : ServerRuntime) : Prop where
  kept : SeatsKept s s'
  gone : s'.readinessParticipant room username = none
  roster : s'.roomRoster = s.roomRoster
  scopes : s'.roomParticipantStatusScopes = s.roomParticipantStatusScopes
  states : s'.clientPlaybackStates = s.clientPlaybackStates
  sampleRooms : s'.sampleRooms = s.sampleRooms
  history : s'.history = s.history

theorem refreshGate_frame (s : ServerRuntime) (room : String) :
    ∀ username, (s.refreshReadinessGatePhase room).readinessParticipant room username =
      s.readinessParticipant room username :=
  fun username => (s.quiet_refreshReadinessGatePhase room).same.participant room username

theorem removeParticipant_removed (s : ServerRuntime) (room username : String) :
    SeatRemoved room username s (s.removeParticipant room username) := by
  unfold ServerRuntime.removeParticipant
  set edited := s.updateReadiness room fun k =>
    { k with participants := k.participants.erase username, revision := k.revision + 1 }
  have hedits : EditsCoordinator room _ s edited := editsCoordinator_updateReadiness s room _
  have hquiet := edited.quiet_refreshReadinessGatePhase room
  refine ⟨(hedits.seatsKept fun k _ => editsSeats_erase k username).trans
    hquiet.same.seatsKept, ?_, rfl, rfl, rfl, rfl, rfl⟩
  rw [refreshGate_frame, hedits.participant, if_pos rfl]
  cases s.roomReadiness[room]? with
  | none => rfl
  | some k => exact Std.ExtTreeMap.getElem?_erase_self

theorem Members.removeParticipant (h : Members stale excused s) (room username : String) :
    Members stale excused (s.removeParticipant room username) := by
  unfold ServerRuntime.removeParticipant
  have hedits := editsCoordinator_updateReadiness s room fun k =>
    { k with participants := k.participants.erase username, revision := k.revision + 1 }
  exact (hedits.seats (fun k _ => editsSeats_erase k username) h).quiet
    (ServerRuntime.quiet_refreshReadinessGatePhase _ room)

/-! ### Detaching -/

theorem detachSeat_detached (s : ServerRuntime) (clientId : String) (session : ServerSession)
    (participant : ServerReadinessParticipant) (retain : Bool) :
    SeatRemoved session.room session.username s
      (s.detachSeat clientId session participant retain) := by
  have hremoved := removeParticipant_removed s session.room session.username
  unfold ServerRuntime.detachSeat
  extract_lets roomRevision removed
  split
  · next token htoken =>
    have htokens := retain_onlyTokens removed session participant roomRevision token
    refine ⟨hremoved.kept.trans htokens.seatsKept, ?_, hremoved.roster, hremoved.scopes,
      hremoved.states, hremoved.sampleRooms, hremoved.history⟩
    rw [htokens.participant]
    exact hremoved.gone
  · exact hremoved

theorem detachSeat_members (h : Members stale excused s) (clientId : String)
    (session : ServerSession) (participant : ServerReadinessParticipant) (retain : Bool) :
    Members stale excused (s.detachSeat clientId session participant retain) := by
  unfold ServerRuntime.detachSeat
  extract_lets roomRevision removed
  have hremoved : Members stale excused removed := h.removeParticipant _ _
  split
  · exact hremoved.tokens (retain_onlyTokens removed session participant _ _)
  · exact hremoved

/-- A client has one seat, so a detached client has none. -/
theorem SeatRemoved.unattached {clientId : String} {session : ServerSession}
    (hs : Members stale excused s) (h : SeatRemoved session.room session.username s s')
    (hsession : s.sessions[clientId]? = some session) : Unattached clientId s' := by
  intro room username p' hp' hclient
  obtain ⟨p, hp, hclient'⟩ := h.kept.seats room username p' hp'
  obtain ⟨session', hsession', rfl, rfl, -⟩ := hs.seated room username p hp
  rw [← hclient', hclient, hsession] at hsession'
  cases hsession'
  rw [h.gone] at hp'
  cases hp'

end Sorotte.Server
