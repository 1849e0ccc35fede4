import Sorotte.Membership.Moves

/-! # Seating and unseating

  The moves that add a seat, take one away, or write projections back: what
  they leave of seats.
-/

namespace Sorotte.Server

open Sorotte.Framework Sorotte.Framework.Prog

variable {stale : String → String → Prop} {excused : String → Prop} {s s' : ServerRuntime}

/-! ### Projections -/

theorem Members.project (h : Members stale excused s) {room username : String}
    (hflag : (s.rosterFlag room username).isSome = true) :
    Members (fun a b => stale a b ∧ ¬ (a = room ∧ b = username)) excused
      (s.projectReady room username) := by
  have hflags : ∀ a b, (s.projectReady room username).rosterFlag a b =
      if a = room ∧ b = username then
        some (some ((s.readinessRecord room username).any (·.roomReady)))
      else s.rosterFlag a b := fun a b => flagIn_joinRoomWithReady s.roomRoster username room _ a b
  refine ⟨h.enabled, h.seated, h.derived, fun a b p hp hstale => ?_, h.named, fun a b => ?_⟩
  · have hp' : s.readinessParticipant a b = some p := hp
    rw [storedUserReady_eq, hflags]
    by_cases hab : a = room ∧ b = username
    · obtain ⟨rfl, rfl⟩ := hab
      rw [if_pos ⟨rfl, rfl⟩, ServerRuntime.readinessRecord, hp']
      rfl
    · rw [if_neg hab, ← storedUserReady_eq]
      exact h.projected a b p hp' fun hs => hstale ⟨hs, hab⟩
  · rw [hflags]
    by_cases hab : a = room ∧ b = username
    · obtain ⟨rfl, rfl⟩ := hab
      rw [if_pos ⟨rfl, rfl⟩]
      exact ⟨fun _ => (h.rostered a b).mp hflag, fun _ => rfl⟩
    · rw [if_neg hab]
      exact h.rostered a b

theorem SeatsKept.refl (s : ServerRuntime) : SeatsKept s s :=
  ⟨rfl, rfl, fun _ k hk => ⟨k, hk⟩, fun _ _ p hp => ⟨p, hp, rfl⟩⟩

theorem SeatsKept.trans {t : ServerRuntime} (h : SeatsKept s t) (h' : SeatsKept t s') :
    SeatsKept s s' where
  sessions := h'.sessions.trans h.sessions
  enabled := h'.enabled.trans h.enabled
  rooms room k' hk' := by
    obtain ⟨k, hk⟩ := h'.rooms room k' hk'
    exact h.rooms room k hk
  seats room username p' hp' := by
    obtain ⟨p, hp, hclient⟩ := h'.seats room username p' hp'
    obtain ⟨p₀, hp₀, hclient₀⟩ := h.seats room username p hp
    exact ⟨p₀, hp₀, hclient.trans hclient₀⟩

/-- What a run of projections leaves besides the roster. -/
structure OnlyRoster (s s' : ServerRuntime) : Prop where
  readiness : s'.roomReadiness = s.roomReadiness
  sessions : s'.sessions = s.sessions
  enabled : s'.readinessEnabled = s.readinessEnabled
  scopes : s'.roomParticipantStatusScopes = s.roomParticipantStatusScopes
  states : s'.clientPlaybackStates = s.clientPlaybackStates
  sampleRooms : s'.sampleRooms = s.sampleRooms
  history : s'.history = s.history

theorem onlyRoster_projectAll (room : String) (usernames : List String) :
    ∀ s, OnlyRoster s (s.projectAll room usernames) := by
  induction usernames with
  | nil => exact fun s => ⟨rfl, rfl, rfl, rfl, rfl, rfl, rfl⟩
  | cons username usernames ih =>
    intro s
    obtain ⟨h₁, h₂, h₃, h₄, h₅, h₆, h₇⟩ := ih (s.projectReady room username)
    exact ⟨h₁, h₂, h₃, h₄, h₅, h₆, h₇⟩

theorem OnlyRoster.seatsKept (h : OnlyRoster s s') : SeatsKept s s' where
  sessions := h.sessions
  enabled := h.enabled
  rooms room k' hk' := ⟨k', by rw [← h.readiness, hk']⟩
  seats room username p' hp' := by
    refine ⟨p', ?_, rfl⟩
    unfold ServerRuntime.readinessParticipant at hp' ⊢
    rwa [h.readiness] at hp'

theorem Members.projectAll {room : String} {usernames : List String}
    (h : Members stale excused s)
    (hflags : ∀ username ∈ usernames, (s.rosterFlag room username).isSome = true) :
    Members (fun a b => stale a b ∧ ¬ (a = room ∧ b ∈ usernames)) excused
      (s.projectAll room usernames) := by
  induction usernames generalizing s stale with
  | nil => exact h.weaken fun _ _ _ _ hs => ⟨hs, fun hb => by simpa using hb.2⟩
  | cons username usernames ih =>
    have hfirst := h.project (hflags username (by simp))
    have hrest := ih hfirst fun other hother =>
      (hfirst.rostered room other).mpr <| (h.rostered room other).mp <|
        hflags other (List.mem_cons_of_mem _ hother)
    refine hrest.weaken fun a b p _ hs => ⟨hs.1.1, fun hb => ?_⟩
    rcases List.mem_cons.mp hb.2 with rfl | hmem
    · exact hs.1.2 ⟨hb.1, rfl⟩
    · exact hs.2 ⟨hb.1, hmem⟩

/-- Whoever has a seat in the room is one of its members. -/
theorem mem_members {room username : String} {p : ServerReadinessParticipant}
    (hp : s.readinessParticipant room username = some p) : username ∈ s.members room := by
  unfold ServerRuntime.readinessParticipant at hp
  unfold ServerRuntime.members
  cases hk : s.roomReadiness[room]? with
  | none => rw [hk] at hp; cases hp
  | some k =>
    rw [hk] at hp
    show username ∈ k.participants.keys
    rw [Std.ExtTreeMap.mem_keys, Std.ExtTreeMap.mem_iff_isSome_getElem?]
    exact Option.isSome_iff_exists.mpr ⟨p, hp⟩

theorem exists_of_mem_members {room username : String} (h : username ∈ s.members room) :
    ∃ p, s.readinessParticipant room username = some p := by
  unfold ServerRuntime.members at h
  unfold ServerRuntime.readinessParticipant
  cases hk : s.roomReadiness[room]? with
  | none => rw [hk] at h; simp at h
  | some k =>
    rw [hk] at h
    have hmem : username ∈ k.participants := Std.ExtTreeMap.mem_keys.mp h
    rw [Std.ExtTreeMap.mem_iff_isSome_getElem?] at hmem
    obtain ⟨p, hp⟩ := Option.isSome_iff_exists.mp hmem
    exact ⟨p, hp⟩

/-- Writing every member's projection back settles what the room owed. -/
theorem Members.settle {room : String} {owed : String → Prop}
    (h : Members (fun a b => stale a b ∨ (a = room ∧ owed b)) excused s) :
    Members stale excused (s.projectAll room (s.members room)) := by
  have hprojected := @Members.projectAll _ _ _ _ (s.members room) h fun username hmem => by
    obtain ⟨p, hp⟩ := exists_of_mem_members hmem
    exact h.flag hp
  refine hprojected.weaken fun a b p hp hs => ?_
  rcases hs.1 with hstale | ⟨rfl, -⟩
  · exact hstale
  · have hp' : s.readinessParticipant a b = some p := by
      unfold ServerRuntime.readinessParticipant at hp ⊢
      rwa [(onlyRoster_projectAll a (s.members a) s).readiness] at hp
    exact absurd ⟨rfl, mem_members hp'⟩ hs.2

/-! ### Reconciled cohorts -/

/-- Reconciling a cohort edits one coordinator, if the room has one. -/
theorem editsCoordinator_reconcile {room : String} {k : RoomReadinessCoordinator}
    (henabled : s.readinessEnabled = true) (hk : s.roomReadiness[room]? = some k) :
    EditsCoordinator room (fun _ => s.reconciledCoordinator room k) s
      (s.reconcileMixedReadinessCohortState room) := by
  have hstate : s.reconcileMixedReadinessCohortState room = { s with
      roomReadiness := s.roomReadiness.insert room (s.reconciledCoordinator room k)
      roomPlaybackBarriers := s.roomPlaybackBarriers.modify room
        (s.reconciledBarrier room
          (ServerRuntime.requiredClients (s.reconciledCoordinator room k))) } := by
    unfold ServerRuntime.reconcileMixedReadinessCohortState
    rw [henabled, hk]
    rfl
  rw [hstate]
  refine ⟨fun a => ?_, rfl, rfl, rfl⟩
  show (s.roomReadiness.insert room (s.reconciledCoordinator room k))[a]? = _
  rw [Std.ExtTreeMap.getElem?_insert, hk]
  by_cases ha : a = room
  · rw [if_pos (by simp [ha]), if_pos ha]
    rfl
  · rw [if_neg (by simpa using Ne.symm ha), if_neg ha]

theorem reconcile_eq_self {room : String}
    (h : s.readinessEnabled = false ∨ s.roomReadiness[room]? = none) :
    s.reconcileMixedReadinessCohortState room = s := by
  unfold ServerRuntime.reconcileMixedReadinessCohortState
  rcases h with henabled | hk
  · rw [henabled]
    rfl
  · rw [hk]
    split <;> rfl

/-- Reconciling a cohort leaves everything but the coordinator and the barrier
    of the room alone. -/
theorem reconcile_frame (s : ServerRuntime) (room : String) :
    (s.reconcileMixedReadinessCohortState room).roomParticipantStatusScopes
        = s.roomParticipantStatusScopes
      ∧ (s.reconcileMixedReadinessCohortState room).clientPlaybackStates = s.clientPlaybackStates
      ∧ (s.reconcileMixedReadinessCohortState room).sampleRooms = s.sampleRooms
      ∧ (s.reconcileMixedReadinessCohortState room).sessions = s.sessions
      ∧ (s.reconcileMixedReadinessCohortState room).history = s.history := by
  unfold ServerRuntime.reconcileMixedReadinessCohortState
  split
  · exact ⟨rfl, rfl, rfl, rfl, rfl⟩
  · split <;> exact ⟨rfl, rfl, rfl, rfl, rfl⟩

/-- What a reconciliation is for memberships: an edit that keeps records, or
    nothing. -/
theorem reconcile_cases (s : ServerRuntime) (room : String) :
    s.reconcileMixedReadinessCohortState room = s ∨
    ∃ k, s.roomReadiness[room]? = some k
      ∧ EditsCoordinator room (fun _ => s.reconciledCoordinator room k) s
        (s.reconcileMixedReadinessCohortState room) := by
  by_cases henabled : s.readinessEnabled = true
  · cases hk : s.roomReadiness[room]? with
    | none => exact .inl (reconcile_eq_self (.inr hk))
    | some k => exact .inr ⟨k, rfl, editsCoordinator_reconcile henabled hk⟩
  · exact .inl (reconcile_eq_self (.inl (by simpa using henabled)))

theorem editsSeats_of_reconcile {room : String} {k : RoomReadinessCoordinator}
    (hk : s.roomReadiness[room]? = some k) :
    ∀ k₀, s.roomReadiness[room]? = some k₀ →
      EditsSeats (fun _ => False) k₀ (s.reconciledCoordinator room k) := by
  intro k₀ hk₀
  rw [hk] at hk₀
  cases hk₀
  exact editsSeats_reconciled s room k

theorem seatsKept_reconcile (s : ServerRuntime) (room : String) :
    SeatsKept s (s.reconcileMixedReadinessCohortState room) := by
  rcases reconcile_cases s room with hself | ⟨k, hk, hedits⟩
  · rw [hself]
    exact .refl s
  · exact hedits.seatsKept (editsSeats_of_reconcile hk)

theorem Members.reconcile (h : Members stale excused s) (room : String) :
    Members stale excused (s.reconcileMixedReadinessCohortState room) := by
  rcases reconcile_cases s room with hself | ⟨k, hk, hedits⟩
  · rw [hself]
    exact h
  · exact hedits.seats (editsSeats_of_reconcile hk) h

end Sorotte.Server
