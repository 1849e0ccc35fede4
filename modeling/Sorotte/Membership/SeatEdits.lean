import Sorotte.Membership.Members

/-! # Edits of a coordinator

  The updates that change what a coordinator knows about its members, all but
  the one that adds a member.  Each is an edit of one coordinator that keeps
  the clients of the seats that stay.
-/

namespace Sorotte.Server

open Sorotte.Framework Sorotte.Framework.Prog

/-- `s'` differs from `s` in the coordinator of `room`, by `f`, and in nothing
    else that has a part in memberships. -/
structure EditsCoordinator (room : String)
    (f : RoomReadinessCoordinator → RoomReadinessCoordinator) (s s' : ServerRuntime) : Prop where
  lookup : ∀ a : String, s'.roomReadiness[a]? =
    if a = room then s.roomReadiness[room]?.map f else s.roomReadiness[a]?
  sessions : s'.sessions = s.sessions
  roster : s'.roomRoster = s.roomRoster
  enabled : s'.readinessEnabled = s.readinessEnabled

/-- How one coordinator's seats are edited: under the same client, with derived
    flags, and with the projection the roster shows unless it is `stale`. -/
def EditsSeats (stale : String → Prop) (k k' : RoomReadinessCoordinator) : Prop :=
  ∀ (username : String) p', k'.participants[username]? = some p' →
    ∃ p, k.participants[username]? = some p ∧ p'.clientId = p.clientId
      ∧ (FlagsDerived k.mediaGeneration p.record → FlagsDerived k'.mediaGeneration p'.record
        ∧ (¬ stale username → p'.record.roomReady = p.record.roomReady))

variable {room : String} {f : RoomReadinessCoordinator → RoomReadinessCoordinator}
  {s s' : ServerRuntime}

theorem editsCoordinator_updateReadiness (s : ServerRuntime) (room : String)
    (f : RoomReadinessCoordinator → RoomReadinessCoordinator) :
    EditsCoordinator room f s (s.updateReadiness room f) := by
  refine ⟨fun a => ?_, rfl, rfl, rfl⟩
  show (s.roomReadiness.modify room f)[a]? = _
  rw [Std.ExtTreeMap.getElem?_modify]
  by_cases ha : a = room
  · rw [if_pos (by simp [ha]), if_pos ha]
  · rw [if_neg (by simpa using Ne.symm ha), if_neg ha]

namespace EditsCoordinator

theorem participant (h : EditsCoordinator room f s s') (a b : String) :
    s'.readinessParticipant a b = if a = room then
      s.roomReadiness[room]?.bind fun k => (f k).participants[b]?
    else s.readinessParticipant a b := by
  unfold ServerRuntime.readinessParticipant
  rw [h.lookup]
  by_cases ha : a = room
  · rw [if_pos ha, if_pos ha, Option.bind_map]
    rfl
  · rw [if_neg ha, if_neg ha]

theorem generation (h : EditsCoordinator room f s s') (a : String) :
    s'.readinessMediaGeneration a = if a = room then
      s.roomReadiness[room]?.bind fun k => (f k).mediaGeneration
    else s.readinessMediaGeneration a := by
  unfold ServerRuntime.readinessMediaGeneration
  rw [h.lookup]
  by_cases ha : a = room
  · rw [if_pos ha, if_pos ha, Option.bind_map]
    rfl
  · rw [if_neg ha, if_neg ha]

/-- The seat that an edited seat comes from. -/
theorem seat_before {stale : String → Prop} (h : EditsCoordinator room f s s')
    (hf : ∀ k, s.roomReadiness[room]? = some k → EditsSeats stale k (f k)) {a b : String}
    {p' : ServerReadinessParticipant} (hp' : s'.readinessParticipant a b = some p') :
    ∃ p, s.readinessParticipant a b = some p ∧ p'.clientId = p.clientId
      ∧ (FlagsDerived (s.readinessMediaGeneration a) p.record →
        FlagsDerived (s'.readinessMediaGeneration a) p'.record
        ∧ (¬ (a = room ∧ stale b) → p'.record.roomReady = p.record.roomReady)) := by
  rw [h.participant] at hp'
  rw [h.generation]
  by_cases ha : a = room
  · subst ha
    rw [if_pos rfl] at hp' ⊢
    cases hk : s.roomReadiness[a]? with
    | none => rw [hk] at hp'; cases hp'
    | some k =>
      rw [hk] at hp'
      obtain ⟨p, hp, hclient, hflags⟩ := hf k hk b p' hp'
      refine ⟨p, ?_, hclient, ?_⟩
      · unfold ServerRuntime.readinessParticipant
        rw [hk]
        exact hp
      · unfold ServerRuntime.readinessMediaGeneration
        rw [hk]
        intro hderived
        obtain ⟨hderived', hready⟩ := hflags hderived
        exact ⟨hderived', fun hstale => hready fun hb => hstale ⟨rfl, hb⟩⟩
  · rw [if_neg ha] at hp' ⊢
    exact ⟨p', hp', rfl, fun hderived => ⟨hderived, fun _ => rfl⟩⟩

theorem seatsKept {stale : String → Prop} (h : EditsCoordinator room f s s')
    (hf : ∀ k, s.roomReadiness[room]? = some k → EditsSeats stale k (f k)) : SeatsKept s s' where
  sessions := h.sessions
  enabled := h.enabled
  rooms a k' hk' := by
    rw [h.lookup] at hk'
    by_cases ha : a = room
    · rw [if_pos ha] at hk'
      obtain ⟨k, hk, -⟩ := Option.map_eq_some_iff.mp hk'
      exact ⟨k, ha ▸ hk⟩
    · rw [if_neg ha] at hk'
      exact ⟨k', hk'⟩
  seats a b p' hp' := by
    obtain ⟨p, hp, hclient, -⟩ := h.seat_before hf hp'
    exact ⟨p, hp, hclient⟩

theorem members {stale : String → String → Prop} {excused : String → Prop}
    {stale' : String → Prop} (h : EditsCoordinator room f s s')
    (hf : ∀ k, s.roomReadiness[room]? = some k → EditsSeats stale' k (f k))
    (hs : Members stale excused s) :
    Members (fun a b => stale a b ∨ (a = room ∧ stale' b)) excused s' := by
  refine hs.edit (h.seatsKept hf) h.roster (fun a b p p' hp hp' => ?_) fun a b p p' hp hp' hstale => ?_
  · obtain ⟨p₀, hp₀, -, hflags⟩ := h.seat_before hf hp'
    exact (hflags (hs.derived a b p₀ hp₀)).1
  · obtain ⟨p₀, hp₀, -, hflags⟩ := h.seat_before hf hp'
    have hready := (hflags (hs.derived a b p₀ hp₀)).2 fun hb => hstale (.inr hb)
    rw [hp₀] at hp
    cases hp
    exact ⟨hready, fun hb => hstale (.inl hb)⟩

theorem seats (h : EditsCoordinator room f s s')
    (hf : ∀ k, s.roomReadiness[room]? = some k → EditsSeats (fun _ => False) k (f k))
    {stale : String → String → Prop} {excused : String → Prop} (hs : Members stale excused s) :
    Members stale excused s' :=
  (h.members hf hs).weaken fun _ _ _ _ hstale => hstale.resolve_right And.right

end EditsCoordinator

/-! ### The edits -/

/-- An edit of one seat. -/
theorem editsSeats_modify {k k' : RoomReadinessCoordinator} (username : String)
    {g : ServerReadinessParticipant → ServerReadinessParticipant} (stale : String → Prop)
    (hparticipants : k'.participants = k.participants.modify username g)
    (hgeneration : k'.mediaGeneration = k.mediaGeneration)
    (hg : ∀ p, (g p).clientId = p.clientId
      ∧ (FlagsDerived k.mediaGeneration p.record → FlagsDerived k.mediaGeneration (g p).record
        ∧ (¬ stale username → (g p).record.roomReady = p.record.roomReady))) :
    EditsSeats stale k k' := by
  intro a p' hp'
  rw [hparticipants, Std.ExtTreeMap.getElem?_modify] at hp'
  rw [hgeneration]
  by_cases ha : compare username a = .eq
  · rw [if_pos ha] at hp'
    cases Std.LawfulEqOrd.eq_of_compare ha
    obtain ⟨p, hp, rfl⟩ := Option.map_eq_some_iff.mp hp'
    exact ⟨p, hp, hg p⟩
  · rw [if_neg ha] at hp'
    exact ⟨p', hp', rfl, fun hderived => ⟨hderived, fun _ => rfl⟩⟩

/-- Recomputed roles: neither the intent nor the block changes. -/
theorem editsSeats_reconciled (s : ServerRuntime) (room : String)
    (k : RoomReadinessCoordinator) :
    EditsSeats (fun _ => False) k (s.reconciledCoordinator room k) := by
  intro username p' hp'
  have hmapped := hp'
  unfold ServerRuntime.reconciledCoordinator at hmapped
  rw [Std.ExtTreeMap.getElem?_map] at hmapped
  obtain ⟨p, hp, rfl⟩ := Option.map_eq_some_iff.mp hmapped
  refine ⟨p, hp, ?_⟩
  dsimp only
  split
  · exact ⟨rfl, fun hderived => ⟨hderived, fun _ => rfl⟩⟩
  · refine ⟨rfl, fun hderived => ⟨flagsDerived_recompute hderived.current, fun _ => ?_⟩⟩
    exact hderived.ready.symm

/-- A new generation restarts the technical state of every seat. -/
theorem editsSeats_replaced (k : RoomReadinessCoordinator) (generation : Option Nat)
    (ownsStartPause : Bool) :
    EditsSeats (fun _ => True) k (ServerRuntime.replacedGeneration k generation ownsStartPause) := by
  intro username p' hp'
  have hmapped := hp'
  unfold ServerRuntime.replacedGeneration at hmapped
  rw [Std.ExtTreeMap.getElem?_map] at hmapped
  obtain ⟨p, hp, rfl⟩ := Option.map_eq_some_iff.mp hmapped
  refine ⟨p, hp, rfl, fun _ => ⟨flagsDerived_recompute fun playable hplayable => ?_,
    fun hstale => absurd trivial hstale⟩⟩
  exact absurd hplayable (initialTechnicalState_not_playable generation playable)

/-- A departure leaves the other seats alone. -/
theorem editsSeats_erase (k : RoomReadinessCoordinator) (username : String) :
    EditsSeats (fun _ => False) k
      { k with participants := k.participants.erase username, revision := k.revision + 1 } := by
  intro a p' hp'
  have herased : (k.participants.erase username)[a]? = some p' := hp'
  rw [Std.ExtTreeMap.getElem?_erase] at herased
  split at herased
  · cases herased
  · exact ⟨p', herased, rfl, fun hderived => ⟨hderived, fun _ => rfl⟩⟩

theorem editsSeats_mutated (k : RoomReadinessCoordinator) (username : String)
    (desired : UserReadinessIntent) (source : ReadinessMutationSource) (actor : String)
    (operationId : Option String) :
    EditsSeats (· = username) k
      { k with
        revision := k.revision + 1
        participants := k.participants.modify username fun participant =>
          { participant with
            record := ServerRuntime.mutatedRecord participant.record desired
              { source, actor := some actor, operationId
                roomReadinessRevision := k.revision + 1 } k.mediaGeneration } } :=
  editsSeats_modify username _ rfl rfl fun _ =>
    ⟨rfl, fun hderived => ⟨flagsDerived_recompute hderived.current,
      fun hstale => absurd rfl hstale⟩⟩

/-- A report is only recorded for the generation the coordinator is at. -/
theorem editsSeats_reported {k : RoomReadinessCoordinator} (username : String)
    (report : TechnicalReadinessReport) {generation : Nat}
    (hgeneration : k.mediaGeneration = some generation) :
    EditsSeats (· = username) k
      { k with
        revision := k.revision + 1
        participants := k.participants.modify username fun participant =>
          reportedParticipant participant report generation } := by
  refine editsSeats_modify username _ rfl rfl fun p => ⟨rfl, fun _ => ⟨?_,
    fun hstale => absurd rfl hstale⟩⟩
  rw [hgeneration]
  refine flagsDerived_recompute fun playable hplayable => ?_
  have hstate : reportedTechnicalState report generation = .playable playable := hplayable
  unfold reportedTechnicalState at hstate
  split at hstate
  case h_3 => exact congrArg some (TechnicalPlayability.playable.inj hstate)
  all_goals cases hstate

end Sorotte.Server
