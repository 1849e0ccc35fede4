import Sorotte.Membership.Walks

/-! # Names

  A session takes the name it asked for or a suffixed one, and keeps it.  Names
  are told apart up to ASCII case, while the maps that are keyed by them compare
  exactly.
-/

namespace Sorotte.Server

open Sorotte.Framework Sorotte.Framework.Prog

variable {s s' : ServerRuntime}

/-! ### Looking for a free name -/

/-- The lower-case names of the sessions other than the excluded one. -/
def ServerRuntime.takenNames (s : ServerRuntime) (excludedClientId : Option String) :
    List (List Char) :=
  (s.sessions.toList.filter fun entry => excludedClientId.all (entry.1 != ·)).map
    fun entry => asciiLowercase entry.2.username

/-- What a colliding name is suffixed to. -/
def collisionStem (username : String) : List Char :=
  let trimmed := (username.toList.reverse.dropWhile (· == '_')).reverse
  if username.toList.getLast? = some '_' then
    (if trimmed.isEmpty then ['_'] else trimmed)
  else username.toList

/-- A stem cut so that it fits with its underscores. -/
def suffixedName (stem : List Char) (maxLength suffixChars : Nat) : String :=
  String.ofList (stem.take (maxLength - suffixChars) ++ List.replicate suffixChars '_')

/-- The names a colliding one falls back to, in order. -/
def ServerRuntime.suffixedCandidates (s : ServerRuntime) (username : String) : List String :=
  (List.range s.maxUsernameLength).map fun i =>
    suffixedName (collisionStem username) s.maxUsernameLength (i + 1)

theorem mem_takenNames {excluded : Option String} {username : String} :
    asciiLowercase username ∈ s.takenNames excluded ↔ s.NameTaken excluded username := by
  unfold ServerRuntime.takenNames ServerRuntime.NameTaken
  rw [List.mem_map]
  constructor
  · rintro ⟨⟨c, session⟩, hmem, hname⟩
    obtain ⟨hheld, hother⟩ := List.mem_filter.mp hmem
    refine ⟨c, session, Std.ExtTreeMap.mem_toList_iff_getElem?_eq_some.mp hheld, ?_, hname⟩
    rintro rfl
    simp at hother
  · rintro ⟨c, session, hsession, hother, hname⟩
    refine ⟨(c, session), List.mem_filter.mpr ⟨?_, ?_⟩, hname⟩
    · exact Std.ExtTreeMap.mem_toList_iff_getElem?_eq_some.mpr hsession
    · cases excluded with
      | none => rfl
      | some held =>
        have hne : c ≠ held := fun heq => hother (by rw [heq])
        simpa using hne

theorem findFreeUsername_eq (s : ServerRuntime) (username : String) (excluded : Option String) :
    s.findFreeUsername username excluded =
      if !(s.takenNames excluded).contains (asciiLowercase username) then some username
      else (s.suffixedCandidates username).find? fun candidate =>
        !(s.takenNames excluded).contains (asciiLowercase candidate) := rfl

/-- A name that was found is free: it is the requested one or a suffixed one. -/
theorem findFreeUsername_some {requested username : String} {excluded : Option String}
    (h : s.findFreeUsername requested excluded = some username) :
    ¬ s.NameTaken excluded username
      ∧ (username = requested ∨ username ∈ s.suffixedCandidates requested) := by
  rw [findFreeUsername_eq] at h
  rw [← mem_takenNames]
  split at h
  · next hfree =>
    cases h
    exact ⟨by simpa using hfree, .inl rfl⟩
  · have hfound := List.find?_some h
    exact ⟨by simpa using hfound, .inr (List.mem_of_find?_eq_some h)⟩

/-- None is found only if the requested name and every suffixed one are taken. -/
theorem findFreeUsername_eq_none_iff {requested : String} {excluded : Option String} :
    s.findFreeUsername requested excluded = none ↔
      s.NameTaken excluded requested
        ∧ ∀ candidate ∈ s.suffixedCandidates requested, s.NameTaken excluded candidate := by
  rw [findFreeUsername_eq]
  have hcontains : ∀ name, (s.takenNames excluded).contains (asciiLowercase name) = true ↔
      s.NameTaken excluded name := by
    intro name
    rw [List.contains_iff_mem, mem_takenNames]
  split
  · next hfree =>
    have hnot : ¬ s.NameTaken excluded requested := by
      rw [← hcontains]
      simpa using hfree
    exact ⟨nofun, fun h => absurd h.1 hnot⟩
  · next hheld =>
    have htaken : s.NameTaken excluded requested := (hcontains requested).mp (by simpa using hheld)
    rw [List.find?_eq_none]
    constructor
    · intro h
      refine ⟨htaken, fun candidate hmem => (hcontains candidate).mp ?_⟩
      simpa using h candidate hmem
    · intro h candidate hmem
      simpa using (hcontains candidate).mpr (h.2 candidate hmem)

theorem suffixedCandidates_length (s : ServerRuntime) (username : String) :
    (s.suffixedCandidates username).length = s.maxUsernameLength := by
  simp [ServerRuntime.suffixedCandidates]

theorem candidate_fits {requested candidate : String}
    (h : candidate ∈ s.suffixedCandidates requested) :
    candidate ≠ "" ∧ candidate.length ≤ s.maxUsernameLength := by
  obtain ⟨i, hi, rfl⟩ := List.mem_map.mp h
  have hi := List.mem_range.mp hi
  have hlength : (suffixedName (collisionStem requested) s.maxUsernameLength (i + 1)).length =
      min (s.maxUsernameLength - (i + 1)) (collisionStem requested).length + (i + 1) := by
    simp [suffixedName]
  constructor
  · intro hempty
    rw [hempty] at hlength
    simp at hlength
  · rw [hlength]
    omega

theorem truncate_length (value : String) (maxChars : Nat) :
    (truncateTextToMaxChars value maxChars).length ≤ maxChars := by
  simp [truncateTextToMaxChars]

/-! ### Moves keep names -/

/-- Sessions have distinct names that fit. -/
structure NamesSound (s : ServerRuntime) : Prop where
  distinct : ∀ (c c' : String) session session', s.sessions[c]? = some session →
    s.sessions[c']? = some session' →
    asciiLowercase session.username = asciiLowercase session'.username → c = c'
  nonempty : ∀ (c : String) session, s.sessions[c]? = some session → session.username ≠ ""
  bounded : ∀ (c : String) session, s.sessions[c]? = some session →
    session.username.length ≤ s.maxUsernameLength

/-- Every session of `s'` was there in `s`, under the same name. -/
structure NamesKept (s s' : ServerRuntime) : Prop where
  limit : s'.maxUsernameLength = s.maxUsernameLength
  held : ∀ (c : String) session', s'.sessions[c]? = some session' →
    ∃ session, s.sessions[c]? = some session ∧ session'.username = session.username

theorem NamesKept.of_eq (hlimit : s'.maxUsernameLength = s.maxUsernameLength)
    (hsessions : s'.sessions = s.sessions) : NamesKept s s' where
  limit := hlimit
  held c session' hsession' := ⟨session', by rw [← hsessions, hsession'], rfl⟩

theorem NamesKept.trans {t : ServerRuntime} (h : NamesKept s t) (h' : NamesKept t s') :
    NamesKept s s' where
  limit := h'.limit.trans h.limit
  held c session' hsession' := by
    obtain ⟨held, hheld, hname⟩ := h'.held c session' hsession'
    obtain ⟨session, hsession, hname'⟩ := h.held c held hheld
    exact ⟨session, hsession, hname.trans hname'⟩

theorem NamesSound.kept (hs : NamesSound s) (h : NamesKept s s') : NamesSound s' where
  distinct c c' session session' hsession hsession' hsame := by
    obtain ⟨before, hbefore, hname⟩ := h.held c session hsession
    obtain ⟨before', hbefore', hname'⟩ := h.held c' session' hsession'
    rw [hname, hname'] at hsame
    exact hs.distinct c c' before before' hbefore hbefore' hsame
  nonempty c session hsession := by
    obtain ⟨before, hbefore, hname⟩ := h.held c session hsession
    rw [hname]
    exact hs.nonempty c before hbefore
  bounded c session hsession := by
    obtain ⟨before, hbefore, hname⟩ := h.held c session hsession
    rw [hname, h.limit]
    exact hs.bounded c before hbefore

theorem projectAll_nameLimit (room : String) (usernames : List String) :
    ∀ s : ServerRuntime, (s.projectAll room usernames).maxUsernameLength = s.maxUsernameLength := by
  induction usernames with
  | nil => intro s; rfl
  | cons username rest ih => intro s; exact ih (s.projectReady room username)

theorem reconcile_nameLimit (s : ServerRuntime) (room : String) :
    (s.reconcileMixedReadinessCohortState room).maxUsernameLength = s.maxUsernameLength := by
  unfold ServerRuntime.reconcileMixedReadinessCohortState
  repeat' split
  all_goals rfl

theorem replaceGeneration_nameLimit (s : ServerRuntime) (room : String) (generation : Option Nat)
    (ownsStartPause : Bool) :
    (s.replaceReadinessGeneration room generation ownsStartPause).maxUsernameLength =
      s.maxUsernameLength := by
  unfold ServerRuntime.replaceReadinessGeneration
  extract_lets cleared
  have hcleared := (s.quiet_clearPendingUserTransportInRoom room).same.nameLimit
  split
  · exact hcleared
  · refine Eq.trans ?_ hcleared
    exact (cleared.updateReadiness room fun k =>
      ServerRuntime.replacedGeneration k generation ownsStartPause
      ).quiet_refreshReadinessGatePhase room |>.same.nameLimit

theorem bindReconnectIdentity_nameLimit (s : ServerRuntime) (clientId : String)
    (session : ServerSession) (presentedToken : Option String) (freshToken : String) :
    (s.bindReconnectIdentity clientId session presentedToken freshToken).maxUsernameLength =
      s.maxUsernameLength := by
  unfold ServerRuntime.bindReconnectIdentity
  split <;> rfl

theorem attachMembership_nameLimit (s : ServerRuntime) (clientId : String)
    (session : ServerSession) (restored : Option DetachedReadinessMembership) (seed : Bool) :
    (s.attachMembership clientId session restored seed).maxUsernameLength =
      s.maxUsernameLength := by
  unfold ServerRuntime.attachMembership
  set joined := s.joinedMembership clientId session restored seed
  have hjoined : joined.maxUsernameLength = s.maxUsernameLength := by
    cases restored <;> rfl
  set reconciled := joined.reconcileMixedReadinessCohortState session.room
  set claimed := reconciled.claimPauseForActiveStart session.room
  have hreconciled : reconciled.maxUsernameLength = joined.maxUsernameLength :=
    reconcile_nameLimit joined session.room
  have hclaimed : claimed.maxUsernameLength = reconciled.maxUsernameLength :=
    (reconciled.quiet_claimPauseForActiveStart session.room).same.nameLimit
  rw [(claimed.quiet_refreshReadinessGatePhase session.room).same.nameLimit, hclaimed,
    hreconciled, hjoined]

theorem removeParticipant_nameLimit (s : ServerRuntime) (room username : String) :
    (s.removeParticipant room username).maxUsernameLength = s.maxUsernameLength := by
  have hrefreshed := (s.updateReadiness room fun k => { k with
    participants := k.participants.erase username
    revision := k.revision + 1 }).quiet_refreshReadinessGatePhase room
  have hlimit := hrefreshed.same.nameLimit
  exact hlimit

theorem retainForReconnect_nameLimit (s : ServerRuntime) (session : ServerSession)
    (participant : ServerReadinessParticipant) (revision : Nat) (token : String) :
    (s.retainForReconnect session participant revision token).maxUsernameLength =
      s.maxUsernameLength := by
  unfold ServerRuntime.retainForReconnect ServerRuntime.pruneReadinessReconnectCache
  dsimp only

theorem detachSeat_nameLimit (s : ServerRuntime) (clientId : String) (session : ServerSession)
    (participant : ServerReadinessParticipant) (retain : Bool) :
    (s.detachSeat clientId session participant retain).maxUsernameLength =
      s.maxUsernameLength := by
  have hremoved := removeParticipant_nameLimit s session.room session.username
  unfold ServerRuntime.detachSeat
  dsimp only
  split
  · rw [retainForReconnect_nameLimit, hremoved]
  · exact hremoved

theorem joinSession_nameLimit (s : ServerRuntime) (clientId : String) (session : ServerSession)
    (now : Seconds) :
    (s.joinSession clientId session now).maxUsernameLength = s.maxUsernameLength := by
  have hready := (s.quiet_readyForJoin session.room now).same.nameLimit
  unfold ServerRuntime.joinSession
  extract_lets roomName position room joined seeded
  exact hready

theorem moveSession_nameLimit (s : ServerRuntime) (clientId : String) (session : ServerSession)
    (newRoom : String) (roster : BTreeMap String (BTreeMap String (Option Bool)))
    (now : Seconds) :
    (s.moveSession clientId session newRoom roster now).maxUsernameLength =
      s.maxUsernameLength := by
  unfold ServerRuntime.moveSession
  extract_lets ready seeds left position room joined seeded
  exact (left.quiet_readyForJoin newRoom now).same.nameLimit

theorem Moves.nameLimit {move : Move} (h : Moves move s s') :
    s'.maxUsernameLength = s.maxUsernameLength := by
  cases h with
  | quiet h => exact h.same.nameLimit
  | reconcile room => exact reconcile_nameLimit s room
  | @regenerate _ t room generation ownsStartPause hquiet =>
    rw [projectAll_nameLimit, hquiet.same.nameLimit]
    exact replaceGeneration_nameLimit s room generation ownsStartPause
  | attach presentedToken freshToken seed =>
    exact (attachMembership_nameLimit _ _ _ _ seed).trans
      (bindReconnectIdentity_nameLimit s _ _ presentedToken freshToken)
  | detach retain => exact detachSeat_nameLimit s _ _ _ retain
  | @demote _ t clientId session participant capabilities hquiet =>
    rw [detachSeat_nameLimit, hquiet.same.nameLimit]
    rfl
  | dissolve room =>
    unfold ServerRuntime.discardEmptyCoordinator
    split <;> rfl
  | enter now => exact joinSession_nameLimit s _ _ now
  | relocate now => exact moveSession_nameLimit s _ _ _ _ now
  | @discard _ room => exact (sameMembers_discard s room).nameLimit
  | _ => rfl

theorem updateSession_names {clientId : String} {f : ServerSession → ServerSession}
    (hf : ∀ session, (f session).username = session.username) :
    NamesKept s (s.updateSession clientId f) where
  limit := rfl
  held c session' hsession' := by
    rw [updateSession_lookup] at hsession'
    split at hsession'
    · next hc =>
      obtain ⟨session, hsession, rfl⟩ := Option.map_eq_some_iff.mp hsession'
      exact ⟨session, by rw [hc, hsession], hf session⟩
    · exact ⟨session', hsession', rfl⟩

/-- Every move but a session's arrival keeps the names there are. -/
theorem Moves.namesKept {move : Move} (h : Moves move s s') (hs : Seats s)
    (hstays : ∀ clientId, move ≠ .enter clientId) : NamesKept s s' := by
  have hlimit := h.nameLimit
  by_cases hkeeps : move.keepsSessions
  · exact .of_eq hlimit (h.sessions hkeeps)
  · cases h with
    | @demote _ t clientId session participant capabilities hquiet =>
      have hupdated : NamesKept s (s.updateSession clientId fun session =>
          { session with capabilities }) := updateSession_names fun _ => rfl
      have hquieted : NamesKept _ t := .of_eq hquiet.same.nameLimit hquiet.same.sessions
      have hdetached : NamesKept t (t.detachSeat clientId session participant true) :=
        .of_eq (detachSeat_nameLimit t _ _ _ true) (detachSeat_detached t _ _ _ true).kept.sessions
      exact (hupdated.trans hquieted).trans hdetached
    | @enter _ clientId => exact absurd rfl (hstays clientId)
    | leave hsession hunattached =>
      refine ⟨hlimit, fun c session' hsession' => ⟨session', ?_, rfl⟩⟩
      rw [(removeSessionTracking_forgotten hs hsession).sessions,
        Std.ExtTreeMap.getElem?_erase] at hsession'
      split at hsession'
      · cases hsession'
      · exact hsession'
    | @relocate _ clientId newRoom session roster now hsession hunattached hroom hleft =>
      refine ⟨hlimit, fun c session' hsession' => ?_⟩
      rw [(moveSession_moved hs hsession hleft now).sessions] at hsession'
      rcases lookup_insert_cases hsession' with ⟨hc, rfl⟩ | ⟨-, hbefore⟩
      · exact ⟨session, by rw [hc, hsession], rfl⟩
      · exact ⟨session', hbefore, rfl⟩
    | publish f hf => exact updateSession_names fun session => (hf session).1
    | _ => exact absurd trivial hkeeps

/-- **Moves keep names distinct and bounded.** -/
theorem Moves.names {move : Move} (h : Moves move s s') (hs : Seats s) (hnames : NamesSound s) :
    NamesSound s' := by
  by_cases henters : ∃ clientId, move = .enter clientId
  · obtain ⟨clientId, rfl⟩ := henters
    cases h with
    | @enter _ _ session now hnew hname =>
      have hlimit := joinSession_nameLimit s clientId session now
      have hsessions := (joinSession_joined s clientId session now).sessions
      have hfree : ∀ (c : String) other, s.sessions[c]? = some other →
          asciiLowercase other.username ≠ asciiLowercase session.username :=
        fun c other hother hsame => hname.free ⟨c, other, hother, nofun, hsame⟩
      constructor
      · intro c c' other other' hother hother' hsame
        rw [hsessions] at hother hother'
        rcases lookup_insert_cases hother with ⟨rfl, rfl⟩ | ⟨-, hbefore⟩
        · rcases lookup_insert_cases hother' with ⟨rfl, -⟩ | ⟨-, hbefore'⟩
          · rfl
          · exact absurd hsame.symm (hfree c' other' hbefore')
        · rcases lookup_insert_cases hother' with ⟨rfl, rfl⟩ | ⟨-, hbefore'⟩
          · exact absurd hsame (hfree c other hbefore)
          · exact hnames.distinct c c' other other' hbefore hbefore' hsame
      · intro c other hother
        rw [hsessions] at hother
        rcases lookup_insert_cases hother with ⟨rfl, rfl⟩ | ⟨-, hbefore⟩
        · exact hname.nonempty
        · exact hnames.nonempty c other hbefore
      · intro c other hother
        rw [hlimit]
        rw [hsessions] at hother
        rcases lookup_insert_cases hother with ⟨rfl, rfl⟩ | ⟨-, hbefore⟩
        · exact hname.bounded
        · exact hnames.bounded c other hbefore
  · exact hnames.kept (h.namesKept hs fun clientId hmove => henters ⟨clientId, hmove⟩)

theorem Walk.nameLimit {ok : Move → Prop} (h : Walk ok s s') :
    s'.maxUsernameLength = s.maxUsernameLength := by
  induction h with
  | refl => rfl
  | tail _ hstep ih =>
    obtain ⟨move, -, hmoved⟩ := hstep
    exact hmoved.nameLimit.trans ih

/-- A walk from coherent seats keeps names distinct and bounded. -/
theorem Walk.names {ok : Move → Prop} (h : Walk ok s s') (hs : Seats s)
    (hnames : NamesSound s) : NamesSound s' := by
  have hboth := @Walk.preserves ok (fun t => Seats t ∧ NamesSound t) s s' h
    (fun move t t' _ hmoved hheld => ⟨hmoved.seats hheld.1, hmoved.names hheld.1 hheld.2⟩)
    ⟨hs, hnames⟩
  exact hboth.2

end Sorotte.Server
