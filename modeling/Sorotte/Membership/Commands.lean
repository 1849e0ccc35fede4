import Sorotte.Membership.Walks

/-! # Commands as walks

  A command makes moves that neither seat nor relocate anyone, around at most
  one relocation and at most one attachment after it.  The shape matters: the
  fresh token of a command is used up by the one attachment it can make, and
  what a relocation does to samples depends on the runtime it finds.
-/

namespace Sorotte.Server

open Sorotte.Framework Sorotte.Framework.Prog

variable {s s' : ServerRuntime}

/-! ### Shapes -/

/-- Nobody is seated, enters, leaves or changes rooms. -/
def Move.stationary : Move → Prop
  | .attach _ _ _ | .relocate _ | .enter _ | .leave _ => False
  | _ => True

/-- Nobody is seated or changes rooms. -/
def Move.plain : Move → Prop
  | .attach _ _ _ | .relocate _ => False
  | _ => True

theorem Move.edits.stationary {move : Move} (h : move.edits) : move.stationary := by
  cases move <;> trivial

theorem Move.stationary.plain {move : Move} (h : move.stationary) : move.plain := by
  cases move <;> trivial

theorem Walk.of_edits (h : Walk Move.edits s s') : Walk Move.stationary s s' :=
  h.mono fun _ => Move.edits.stationary

theorem succeeds_edits {α : Type} {m : ServerM α} (h : Succeeds (Walk Move.edits) s m) :
    Succeeds (Walk Move.stationary) s m :=
  h.mono fun _ => Walk.of_edits

/-- A walk with at most one attachment on it, of `clientId` and with
    `freshToken` drawn for it. -/
def Seated (clientId freshToken : String) (ok : Move → Prop) (s s' : ServerRuntime) : Prop :=
  Walk ok s s' ∨ ∃ t t' presentedToken, Walk ok s t
    ∧ Moves (.attach clientId presentedToken freshToken) t t' ∧ Walk ok t' s'

section seated

variable {clientId freshToken : String} {ok : Move → Prop}

theorem Seated.seats (h : Seated clientId freshToken ok s s') (hs : Seats s) : Seats s' := by
  rcases h with hwalk | ⟨t, t', presentedToken, hbefore, hattach, hafter⟩
  · exact hwalk.seats hs
  · exact hafter.seats (hattach.seats (hbefore.seats hs))

theorem seated_walk {α : Type} {m : ServerM α} (h : Succeeds (Walk ok) s m) :
    Succeeds (Seated clientId freshToken ok) s m :=
  h.mono fun _ hwalk => .inl hwalk

theorem Seated.head {t : ServerRuntime} (h : Walk ok s t) (h' : Seated clientId freshToken ok t s') :
    Seated clientId freshToken ok s s' := by
  rcases h' with hwalk | ⟨v, v', presentedToken, hbefore, hattach, hafter⟩
  · exact .inl (h.trans hwalk)
  · exact .inr ⟨v, v', presentedToken, h.trans hbefore, hattach, hafter⟩

theorem Seated.tail {t : ServerRuntime} (h : Seated clientId freshToken ok s t) (h' : Walk ok t s') :
    Seated clientId freshToken ok s s' := by
  rcases h with hwalk | ⟨v, v', presentedToken, hbefore, hattach, hafter⟩
  · exact .inl (hwalk.trans h')
  · exact .inr ⟨v, v', presentedToken, hbefore, hattach, hafter.trans h'⟩

theorem Seated.mono {ok' : Move → Prop} (hok : ∀ move, ok move → ok' move)
    (h : Seated clientId freshToken ok s s') : Seated clientId freshToken ok' s s' := by
  rcases h with hwalk | ⟨v, v', presentedToken, hbefore, hattach, hafter⟩
  · exact .inl (hwalk.mono hok)
  · exact .inr ⟨v, v', presentedToken, hbefore.mono hok, hattach, hafter.mono hok⟩

/-- A walk in front of a program that may seat its client. -/
theorem seated_bind_left {α β : Type} {m : ServerM α} {k : α → ServerM β} (hs : Seats s)
    (hm : Succeeds (Walk ok) s m)
    (hk : ∀ a t, Walk ok s t → Seats t → Succeeds (Seated clientId freshToken ok) t (k a)) :
    Succeeds (Seated clientId freshToken ok) s (m >>= k) := by
  obtain ⟨a, t, hrun, hfirst⟩ := hm
  obtain ⟨b, u, hrest, hsecond⟩ := hk a t hfirst (hfirst.seats hs)
  exact ⟨b, u, by rw [bind_of_ok hrun, hrest], hsecond.head hfirst⟩

/-- A walk after a program that may seat its client. -/
theorem seated_bind_right {α β : Type} {m : ServerM α} {k : α → ServerM β} (hs : Seats s)
    (hm : Succeeds (Seated clientId freshToken ok) s m)
    (hk : ∀ a t, Seated clientId freshToken ok s t → Seats t → Succeeds (Walk ok) t (k a)) :
    Succeeds (Seated clientId freshToken ok) s (m >>= k) := by
  obtain ⟨a, t, hrun, hfirst⟩ := hm
  obtain ⟨b, u, hrest, hsecond⟩ := hk a t hfirst (hfirst.seats hs)
  exact ⟨b, u, by rw [bind_of_ok hrun, hrest], hfirst.tail hsecond⟩

theorem seated_modify_bind {β : Type} {f : ServerRuntime → ServerRuntime} {k : Unit → ServerM β}
    (hs : Seats s) (hf : Walk ok s (f s))
    (hk : Seats (f s) → Succeeds (Seated clientId freshToken ok) (f s) (k ())) :
    Succeeds (Seated clientId freshToken ok) s (modify f >>= k) := by
  obtain ⟨b, u, hrest, hsecond⟩ := hk (hf.seats hs)
  exact ⟨b, u, hrest, hsecond.head hf⟩

/-- A program that comes to the end of a walk, and goes on. -/
theorem seated_arrive {α : Type} {t : ServerRuntime} {m k : ServerM α} (hwalk : Walk ok s t)
    (hrun : m s = k t) (hk : Succeeds (Seated clientId freshToken ok) t k) :
    Succeeds (Seated clientId freshToken ok) s m := by
  obtain ⟨b, u, hrest, hafter⟩ := hk
  exact ⟨b, u, hrun.trans hrest, hafter.head hwalk⟩

/-- A program that comes to the attachment it makes, and goes on. -/
theorem seated_attach {α : Type} {t : ServerRuntime} {presentedToken : Option String}
    {m k : ServerM α} (hattach : Moves (.attach clientId presentedToken freshToken) s t)
    (hrun : m s = k t) (hk : Succeeds (Walk ok) t k) :
    Succeeds (Seated clientId freshToken ok) s m := by
  obtain ⟨b, u, hrest, hafter⟩ := hk
  exact ⟨b, u, hrun.trans hrest, .inr ⟨s, t, presentedToken, .refl, hattach, hafter⟩⟩

end seated

/-! ### Attaching and detaching -/

theorem attachMembership_roster (s : ServerRuntime) (clientId : String)
    (session : ServerSession) (restored : Option DetachedReadinessMembership) (seed : Bool) :
    (s.attachMembership clientId session restored seed).roomRoster = s.roomRoster := by
  obtain ⟨p, -, hadded⟩ := joinedMembership_added s clientId session restored seed
  rw [(attachMembership_settled s clientId session restored seed).same.roster]
  rcases reconcile_cases (s.joinedMembership clientId session restored seed) session.room with
    hself | ⟨k, -, hedits⟩
  · rw [hself, hadded.roster]
  · rw [hedits.roster, hadded.roster]

theorem attachReadinessMembership_seated {clientId : String} {session : ServerSession}
    (hs : Seats s) (hsession : s.sessions[clientId]? = some session)
    (presentedToken : Option String) (freshToken : String) (seed : Bool) :
    Succeeds (Seated clientId freshToken Move.edits) s
      (attachReadinessMembership clientId presentedToken freshToken true seed) := by
  refine seated_modify_bind hs (.quiet (s.quiet_clearPendingUserTransport clientId)) fun hs =>
    succeeds_get_bind ?_
  set cleared := s.clearPendingUserTransport clientId
  have hcleared : cleared.sessions[clientId]? = some session := hsession
  rw [hcleared]
  dsimp only
  split
  · exact seated_walk (succeeds_pure _ _)
  · next hgoverned =>
    rw [Bool.or_eq_true, not_or, Bool.not_eq_true', Bool.not_eq_true', Bool.not_eq_false,
      Bool.not_eq_false] at hgoverned
    refine seated_modify_bind hs (.move (by trivial) .prune) fun hs => ?_
    set pruned := cleared.pruneReadinessReconnectCache
    have hpruned : pruned.sessions[clientId]? = some session := hsession
    have hattach : Moves (.attach clientId presentedToken freshToken) pruned
        (pruned.attachSeat clientId session presentedToken freshToken seed) :=
      .attach presentedToken freshToken seed hpruned hgoverned.1 hgoverned.2
    have htokens := bind_onlyTokens pruned clientId session presentedToken freshToken
    have hflag : ((pruned.bindReconnectIdentity clientId session presentedToken freshToken
        ).attachMembership clientId session (pruned.restorableMembership session presentedToken)
          seed).rosterFlag session.room session.username |>.isSome := by
      unfold ServerRuntime.rosterFlag
      rw [attachMembership_roster, htokens.roster]
      exact (hs.rostered session.room session.username).mpr ⟨clientId, session, hpruned, rfl, rfl⟩
    -- binding the token, joining the coordinator and writing the flag is one move
    refine seated_attach (k := ?k) hattach ?run ?rest
    case run =>
      rw [get_bind_run, modify_bind_run, get_bind_run, modify_bind_run, get_bind_run]
      simp only [reduceIte]
      rw [bind_of_ok (setRosterReady_run hflag _)]
      exact rfl
    case rest =>
      exact succeeds_get_bind <|
        walk_quiet_bind (hattach.seats hs) (maybeCommitReadinessGate_quiet _ session.room)
          fun _ v _ _ => succeeds_pure v _

/-- What a detachment leaves: a walk of edits and no seat of the client. -/
theorem settleDetachedMembership_walk (hs : Seats s) (room : String) :
    Succeeds (Walk Move.edits) s (settleDetachedMembership room) := by
  refine succeeds_gets_bind ?_
  refine walk_quiet_bind hs (maybeCommitReadinessGate_quiet s room) fun _ t _ ht =>
    succeeds_get_bind ?_
  split
  · refine walk_quiet_bind ht (clearReadinessGate_quiet t room) fun _ u _ hu => ?_
    exact walk_modify_bind hu (by trivial) (.dissolve room)
      fun _ => succeeds_pure _ _
  · exact succeeds_pure _ _

theorem Walk.unattached {clientId : String} (h : Walk Move.edits s s')
    (hs : Unattached clientId s) : Unattached clientId s' :=
  @Walk.preserves _ (Unattached clientId) _ _ h (fun move t t' hok hmove ht => by
    have hedits : move.edits := by
      rcases hok with rfl | hedits
      · trivial
      · exact hedits
    exact ht.edit (@Moves.edit (fun _ _ => False) (fun _ => False) _ _ _ hmove hedits).1) hs

/-- Moves that a detachment of `clientId` makes. -/
def Move.detaches (clientId : String) (move : Move) : Prop :=
  move.edits ∨ move = .detach clientId

theorem detachReadinessMembership_run (hs : Seats s) (clientId : String) (retain : Bool) :
    ∃ out t, detachReadinessMembership clientId retain s = (.ok out, t)
      ∧ Walk (Move.detaches clientId) s t ∧ Unattached clientId t := by
  have hquiet := s.quiet_clearPendingUserTransport clientId
  unfold detachReadinessMembership
  rw [modify_bind_run, get_bind_run]
  set cleared := s.clearPendingUserTransport clientId
  have hcleared : Seats cleared := hs.quiet hquiet
  cases hsession : cleared.sessions[clientId]? with
  | none =>
    refine ⟨[], cleared, rfl, .quiet hquiet, fun a b p hp hclient => ?_⟩
    obtain ⟨session, hsession', -⟩ := hcleared.seated a b p hp
    rw [hclient, hsession] at hsession'
    cases hsession'
  | some session =>
    dsimp only
    -- a client can only be seated under its session's room and name
    have hseat : ∀ a b p, cleared.readinessParticipant a b = some p → p.clientId = clientId →
        a = session.room ∧ b = session.username := by
      intro a b p hp hclient
      obtain ⟨session', hsession', hroom, hname, -⟩ := hcleared.seated a b p hp
      rw [hclient, hsession] at hsession'
      cases hsession'
      exact ⟨hroom.symm, hname.symm⟩
    cases hp : cleared.readinessParticipant session.room session.username with
    | none =>
      refine ⟨[], cleared, rfl, .quiet hquiet, fun a b p hp' hclient => ?_⟩
      obtain ⟨rfl, rfl⟩ := hseat a b p hp' hclient
      rw [hp] at hp'
      cases hp'
    | some participant =>
      dsimp only
      by_cases hclient : participant.clientId = clientId
      · rw [if_neg (not_not.mpr hclient)]
        have hdetach : Moves (.detach clientId) cleared
            (cleared.detachSeat clientId session participant retain) :=
          .detach retain hsession hp hclient
        have hdetached := detachSeat_detached cleared clientId session participant retain
        obtain ⟨out, t, hrun, hafter⟩ :=
          settleDetachedMembership_walk (hdetach.seats hcleared) session.room
        refine ⟨out, t, ?_, ?_, hafter.unattached (hdetached.unattached hcleared hsession)⟩
        · rw [modify_bind_run, modify_bind_run]
          exact hrun
        · exact ((Walk.quiet hquiet).trans (Walk.move (.inr rfl) hdetach)).trans
            (hafter.mono fun _ => .inl)
      · rw [if_pos hclient]
        refine ⟨[], cleared, rfl, .quiet hquiet, fun a b p hp' hclient' => ?_⟩
        obtain ⟨rfl, rfl⟩ := hseat a b p hp' hclient'
        rw [hp] at hp'
        cases hp'
        exact hclient hclient'

theorem refreshMixedReadinessCohort_walk (hs : Seats s) (room : String) :
    Succeeds (Walk Move.edits) s (refreshMixedReadinessCohort room) := by
  refine succeeds_get_bind ?_
  extract_lets changed
  refine walk_modify_bind hs (by trivial) (.reconcile room) fun hs =>
    succeeds_get_bind ?_
  extract_lets barrierChanged
  split
  · exact succeeds_pure _ _
  · refine walk_quiet_modify_bind hs (ServerRuntime.quiet_refreshReadinessGatePhase _ room)
      fun hs => succeeds_get_bind ?_
    exact walk_quiet_bind hs (maybeCommitReadinessGate_quiet _ room) fun _ t _ _ =>
      succeeds_pure t _

end Sorotte.Server
