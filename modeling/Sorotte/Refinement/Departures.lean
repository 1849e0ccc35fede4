import Sorotte.Refinement.Sessions

/-! # Refinement: departures and arrivals

  Timeouts, repeated Hellos and room switches take a client out of its room in
  different orders; each runs to its end, so that seen from outside a departure
  is one move.  What follows it happens in plain steps.
-/

namespace Sorotte.Server

open Sorotte.Framework Sorotte.Framework.Prog Sorotte.Ideal ServerRuntime

variable {s t : ServerRuntime} {clientId freshToken : String} {session : ServerSession}
variable {allowed : Label → Prop} {leaving : Prop}

/-- Seen from the ideal server, the program makes moves with these labels. -/
abbrev Evolves {α : Type} (allowed : Label → Prop) (s : ServerRuntime) (m : ServerM α) : Prop :=
  Follows ServerRuntime.ideal (Ideal.Move allowed) s m

/-- Runtimes connected by moves. -/
abbrev EvolvesTo (allowed : Label → Prop) (s t : ServerRuntime) : Prop :=
  Relation.ReflTransGen (Ideal.Move allowed) s.ideal t.ideal

/-! ### Steps as moves -/

theorem moves_of_steps {narrow : Label → Prop} {x y : State}
    (hlabels : ∀ l, narrow l → allowed l ∧ ¬ l.departs)
    (h : Relation.ReflTransGen (Steps narrow) x y) :
    Relation.ReflTransGen (Ideal.Move allowed) x y := by
  apply Relation.ReflTransGen.mono _ _ _ h
  rintro a b ⟨l, hl, hstep⟩
  obtain ⟨hallowed, hstays⟩ := hlabels l hl
  exact .step l hallowed hstays hstep

theorem Refines.evolves {α : Type} {m : ServerM α} {narrow : Label → Prop}
    (h : Refines narrow s m) (hlabels : ∀ l, narrow l → allowed l ∧ ¬ l.departs) :
    Evolves allowed s m :=
  moves_of_steps hlabels h

theorem Invisible.evolves {α : Type} {m : ServerM α} (h : Invisible s m) : Evolves allowed s m :=
  Refines.evolves h fun _ hl => hl.elim

/-- A program that comes to another state by moves and goes on from there. -/
theorem evolves_arrive {α : Type} {m k : ServerM α} (hmoves : EvolvesTo allowed s t)
    (hrun : m s = k t) (hk : Evolves allowed t k) : Evolves allowed s m := by
  unfold Evolves Follows after
  rw [hrun]
  exact hmoves.trans hk

theorem moveMono {narrow : Label → Prop} (hlabels : ∀ l, narrow l → allowed l) (x y : State)
    (h : Ideal.Move narrow x y) : Ideal.Move allowed x y := by
  have hdeparting : ∀ {c room : String} {u v : State}, Departing narrow c room u v →
      Departing allowed c room u v := by
    rintro c room u v ⟨u₁, u₂, hfirst, hsecond, hthird⟩
    exact ⟨u₁, u₂,
      Relation.ReflTransGen.mono (Steps.mono fun l hl => ⟨hl.1, hlabels l hl.2⟩) _ _ hfirst,
      Relation.ReflTransGen.mono (Steps.mono fun l hl => ⟨hl.1, hlabels l hl.2⟩) _ _ hsecond,
      Relation.ReflTransGen.mono (Steps.mono fun l hl => ⟨hl.1, hlabels l hl.2⟩) _ _ hthird⟩
  cases h with
  | step label hallowed hstays hstep => exact .step label (hlabels label hallowed) hstays hstep
  | leave c held v hdep hallowed hstep =>
    exact .leave c held v (hdeparting hdep) (hlabels _ hallowed) hstep
  | move c held room position v hdep hallowed hstep =>
    exact .move c held room position v (hdeparting hdep) (hlabels _ hallowed) hstep

theorem Evolves.weaken {α : Type} {m : ServerM α} {narrow : Label → Prop}
    (h : Evolves narrow s m) (hlabels : ∀ l, narrow l → allowed l) : Evolves allowed s m :=
  h.mono (moveMono hlabels)

/-! ### What a departing client leaves behind -/

/-- What happens in a room when a client goes. -/
def leaveLabel (clientId room : String) : Label → Prop
  | .withdraw r _ | .release r | .dissolve r | .commit r _ _ | .hold r _ _ | .resume r _
  | .relax r | .reconcile r _ _ _ | .discard r => r = room
  | .disconnect c r _ => c = clientId ∧ r = room
  | .leave c session => c = clientId ∧ session.room = room
  | _ => False

theorem detach_departs {room : String} (l : Label) (h : detachLabel room l) :
    departingLabel room l := by
  cases l <;> first | exact h | exact h.elim

theorem policy_departs {room : String} (l : Label) (h : policyLabel room l) :
    departingLabel room l := by
  cases l <;> first | exact h | exact h.elim

theorem departing_of_part {part : Label → Prop} {room : String} {x y : State}
    (hdeparts : ∀ l, part l → departingLabel room l) (hlabels : ∀ l, part l → allowed l)
    (h : Relation.ReflTransGen (Steps part) x y) :
    Relation.ReflTransGen (Steps fun l => departingLabel room l ∧ allowed l) x y :=
  Relation.ReflTransGen.mono (Steps.mono fun l hl => ⟨hdeparts l hl, hlabels l hl⟩) _ _ h

theorem disconnecting_of_mark {room : String} {x y : State}
    (hlabels : ∀ l, disconnectLabel clientId room l → allowed l)
    (h : Relation.ReflTransGen (Steps (disconnectLabel clientId room)) x y) :
    Relation.ReflTransGen (Steps fun l => disconnectLabel clientId room l ∧ allowed l) x y :=
  Relation.ReflTransGen.mono (Steps.mono fun l hl => ⟨hl, hlabels l hl⟩) _ _ h

theorem marked_of_part {part : Label → Prop} {room : String} {x y : State}
    (hdeparts : ∀ l, part l → departingLabel room l)
    (h : Relation.ReflTransGen (Steps part) x y) (hx : Marked clientId room x) :
    Marked clientId room y :=
  marked_of_departing (Relation.ReflTransGen.mono (Steps.mono hdeparts) _ _ h) hx

/-- The labels of a departure that an allowance has to cover. -/
structure AllowsDeparture (allowed : Label → Prop) (clientId room : String) : Prop where
  detach : ∀ l, detachLabel room l → allowed l
  policy : ∀ l, policyLabel room l → allowed l
  disconnect : ∀ l, disconnectLabel clientId room l → allowed l
  cohort : ∀ l, cohortLabel room l → allowed l
  discard : ∀ l, discardLabel room l → allowed l

theorem leaveLabel_allows (clientId room : String) :
    AllowsDeparture (leaveLabel clientId room) clientId room := by
  constructor <;> intro l hl <;> cases l <;> first | exact hl | exact hl.elim

/-- What is known of a client that is about to go. -/
structure OnTheWayOut (allowed : Label → Prop) (clientId : String) (session : ServerSession)
    (s t : ServerRuntime) : Prop where
  departing : Departing allowed clientId session.room s.ideal t.ideal
  departed : Departed t.ideal clientId session
  held : t.sessions[clientId]? = some session
  seats : Seats t

/-- The coordinator lets the client go first, then the start and the policy do. -/
theorem onTheWayOut_detached {t' u v : ServerRuntime}
    (hallows : AllowsDeparture allowed clientId session.room)
    (hdetach : Relation.ReflTransGen (Steps (detachLabel session.room)) s.ideal t.ideal)
    (hwithdrawn : Withdrawn clientId session.room session.username t.ideal)
    (hsame : t'.ideal = t.ideal)
    (hmark : Relation.ReflTransGen (Steps (disconnectLabel clientId session.room)) t'.ideal u.ideal)
    (hmarked : Marked clientId session.room u.ideal)
    (hpolicy : Relation.ReflTransGen (Steps (policyLabel session.room)) u.ideal v.ideal)
    (hheld : v.sessions[clientId]? = some session) (hseats : Seats v) :
    OnTheWayOut allowed clientId session s v where
  departing := by
    rw [hsame] at hmark
    exact ⟨t.ideal, u.ideal, departing_of_part detach_departs hallows.detach hdetach,
      disconnecting_of_mark hallows.disconnect hmark,
      departing_of_part policy_departs hallows.policy hpolicy⟩
  departed := by
    rw [hsame] at hmark
    exact ⟨marked_of_part policy_departs hpolicy hmarked,
      withdrawn_of_policy hpolicy (withdrawn_of_disconnect hmark hwithdrawn)⟩
  held := hheld
  seats := hseats

/-- The start and the policy let the client go first, then the coordinator does. -/
theorem onTheWayOut_marked {u v : ServerRuntime}
    (hallows : AllowsDeparture allowed clientId session.room)
    (hmark : Relation.ReflTransGen (Steps (disconnectLabel clientId session.room)) s.ideal t.ideal)
    (hmarked : Marked clientId session.room t.ideal)
    (hpolicy : Relation.ReflTransGen (Steps (policyLabel session.room)) t.ideal u.ideal)
    (hdetach : Relation.ReflTransGen (Steps (detachLabel session.room)) u.ideal v.ideal)
    (hwithdrawn : Withdrawn clientId session.room session.username v.ideal)
    (hheld : v.sessions[clientId]? = some session) (hseats : Seats v) :
    OnTheWayOut allowed clientId session s v where
  departing :=
    ⟨s.ideal, t.ideal, .refl, disconnecting_of_mark hallows.disconnect hmark,
      (departing_of_part policy_departs hallows.policy hpolicy).trans
        (departing_of_part detach_departs hallows.detach hdetach)⟩
  departed :=
    ⟨marked_of_part detach_departs hdetach (marked_of_part policy_departs hpolicy hmarked),
      hwithdrawn⟩
  held := hheld
  seats := hseats

theorem OnTheWayOut.leaves (h : OnTheWayOut allowed clientId session s t)
    (hallowed : allowed (.leave clientId session)) :
    EvolvesTo allowed s (t.removeSessionTracking clientId session) := by
  apply Relation.ReflTransGen.single
  apply Ideal.Move.leave clientId session t.ideal h.departing hallowed
  exact ⟨⟨h.held, h.departed⟩, ServerRuntime.ideal_removeSessionTracking h.seats h.held⟩

/-! ### Runs of the departing programs -/

theorem steps_of_followsTo {α : Type} {m : ServerM α} {narrow : Label → Prop} {q : State → Prop}
    {result : Except ServerRuntimeError α}
    (h : FollowsTo ServerRuntime.ideal (Steps narrow) q s m) (hrun : m s = (result, t)) :
    Relation.ReflTransGen (Steps narrow) s.ideal t.ideal ∧ q t.ideal := by
  obtain ⟨hfollows, hq⟩ := h
  unfold Follows at hfollows
  unfold after at hfollows hq
  rw [hrun] at hfollows hq
  exact ⟨hfollows, hq⟩

/-- The coordinator, the start and the policy of a room let a client go, in this order; what
    happens in between is seen by nobody. -/
theorem detachFirst_run (hs : Seats s) (hsession : s.sessions[clientId]? = some session)
    (retain : Bool) (f : ServerRuntime → ServerRuntime) (hsame : ∀ t, (f t).ideal = t.ideal)
    (hquiet : ∀ t, Quiet t (f t)) (hallows : AllowsDeparture allowed clientId session.room) :
    ∃ detached t barrier u buffering v,
      detachReadinessMembership clientId retain s = (.ok detached, t)
        ∧ markPlaybackBarrierParticipantDisconnected clientId session.room (f t) = (.ok barrier, u)
        ∧ markRoomBufferingParticipantDisconnected clientId session.room u = (.ok buffering, v)
        ∧ OnTheWayOut allowed clientId session s v := by
  obtain ⟨detached, t, hdetached, hwalk, -⟩ := detachReadinessMembership_run hs clientId retain
  obtain ⟨barrier, u, hbarrier, htu⟩ :=
    markPlaybackBarrierParticipantDisconnected_quiet (f t) clientId session.room
  obtain ⟨buffering, v, hbuffering, huv⟩ :=
    markRoomBufferingParticipantDisconnected_quiet u clientId session.room
  have hkept : Quiet t v := ((hquiet t).trans htu).trans huv
  have hheld : v.sessions[clientId]? = some session := by
    rw [hkept.same.sessions, hwalk.sessions fun _ => Move.detaches.keepsSessions]
    exact hsession
  obtain ⟨hwithdrawing, hwithdrawn⟩ := steps_of_followsTo
    (detachReadinessMembership_spec s clientId session retain hsession) hdetached
  obtain ⟨hmarking, hmarked⟩ := steps_of_followsTo
    (markPlaybackBarrierParticipantDisconnected_spec (f t) clientId session.room) hbarrier
  have hpolicy := steps_of_run
    (markRoomBufferingParticipantDisconnected_refines u clientId session.room) hbuffering
  exact ⟨detached, t, barrier, u, buffering, v, hdetached, hbarrier, hbuffering,
    onTheWayOut_detached hallows hwithdrawing hwithdrawn (hsame t) hmarking hmarked hpolicy hheld
      ((hwalk.seats hs).quiet hkept)⟩

/-- The start and the policy of a room let a client go, then the coordinator does. -/
theorem markFirst_run (hs : Seats s) (hsession : s.sessions[clientId]? = some session)
    (retain : Bool) (hallows : AllowsDeparture allowed clientId session.room) :
    ∃ barrier t buffering u detached v,
      markPlaybackBarrierParticipantDisconnected clientId session.room s = (.ok barrier, t)
        ∧ markRoomBufferingParticipantDisconnected clientId session.room t = (.ok buffering, u)
        ∧ detachReadinessMembership clientId retain u = (.ok detached, v)
        ∧ OnTheWayOut allowed clientId session s v := by
  obtain ⟨barrier, t, hbarrier, hst⟩ :=
    markPlaybackBarrierParticipantDisconnected_quiet s clientId session.room
  obtain ⟨buffering, u, hbuffering, htu⟩ :=
    markRoomBufferingParticipantDisconnected_quiet t clientId session.room
  have hkept : Quiet s u := hst.trans htu
  have hu : Seats u := hs.quiet hkept
  obtain ⟨detached, v, hdetached, hwalk, -⟩ := detachReadinessMembership_run hu clientId retain
  have hstill : u.sessions[clientId]? = some session := by
    rw [hkept.same.sessions]
    exact hsession
  have hheld : v.sessions[clientId]? = some session := by
    rw [hwalk.sessions fun _ => Move.detaches.keepsSessions]
    exact hstill
  obtain ⟨hmarking, hmarked⟩ := steps_of_followsTo
    (markPlaybackBarrierParticipantDisconnected_spec s clientId session.room) hbarrier
  have hpolicy := steps_of_run
    (markRoomBufferingParticipantDisconnected_refines t clientId session.room) hbuffering
  obtain ⟨hwithdrawing, hwithdrawn⟩ := steps_of_followsTo
    (detachReadinessMembership_spec u clientId session retain hstill) hdetached
  exact ⟨barrier, t, buffering, u, detached, v, hbarrier, hbuffering, hdetached,
    onTheWayOut_marked hallows hmarking hmarked hpolicy hwithdrawing hwithdrawn hheld
      (hwalk.seats hu)⟩

/-! ### What follows a departure -/

theorem refreshMixedReadinessCohort_evolves (s : ServerRuntime) (room : String)
    (hlabels : ∀ l, cohortLabel room l → allowed l) :
    Evolves allowed s (refreshMixedReadinessCohort room) := by
  apply Refines.evolves (refreshMixedReadinessCohort_refines s room)
  intro l hl
  refine ⟨hlabels l hl, ?_⟩
  cases l <;> first | exact id | exact hl.elim

theorem cleanupRoomIfEmpty_evolves (s : ServerRuntime) (room : String)
    (hlabels : ∀ l, discardLabel room l → allowed l) :
    EvolvesTo allowed s (s.cleanupRoomIfEmpty room) := by
  apply moves_of_steps _ (cleanupRoomIfEmpty_steps s room)
  intro l hl
  refine ⟨hlabels l hl, ?_⟩
  cases l <;> first | exact id | exact hl.elim

/-! ### Timeouts -/

theorem timeoutDisconnectMessages_leaves (hs : Seats s)
    (hsession : s.sessions[clientId]? = some session) :
    Evolves (leaveLabel clientId session.room) s (timeoutDisconnectMessages clientId) := by
  have hallows := leaveLabel_allows clientId session.room
  obtain ⟨barrier, t, buffering, u, detached, v, hbarrier, hbuffering, hdetached, hout⟩ :=
    markFirst_run hs hsession true hallows
  have hleft := hout.leaves ⟨rfl, rfl⟩
  refine evolves_arrive (k := ?k) hleft ?run ?rest
  case run =>
    unfold timeoutDisconnectMessages
    rw [get_bind_run, hsession]
    dsimp only
    rw [bind_of_ok hbarrier, bind_of_ok hbuffering, bind_of_ok hdetached, modify_bind_run]
  case rest =>
    apply follows_bind (refreshMixedReadinessCohort_evolves _ session.room hallows.cohort)
    intro cohort w _
    apply follows_modify_bind (cleanupRoomIfEmpty_evolves w session.room hallows.discard)
    exact follows_get_bind (follows_pure _ _)

theorem timeoutDisconnectMessages_evolves (hs : Seats s) (clientId : String) :
    Evolves (fun l => ∃ room, leaveLabel clientId room l) s
      (timeoutDisconnectMessages clientId) := by
  cases hsession : s.sessions[clientId]? with
  | none =>
    unfold timeoutDisconnectMessages
    apply follows_get_bind
    rw [hsession]
    exact follows_pure _ _
  | some session =>
    apply (timeoutDisconnectMessages_leaves hs hsession).weaken
    intro l hl
    exact ⟨session.room, hl⟩

/-! ### Repeated Hellos -/

theorem replaceSession_leaves (hs : Seats s) (hsession : s.sessions[clientId]? = some session) :
    Evolves (leaveLabel clientId session.room) s (replaceSession clientId) := by
  have hallows := leaveLabel_allows clientId session.room
  obtain ⟨detached, t, barrier, u, buffering, v, hdetached, hbarrier, hbuffering, hout⟩ :=
    detachFirst_run hs hsession true (fun t => { t with
      playbackBarrierNewIdentityRateByClient :=
        t.playbackBarrierNewIdentityRateByClient.erase clientId })
      (fun _ => rfl)
      (fun _ => Quiet.of_fields rfl rfl rfl rfl rfl rfl rfl rfl rfl) hallows
  have hleft := hout.leaves ⟨rfl, rfl⟩
  refine evolves_arrive (k := ?k) hleft ?run ?rest
  case run =>
    unfold replaceSession
    rw [get_bind_run, hsession]
    dsimp only
    rw [bind_of_ok hdetached, gets_bind_run, modify_bind_run, bind_of_ok hbarrier,
      bind_of_ok hbuffering, modify_bind_run]
  case rest =>
    apply follows_quiet_bind
    · split <;> rfl
    · apply follows_bind (refreshMixedReadinessCohort_evolves _ session.room hallows.cohort)
      intro cohort w _
      apply follows_modify_bind (cleanupRoomIfEmpty_evolves w session.room hallows.discard)
      exact follows_pure _ _

theorem replaceSession_evolves (hs : Seats s) (clientId : String) :
    Evolves (fun l => ∃ room, leaveLabel clientId room l) s (replaceSession clientId) := by
  cases hsession : s.sessions[clientId]? with
  | none =>
    unfold replaceSession
    apply follows_get_bind
    rw [hsession]
    exact follows_pure _ _
  | some session =>
    apply (replaceSession_leaves hs hsession).weaken
    intro l hl
    exact ⟨session.room, hl⟩

/-! ### Arrivals -/

/-- What happens when a client comes, goes or changes rooms; its session ends if it is `leaving`. -/
def presenceLabel (leaving : Prop) (clientId : String) : Label → Prop
  | .withdraw _ _ | .release _ | .dissolve _ | .commit _ _ _ | .hold _ _ _ | .resume _ _
  | .relax _ | .reconcile _ _ _ _ | .discard _ | .refresh _ _ | .arm _ _ => True
  | .disconnect c _ _ | .join c _ _ | .move c _ _ _ => c = clientId
  | .leave c _ => c = clientId ∧ leaving
  | .enroll _ _ member _ => member.clientId = clientId
  | _ => False

theorem presence_of_leave (hleaves : leaving) (l : Label) (h : ∃ room, leaveLabel clientId room l) :
    presenceLabel leaving clientId l := by
  obtain ⟨room, hl⟩ := h
  cases l <;> first | trivial | exact hl.1 | exact ⟨hl.1, hleaves⟩

theorem presence_of_attach {room : String} (l : Label) (h : attachLabel clientId room l) :
    presenceLabel leaving clientId l ∧ ¬ l.departs := by
  cases l <;> first | exact ⟨trivial, id⟩ | exact ⟨h.2, id⟩ | exact h.elim

theorem presence_of_policy (l : Label) (h : ∃ room, policyLabel room l) :
    presenceLabel leaving clientId l ∧ ¬ l.departs := by
  obtain ⟨room, hl⟩ := h
  cases l <;> first | exact ⟨trivial, id⟩ | exact hl.elim

theorem presence_of_cohort {room : String} (l : Label) (h : cohortLabel room l) :
    presenceLabel leaving clientId l := by
  cases l <;> trivial

theorem presence_of_refresh {room : String} (l : Label) (h : refreshLabel room l) :
    presenceLabel leaving clientId l ∧ ¬ l.departs := by
  cases l <;> first | exact ⟨trivial, id⟩ | exact h.elim

theorem attachReadinessMembership_evolves (hsession : s.sessions[clientId]? = some session)
    (presentedToken : Option String) (freshToken : String) (issue seed : Bool) :
    Evolves (presenceLabel leaving clientId) s
      (attachReadinessMembership clientId presentedToken freshToken issue seed) :=
  Refines.evolves (attachReadinessMembership_refines s clientId session presentedToken freshToken
    issue seed hsession) presence_of_attach

theorem refreshRoomBufferingParticipant_evolves (s : ServerRuntime) (clientId : String) :
    Evolves (presenceLabel leaving clientId) s (refreshRoomBufferingParticipant clientId) :=
  Refines.evolves (refreshRoomBufferingParticipant_refines s clientId) presence_of_policy

/-- A session that is tracked was free to be. -/
theorem joinSession_evolves (hnew : s.sessions[clientId]? = none)
    (hfree : ∀ (other : String) held, s.sessions[other]? = some held →
      held.username ≠ session.username) (now : Seconds) :
    EvolvesTo (presenceLabel leaving clientId) s (s.joinSession clientId session now) := by
  have hkept : (s.readyForJoin session.room now).sessions = s.sessions :=
    (s.quiet_readyForJoin session.room now).same.sessions
  have hlabels : ∀ l, refreshLabel session.room l → presenceLabel leaving clientId l ∧ ¬ l.departs :=
    presence_of_refresh
  have hrefreshed := moves_of_steps hlabels (s.readyForJoin_steps session.room now)
  apply hrefreshed.tail
  apply Ideal.Move.step (s.joinLabel clientId session now)
  · rfl
  · exact id
  · refine ⟨⟨?_, ?_, ?_⟩, s.ideal_joinSession clientId session now⟩
    · show (s.readyForJoin session.room now).sessions[clientId]? = none
      rw [hkept]
      exact hnew
    · intro other held hheld
      apply hfree other held
      rw [← hkept]
      exact hheld
    · intro x hx hpaused
      split at hx
      · rw [← s.joinPlayback_position session.room now hpaused]
        exact (Option.some.inj hx).symm
      · cases hx

theorem admitHello_evolves (hs : Seats s) (hleaves : leaving)
    (hfree : ¬ s.NameTaken (some clientId) session.username)
    (hello : ServerHelloCommand) (freshToken : String) :
    Evolves (presenceLabel leaving clientId) s (admitHello clientId session hello freshToken) := by
  obtain ⟨replacement, t, hreplaced, -, hforgotten⟩ := replaceSession_run hs clientId
  unfold admitHello
  apply follows_bind ((replaceSession_evolves hs clientId).weaken (presence_of_leave hleaves))
  intro out t' hrun
  obtain ⟨-, rfl⟩ := Prod.mk.injEq .. ▸ hreplaced.symm.trans hrun
  apply follows_quiet_bind rfl
  set placed := t.setPeerIp clientId hello.peerIp
  apply follows_get_bind
  dsimp only
  have hnew : placed.sessions[clientId]? = none := by
    cases hheld : placed.sessions[clientId]? with
    | none => rfl
    | some other => exact absurd rfl ((hforgotten clientId other).mp hheld).1
  have hothers : ∀ (other : String) held, placed.sessions[other]? = some held →
      held.username ≠ session.username := by
    intro other held hheld hname
    obtain ⟨hne, hbefore⟩ := (hforgotten other held).mp hheld
    apply hfree
    exact ⟨other, held, hbefore, fun hc => hne (Option.some.inj hc).symm, by rw [hname]⟩
  apply follows_modify_bind (joinSession_evolves hnew hothers placed.currentTimeSeconds)
  set joined := placed.joinSession clientId session placed.currentTimeSeconds
  have hput : joined.sessions[clientId]? = some session := by
    rw [(joinSession_joined placed clientId session _).sessions]
    exact Std.ExtTreeMap.getElem?_insert_self
  apply follows_get_bind
  apply follows_bind
  · apply follows_when
    intro _
    exact attachReadinessMembership_evolves hput _ _ _ _
  · intro attached u _
    apply follows_get_bind
    apply follows_bind (refreshMixedReadinessCohort_evolves u session.room presence_of_cohort)
    intro cohort v _
    apply follows_bind (refreshRoomBufferingParticipant_evolves v clientId)
    intro policy w _
    exact follows_pure _ _

/-- The server takes the Hello. -/
def ServerRuntime.AdmitsHello (s : ServerRuntime) (clientId : String) (hello : ServerHelloCommand)
    (framesFit : Bool) : Prop :=
  let username := truncateTextToMaxChars (trimText hello.username) s.maxUsernameLength
  let room := truncateTextToMaxChars (trimText hello.room) defaultMaxRoomNameLength
  let version := trimText hello.version
  ¬ (username.isEmpty || room.isEmpty || version.isEmpty) ∧ ¬ s.helloPasswordRefused hello ∧
    (∃ free, s.findFreeUsername username (some clientId) = some free) ∧
    ¬ (128 < version.utf8ByteSize || !framesFit)

theorem handleHelloForPeer_evolves (hs : Seats s) (clientId : String) (hello : ServerHelloCommand)
    (framesFit : Bool) (freshToken : String) :
    Evolves (presenceLabel (s.AdmitsHello clientId hello framesFit) clientId) s
      (handleHelloForPeer clientId hello framesFit freshToken) := by
  unfold handleHelloForPeer
  apply follows_get_bind
  dsimp only
  split
  · exact follows_throw _ _
  · next hfilled =>
    split
    · exact follows_quiet_bind rfl (follows_pure _ _)
    · next haccepted =>
      split
      · exact follows_throw _ _
      · next username husername =>
        split
        · exact follows_throw _ _
        · next hfits =>
          exact admitHello_evolves hs ⟨hfilled, haccepted, ⟨username, husername⟩, hfits⟩
            (findFreeUsername_some husername).1 hello freshToken

/-! ### Room switches -/

/-- A room that is refreshed leaves departures as they are. -/
theorem OnTheWayOut.refreshed (h : OnTheWayOut allowed clientId session s t) {room : String}
    {y : State} (hlabels : ∀ l, refreshLabel room l → allowed l)
    (hsteps : Relation.ReflTransGen (Steps (refreshLabel room)) t.ideal y) :
    Departing allowed clientId session.room s.ideal y ∧ Departed y clientId session := by
  have hdeparting : Relation.ReflTransGen
      (Steps fun l => departingLabel session.room l ∧ allowed l) t.ideal y := by
    apply Relation.ReflTransGen.mono (Steps.mono _) _ _ hsteps
    intro l hl
    refine ⟨?_, hlabels l hl⟩
    cases l <;> trivial
  obtain ⟨x₁, x₂, hfirst, hsecond, hthird⟩ := h.departing
  obtain ⟨hmarked, hwithdrawn⟩ := h.departed
  refine ⟨⟨x₁, x₂, hfirst, hsecond, hthird.trans hdeparting⟩, ?_, ?_⟩
  · apply marked_of_departing _ hmarked
    exact Relation.ReflTransGen.mono (Steps.mono fun l hl => hl.1) _ _ hdeparting
  · apply withdrawn_of_steps _ hsteps hwithdrawn
    intro l hl
    left
    cases l <;> first | exact id | exact hl.elim

theorem OnTheWayOut.moves (h : OnTheWayOut allowed clientId session s t) {newRoom : String}
    (hroom : session.room ≠ newRoom) {roster : BTreeMap String (BTreeMap String (Option Bool))}
    (hleft : Roster.leaveRoom t.roomRoster session.username session.room = .ok roster)
    (now : Seconds) (hlabels : ∀ l, refreshLabel newRoom l → allowed l)
    (hallowed : ∀ position, allowed (.move clientId session newRoom position)) :
    EvolvesTo allowed s (t.moveSession clientId session newRoom roster now) := by
  obtain ⟨hdeparting, hdeparted⟩ := h.refreshed hlabels
    (t.refreshedForMove_steps session newRoom roster now)
  have hkept : ((t.leftRoom session roster).readyForJoin newRoom now).sessions = t.sessions :=
    ((t.leftRoom session roster).quiet_readyForJoin newRoom now).same.sessions
  apply Relation.ReflTransGen.single
  apply Ideal.Move.move clientId session newRoom (t.movePosition session newRoom roster now) _
    hdeparting (hallowed _)
  refine ⟨⟨?_, hroom, hdeparted, ?_⟩, ideal_moveSession h.seats h.held hleft now⟩
  · show ((t.leftRoom session roster).readyForJoin newRoom now).sessions[clientId]? = some session
    rw [hkept]
    exact h.held
  · intro x hx hpaused
    unfold movePosition at hx
    split at hx
    · have hfound := (t.leftRoom session roster).joinPlayback_position newRoom now hpaused
      exact (Option.some.inj hx).symm.trans hfound
    · cases hx

theorem presence_allows (clientId room : String) :
    AllowsDeparture (presenceLabel leaving clientId) clientId room := by
  constructor <;> intro l hl <;> cases l <;> first | trivial | exact hl.1

theorem cohortLabel_keepsSessions (room : String) (l : Label) (h : cohortLabel room l) :
    ¬ l.movesSessions := by
  cases l <;> first | exact id | exact h.elim

theorem publishRoomSwitch_invisible (s : ServerRuntime) (clientId : String)
    (session : ServerSession) (playback : RoomPlaybackState) (readiness : Outbound)
    (carriedReady : Option Bool) :
    Invisible s (publishRoomSwitch clientId session playback readiness carriedReady) := by
  unfold publishRoomSwitch
  apply follows_bind (forcedStateSyncMessageForClient_invisible s clientId _ _ _ _)
  intro state t _
  exact follows_get_bind (follows_pure _ _)

theorem switchRoom_evolves (hs : Seats s) (hsession : s.sessions[clientId]? = some session)
    {newRoom : String} (hroom : session.room ≠ newRoom) (freshToken : String) :
    Evolves (presenceLabel leaving clientId) s (switchRoom clientId session newRoom freshToken) := by
  have hallows : AllowsDeparture (presenceLabel leaving clientId) clientId session.room :=
    presence_allows _ _
  obtain ⟨detached, t, barrier, u, buffering, v, hdetached, hbarrier, hbuffering, hout⟩ :=
    detachFirst_run hs hsession false id (fun _ => rfl) Quiet.refl hallows
  obtain ⟨roster, hleft, -⟩ := Roster.leaveRoom_of_flag <|
    (hout.seats.rostered session.room session.username).mpr ⟨clientId, session, hout.held, rfl, rfl⟩
  have hmoved := hout.moves hroom hleft v.currentTimeSeconds
    (fun l hl => (presence_of_refresh l hl).1) fun _ => rfl
  have hput : (v.moveSession clientId session newRoom roster
      v.currentTimeSeconds).sessions[clientId]? = some { session with room := newRoom } := by
    rw [(moveSession_moved hout.seats hout.held hleft _).sessions]
    exact Std.ExtTreeMap.getElem?_insert_self
  refine evolves_arrive (k := ?k) hmoved ?run ?rest
  case run =>
    unfold switchRoom
    rw [bind_of_ok hdetached]
    rw [id] at hbarrier
    rw [bind_of_ok hbarrier, bind_of_ok hbuffering, get_bind_run, hleft]
    dsimp only
    rw [modify_bind_run]
  case rest =>
    generalize v.moveSession clientId session newRoom roster v.currentTimeSeconds = moved at hput ⊢
    apply follows_bind (refreshMixedReadinessCohort_evolves moved session.room hallows.cohort)
    intro oldCohort w hcohort
    have hstill : w.sessions[clientId]? = some { session with room := newRoom } :=
      session_after (cohortLabel_keepsSessions session.room)
        (refreshMixedReadinessCohort_refines moved session.room) hcohort hput
    apply follows_bind
    · apply follows_when
      intro _
      exact attachReadinessMembership_evolves hstill _ _ _ _
    · intro attached x _
      apply follows_bind (refreshMixedReadinessCohort_evolves x newRoom presence_of_cohort)
      intro newCohort y _
      apply follows_quiet_bind rfl
      apply follows_modify_bind (cleanupRoomIfEmpty_evolves _ session.room hallows.discard)
      apply follows_bind (publishRoomSwitch_invisible _ _ _ _ _ _).evolves
      intro published z _
      apply follows_bind (refreshRoomBufferingParticipant_evolves z clientId)
      intro policy z' _
      exact follows_pure _ _

theorem setRoom_evolves (hs : Seats s) (hsession : s.sessions[clientId]? = some session)
    (roomName freshToken : String) :
    Evolves (presenceLabel leaving clientId) s (setRoom clientId session roomName freshToken) := by
  unfold setRoom
  dsimp only
  split
  · exact follows_pure _ _
  · next hroom => exact switchRoom_evolves hs hsession hroom freshToken

end Sorotte.Server
