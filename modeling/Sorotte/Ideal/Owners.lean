import Sorotte.Ideal.Commits
import Sorotte.Ideal.Transport

/-! # Pause owners

  A pause that a user owns is the strongest one: members come and go, media is
  buffered, prepared and committed around it, and only a user's own play, or a
  user who is ready again for the start that is preparing, ends it.  Whoever owns
  a pause, the room is paused.
-/

namespace Sorotte.Ideal

open Server

variable {s s' : State} {l : Label} {room r : String} {g : Gate} {holds : RoomPauseOwner → Prop}

/-! ### A user's pause -/

/-- The room is paused, and a user who counts owns the pause. -/
def UserHeld (holds : RoomPauseOwner → Prop) (s : State) (room : String) : Prop :=
  s.paused room = true ∧
    ∃ g, s.gate room = some g ∧ g.pauseOwner.isUser = true ∧ holds g.pauseOwner

/-- The label neither plays the room nor takes its pause for a start, or for a user who does not
    count. -/
def Label.spares (holds : RoomPauseOwner → Prop) (room : String) : Label → Prop
  | .play r _ | .rearm r _ => r ≠ room
  | .claim r actor => r = room → holds (.user actor)
  | _ => True

theorem UserHeld.congr (h : UserHeld holds s room) (hpaused : s'.paused room = s.paused room)
    (hgate : s'.gate room = s.gate room) : UserHeld holds s' room := by
  obtain ⟨hheld, g, hg, huser⟩ := h
  exact ⟨hpaused.trans hheld, g, hgate.trans hg, huser⟩

/-- Rewriting a coordinator under its owner. -/
theorem UserHeld.mapGate (h : UserHeld holds s room) (f : Gate → Gate)
    (hf : r = room → ∀ g, g.pauseOwner.isUser = true → (f g).pauseOwner = g.pauseOwner) :
    UserHeld holds (s.setGate r ((s.gate r).map f)) room := by
  obtain ⟨hheld, g, hg, huser⟩ := h
  by_cases hr : r = room
  · subst hr
    refine ⟨hheld, f g, ?_, ?_⟩
    · rw [State.setGate_self, hg, Option.map_some]
    · rw [hf rfl g huser.1]
      exact huser
  · refine ⟨hheld, g, ?_, huser⟩
    exact (Function.update_of_ne (fun h => hr h.symm) _ _).trans hg

theorem UserHeld.setOwner (h : UserHeld holds s room) (owner : RoomPauseOwner)
    (howner : r = room → owner.isUser = true ∧ holds owner) :
    UserHeld holds (s.setOwner r owner) room := by
  obtain ⟨hheld, g, hg, huser⟩ := h
  by_cases hr : r = room
  · subst hr
    refine ⟨hheld, g.withOwner owner, ?_, howner rfl⟩
    exact State.setGate_self .. |>.trans (by rw [hg, Option.map_some])
  · refine ⟨hheld, g, ?_, huser⟩
    exact (Function.update_of_ne (fun h => hr h.symm) _ _).trans hg

theorem UserHeld.setTransport (h : UserHeld holds s room) (paused : Bool) (position : Seconds)
    (hpaused : r = room → paused = true) :
    UserHeld holds (s.setTransport r paused position) room := by
  by_cases hr : r = room
  · subst hr
    obtain ⟨-, hgate⟩ := h
    exact ⟨(State.setTransport_paused_self ..).trans (hpaused rfl), hgate⟩
  · exact h.congr (Function.update_of_ne (fun h => hr h.symm) _ _) rfl

/-- An owner that is no user's is not the owner of a user's pause. -/
theorem UserHeld.not_owner (h : UserHeld holds s room)
    (hother : ∀ g, s.gate room = some g → g.pauseOwner.isUser = false) : False := by
  obtain ⟨-, g, hg, huser, -⟩ := h
  rw [hother g hg] at huser
  cases huser

theorem UserHeld.not_playing (h : UserHeld holds s room) : s.paused room ≠ false := by
  rw [h.1]
  decide

/-- A coordinator that a user holds lets no start commit. -/
theorem UserHeld.not_commits (h : UserHeld holds s room) (hgates : GatesSound s)
    {snapshot : CommitSnapshot} (hlawful : LawfulCommit s room snapshot) : False := by
  obtain ⟨-, g, hg, huser, -⟩ := h
  have hcoordinator := hlawful.coordinator
  rw [hg] at hcoordinator
  obtain ⟨coordinator, hread, hsame⟩ := Option.map_eq_some_iff.mp hcoordinator
  have howner := (hlawful.governed (hgates room g hg).1 coordinator hread).owner
  obtain ⟨-, howns⟩ := Prod.mk.inj hsame
  rw [← howns, howner] at huser
  cases huser

/-- A move guarded by an owner that is no user's is in another room. -/
theorem UserHeld.other_owner (h : UserHeld holds s room)
    (hother : ∀ g, s.gate r = some g → g.pauseOwner.isUser = false) : r ≠ room := by
  rintro rfl
  exact h.not_owner hother

/-- Another room that plays again and loses its owner. -/
theorem UserHeld.playOther (h : UserHeld holds s room) (hr : r ≠ room) (position : Seconds) :
    UserHeld holds ((s.setTransport r false position).setOwner r .none) room :=
  (h.setTransport false position fun hsame => absurd hsame hr).setOwner .none
    fun hsame => absurd hsame hr

/-- A coordinator that takes the place of one and keeps its user's pause. -/
theorem UserHeld.setGate (h : UserHeld holds s room) (g' : Gate)
    (hkeeps : ∀ g, s.gate r = some g → g'.pauseOwner = g.pauseOwner) :
    UserHeld holds (s.setGate r (some g')) room := by
  obtain ⟨hheld, g, hg, huser⟩ := h
  by_cases hr : room = r
  · subst hr
    refine ⟨hheld, g', State.setGate_self .., ?_⟩
    rw [hkeeps g hg]
    exact huser
  · exact ⟨hheld, g, (Function.update_of_ne hr _ _).trans hg, huser⟩

/-! ### Each kind of move under a user's pause -/

/-- A start that begins pauses its room and leaves a user's pause to the user. -/
theorem UserHeld.prepare (h : UserHeld holds s room) (b : RoomPlaybackBarrier) :
    UserHeld holds (effect s (.prepare r b)) room := by
  have hmoved : UserHeld holds ((((({ s with generation := b.prepare.mediaGeneration } : State
      ).record [.prepareAccepted r b.prepare.requestId b.prepare.mediaGeneration s.now]).setPolicy r
        (s.policyForStart r b.prepare.mediaGeneration)).setBarrier r (some b)).setTransport r true
          b.prepare.targetPosition) room := by
    apply UserHeld.setTransport
    · exact h.congr rfl rfl
    · exact fun _ => rfl
  simp only [effect, State.beginGeneration]
  split
  · apply hmoved.mapGate
    exact fun _ g huser => if_pos huser
  · exact hmoved

/-- A commit is in another room: it needs the start gate to own the pause. -/
theorem UserHeld.commit (h : UserHeld holds s room) (hgates : GatesSound s)
    {snapshot : CommitSnapshot} {b' : RoomPlaybackBarrier} (hlawful : LawfulCommit s r snapshot) :
    UserHeld holds (effect s (.commit r snapshot b')) room := by
  have hother : r ≠ room := by
    rintro rfl
    exact h.not_commits hgates hlawful
  have hmoved : UserHeld holds (((({ s with revision := s.revision + 1 } : State).record
      [.committed r snapshot]).setBarrier r (some b')).setTransport r false
        snapshot.barrier.prepare.targetPosition) room := by
    apply UserHeld.setTransport
    · exact h.congr rfl rfl
    · exact fun hr => absurd hr hother
  simp only [effect]
  split
  · exact hmoved.setOwner .none fun hr => absurd hr hother
  · exact hmoved

/-- A selection retires the coordinator's generation and pauses the room at its start. -/
theorem UserHeld.select (h : UserHeld holds s room) :
    UserHeld holds (effect s (.select r)) room := by
  have hended : UserHeld holds (s.endGeneration r) room := by
    apply h.mapGate
    exact fun _ g huser => if_pos huser
  exact hended.setTransport true 0 fun _ => rfl

/-- A policy pauses rooms that play. -/
theorem UserHeld.hold (h : UserHeld holds s room) (hplays : s.paused r = false) (position : Seconds)
    (owner : RoomPauseOwner) : UserHeld holds (effect s (.hold r position owner)) room := by
  have hother : r ≠ room := by
    rintro rfl
    exact h.not_playing hplays
  have hmarked : UserHeld holds (s.setPolicy r ((s.policy r).map (·.withPause true))) room :=
    h.congr rfl rfl
  exact (hmarked.setTransport true position fun _ => rfl).setOwner owner
    fun hr => absurd hr hother

/-- A user pauses rooms that play. -/
theorem UserHeld.pause (h : UserHeld holds s room) (hplays : s.paused r = false) (position : Seconds)
    (actor : String) : UserHeld holds (effect s (.pause r actor position)) room := by
  have hother : r ≠ room := by
    rintro rfl
    exact h.not_playing hplays
  exact (h.setTransport true position fun _ => rfl).setOwner _ fun hr => absurd hr hother

/-- A room that is discarded is paused. -/
theorem UserHeld.discard (h : UserHeld holds s room) :
    UserHeld holds (effect s (.discard r)) room := by
  obtain ⟨hheld, hgate⟩ := h
  refine ⟨?_, hgate⟩
  by_cases hr : room = r
  · subst hr
    exact Function.update_self ..
  · exact (Function.update_of_ne hr _ _).trans hheld

/-- **A user's pause holds** through whatever spares it, as long as the room has its
    coordinator. -/
theorem UserHeld.step (h : UserHeld holds s room) (hgates : GatesSound s) (hguard : guard s l)
    (hspares : l.spares holds room) (hdissolve : l ≠ .dissolve room) :
    UserHeld holds (effect s l) room := by
  cases l with
  | play r position => exact h.playOther hspares position
  | rearm r b => exact h.setOwner _ fun hr => absurd hr hspares
  -- recovery and a policy play rooms whose pause they own themselves
  | recover r position =>
    have hother : r ≠ room := h.other_owner fun g hg => by rw [hguard.2 g hg]; rfl
    exact h.playOther hother position
  | resume r position =>
    have hother : r ≠ room := by
      apply h.other_owner
      intro g hg
      obtain ⟨generation, revision, howner⟩ := hguard.2 g hg
      rw [howner]
      rfl
    have hrelaxed : UserHeld holds (s.relax r) room := h.congr rfl rfl
    exact hrelaxed.playOther hother position
  | hold r position owner => exact h.hold hguard.1 position owner
  | commit r snapshot b' => exact h.commit hgates hguard.1
  | prepare r b => exact h.prepare b
  | select r => exact h.select
  | discard r => exact h.discard
  -- owners change hands only where no user owns the pause, or to a user
  | pause r actor position => exact h.pause hguard position actor
  | claim r actor => exact h.setOwner _ fun hr => ⟨rfl, hspares hr⟩
  | arm r b =>
    apply h.setOwner
    rintro rfl
    exact (h.not_owner hguard.2.2).elim
  | release r =>
    apply h.setOwner
    rintro rfl
    exact (h.not_owner hguard).elim
  | selectOwner r =>
    apply h.setOwner
    rintro rfl
    exact (h.not_owner hguard.1).elim
  | disown r =>
    apply h.setOwner
    rintro rfl
    exact (h.not_playing hguard).elim
  | automatic r owner =>
    apply h.setOwner
    rintro rfl
    obtain ⟨-, g, hg, huser⟩ := h
    rcases hguard.2 g hg with hnone | hsame
    · rw [hnone] at huser
      cases huser.1
    · rwa [← hsame]
  | place r paused position =>
    apply h.setTransport
    rintro rfl
    by_contra hplays
    exact h.not_playing (hguard.2 (Bool.eq_false_iff.mpr hplays))
  -- records and cohorts are kept under whoever owns the pause
  | records r g₀ g' =>
    apply h.setGate
    intro g hg
    rw [hguard.2.2.1, Option.some.inj (hguard.1.symm.trans hg)]
  | reconcile r g₀ g' b' =>
    have hmembers : UserHeld holds (s.setGate r (some g')) room := by
      apply h.setGate
      intro g hg
      rw [hguard.2.1.2.1, Option.some.inj (hguard.1.symm.trans hg)]
    exact hmembers.congr rfl rfl
  | enroll r username member generation =>
    apply h.setGate
    intro g hg
    rw [hg]
    rfl
  | follow r generation source => exact h.mapGate _ fun _ _ _ => rfl
  | withdraw r username => exact h.mapGate _ fun _ _ _ => rfl
  | dissolve r =>
    have hr : room ≠ r := fun hr => hdissolve (by rw [hr])
    exact h.congr rfl (Function.update_of_ne hr _ _)
  | _ => exact h.congr rfl rfl

/-- A user's pause over a run: it holds, unless the room lost its coordinator. -/
theorem userHeld_of_steps {allowed : Label → Prop}
    (hsteps : Relation.ReflTransGen (Steps allowed) s s')
    (hallowed : ∀ l, allowed l → l.spares holds room)
    (hgates : GatesSound s) (h : UserHeld holds s room) :
    GatesSound s' ∧ ∃ newer, s'.history = newer ++ s.history ∧
      (.coordinatorRemoved room ∉ newer → UserHeld holds s' room) := by
  induction hsteps with
  | refl => exact ⟨hgates, [], rfl, fun _ => h⟩
  | @tail t u _ hlast ih =>
    obtain ⟨hsound, newer, hhistory, hheld⟩ := ih
    obtain ⟨l, hl, hguard, rfl⟩ := hlast
    refine ⟨hsound.step hguard, events t l ++ newer, ?_, fun hkept => ?_⟩
    · rw [effect_history, hhistory, List.append_assoc]
    · have hdissolve : l ≠ .dissolve room := by
        rintro rfl
        exact hkept (List.mem_append_left _ List.mem_cons_self)
      exact (hheld fun hmem => hkept (List.mem_append_right _ hmem)).step hsound hguard
        (hallowed l hl) hdissolve

/-! ### Every owner's pause -/

/-- **Invariant**: a room whose pause has an owner that counts is paused. -/
def OwnedPaused (counts : String → RoomPauseOwner → Prop) (s : State) : Prop :=
  ∀ room g, s.gate room = some g → counts room g.pauseOwner → s.paused room = true

/-- The label does not claim the pause of a room that may be playing. -/
def Label.claimsPaused (counts : String → RoomPauseOwner → Prop) (s : State) : Label → Prop
  | .selectOwner r => counts r .endOfPlaylist → s.paused r = true ∨ s.gate r = none
  | _ => True

variable {counts : String → RoomPauseOwner → Prop}

theorem Label.claimsPaused_of_uncounted
    (h : ∀ r, l = .selectOwner r → ¬ counts r .endOfPlaylist) : l.claimsPaused counts s := by
  cases l with
  | selectOwner r => exact fun hcounts => absurd hcounts (h r rfl)
  | _ => trivial

theorem OwnedPaused.congr (h : OwnedPaused counts s) (hpaused : s'.paused = s.paused)
    (hgate : s'.gate = s.gate) : OwnedPaused counts s' := by
  intro room g hg howner
  rw [hgate] at hg
  rw [hpaused]
  exact h room g hg howner

theorem OwnedPaused.setGate (h : OwnedPaused counts s) (r : String) (written : Option Gate)
    (hwritten : ∀ g, written = some g → counts r g.pauseOwner → s.paused r = true) :
    OwnedPaused counts (s.setGate r written) := by
  intro room g hg howner
  by_cases hr : room = r
  · subst hr
    rw [State.setGate_self] at hg
    exact hwritten g hg howner
  · have hkept : (s.setGate r written).gate room = s.gate room := Function.update_of_ne hr _ _
    exact h room g (hkept ▸ hg) howner

/-- Rewriting a coordinator: it owns no pause it did not own, or the room is paused. -/
theorem OwnedPaused.mapGate (h : OwnedPaused counts s) (r : String) (f : Gate → Gate)
    (hf : ∀ g, s.gate r = some g → counts r (f g).pauseOwner →
      counts r g.pauseOwner ∨ s.paused r = true) :
    OwnedPaused counts (s.setGate r ((s.gate r).map f)) := by
  apply h.setGate
  intro g hg howner
  obtain ⟨held, hheld, rfl⟩ := Option.map_eq_some_iff.mp hg
  rcases hf held hheld howner with howned | hpaused
  · exact h r held hheld howned
  · exact hpaused

theorem OwnedPaused.setOwner (h : OwnedPaused counts s) (r : String) (owner : RoomPauseOwner)
    (howner : counts r owner → s.paused r = true) : OwnedPaused counts (s.setOwner r owner) :=
  h.mapGate r _ fun _ _ howned => .inr (howner howned)

/-- A room that pauses may have any owner. -/
theorem OwnedPaused.pauses (h : OwnedPaused counts s) (r : String) (position : Seconds) :
    OwnedPaused counts (s.setTransport r true position) := by
  intro room g hg howner
  by_cases hr : room = r
  · subst hr
    exact State.setTransport_paused_self ..
  · exact (Function.update_of_ne hr _ _).trans (h room g hg howner)

/-- A room that plays and whose pause nobody owns. -/
theorem OwnedPaused.plays (h : OwnedPaused counts s) (hnone : ∀ r, ¬ counts r .none) (r : String)
    (position : Seconds) :
    OwnedPaused counts ((s.setTransport r false position).setOwner r .none) := by
  intro room g hg howner
  by_cases hr : room = r
  · subst hr
    have hgate : ((s.setTransport room false position).setOwner room .none).gate room =
        (s.gate room).map (·.withOwner .none) := Function.update_self ..
    rw [hgate] at hg
    obtain ⟨held, -, rfl⟩ := Option.map_eq_some_iff.mp hg
    exact absurd howner (hnone room)
  · have hgate : ((s.setTransport r false position).setOwner r .none).gate room = s.gate room :=
      Function.update_of_ne hr _ _
    rw [hgate] at hg
    exact (Function.update_of_ne hr _ _).trans (h room g hg howner)

/-- A commit that leaves a coordinator its owner finds no coordinator. -/
theorem gate_of_silent_commit {snapshot : CommitSnapshot} (hgates : GatesSound s)
    (hlawful : LawfulCommit s room snapshot)
    (hsilent : ¬ snapshot.payload.readinessRevision.isSome = true) : s.gate room = none := by
  cases hg : s.gate room with
  | none => rfl
  | some g =>
    have hcoordinator := hlawful.coordinator
    rw [hg] at hcoordinator
    obtain ⟨coordinator, hread, -⟩ := Option.map_eq_some_iff.mp hcoordinator
    have hrevision := (hlawful.governed (hgates room g hg).1 coordinator hread).revision
    rw [hrevision] at hsilent
    exact absurd rfl hsilent

theorem OwnedPaused.step (h : OwnedPaused counts s) (hnone : ∀ r, ¬ counts r .none)
    (hgates : GatesSound s) (hfreezes : Freezes s) (hguard : guard s l)
    (hclaims : l.claimsPaused counts s) : OwnedPaused counts (effect s l) := by
  cases l with
  | selectOwner r =>
    apply h.mapGate r
    intro g hg howner
    rcases hclaims howner with hpaused | hgone
    · exact .inr hpaused
    · rw [hgone] at hg
      cases hg
  | play r position | recover r position => exact h.plays hnone r position
  | resume r position =>
    have hrelaxed : OwnedPaused counts (s.relax r) := h.congr rfl rfl
    exact hrelaxed.plays hnone r position
  | hold r position owner =>
    have hmarked : OwnedPaused counts (s.setPolicy r ((s.policy r).map (·.withPause true))) :=
      h.congr rfl rfl
    exact (hmarked.pauses r position).setOwner r owner
      fun _ => State.setTransport_paused_self ..
  | commit r snapshot b' =>
    have hrecorded : OwnedPaused counts ((({ s with revision := s.revision + 1 } : State).record
        [.committed r snapshot]).setBarrier r (some b')) := h.congr rfl rfl
    simp only [effect]
    split
    · exact hrecorded.plays hnone r _
    · next hsilent =>
      have hnone := gate_of_silent_commit hgates hguard.1 hsilent
      intro room g hg howner
      have hgate : s.gate room = some g := hg
      by_cases hr : room = r
      · subst hr
        rw [hnone] at hgate
        cases hgate
      · exact (Function.update_of_ne hr _ _).trans (h room g hgate howner)
  | prepare r b =>
    have hmoved : OwnedPaused counts ((((({ s with generation := b.prepare.mediaGeneration } : State
        ).record [.prepareAccepted r b.prepare.requestId b.prepare.mediaGeneration s.now]
          ).setPolicy r (s.policyForStart r b.prepare.mediaGeneration)).setBarrier r (some b)
            ).setTransport r true b.prepare.targetPosition) := by
      apply OwnedPaused.pauses
      exact h.congr rfl rfl
    simp only [effect, State.beginGeneration]
    split
    · exact hmoved.mapGate r _ fun _ _ _ => .inr (State.setTransport_paused_self ..)
    · exact hmoved
  | select r =>
    intro room g hg howner
    have hmapped : (s.endGeneration r).gate room = some g := hg
    by_cases hr : room = r
    · subst hr
      exact State.setTransport_paused_self ..
    · have hgate : (s.endGeneration r).gate room = s.gate room := Function.update_of_ne hr _ _
      rw [hgate] at hmapped
      exact (Function.update_of_ne hr _ _).trans (h room g hmapped howner)
  | place r paused position =>
    cases paused with
    | true => exact h.pauses r position
    | false =>
      have hplays := hguard.2 rfl
      intro room g hg howner
      have hpaused := h room g hg howner
      by_cases hr : room = r
      · subst hr
        rw [hplays] at hpaused
        cases hpaused
      · exact (Function.update_of_ne hr _ _).trans hpaused
  | discard r =>
    intro room g hg howner
    by_cases hr : room = r
    · subst hr
      exact Function.update_self ..
    · exact (Function.update_of_ne hr _ _).trans (h room g hg howner)
  | pause r actor position =>
    exact (h.pauses r position).setOwner r _ fun _ => State.setTransport_paused_self ..
  | claim r actor => exact h.setOwner r _ fun _ => hguard
  -- whoever arms a start finds its room frozen
  | arm r b => exact h.setOwner r _ fun _ => (hfreezes r b hguard.1 hguard.2.1).paused
  | rearm r b => exact h.setOwner r _ fun _ => (hfreezes r b hguard.1 hguard.2).paused
  | release r | disown r => exact h.setOwner r _ fun howner => absurd howner (hnone r)
  | automatic r owner => exact h.setOwner r _ fun _ => hguard.1
  | records r g g' =>
    apply h.setGate
    intro g₀ hg₀ howner
    obtain rfl := Option.some.inj hg₀
    rw [hguard.2.2.1] at howner
    exact h r g hguard.1 howner
  | reconcile r g g' b' =>
    have hwritten : OwnedPaused counts (s.setGate r (some g')) := by
      apply h.setGate
      intro g₀ hg₀ howner
      obtain rfl := Option.some.inj hg₀
      rw [hguard.2.1.2.1] at howner
      exact h r g hguard.1 howner
    exact hwritten.congr rfl rfl
  | enroll r username member generation =>
    apply h.setGate
    intro g₀ hg₀ howner
    obtain rfl := Option.some.inj hg₀
    cases hg : s.gate r with
    | none =>
      rw [hg] at howner
      exact absurd howner (hnone r)
    | some g =>
      rw [hg] at howner
      exact h r g hg howner
  | follow r generation source => exact h.mapGate r _ fun _ _ howner => .inl howner
  | withdraw r username => exact h.mapGate r _ fun _ _ howner => .inl howner
  | dissolve r =>
    have hgone : OwnedPaused counts (s.setGate r none) := h.setGate r none (by simp)
    exact hgone.congr rfl rfl
  | _ => exact h.congr rfl rfl

/-- What keeps owned rooms paused, all at once. -/
structure OwnersSound (counts : String → RoomPauseOwner → Prop) (s : State) : Prop where
  gates : GatesSound s
  freezes : Freezes s
  owned : OwnedPaused counts s

theorem OwnersSound.step (h : OwnersSound counts s) (hnone : ∀ r, ¬ counts r .none)
    (hguard : guard s l) (hclaims : l.claimsPaused counts s) :
    OwnersSound counts (effect s l) where
  gates := h.gates.step hguard
  freezes := h.freezes.step hguard
  owned := h.owned.step hnone h.gates h.freezes hguard hclaims

theorem Initial.ownersSound (h : Initial s) : OwnersSound counts s where
  gates := h.gatesSound
  freezes := h.freezes
  owned room g hg := by
    rw [h.gate room] at hg
    cases hg

end Sorotte.Ideal
