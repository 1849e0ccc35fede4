import Sorotte.Resources.Permits

/-! # Permits account exactly

  `World.Accounts` says what every counter stands for: the owners that are
  alive.  Each operation on the counters has one lemma that says what it does
  and needs no more than the counters it reads; `accounts_step` puts them
  together, and a run is a sequence of steps.
-/

namespace Sorotte.Resources

open Sorotte.Framework Sorotte.Framework.Prog

/-! ### Lists with one place singled out -/

/-- A list around one of its places, with that place erased and replaced. -/
theorem split_at {α : Type} {l : List α} {i : Nat} {a : α} (h : l[i]? = some a) :
    ∃ front back, l = front ++ a :: back ∧ l.eraseIdx i = front ++ back
      ∧ ∀ b, l.set i b = front ++ b :: back := by
  obtain ⟨hi, ha⟩ := List.getElem?_eq_some_iff.mp h
  refine ⟨l.take i, l.drop (i + 1), ?_, List.eraseIdx_eq_take_drop_succ l i, fun b => ?_⟩
  · have hdrop := List.drop_eq_getElem_cons hi
    rw [ha] at hdrop
    rw [← hdrop, List.take_append_drop]
  · rw [List.set_eq_take_append_cons_drop, if_pos hi]

/-- Replacing one value of a list of counters moves its sum by the difference. -/
theorem sum_set {l : List Nat} {i value : Nat} (h : l[i]? = some value) (next : Nat) :
    (l.set i next).sum + value = l.sum + next := by
  obtain ⟨front, back, hl, -, hset⟩ := split_at h
  rw [hset, hl]
  simp only [List.sum_append, List.sum_cons]
  omega

theorem le_sum_of_getElem? {l : List Nat} {i value : Nat} (h : l[i]? = some value) :
    value ≤ l.sum :=
  List.single_le_sum (fun _ _ => Nat.zero_le _) _ (List.mem_of_getElem? h)

/-! ### What the counters stand for -/

/-- A bucket is there when somebody is in it. -/
def bucketOf (count : Nat) : Option Nat := if count = 0 then none else some count

/-- The bytes charged to one peer by the reservations that are alive. -/
def charged (reservations : List ByteReservation) (peer : Nat) : Nat :=
  (reservations.map fun reservation =>
    if reservation.budget = peer then reservation.bytes else 0).sum

/-- The connections counted under an address. -/
def countAt (connections : List Connection) (address : IpAddr) : Nat :=
  connections.countP fun connection => connection.address.bucket = address

/-- Every counter is the number of owners that are alive, within its limit. -/
structure World.Accounts (limits : ServerResourceLimits) (w : World) : Prop where
  configured : w.counters.limits = limits
  active : w.counters.admission.active = w.connections.length
  unauthenticated : w.counters.admission.unauthenticated =
    w.connections.countP (·.permit.isUnauthenticated)
  addresses : ∀ address : IpAddr, w.counters.admission.addresses[address]? =
    bucketOf (countAt w.connections address)
  permits : ∀ connection ∈ w.connections,
    connection.permit.address = connection.address.bucket
  peers : ∀ peer < w.counters.peers.length,
    w.counters.peers[peer]? = some (charged w.reservations peer)
  budgets : ∀ reservation ∈ w.reservations, reservation.budget < w.counters.peers.length
  total : w.counters.bytes = w.counters.peers.sum
  activeLimit : w.counters.admission.active ≤ limits.activeConnections
  unauthenticatedLimit :
    w.counters.admission.unauthenticated ≤ limits.unauthenticatedConnections
  addressLimit : ∀ address : IpAddr,
    countAt w.connections address ≤ limits.connectionsPerAddress
  peerLimit : ∀ peer < w.counters.peers.length,
    charged w.reservations peer ≤ limits.queuedBytesPerPeer
  totalLimit : w.counters.bytes ≤ limits.queuedBytesTotal

/-! ### The lists of owners -/

@[simp] theorem charged_append (front back : List ByteReservation) (peer : Nat) :
    charged (front ++ back) peer = charged front peer + charged back peer := by
  simp [charged]

@[simp] theorem charged_cons (reservation : ByteReservation) (rest : List ByteReservation)
    (peer : Nat) :
    charged (reservation :: rest) peer =
      (if reservation.budget = peer then reservation.bytes else 0) + charged rest peer := by
  simp [charged]

@[simp] theorem charged_nil (peer : Nat) : charged [] peer = 0 := rfl

@[simp] theorem countAt_append (front back : List Connection) (address : IpAddr) :
    countAt (front ++ back) address = countAt front address + countAt back address := by
  simp [countAt]

@[simp] theorem countAt_cons (connection : Connection) (rest : List Connection)
    (address : IpAddr) :
    countAt (connection :: rest) address =
      countAt rest address + if connection.address.bucket = address then 1 else 0 := by
  simp [countAt, List.countP_cons]

@[simp] theorem countAt_nil (address : IpAddr) : countAt [] address = 0 := rfl

theorem getD_bucketOf (count : Nat) : (bucketOf count).getD 0 = count := by
  unfold bucketOf
  split
  · next h => exact h.symm
  · rfl

/-! ### Checked arithmetic -/

theorem increment_run {value : Nat} {s : Counters} (h : value < u64Max) :
    increment value s = (.ok (value + 1), s) := by
  have hfits : value + 1 ≤ u64Max := h
  rw [increment, if_pos hfits]
  rfl

theorem subtract_run {value amount : Nat} {s : Counters} (h : amount ≤ value) :
    subtract value amount s = (.ok (value - amount), s) := by
  rw [subtract, if_pos h]
  rfl

/-! ### What each operation does to the counters -/

/-- There is room for one more connection from an address. -/
def Counters.Room (s : Counters) (address : IpAddr) : Prop :=
  s.admission.active < s.limits.activeConnections
    ∧ s.admission.unauthenticated < s.limits.unauthenticatedConnections
    ∧ s.admission.addresses.getD address.bucket 0 < s.limits.connectionsPerAddress

theorem admit_run (s : Counters) (address : IpAddr) :
    (∃ rejected, admitConnection address s =
        (.ok none, s.setAdmission { s.admission with rejected }))
      ∨ (s.Room address ∧ admitConnection address s =
        (.ok (some { address := address.bucket, isUnauthenticated := true }),
          s.setAdmission
            { s.admission with
              active := s.admission.active + 1
              unauthenticated := s.admission.unauthenticated + 1
              addresses := s.admission.addresses.insert address.bucket
                (s.admission.addresses.getD address.bucket 0 + 1) })) := by
  unfold admitConnection
  rw [get_bind_run]
  split
  · exact .inl ⟨_, rfl⟩
  · next hroom =>
    simp only [not_or, not_le] at hroom
    obtain ⟨hactive, hunauthenticated, hcount⟩ := hroom
    obtain ⟨ha, hu, hc, -, -⟩ := s.limits.fits
    refine .inr ⟨⟨hactive, hunauthenticated, hcount⟩, ?_⟩
    rw [bind_of_ok (increment_run (lt_of_lt_of_le hactive ha)),
      bind_of_ok (increment_run (lt_of_lt_of_le hunauthenticated hu)),
      bind_of_ok (increment_run (lt_of_lt_of_le hcount hc))]
    rfl

theorem authenticated_run {s : Counters} {permit : ConnectionPermit}
    (h : permit.isUnauthenticated = true → 0 < s.admission.unauthenticated) :
    permit.authenticated s =
      (.ok { permit with isUnauthenticated := false },
        s.setAdmission
          { s.admission with
            unauthenticated :=
              s.admission.unauthenticated - if permit.isUnauthenticated then 1 else 0 }) := by
  unfold ConnectionPermit.authenticated
  split
  · next hpermit =>
    rw [get_bind_run, bind_of_ok (subtract_run (h hpermit))]
    rfl
  · next hpermit =>
    obtain ⟨address, flag⟩ := permit
    cases flag with
    | true => exact absurd rfl hpermit
    | false => rfl

theorem drop_run {s : Counters} {permit : ConnectionPermit} {held : Nat}
    (hactive : 0 < s.admission.active)
    (hunauthenticated : permit.isUnauthenticated = true → 0 < s.admission.unauthenticated)
    (hheld : s.admission.addresses[permit.address]? = some held) (hpos : 0 < held) :
    permit.drop s =
      (.ok (), s.setAdmission
        { s.admission with
          active := s.admission.active - 1
          unauthenticated :=
            s.admission.unauthenticated - if permit.isUnauthenticated then 1 else 0
          addresses :=
            if held - 1 = 0 then s.admission.addresses.erase permit.address
            else s.admission.addresses.insert permit.address (held - 1) }) := by
  unfold ConnectionPermit.drop
  rw [get_bind_run, bind_of_ok (subtract_run hactive)]
  split
  · next hpermit =>
    rw [bind_of_ok (subtract_run (hunauthenticated hpermit))]
    dsimp only
    rw [hheld]
    dsimp only
    rw [bind_of_ok (subtract_run hpos)]
    rfl
  · next hpermit =>
    rw [pure_bind_run]
    dsimp only
    rw [hheld]
    dsimp only
    rw [bind_of_ok (subtract_run hpos)]
    rfl

theorem fetchSubPeer_run {s : Counters} {peer amount : Nat} (h : amount ≤ s.peer peer) :
    fetchSubPeer peer amount s = (.ok (), s.setPeer peer (s.peer peer - amount)) := by
  unfold fetchSubPeer
  rw [get_bind_run, bind_of_ok (subtract_run h)]
  rfl

theorem fetchSubTotal_run {s : Counters} {amount : Nat} (h : amount ≤ s.bytes) :
    fetchSubTotal amount s = (.ok (), s.setBytes (s.bytes - amount)) := by
  unfold fetchSubTotal
  rw [get_bind_run, bind_of_ok (subtract_run h)]
  rfl

theorem release_run {s : Counters} {peer amount : Nat} (hpeer : amount ≤ s.peer peer)
    (htotal : amount ≤ s.bytes) :
    (do fetchSubPeer peer amount; fetchSubTotal amount : ResourceM Unit) s =
      (.ok (), (s.setPeer peer (s.peer peer - amount)).setBytes (s.bytes - amount)) := by
  rw [bind_of_ok (fetchSubPeer_run hpeer)]
  exact fetchSubTotal_run htotal

/-- The counters with more bytes charged to a peer. -/
def Counters.grow (s : Counters) (peer amount : Nat) : Counters :=
  { (s.setPeer peer (s.peer peer + amount)).setBytes (s.bytes + amount) with
    peakBytes := max s.peakBytes (s.bytes + amount) }

theorem setPeer_setPeer (s : Counters) (peer value next : Nat) :
    (s.setPeer peer value).setPeer peer next = s.setPeer peer next := by
  simp [Counters.setPeer]

theorem setPeer_self (s : Counters) {peer : Nat} (h : peer < s.peers.length) :
    s.setPeer peer (s.peer peer) = s := by
  have hpeer : s.peer peer = s.peers[peer] := by simp [Counters.peer, h]
  rw [hpeer, Counters.setPeer, List.set_getElem_self]

theorem peer_setPeer (s : Counters) {peer : Nat} (h : peer < s.peers.length) (value : Nat) :
    (s.setPeer peer value).peer peer = value := by
  simp [Counters.peer, Counters.setPeer, h]

theorem reserveCounter_some {value amount limit next : Nat}
    (h : reserveCounter value amount limit = some next) :
    next = value + amount ∧ value + amount ≤ limit := by
  unfold reserveCounter at h
  split at h
  · next hfits => exact ⟨(Option.some.inj h).symm, hfits.2⟩
  · cases h

/-- A reservation is granted within both limits, or changes nothing: what the
    peer's counter took before the global one refused is given back. -/
theorem reserve_run {s : Counters} {peer : Nat} (h : peer < s.peers.length) (bytes : Nat) :
    reserve peer bytes s = (.ok none, s)
      ∨ (s.peer peer + bytes ≤ s.limits.queuedBytesPerPeer
        ∧ s.bytes + bytes ≤ s.limits.queuedBytesTotal
        ∧ reserve peer bytes s = (.ok (some { budget := peer, bytes }), s.grow peer bytes)) := by
  unfold reserve
  rw [get_bind_run]
  cases hcharged : reserveCounter (s.peer peer) bytes s.limits.queuedBytesPerPeer with
  | none => exact .inl rfl
  | some charged =>
    obtain ⟨rfl, hpeer⟩ := reserveCounter_some hcharged
    dsimp only
    rw [modify_bind_run]
    cases htotal : reserveCounter s.bytes bytes s.limits.queuedBytesTotal with
    | none =>
      left
      have hback : bytes ≤ (s.setPeer peer (s.peer peer + bytes)).peer peer := by
        rw [peer_setPeer s h]
        omega
      dsimp only
      rw [bind_of_ok (fetchSubPeer_run hback), setPeer_setPeer, peer_setPeer s h,
        Nat.add_sub_cancel, setPeer_self s h]
      rfl
    | some total =>
      obtain ⟨rfl, hbytes⟩ := reserveCounter_some htotal
      exact .inr ⟨hpeer, hbytes, rfl⟩

theorem dropReservation_run {s : Counters} {reservation : ByteReservation}
    (hpeer : reservation.bytes ≤ s.peer reservation.budget)
    (htotal : reservation.bytes ≤ s.bytes) :
    reservation.drop s =
      (.ok (), (s.setPeer reservation.budget (s.peer reservation.budget - reservation.bytes)
        ).setBytes (s.bytes - reservation.bytes)) :=
  release_run hpeer htotal

/-- The bytes that growth transferred are not given back with the growth. -/
theorem drop_nothing {s : Counters} {peer : Nat} (h : peer < s.peers.length) :
    ({ budget := peer, bytes := 0 } : ByteReservation).drop s = (.ok (), s) := by
  rw [dropReservation_run (Nat.zero_le _) (Nat.zero_le _)]
  rw [Nat.sub_zero, Nat.sub_zero, setPeer_self s h]
  rfl

theorem resize_run {s : Counters} {reservation : ByteReservation} (bytes : Nat)
    (h : reservation.budget < s.peers.length)
    (hpeer : reservation.bytes ≤ s.peer reservation.budget)
    (htotal : reservation.bytes ≤ s.bytes) :
    reservation.resize bytes s = (.ok (false, reservation), s)
      ∨ (∃ s', reservation.resize bytes s = (.ok (true, { reservation with bytes }), s')
        ∧ s'.toNetworkResources.admission = s.admission
        ∧ s'.limits = s.limits
        ∧ s'.peers = s.peers.set reservation.budget
            (s.peer reservation.budget - reservation.bytes + bytes)
        ∧ s'.bytes = s.bytes - reservation.bytes + bytes
        ∧ (reservation.bytes < bytes →
            s.peer reservation.budget - reservation.bytes + bytes ≤ s.limits.queuedBytesPerPeer
              ∧ s.bytes - reservation.bytes + bytes ≤ s.limits.queuedBytesTotal)) := by
  unfold ByteReservation.resize
  cases horder : compare bytes reservation.bytes with
  | gt =>
    have hlt : reservation.bytes < bytes := Nat.compare_eq_gt.mp horder
    dsimp only
    rcases reserve_run h (bytes - reservation.bytes) with hrefused | ⟨hp, hb, hgranted⟩
    · exact .inl (by rw [bind_of_ok hrefused]; rfl)
    · right
      have hlength : reservation.budget <
          (s.grow reservation.budget (bytes - reservation.bytes)).peers.length := by
        simpa [Counters.grow, Counters.setBytes, Counters.setPeer] using h
      refine ⟨s.grow reservation.budget (bytes - reservation.bytes), ?_, rfl, rfl, ?_, ?_, ?_⟩
      · rw [bind_of_ok hgranted]
        exact (bind_of_ok (drop_nothing hlength)).trans rfl
      · show s.peers.set _ (s.peer reservation.budget + (bytes - reservation.bytes)) = _
        congr 1
        omega
      · show s.bytes + (bytes - reservation.bytes) = _
        omega
      · intro _
        omega
  | eq =>
    have heq : bytes = reservation.bytes := Nat.compare_eq_eq.mp horder
    right
    refine ⟨s, by rw [heq]; rfl, rfl, rfl, ?_, ?_, fun hlt => by omega⟩
    · rw [heq, Nat.sub_add_cancel hpeer]
      exact (congrArg Counters.peers (setPeer_self s h)).symm
    · omega
  | lt =>
    have hlt : bytes < reservation.bytes := Nat.compare_eq_lt.mp horder
    dsimp only
    right
    refine ⟨(s.setPeer reservation.budget
      (s.peer reservation.budget - (reservation.bytes - bytes))).setBytes
        (s.bytes - (reservation.bytes - bytes)), ?_, rfl, rfl, ?_, ?_, fun hgrows => by omega⟩
    · rw [bind_of_ok (fetchSubPeer_run (by omega : reservation.bytes - bytes ≤ s.peer _))]
      rw [bind_of_ok (fetchSubTotal_run (by
        show reservation.bytes - bytes ≤ s.bytes
        omega))]
      rfl
    · show s.peers.set _ (s.peer reservation.budget - (reservation.bytes - bytes)) = _
      congr 1
      omega
    · show s.bytes - (reservation.bytes - bytes) = _
      omega

/-! ### One step -/

variable {limits : ServerResourceLimits} {w : World}

theorem onCounters_run {α : Type} {m : ResourceM α} {a : α} {counters : Counters}
    (h : m w.counters = (.ok a, counters)) :
    onCounters m w = (.ok a, { w with counters }) := by
  unfold onCounters
  rw [h]

/-- The operations whose refusal must leave no trace. -/
def Operation.movesBytes : Operation → Bool
  | .reserve .. | .resize .. => true
  | _ => false

/-- What an operation does to the owners once it is granted. -/
def Operation.Grants (op : Operation) (w w' : World) : Prop :=
  match op with
  | .admitConnection address =>
      w'.reservations = w.reservations ∧ w'.connections = w.connections ++
        [{ address, permit := { address := address.bucket, isUnauthenticated := true } }]
  | .authenticated index => w'.reservations = w.reservations ∧
      ∃ connection, w.connections[index]? = some connection ∧
        w'.connections = w.connections.set index
          { connection with permit := { connection.permit with isUnauthenticated := false } }
  | .dropPermit index => w'.reservations = w.reservations ∧
      index < w.connections.length ∧ w'.connections = w.connections.eraseIdx index
  | .peerBudget => w'.reservations = w.reservations ∧ w'.connections = w.connections
  | .reserve peer bytes => w'.connections = w.connections ∧
      w'.reservations = w.reservations ++ [{ budget := peer, bytes }]
  | .resize index bytes => w'.connections = w.connections ∧
      ∃ reservation, w.reservations[index]? = some reservation ∧
        w'.reservations = w.reservations.set index { reservation with bytes }
  | .dropReservation index => w'.connections = w.connections ∧
      index < w.reservations.length ∧ w'.reservations = w.reservations.eraseIdx index

/-- What one operation comes to: it is granted and changes its owner as it should, or it is
    refused; the accounts stay exact, and a byte operation that is refused leaves every counter
    alone. -/
def Accounted (limits : ServerResourceLimits) (op : Operation) (w : World)
    (m : WorldM Bool) : Prop :=
  ∃ granted w', m w = (.ok granted, w') ∧ w'.Accounts limits
    ∧ (granted = true → op.Grants w w')
    ∧ (op.movesBytes = true → granted = false → w'.counters = w.counters)

variable {op : Operation}

/-- An operation on an owner that is not alive. -/
theorem accounted_refused (h : w.Accounts limits) : Accounted limits op w (pure false) :=
  ⟨false, w, rfl, h, nofun, fun _ _ => rfl⟩

theorem accounted_get_bind {k : World → WorldM Bool} (h : Accounted limits op w (k w)) :
    Accounted limits op w (Prog.get >>= k) := h

theorem accounts_admit (h : w.Accounts limits) (address : IpAddr) :
    Accounted limits (.admitConnection address) w (step (.admitConnection address)) := by
  have hcount : w.counters.admission.addresses.getD address.bucket 0 =
      countAt w.connections address.bucket := by
    rw [Std.ExtTreeMap.getD_eq_getD_getElem?, h.addresses, getD_bucketOf]
  rcases admit_run w.counters address with ⟨rejected, hrefused⟩ | ⟨hroom, hgranted⟩
  · refine ⟨false, _, bind_of_ok (onCounters_run hrefused), ?_, nofun, nofun⟩
    exact { h with }
  · refine ⟨true, _, bind_of_ok (onCounters_run hgranted), ?_, fun _ => ⟨rfl, rfl⟩, nofun⟩
    obtain ⟨hactive, hunauthenticated, hbucket⟩ := hroom
    rw [h.configured] at hactive hunauthenticated hbucket
    rw [hcount] at hbucket
    exact
      { h with
        active := by
          show w.counters.admission.active + 1 = (w.connections ++ [_]).length
          rw [h.active, List.length_append]
          rfl
        unauthenticated := by
          show w.counters.admission.unauthenticated + 1 = (w.connections ++ [_]).countP _
          rw [h.unauthenticated, List.countP_append]
          rfl
        addresses := fun a => by
          show (w.counters.admission.addresses.insert address.bucket _)[a]? =
            bucketOf (countAt (w.connections ++ [_]) a)
          rw [getElem?_insert_if, hcount, countAt_append, countAt_cons, countAt_nil, h.addresses]
          by_cases ha : address.bucket = a
          · rw [if_pos ha.symm, if_pos ha, ha, bucketOf, if_neg (by omega)]
          · rw [if_neg (Ne.symm ha), if_neg ha, Nat.add_zero]
        permits := fun connection hmem => by
          rcases List.mem_append.mp hmem with hold | hnew
          · exact h.permits connection hold
          · rw [List.mem_singleton.mp hnew]
        activeLimit := hactive
        unauthenticatedLimit := hunauthenticated
        addressLimit := fun a => by
          show countAt (w.connections ++ [_]) a ≤ _
          rw [countAt_append, countAt_cons, countAt_nil]
          have hold := h.addressLimit a
          by_cases ha : address.bucket = a
          · rw [if_pos ha]
            rw [ha] at hbucket
            omega
          · rw [if_neg ha]
            omega }

theorem accounts_authenticated (h : w.Accounts limits) (index : Nat) :
    Accounted limits (.authenticated index) w (step (.authenticated index)) := by
  simp only [step]
  refine accounted_get_bind ?_
  cases hconnection : w.connections[index]? with
  | none => exact accounted_refused h
  | some connection =>
    obtain ⟨front, back, hsplit, -, hset⟩ := split_at hconnection
    have hflags : w.connections.countP (·.permit.isUnauthenticated) =
        front.countP (·.permit.isUnauthenticated) + back.countP (·.permit.isUnauthenticated)
          + if connection.permit.isUnauthenticated then 1 else 0 := by
      rw [hsplit, List.countP_append, List.countP_cons]
      omega
    have hheld : connection.permit.isUnauthenticated = true →
        0 < w.counters.admission.unauthenticated := by
      intro hflag
      rw [h.unauthenticated, hflags, if_pos hflag]
      omega
    refine ⟨true, _, bind_of_ok (onCounters_run (authenticated_run hheld)), ?_,
      fun _ => ⟨rfl, connection, hconnection, rfl⟩, nofun⟩
    have hcounts : ∀ a, countAt (w.connections.set index
        { connection with permit := { connection.permit with isUnauthenticated := false } }) a =
          countAt w.connections a := by
      intro a
      rw [hset, hsplit, countAt_append, countAt_append, countAt_cons, countAt_cons]
    exact
      { h with
        active := by
          show _ = (w.connections.set index _).length
          rw [List.length_set]
          exact h.active
        unauthenticated := by
          show w.counters.admission.unauthenticated - _ = (w.connections.set index _).countP _
          rw [h.unauthenticated, hflags, hset, List.countP_append, List.countP_cons]
          simp
        addresses := fun a => by
          show w.counters.admission.addresses[a]? = bucketOf (countAt (w.connections.set index _) a)
          rw [hcounts, h.addresses]
        permits := fun other hmem => by
          have hmem' : other ∈ w.connections.set index _ := hmem
          rw [hset] at hmem'
          have hold := h.permits
          rw [hsplit] at hold
          rcases List.mem_append.mp hmem' with hfront | hback
          · exact hold other (List.mem_append_left _ hfront)
          · rcases List.mem_cons.mp hback with rfl | hrest
            · exact hold connection (by simp)
            · exact hold other (by simp [hrest])
        unauthenticatedLimit := le_trans (Nat.sub_le _ _) h.unauthenticatedLimit
        addressLimit := fun a => by
          show countAt (w.connections.set index _) a ≤ _
          rw [hcounts]
          exact h.addressLimit a }

theorem accounts_dropPermit (h : w.Accounts limits) (index : Nat) :
    Accounted limits (.dropPermit index) w (step (.dropPermit index)) := by
  simp only [step]
  refine accounted_get_bind ?_
  cases hconnection : w.connections[index]? with
  | none => exact accounted_refused h
  | some connection =>
    obtain ⟨front, back, hsplit, herase, -⟩ := split_at hconnection
    have hlength : w.connections.length = front.length + back.length + 1 := by
      rw [hsplit, List.length_append, List.length_cons]
      omega
    have hflags : w.connections.countP (·.permit.isUnauthenticated) =
        front.countP (·.permit.isUnauthenticated) + back.countP (·.permit.isUnauthenticated)
          + if connection.permit.isUnauthenticated then 1 else 0 := by
      rw [hsplit, List.countP_append, List.countP_cons]
      omega
    have hcounts : ∀ a, countAt w.connections a =
        countAt (front ++ back) a + if connection.address.bucket = a then 1 else 0 := by
      intro a
      rw [hsplit, countAt_append, countAt_append, countAt_cons]
      omega
    have haddress : connection.permit.address = connection.address.bucket :=
      h.permits connection (hsplit ▸ by simp)
    have hbucket := hcounts connection.permit.address
    rw [if_pos haddress.symm] at hbucket
    have hheld : w.counters.admission.addresses[connection.permit.address]? =
        some (countAt (front ++ back) connection.permit.address + 1) := by
      rw [h.addresses, hbucket, bucketOf, if_neg (by omega)]
    have hpresent : connection.permit.isUnauthenticated = true →
        0 < w.counters.admission.unauthenticated := by
      intro hflag
      rw [h.unauthenticated, hflags, if_pos hflag]
      omega
    have hrun := drop_run (by rw [h.active, hlength]; omega) hpresent hheld (by omega)
    rw [Nat.add_sub_cancel] at hrun
    refine ⟨true, _, (bind_of_ok (onCounters_run hrun)).trans rfl, ?_,
      fun _ => ⟨rfl, (List.getElem?_eq_some_iff.mp hconnection).1, rfl⟩, nofun⟩
    dsimp only
    rw [herase]
    exact
      { h with
        active := by
          show w.counters.admission.active - 1 = (front ++ back).length
          rw [h.active, hlength, List.length_append]
          omega
        unauthenticated := by
          show w.counters.admission.unauthenticated - _ = (front ++ back).countP _
          rw [h.unauthenticated, hflags, List.countP_append]
          omega
        addresses := fun a => by
          show (if countAt (front ++ back) connection.permit.address = 0 then
              w.counters.admission.addresses.erase connection.permit.address
            else w.counters.admission.addresses.insert connection.permit.address _)[a]? =
              bucketOf (countAt (front ++ back) a)
          have hother : a ≠ connection.permit.address →
              w.counters.admission.addresses[a]? = bucketOf (countAt (front ++ back) a) := by
            intro ha
            rw [h.addresses, hcounts, if_neg (haddress ▸ Ne.symm ha), Nat.add_zero]
          -- the last one out takes the bucket along
          split
          · next hempty =>
            rw [getElem?_erase_if]
            split
            · next ha => rw [ha, hempty]; rfl
            · next ha => exact hother ha
          · next hleft =>
            rw [getElem?_insert_if]
            split
            · next ha => rw [ha, bucketOf, if_neg hleft]
            · next ha => exact hother ha
        permits := fun other hmem => by
          have hmem' : other ∈ front ++ back := hmem
          refine h.permits other ?_
          rw [hsplit]
          rcases List.mem_append.mp hmem' with hfront | hback
          · exact List.mem_append_left _ hfront
          · exact List.mem_append_right _ (List.mem_cons_of_mem _ hback)
        activeLimit := le_trans (Nat.sub_le _ _) h.activeLimit
        unauthenticatedLimit := le_trans (Nat.sub_le _ _) h.unauthenticatedLimit
        addressLimit := fun a => by
          show countAt (front ++ back) a ≤ _
          have hold := h.addressLimit a
          rw [hcounts] at hold
          omega }

theorem accounts_peerBudget (h : w.Accounts limits) :
    Accounted limits .peerBudget w (step .peerBudget) := by
  refine ⟨true, _, rfl, ?_, fun _ => ⟨rfl, rfl⟩, nofun⟩
  have hnobody : charged w.reservations w.counters.peers.length = 0 := by
    unfold charged
    refine List.sum_eq_zero fun bytes hmem => ?_
    obtain ⟨reservation, hreservation, rfl⟩ := List.mem_map.mp hmem
    have hbudget := h.budgets reservation hreservation
    rw [if_neg (by omega)]
  exact
    { h with
      peers := fun peer hpeer => by
        show (w.counters.peers ++ [0])[peer]? = some (charged w.reservations peer)
        have hlt : peer < w.counters.peers.length + 1 := by simpa using hpeer
        by_cases hnew : peer = w.counters.peers.length
        · rw [hnew, List.getElem?_concat_length, hnobody]
        · rw [List.getElem?_append_left (by omega)]
          exact h.peers peer (by omega)
      budgets := fun reservation hmem => by
        show reservation.budget < (w.counters.peers ++ [0]).length
        have hold := h.budgets reservation hmem
        rw [List.length_append]
        omega
      total := by
        show w.counters.bytes = (w.counters.peers ++ [0]).sum
        rw [h.total, List.sum_append]
        rfl
      peerLimit := fun peer hpeer => by
        show charged w.reservations peer ≤ _
        have hlt : peer < w.counters.peers.length + 1 := by simpa using hpeer
        by_cases hnew : peer = w.counters.peers.length
        · rw [hnew, hnobody]
          exact Nat.zero_le _
        · exact h.peerLimit peer (by omega) }

/-! ### One step: bytes -/

theorem World.Accounts.peer_eq (h : w.Accounts limits) {peer : Nat}
    (hpeer : peer < w.counters.peers.length) :
    w.counters.peer peer = charged w.reservations peer := by
  rw [Counters.peer, h.peers peer hpeer]
  rfl

/-- Another value for one peer and other reservations for it: what is charged
    to the others stays. -/
theorem World.Accounts.recharge (h : w.Accounts limits) {peer value : Nat}
    {counters : Counters} {reservations : List ByteReservation}
    (hpeer : peer < w.counters.peers.length)
    (hadmission : counters.admission = w.counters.admission)
    (hlimits : counters.limits = w.counters.limits)
    (hpeers : counters.peers = w.counters.peers.set peer value)
    (hcharged : charged reservations peer = value)
    (hothers : ∀ other, other ≠ peer →
      charged reservations other = charged w.reservations other)
    (hbudgets : ∀ reservation ∈ reservations, reservation.budget < w.counters.peers.length)
    (hbytes : counters.bytes + charged w.reservations peer = w.counters.bytes + value)
    (hpeerLimit : value ≤ limits.queuedBytesPerPeer)
    (htotalLimit : counters.bytes ≤ limits.queuedBytesTotal) :
    World.Accounts limits { w with counters, reservations } := by
  have hlength : counters.peers.length = w.counters.peers.length := by
    rw [hpeers, List.length_set]
  constructor
  case configured => exact hlimits.trans h.configured
  case active => exact (congrArg Admission.active hadmission).trans h.active
  case unauthenticated =>
    exact (congrArg Admission.unauthenticated hadmission).trans h.unauthenticated
  case addresses =>
    intro a
    show counters.admission.addresses[a]? = _
    rw [hadmission]
    exact h.addresses a
  case permits => exact h.permits
  case peers =>
    intro other hother
    show counters.peers[other]? = some (charged reservations other)
    rw [hpeers, List.getElem?_set]
    by_cases hsame : peer = other
    · rw [if_pos hsame, if_pos hpeer, ← hsame, hcharged]
    · rw [if_neg hsame, hothers other (Ne.symm hsame)]
      exact h.peers other (hlength ▸ hother)
  case budgets => exact fun reservation hmem => hlength ▸ hbudgets reservation hmem
  case total =>
    show counters.bytes = counters.peers.sum
    have hsum := sum_set (h.peers peer hpeer) value
    have hheld := h.total
    rw [hpeers]
    omega
  case activeLimit =>
    show counters.admission.active ≤ _
    rw [hadmission]
    exact h.activeLimit
  case unauthenticatedLimit =>
    show counters.admission.unauthenticated ≤ _
    rw [hadmission]
    exact h.unauthenticatedLimit
  case addressLimit => exact h.addressLimit
  case peerLimit =>
    intro other hother
    show charged reservations other ≤ _
    by_cases hsame : other = peer
    · rw [hsame, hcharged]
      exact hpeerLimit
    · rw [hothers other hsame]
      exact h.peerLimit other (hlength ▸ hother)
  case totalLimit => exact htotalLimit

theorem accounts_reserve (h : w.Accounts limits) (peer bytes : Nat) :
    Accounted limits (.reserve peer bytes) w (step (.reserve peer bytes)) := by
  simp only [step]
  refine accounted_get_bind ?_
  split
  · next hpeer =>
    rcases reserve_run hpeer bytes with hrefused | ⟨hp, hb, hgranted⟩
    · exact ⟨false, w, bind_of_ok (onCounters_run hrefused), h, nofun, fun _ _ => rfl⟩
    · refine ⟨true, _, bind_of_ok (onCounters_run hgranted), ?_, fun _ => ⟨rfl, rfl⟩, nofun⟩
      rw [h.peer_eq hpeer] at hp
      rw [h.configured] at hp hb
      have hnew : ∀ other, charged (w.reservations ++ [{ budget := peer, bytes }]) other =
          charged w.reservations other + if peer = other then bytes else 0 := by
        intro other
        rw [charged_append, charged_cons, charged_nil, Nat.add_zero]
      have hpeers : (w.counters.grow peer bytes).peers =
          w.counters.peers.set peer (charged w.reservations peer + bytes) := by
        rw [← h.peer_eq hpeer]
        rfl
      refine h.recharge hpeer rfl rfl hpeers ?_ (fun other hother => ?_) (fun r hmem => ?_) ?_
        hp hb
      · rw [hnew, if_pos rfl]
      · rw [hnew, if_neg (Ne.symm hother), Nat.add_zero]
      · rcases List.mem_append.mp hmem with hold | hlast
        · exact h.budgets r hold
        · rw [List.mem_singleton.mp hlast]
          exact hpeer
      · show w.counters.bytes + bytes + _ = _
        omega
  · exact accounted_refused h

/-- What a reservation that is alive holds is covered by both counters. -/
theorem World.Accounts.covers (h : w.Accounts limits) {index : Nat}
    {reservation : ByteReservation} (hreservation : w.reservations[index]? = some reservation) :
    reservation.budget < w.counters.peers.length
      ∧ reservation.bytes ≤ w.counters.peer reservation.budget
      ∧ reservation.bytes ≤ w.counters.bytes := by
  obtain ⟨front, back, hsplit, -, -⟩ := split_at hreservation
  have hbudget := h.budgets reservation (hsplit ▸ by simp)
  have hcharged : reservation.bytes ≤ charged w.reservations reservation.budget := by
    rw [hsplit, charged_append, charged_cons, if_pos rfl]
    omega
  have hpeer := h.peer_eq hbudget
  have hsum := le_sum_of_getElem? (h.peers reservation.budget hbudget)
  have htotal := h.total
  exact ⟨hbudget, by omega, by omega⟩

theorem accounts_resize (h : w.Accounts limits) (index bytes : Nat) :
    Accounted limits (.resize index bytes) w (step (.resize index bytes)) := by
  simp only [step]
  refine accounted_get_bind ?_
  cases hreservation : w.reservations[index]? with
  | none => exact accounted_refused h
  | some reservation =>
    obtain ⟨hbudget, hheld, htotal⟩ := h.covers hreservation
    obtain ⟨front, back, hsplit, -, hset⟩ := split_at hreservation
    rcases resize_run bytes hbudget hheld htotal with
      hrefused | ⟨s', hgranted, hadmission, hlimits, hpeers, hbytes, hroom⟩
    · refine ⟨false, _, bind_of_ok (onCounters_run hrefused), ?_, nofun, fun _ _ => rfl⟩
      have hself : w.reservations.set index reservation = w.reservations := by
        rw [hset, hsplit]
      show World.Accounts limits
        { w with reservations := w.reservations.set index reservation }
      rw [hself]
      exact h
    · refine ⟨true, _, bind_of_ok (onCounters_run hgranted), ?_,
        fun _ => ⟨rfl, reservation, hreservation, rfl⟩, nofun⟩
      rw [h.peer_eq hbudget] at hheld hpeers hroom
      have hpeerLimit := h.peerLimit reservation.budget hbudget
      have htotalLimit := h.totalLimit
      have hroom' : reservation.bytes < bytes →
          charged w.reservations reservation.budget - reservation.bytes + bytes ≤
              limits.queuedBytesPerPeer
            ∧ w.counters.bytes - reservation.bytes + bytes ≤ limits.queuedBytesTotal := by
        rw [← h.configured]
        exact hroom
      have hcharged : ∀ other, charged (w.reservations.set index { reservation with bytes }) other
          + (if reservation.budget = other then reservation.bytes else 0) =
            charged w.reservations other + if reservation.budget = other then bytes else 0 := by
        intro other
        rw [hset, hsplit]
        simp only [charged_append, charged_cons]
        omega
      refine h.recharge hbudget hadmission hlimits hpeers ?_ (fun other hother => ?_)
        (fun r hmem => ?_) ?_ ?_ ?_
      · have hself := hcharged reservation.budget
        rw [if_pos rfl, if_pos rfl] at hself
        show charged (w.reservations.set index { reservation with bytes }) _ = _
        omega
      · have hsame := hcharged other
        rw [if_neg (Ne.symm hother), if_neg (Ne.symm hother)] at hsame
        exact hsame
      · have hmem' : r ∈ w.reservations.set index { reservation with bytes } := hmem
        have hold := h.budgets
        rw [hsplit] at hold
        rw [hset] at hmem'
        rcases List.mem_append.mp hmem' with hfront | hback
        · exact hold r (List.mem_append_left _ hfront)
        · rcases List.mem_cons.mp hback with rfl | hrest
          · exact hbudget
          · exact hold r (List.mem_append_right _ (List.mem_cons_of_mem _ hrest))
      · show s'.bytes + _ = _
        omega
      · by_cases hgrows : reservation.bytes < bytes
        · exact (hroom' hgrows).1
        · omega
      · show s'.bytes ≤ _
        by_cases hgrows : reservation.bytes < bytes
        · have hb := (hroom' hgrows).2
          omega
        · omega

theorem accounts_dropReservation (h : w.Accounts limits) (index : Nat) :
    Accounted limits (.dropReservation index) w (step (.dropReservation index)) := by
  simp only [step]
  refine accounted_get_bind ?_
  cases hreservation : w.reservations[index]? with
  | none => exact accounted_refused h
  | some reservation =>
    obtain ⟨hbudget, hheld, htotal⟩ := h.covers hreservation
    obtain ⟨front, back, hsplit, herase, -⟩ := split_at hreservation
    refine ⟨true, _, bind_of_ok (onCounters_run (dropReservation_run hheld htotal)), ?_,
      fun _ => ⟨rfl, (List.getElem?_eq_some_iff.mp hreservation).1, rfl⟩, nofun⟩
    rw [h.peer_eq hbudget] at hheld
    have hpeerLimit := h.peerLimit reservation.budget hbudget
    have htotalLimit := h.totalLimit
    have hcharged : ∀ other, charged (w.reservations.eraseIdx index) other
        + (if reservation.budget = other then reservation.bytes else 0) =
          charged w.reservations other := by
      intro other
      rw [herase, hsplit]
      simp only [charged_append, charged_cons]
      omega
    refine h.recharge hbudget rfl rfl rfl ?_ (fun other hother => ?_) (fun r hmem => ?_) ?_ ?_ ?_
    · have hself := hcharged reservation.budget
      rw [if_pos rfl] at hself
      rw [h.peer_eq hbudget]
      show charged (w.reservations.eraseIdx index) _ = _
      omega
    · have hsame := hcharged other
      rw [if_neg (Ne.symm hother), Nat.add_zero] at hsame
      exact hsame
    · have hmem' : r ∈ w.reservations.eraseIdx index := hmem
      exact h.budgets r (List.mem_of_mem_eraseIdx hmem')
    · show w.counters.bytes - reservation.bytes + _ = _
      rw [h.peer_eq hbudget]
      omega
    · rw [h.peer_eq hbudget]
      omega
    · show w.counters.bytes - reservation.bytes ≤ _
      omega

/-! ### Runs -/

theorem accounts_step (h : w.Accounts limits) (op : Operation) :
    Accounted limits op w (step op) := by
  cases op with
  | admitConnection address => exact accounts_admit h address
  | authenticated index => exact accounts_authenticated h index
  | dropPermit index => exact accounts_dropPermit h index
  | peerBudget => exact accounts_peerBudget h
  | reserve peer bytes => exact accounts_reserve h peer bytes
  | resize index bytes => exact accounts_resize h index bytes
  | dropReservation index => exact accounts_dropReservation h index

theorem accounts_start (limits : ServerResourceLimits) :
    (World.start limits).Accounts limits where
  configured := rfl
  active := rfl
  unauthenticated := rfl
  addresses _ := rfl
  permits _ hmem := absurd hmem List.not_mem_nil
  peers _ hpeer := absurd hpeer (Nat.not_lt_zero _)
  budgets _ hmem := absurd hmem List.not_mem_nil
  total := rfl
  activeLimit := Nat.zero_le _
  unauthenticatedLimit := Nat.zero_le _
  addressLimit _ := Nat.zero_le _
  peerLimit _ _ := Nat.zero_le _
  totalLimit := Nat.zero_le _

theorem accounts_run (h : w.Accounts limits) (ops : List Operation) :
    ∃ granted w', run ops w = (.ok granted, w') ∧ w'.Accounts limits := by
  induction ops generalizing w with
  | nil => exact ⟨[], w, rfl, h⟩
  | cons op ops ih =>
    obtain ⟨granted, w₁, hstep, h₁, -, -⟩ := accounts_step h op
    obtain ⟨rest, w₂, hrest, h₂⟩ := ih h₁
    refine ⟨granted :: rest, w₂, ?_, h₂⟩
    have hfirst : (do let granted ← step op; pure [granted] : WorldM (List Bool)) w =
        (.ok [granted], w₁) := by
      rw [bind_of_ok hstep]
      rfl
    rw [run, Prog.collect, bind_of_ok hfirst]
    exact (bind_of_ok hrest).trans rfl

/-- **Permits account exactly.**  No sequence of operations faults: nothing is
    subtracted below zero.  The counters it leaves are the owners that are
    alive, each within its limit.  Whatever comes next changes its own owner only, if
    it is granted, and no reservation or resize that is refused changes a counter. -/
theorem permits_account_exactly (limits : ServerResourceLimits) (ops : List Operation) :
    ∃ granted w, run ops (World.start limits) = (.ok granted, w) ∧ w.Accounts limits
      ∧ ∀ op, ∃ accepted w', step op w = (.ok accepted, w')
        ∧ (accepted = true → op.Grants w w')
        ∧ (op.movesBytes = true → accepted = false → w'.counters = w.counters) := by
  obtain ⟨granted, w, hrun, h⟩ := accounts_run (accounts_start limits) ops
  refine ⟨granted, w, hrun, h, fun op => ?_⟩
  obtain ⟨accepted, w', hstep, -, hgranted, hrefused⟩ := accounts_step h op
  exact ⟨accepted, w', hstep, hgranted, hrefused⟩

end Sorotte.Resources
