import Sorotte.Framework.Program
import Sorotte.Framework.Maps

/-! # Admission and byte permits

  Server-owned admission and byte permits.  A connection permit holds one place
  in three counters, a byte reservation holds its bytes in two; both give back
  what they hold when they are dropped.  The counters are shared: the atomics
  and the mutex of the source are one state that every operation reads and
  writes, and an operation is one step.

  Arithmetic is checked.  An increment past `usize::MAX` or a subtraction below
  zero is a fault, whether the source would panic there (`-=`) or wrap around
  (`fetch_sub`).
-/

namespace Sorotte.Resources

open Sorotte.Framework

/-! ### Limits -/

structure ServerResourceLimits where
  activeConnections : Nat
  unauthenticatedConnections : Nat
  connectionsPerAddress : Nat
  queuedBytesPerPeer : Nat
  queuedBytesTotal : Nat
  /-- Every limit is a `usize`. -/
  fits : activeConnections ≤ u64Max ∧ unauthenticatedConnections ≤ u64Max
    ∧ connectionsPerAddress ≤ u64Max ∧ queuedBytesPerPeer ≤ u64Max ∧ queuedBytesTotal ≤ u64Max

instance : Inhabited ServerResourceLimits where
  default :=
    { activeConnections := 1024
      unauthenticatedConnections := 128
      connectionsPerAddress := 128
      queuedBytesPerPeer := 4 * 1024 * 1024
      queuedBytesTotal := 64 * 1024 * 1024
      fits := by decide }

def ServerResourceLimits.validate (limits : ServerResourceLimits) :
    Except String ServerResourceLimits :=
  if limits.activeConnections = 0 ∨ limits.unauthenticatedConnections = 0
      ∨ limits.connectionsPerAddress = 0 ∨ limits.queuedBytesPerPeer < 1024
      ∨ limits.queuedBytesTotal < limits.queuedBytesPerPeer then
    .error "server resource limits must be positive; byte limits require 1024 <= per-peer <= total"
  else .ok limits

example : (default : ServerResourceLimits).validate.isOk = true := by decide

/-! ### Addresses -/

inductive IpAddr where
  | v4 (bits : BitVec 32)
  | v6 (bits : BitVec 128)
deriving DecidableEq, Repr

/-- IPv4 addresses come first, each kind in the order of its bits. -/
def IpAddr.rank : IpAddr → Nat
  | .v4 bits => bits.toNat
  | .v6 bits => 2 ^ 32 + bits.toNat

theorem IpAddr.rank_injective {a b : IpAddr} (h : a.rank = b.rank) : a = b := by
  cases a with
  | v4 x =>
    cases b with
    | v4 y => rw [BitVec.toNat_inj.mp h]
    | v6 y =>
      have hx := x.isLt
      have hrank : x.toNat = 2 ^ 32 + y.toNat := h
      omega
  | v6 x =>
    cases b with
    | v4 y =>
      have hy := y.isLt
      have hrank : 2 ^ 32 + x.toNat = y.toNat := h
      omega
    | v6 y =>
      have hrank : 2 ^ 32 + x.toNat = 2 ^ 32 + y.toNat := h
      rw [BitVec.toNat_inj.mp (Nat.add_left_cancel hrank)]

instance : Ord IpAddr where
  compare := compareOn IpAddr.rank

instance : Std.TransOrd IpAddr := inferInstanceAs (Std.TransCmp (compareOn IpAddr.rank))

instance : Std.LawfulEqOrd IpAddr where
  eq_of_compare {a b} h := by
    have hrank : compare a.rank b.rank = .eq := h
    exact IpAddr.rank_injective (Std.LawfulEqCmp.eq_of_compare hrank)

/-- `Ipv6Addr::to_ipv4_mapped`: `::ffff:a.b.c.d` is the address `a.b.c.d`. -/
def toIpv4Mapped (bits : BitVec 128) : Option (BitVec 32) :=
  if bits.extractLsb' 32 96 = 0xFFFF then some (bits.extractLsb' 0 32) else none

/-- The address a connection is counted under. -/
def IpAddr.bucket : IpAddr → IpAddr
  | .v6 bits => ((toIpv4Mapped bits).map .v4).getD (.v6 bits)
  | address => address

example : (IpAddr.v6 0xFFFF7F000001).bucket = .v4 0x7F000001 := by decide

/-! ### Shared counters -/

structure Admission where
  active : Nat := 0
  unauthenticated : Nat := 0
  addresses : BTreeMap IpAddr Nat := ∅
  rejected : Nat := 0

structure NetworkResources where
  limits : ServerResourceLimits
  admission : Admission := {}
  bytes : Nat := 0
  peakBytes : Nat := 0

/-- What permits and reservations share: the resources, and the byte counter
    of every peer budget that was handed out. -/
structure Counters extends NetworkResources where
  peers : List Nat := []

inductive Fault where
  | overflow
  | underflow
deriving DecidableEq, Repr

abbrev ResourceM := Prog Counters Fault

/-- `value += 1`. -/
def increment (value : Nat) : ResourceM Nat :=
  if value + 1 ≤ u64Max then pure (value + 1) else Prog.throw .overflow

/-- `value -= amount`, or `value.fetch_sub(amount)`. -/
def subtract (value amount : Nat) : ResourceM Nat :=
  if amount ≤ value then pure (value - amount) else Prog.throw .underflow

def Counters.setAdmission (s : Counters) (admission : Admission) : Counters :=
  { s with admission }

def Counters.setBytes (s : Counters) (bytes : Nat) : Counters := { s with bytes }

def Counters.peer (s : Counters) (peer : Nat) : Nat := s.peers[peer]?.getD 0

def Counters.setPeer (s : Counters) (peer value : Nat) : Counters :=
  { s with peers := s.peers.set peer value }

/-! ### Connections -/

structure ConnectionPermit where
  address : IpAddr
  isUnauthenticated : Bool
deriving DecidableEq

def admitConnection (address : IpAddr) : ResourceM (Option ConnectionPermit) := do
  let address := address.bucket
  let s ← Prog.get
  let state := s.admission
  if s.limits.activeConnections ≤ state.active
      ∨ s.limits.unauthenticatedConnections ≤ state.unauthenticated
      ∨ s.limits.connectionsPerAddress ≤ state.addresses.getD address 0 then do
    Prog.modify (·.setAdmission { state with rejected := min (state.rejected + 1) u64Max })
    pure none
  else do
    let active ← increment state.active
    let unauthenticated ← increment state.unauthenticated
    let count ← increment (state.addresses.getD address 0)
    Prog.modify (·.setAdmission
      { state with active, unauthenticated, addresses := state.addresses.insert address count })
    pure (some { address, isUnauthenticated := true })

/-- `ConnectionPermit::authenticated`: the permit afterwards. -/
def ConnectionPermit.authenticated (permit : ConnectionPermit) : ResourceM ConnectionPermit :=
  if permit.isUnauthenticated then do
    let s ← Prog.get
    let unauthenticated ← subtract s.admission.unauthenticated 1
    Prog.modify (·.setAdmission { s.admission with unauthenticated })
    pure { permit with isUnauthenticated := false }
  else pure permit

def ConnectionPermit.drop (permit : ConnectionPermit) : ResourceM Unit := do
  let s ← Prog.get
  let state := s.admission
  let active ← subtract state.active 1
  let unauthenticated ←
    if permit.isUnauthenticated then subtract state.unauthenticated 1
    else pure state.unauthenticated
  match state.addresses[permit.address]? with
  | some held => do
      let count ← subtract held 1
      let addresses :=
        if count = 0 then state.addresses.erase permit.address
        else state.addresses.insert permit.address count
      Prog.modify (·.setAdmission { state with active, unauthenticated, addresses })
  | none => Prog.modify (·.setAdmission { state with active, unauthenticated })

/-! ### Bytes -/

/-- `reserve`: the counter afterwards, unless it would overflow or pass the limit. -/
def reserveCounter (value amount limit : Nat) : Option Nat :=
  if value + amount ≤ u64Max ∧ value + amount ≤ limit then some (value + amount) else none

structure ByteReservation where
  /-- The peer whose budget it is charged to. -/
  budget : Nat
  bytes : Nat
deriving DecidableEq

def fetchSubPeer (peer amount : Nat) : ResourceM Unit := do
  let s ← Prog.get
  let value ← subtract (s.peer peer) amount
  Prog.modify (·.setPeer peer value)

def fetchSubTotal (amount : Nat) : ResourceM Unit := do
  let s ← Prog.get
  let value ← subtract s.bytes amount
  Prog.modify (·.setBytes value)

/-- `PeerByteBudget::reserve`. -/
def reserve (peer bytes : Nat) : ResourceM (Option ByteReservation) := do
  let s ← Prog.get
  match reserveCounter (s.peer peer) bytes s.limits.queuedBytesPerPeer with
  | none => pure none
  | some charged => do
      Prog.modify (·.setPeer peer charged)
      match reserveCounter s.bytes bytes s.limits.queuedBytesTotal with
      | none => do
          fetchSubPeer peer bytes
          pure none
      | some total => do
          Prog.modify (·.setBytes total)
          Prog.modify fun s => { s with peakBytes := max s.peakBytes total }
          pure (some { budget := peer, bytes })

def ByteReservation.drop (reservation : ByteReservation) : ResourceM Unit := do
  fetchSubPeer reservation.budget reservation.bytes
  fetchSubTotal reservation.bytes

/-- `ByteReservation::resize`: whether it was granted, and the reservation afterwards.
    Growth is reserved on its own; what it reserved then belongs to this
    reservation, so that dropping it gives back nothing. -/
def ByteReservation.resize (reservation : ByteReservation) (bytes : Nat) :
    ResourceM (Bool × ByteReservation) :=
  match compare bytes reservation.bytes with
  | .gt => do
      match ← reserve reservation.budget (bytes - reservation.bytes) with
      | none => pure (false, reservation)
      | some growth => do
          ({ growth with bytes := 0 } : ByteReservation).drop
          pure (true, { reservation with bytes })
  | .eq => pure (true, reservation)
  | .lt => do
      fetchSubPeer reservation.budget (reservation.bytes - bytes)
      fetchSubTotal (reservation.bytes - bytes)
      pure (true, { reservation with bytes })

/-! ### The owners -/

/-- A permit and the address it was admitted for. -/
structure Connection where
  address : IpAddr
  permit : ConnectionPermit

/-- The counters, and the permits and reservations that are alive. -/
structure World where
  counters : Counters
  connections : List Connection := []
  reservations : List ByteReservation := []

abbrev WorldM := Prog World Fault

def World.start (limits : ServerResourceLimits) : World := { counters := { limits } }

/-- An operation on the counters, made by one of the owners. -/
def onCounters {α : Type} (m : ResourceM α) : WorldM α := fun w =>
  ((m w.counters).1, { w with counters := (m w.counters).2 })

inductive Operation where
  | admitConnection (address : IpAddr)
  | authenticated (connection : Nat)
  | dropPermit (connection : Nat)
  | peerBudget
  | reserve (peer bytes : Nat)
  | resize (reservation bytes : Nat)
  | dropReservation (reservation : Nat)

/-- One operation, and whether it was granted.  Owners are named by their place
    among those alive; what is not alive cannot be named in the source, and
    naming it here does nothing. -/
def step : Operation → WorldM Bool
  | .admitConnection address => do
      match ← onCounters (Resources.admitConnection address) with
      | none => pure false
      | some permit => do
          Prog.modify fun w => { w with connections := w.connections ++ [{ address, permit }] }
          pure true
  | .authenticated index => do
      let w ← Prog.get
      match w.connections[index]? with
      | none => pure false
      | some connection => do
          let permit ← onCounters connection.permit.authenticated
          Prog.modify fun w =>
            { w with connections := w.connections.set index { connection with permit } }
          pure true
  | .dropPermit index => do
      let w ← Prog.get
      match w.connections[index]? with
      | none => pure false
      | some connection => do
          onCounters connection.permit.drop
          Prog.modify fun w => { w with connections := w.connections.eraseIdx index }
          pure true
  | .peerBudget => do
      Prog.modify fun w => { w with counters.peers := w.counters.peers ++ [0] }
      pure true
  | .reserve peer bytes => do
      let w ← Prog.get
      if peer < w.counters.peers.length then do
        match ← onCounters (Resources.reserve peer bytes) with
        | none => pure false
        | some reservation => do
            Prog.modify fun w => { w with reservations := w.reservations ++ [reservation] }
            pure true
      else pure false
  | .resize index bytes => do
      let w ← Prog.get
      match w.reservations[index]? with
      | none => pure false
      | some reservation => do
          let (granted, resized) ← onCounters (reservation.resize bytes)
          Prog.modify fun w => { w with reservations := w.reservations.set index resized }
          pure granted
  | .dropReservation index => do
      let w ← Prog.get
      match w.reservations[index]? with
      | none => pure false
      | some reservation => do
          onCounters reservation.drop
          Prog.modify fun w => { w with reservations := w.reservations.eraseIdx index }
          pure true

/-- The operations in order, with what each was granted. -/
def run : List Operation → WorldM (List Bool)
  | ops => Prog.collect (fun op => do
      let granted ← step op
      pure [granted]) ops

end Sorotte.Resources
