/-! # Ports

Handing out the ports of a range. Asking whether a port is free and starting a process that takes
it are far apart in time, so every port that is handed out is claimed until its claim is given
back. Which ports other programs hold is a parameter: a test whether a port is free. -/

namespace HostDaemon

/-- Why a port cannot be claimed. -/
inductive PortError where
  /-- The port is not in the range. -/
  | outOfRange (port min max : UInt16)
  /-- The port is claimed. -/
  | reserved (port : UInt16)
  /-- Another program holds the port. -/
  | inUse (port : UInt16)
deriving Repr, DecidableEq

/-- The text of the error. -/
def PortError.message : PortError → String
  | .outOfRange port min max => s!"port {port} is outside the allowed range {min}..{max}"
  | .reserved port => s!"port {port} is already claimed by another request"
  | .inUse port => s!"port {port} is in use"

/-- The ports from `min` up to and without `max`, in ascending order. -/
def portsBetween (min max : UInt16) : List UInt16 :=
  (List.range' min.toNat (max.toNat - min.toNat)).map UInt16.ofNat

/-- The least port from `min` up to and without `max` that is free and not taken. -/
def firstAvailable? (isFree : UInt16 → Bool) (min max : UInt16) (taken : List UInt16) :
    Option UInt16 :=
  (portsBetween min max).find? fun port => !taken.contains port && isFree port

/-- May the port be handed out? It has to be in the range, not taken and free, and is looked at in
    this order. -/
def checkPort (isFree : UInt16 → Bool) (port min max : UInt16) (taken : List UInt16) :
    Except PortError Unit :=
  if ¬ (min ≤ port ∧ port < max) then .error (.outOfRange port min max)
  else if taken.contains port then .error (.reserved port)
  else if isFree port then .ok ()
  else .error (.inUse port)

/-- The ports of a range with those that are claimed. -/
structure PortPool where
  /-- The first port. -/
  min : UInt16
  /-- The first port after the range. -/
  max : UInt16
  /-- The claimed ports, the latest first. -/
  claimed : List UInt16
deriving Repr, DecidableEq

namespace PortPool

/-- A range with no claims. -/
def ofRange (min max : UInt16) : PortPool := ⟨min, max, []⟩

/-- Is the port in the range? -/
def inRange (p : PortPool) (port : UInt16) : Bool := p.min ≤ port && port < p.max

/-- Is the port claimed? -/
def isClaimed (p : PortPool) (port : UInt16) : Bool := p.claimed.contains port

/-- Is there a port to hand out? -/
def hasCapacity (p : PortPool) (isFree : UInt16 → Bool) : Bool :=
  (firstAvailable? isFree p.min p.max p.claimed).isSome

/-- Claim a port. -/
def reserve (p : PortPool) (isFree : UInt16 → Bool) (port : UInt16) : Except PortError PortPool :=
  (checkPort isFree port p.min p.max p.claimed).map fun _ =>
    { p with claimed := port :: p.claimed }

/-- Claim the least port that can be handed out. -/
def reserveFirst? (p : PortPool) (isFree : UInt16 → Bool) : Option (UInt16 × PortPool) :=
  (firstAvailable? isFree p.min p.max p.claimed).map fun port =>
    (port, { p with claimed := port :: p.claimed })

/-- Give a claim back. -/
def release (p : PortPool) (port : UInt16) : PortPool :=
  { p with claimed := p.claimed.filter (· ≠ port) }

end PortPool

/-! ### Reservations -/

/-- A pool with the claims that were handed out and not given back. -/
structure PortReservations where
  /-- The pool. -/
  pool : PortPool
  /-- The ports of the claims, oldest first. -/
  held : List UInt16
deriving Repr, DecidableEq

namespace PortReservations

/-- What can be done with a pool. Other programs hold different ports each time. -/
inductive Action where
  /-- Claim a port. -/
  | reserve (isFree : UInt16 → Bool) (port : UInt16)
  /-- Claim the least port that can be handed out. -/
  | reserveFirst (isFree : UInt16 → Bool)
  /-- Give a claim back, by the number of claims that are older. -/
  | giveBack (i : Nat)

/-- Nothing is handed out. -/
def start (min max : UInt16) : PortReservations := ⟨.ofRange min max, []⟩

/-- One step. A claim that fails changes nothing. -/
def step (s : PortReservations) : Action → PortReservations
  | .reserve isFree port =>
    match s.pool.reserve isFree port with
    | .ok pool => ⟨pool, s.held ++ [port]⟩
    | .error _ => s
  | .reserveFirst isFree =>
    match s.pool.reserveFirst? isFree with
    | some (port, pool) => ⟨pool, s.held ++ [port]⟩
    | none => s
  | .giveBack i =>
    match s.held[i]? with
    | some port => ⟨s.pool.release port, s.held.eraseIdx i⟩
    | none => s

/-- What can come about from a range with no claims. -/
inductive Reachable (min max : UInt16) : PortReservations → Prop where
  /-- Nothing is handed out. -/
  | start : Reachable min max (.start min max)
  /-- What one more step makes of it. -/
  | step {s : PortReservations} (a : Action) (h : Reachable min max s) :
      Reachable min max (s.step a)

end PortReservations

end HostDaemon
