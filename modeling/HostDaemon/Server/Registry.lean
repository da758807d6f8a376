/-! # The registry

The running servers by the port under which each was registered. A server is told apart from all
others by its reference, so that taking one out never takes out another that has the same port by
now. -/

namespace HostDaemon

/-- What tells servers apart: the number of launches that came before. -/
abbrev ServerRef := Nat

/-- A port is registered already. -/
structure PortTaken where
  /-- The port. -/
  port : UInt16
deriving Repr, DecidableEq

/-- The text of the error. -/
def PortTaken.message (e : PortTaken) : String := s!"port {e.port} is already registered"

/-- The registered servers, each under its port. -/
structure Registry where
  /-- Ports and servers in the order in which they were registered. -/
  entries : List (UInt16 × ServerRef)
deriving Repr, DecidableEq

namespace Registry

/-- No server is registered. -/
def empty : Registry := ⟨[]⟩

/-- The server that is registered under a port. -/
def lookup (r : Registry) (port : UInt16) : Option ServerRef := r.entries.lookup port

/-- The ports under which servers are registered. -/
def ports (r : Registry) : List UInt16 := r.entries.map (·.1)

/-- The registered servers. -/
def servers (r : Registry) : List ServerRef := r.entries.map (·.2)

/-- Register a server under a port that is not taken. -/
def insert (r : Registry) (port : UInt16) (server : ServerRef) : Except PortTaken Registry :=
  if (r.lookup port).isSome then .error ⟨port⟩ else .ok ⟨r.entries ++ [(port, server)]⟩

/-- The port under which a server is registered. Where `port` is one, it is that one. -/
def keyOf? (r : Registry) (port : UInt16) (server : ServerRef) : Option UInt16 :=
  if r.lookup port = some server then some port
  else (r.entries.find? (·.2 = server)).map (·.1)

/-- Take a server out, whatever `port` it believes to have by now. Says whether it was there. -/
def remove (r : Registry) (port : UInt16) (server : ServerRef) : Bool × Registry :=
  match r.keyOf? port server with
  | none => (false, r)
  | some key => (true, ⟨r.entries.filter (·.1 ≠ key)⟩)

end Registry

end HostDaemon
