import HostDaemon.Fleet.Control
import HostDaemon.Fleet.Exit
import HostDaemon.Report.Server

/-! # Rehearsals

Running a fleet without processes: whoever rehearses says what every game server prints and when it
ends, and which ports other programs hold. The processes have numbers from one on in the order in
which they were launched. Servers can be added that have no process. -/

namespace HostDaemon

/-- A fleet in a rehearsal. -/
structure Rehearsal where
  /-- The fleet. -/
  fleet : Fleet
  /-- The servers that have no process, in the order in which they were made. -/
  plain : List ServerRef
  /-- The ports that other programs hold. -/
  held : List UInt16
  /-- The ports that were claimed by hand. -/
  claims : List UInt16
  /-- The time. -/
  now : Int64
  /-- How many identifiers were given to hosted servers. -/
  hosted : Nat

namespace Rehearsal

/-- The rehearsal of a fleet that begins at a time. -/
def start (fleet : Fleet) (now : Int64) : Rehearsal := ⟨fleet, [], [], [], now, 0⟩

/-- The first half of the identifier of a hosted server. -/
def firstHalf (n : Nat) : String := "5eed1" ++ Json.hexDigits 11 n

/-- The second half of the identifier of a hosted server. -/
def secondHalf (n : Nat) : String := "feed2" ++ Json.hexDigits 11 n

/-- The identifier of a hosted server. -/
def idOf (n : Nat) : String := firstHalf n ++ secondHalf n

/-- The surroundings at the moment. The reputation service never answers. -/
def env (r : Rehearsal) : Surroundings where
  now := r.now
  isFree := fun port => !r.held.contains port
  fetch := fun _ => none
  freshId := idOf (r.hosted + 1)
  freshPid := UInt32.ofNat (r.fleet.servers.length + 1)

/-- Go on with a changed fleet. -/
def withFleet (r : Rehearsal) (f : Fleet) : Rehearsal :=
  let given := f.servers.any fun s => s.id == idOf (r.hosted + 1)
  { r with fleet := f, hosted := if given then r.hosted + 1 else r.hosted }

/-- Go on with a changed fleet after everything that follows from the change. -/
def settled (r : Rehearsal) (f : Fleet) : Rehearsal := r.withFleet (f.settle r.env)

/-- The servers that have or had a process, in the order in which they were launched. -/
def launched (r : Rehearsal) : List ServerRef :=
  (List.range r.fleet.servers.length).filter fun ref => !r.plain.contains ref

/-- The server of the process with a number. -/
def process? (r : Rehearsal) (number : Nat) : Option ServerRef :=
  if number = 0 then none else r.launched[number - 1]?

/-- The number of the process of a server. -/
def numberOf (r : Rehearsal) (ref : ServerRef) : Nat := r.launched.idxOf ref + 1

/-- What a server is called. -/
def nameOf (r : Rehearsal) (ref : ServerRef) : String :=
  if r.plain.contains ref then s!"plain {r.plain.idxOf ref + 1}" else s!"child {r.numberOf ref}"

/-- When a player was last seen on a server. -/
def lastActivity (f : Fleet) (ref : ServerRef) : Int64 :=
  ((f.server? ref).map (·.lastActivity)).getD 0

/-- A process prints lines, each after everything before has been handled. Says of each whether a
    player was seen doing something, and nothing once the process is gone. -/
def print (r : Rehearsal) (ref : ServerRef) : List String → List (Option Bool) × Rehearsal
  | [] => ([], r)
  | line :: lines =>
    let later := { r with now := r.now + 1 }
    if r.fleet.hasProcess ref then
      let f := r.fleet.afterLine later.env ref line
      let (more, r') := (later.withFleet f).print ref lines
      (some (lastActivity r.fleet ref < lastActivity f ref) :: more, r')
    else
      let (more, r') := later.print ref lines
      (none :: more, r')

/-- A process prints bytes and ends. -/
def exit (r : Rehearsal) (ref : ServerRef) (output : List UInt8) : Rehearsal :=
  if r.fleet.hasProcess ref then r.withFleet (r.fleet.afterExit r.env ref output) else r

/-- Register a running server that has no process. -/
def register (r : Rehearsal) (s : Server) : Except PortTaken Unit × Rehearsal :=
  let (ref, f) := r.fleet.addServer { s with isRunning := true }
  let r := { r with fleet := f, plain := r.plain ++ [ref] }
  match f.register ref with
  | .ok f => (.ok (), { r with fleet := f })
  | .error e => (.error e, r)

/-- Claim a port by hand. -/
def claim (r : Rehearsal) (port : UInt16) : Except PortError Rehearsal :=
  (r.fleet.ports.reserve r.env.isFree port).map fun ports =>
    { r with fleet := { r.fleet with ports := ports }, claims := port :: r.claims }

/-- Give a claim by hand back. Says whether there was one. -/
def unclaim (r : Rehearsal) (port : UInt16) : Bool × Rehearsal :=
  if r.claims.contains port then
    (true, { r with
      fleet := { r.fleet with ports := r.fleet.ports.release port }
      claims := r.claims.filter (· ≠ port) })
  else (false, r)

/-! ### What has changed -/

/-- The lines that a server's console has taken. -/
def consoleOf (f : Fleet) (ref : ServerRef) : List String :=
  ((f.server? ref).map fun s => s.console.lines).getD []

/-- The command line of a launch. -/
def startReport (r : Rehearsal) (ref : ServerRef) : Option Json :=
  match r.fleet.server? ref, r.fleet.supervisor? ref with
  | some s, some v =>
    some (.object [("child", .ofNat (r.numberOf ref)),
      ("argv", .ofTexts (s.spec.commandLine r.fleet.config v.launchPort))])
  | _, _ => none

/-- Ports in ascending order. -/
def portsReport (ports : List UInt16) : Json :=
  .array ((ports.mergeSort fun a b => a ≤ b).map .ofUInt16)

/-- The report of a rehearsal after a step: what is new, and how things stand. -/
def report (before r : Rehearsal) : List (String × Json) :=
  let f := r.fleet
  let isNew := fun (ref : ServerRef) => before.fleet.servers.length ≤ ref
  let written := r.launched.filterMap fun ref =>
    let lines := (consoleOf f ref).drop (consoleOf before.fleet ref).length
    if lines.isEmpty then none else some (toString (r.numberOf ref), Json.ofTexts lines)
  let ended := r.launched.filter fun ref =>
    !f.hasProcess ref && (before.fleet.hasProcess ref || isNew ref)
  let entries := f.registry.entries.mergeSort fun a b => a.1 ≤ b.1
  let launching := (f.launching.map fun (_, ref) => r.nameOf ref).mergeSort fun a b => a ≤ b
  [("notices", .array ((f.notices.drop before.fleet.notices.length).map Notice.report)),
    ("console", .object written),
    ("started", .array ((r.launched.filter isNew).filterMap r.startReport)),
    ("ended", .array (ended.map fun ref => .ofNat (r.numberOf ref))),
    ("registry", .array (entries.map fun (port, ref) =>
      .object [("key", .ofUInt16 port), ("server", .text (r.nameOf ref))])),
    ("launching", .ofTexts launching),
    ("claimed", portsReport (f.ports.claimed.filter f.ports.inRange)),
    ("children", .array (r.launched.filterMap fun ref =>
      (f.server? ref).map fun s => .object s.report)),
    ("starts", .ofNat f.store.starts.length)]

end Rehearsal

end HostDaemon
