import HostDaemon.Config.Settings
import HostDaemon.FileSystem
import HostDaemon.Notice
import HostDaemon.Ports
import HostDaemon.Reputation
import HostDaemon.Server.Basic
import HostDaemon.Server.Registry
import HostDaemon.Store

/-! # The fleet

Everything that the daemon knows: its servers, who supervises them, which of them are registered or
still launching, what is promised to hosting requests in progress, the ports that are claimed, and
the notices that went out. Servers are never forgotten; a reference is the number of servers that
were made before. -/

namespace HostDaemon

/-- How far the supervision of a launch has come. -/
inductive SupervisorPhase where
  /-- The output of the process is read. -/
  | reading
  /-- The process has ended, and everything it held was given back. -/
  | ended
  /-- The end was reported. -/
  | reported
  /-- The server was taken out of the registry. -/
  | removed
  /-- A port for the next launch is claimed, and the next launch was announced. -/
  | restarting (port : UInt16)
  /-- Nothing is left to do. -/
  | done
deriving Repr, DecidableEq

/-- Who looks after one launch of a server. -/
structure Supervisor where
  /-- The server. -/
  server : ServerRef
  /-- The open log file. -/
  log : Location
  /-- The port that was claimed for the launch. -/
  launchPort : UInt16
  /-- Is that port still claimed for this launch? -/
  holdsClaim : Bool
  /-- Is there a process? -/
  isProcessAlive : Bool
  /-- How far it has come. -/
  phase : SupervisorPhase
deriving Repr, DecidableEq

/-- A question about the reputation of an address whose answer has not come. -/
structure ReputationLookup where
  /-- The server where the player is. -/
  server : ServerRef
  /-- The player's address. -/
  ip : String
  /-- Was the question sent? -/
  isBegun : Bool
deriving Repr, DecidableEq

/-- Everything that the daemon knows. -/
structure Fleet where
  /-- The configuration. -/
  config : Config
  /-- The directory of the servers' log files. -/
  logDir : Path
  /-- Policy and start records. -/
  store : Store
  /-- The files of the machine. -/
  files : FileSystem
  /-- Every server that was ever made. -/
  servers : List Server
  /-- Every supervision that was ever begun. -/
  supervisors : List Supervisor
  /-- The running servers. -/
  registry : Registry
  /-- The servers that have not reported their startup, by identifier. -/
  launching : List (String × ServerRef)
  /-- How many hosting requests of an owner hold a place in the quota, by the owner's name in
      lowercase letters. -/
  pending : List (String × Nat)
  /-- The ports that are handed out. -/
  ports : PortPool
  /-- Are hosting requests accepted? -/
  isAccepting : Bool
  /-- Who asks about the reputation of addresses, where anybody does. -/
  checker : Option Reputation.Checker
  /-- Questions about addresses without an answer, oldest first. -/
  lookups : List ReputationLookup
  /-- The notices that went out, oldest first. -/
  notices : List Notice

namespace Fleet

/-- A fleet without servers. -/
def start (config : Config) (logDir : Path) (files : FileSystem) : Fleet where
  config := config
  logDir := logDir
  store := .ofPolicy config.policy config.host.defaultQuota
  files := files
  servers := []
  supervisors := []
  registry := .empty
  launching := []
  pending := []
  ports := .ofRange config.host.minPort config.host.maxPort
  isAccepting := true
  checker := if config.reputation.enabled then some (.ofSettings config.reputation) else none
  lookups := []
  notices := []

/-! ### Servers -/

/-- A server. -/
def server? (f : Fleet) (ref : ServerRef) : Option Server := f.servers[ref]?

/-- Change a server. -/
def update (f : Fleet) (ref : ServerRef) (change : Server → Server) : Fleet :=
  { f with servers := f.servers.modify ref change }

/-- Add a server. -/
def addServer (f : Fleet) (s : Server) : ServerRef × Fleet :=
  (f.servers.length, { f with servers := f.servers ++ [s] })

/-- Servers in the order of their ports. -/
def inPortOrder (f : Fleet) (refs : List ServerRef) : List (ServerRef × Server) :=
  (refs.filterMap fun ref => (f.server? ref).map (ref, ·)).mergeSort
    fun a b => a.2.port ≤ b.2.port

/-! ### Registered servers -/

/-- The server under a port. -/
def lookup (f : Fleet) (port : UInt16) : Option (ServerRef × Server) :=
  (f.registry.lookup port).bind fun ref => (f.server? ref).map (ref, ·)

/-- The registered servers. -/
def all (f : Fleet) : List (ServerRef × Server) := f.inPortOrder f.registry.servers

/-- The registered servers of an owner. -/
def ofOwner (f : Fleet) (owner : String) : List (ServerRef × Server) :=
  f.all.filter fun (_, s) => s.isOwnedBy owner

/-- The registered servers of an engine version. -/
def ofVersion (f : Fleet) (version : String) : List (ServerRef × Server) :=
  f.all.filter fun (_, s) => Text.sameLetters s.versionName version

/-- Register a server under its port. -/
def register (f : Fleet) (ref : ServerRef) : Except PortTaken Fleet :=
  match f.server? ref with
  | none => .ok f
  | some s => (f.registry.insert s.port ref).map fun registry => { f with registry := registry }

/-- Take a server out of the registry. Says whether it was there. -/
def unregister (f : Fleet) (ref : ServerRef) : Bool × Fleet :=
  match f.server? ref with
  | none => (false, f)
  | some s =>
    let (removed, registry) := f.registry.remove s.port ref
    (removed, { f with registry := registry })

/-! ### Launching servers -/

/-- Note that a server is launching, in place of another with its identifier. -/
def enterLaunching (f : Fleet) (ref : ServerRef) : Fleet :=
  match f.server? ref with
  | none => f
  | some s => { f with launching := (s.id, ref) :: f.launching.filter (·.1 ≠ s.id) }

/-- Note that the server with this one's identifier is no longer launching. -/
def leaveLaunching (f : Fleet) (ref : ServerRef) : Fleet :=
  match f.server? ref with
  | none => f
  | some s => { f with launching := f.launching.filter (·.1 ≠ s.id) }

/-- The launching servers. -/
def launchingServers (f : Fleet) : List (ServerRef × Server) :=
  f.launching.filterMap fun (_, ref) => (f.server? ref).map (ref, ·)

/-! ### Supervisors -/

/-- Change the supervisors of a server. -/
def updateSupervisor (f : Fleet) (ref : ServerRef) (change : Supervisor → Supervisor) : Fleet :=
  { f with supervisors := f.supervisors.map fun v => if v.server = ref then change v else v }

/-- The supervisor of a server. -/
def supervisor? (f : Fleet) (ref : ServerRef) : Option Supervisor :=
  f.supervisors.find? (·.server = ref)

/-- Give back the port that is claimed for a launch. -/
def releaseClaim (f : Fleet) (ref : ServerRef) : Fleet :=
  match f.supervisor? ref with
  | some v =>
    if v.holdsClaim then
      { f.updateSupervisor ref ({ · with holdsClaim := false }) with
        ports := f.ports.release v.launchPort }
    else f
  | none => f

/-! ### Notices and consoles -/

/-- Send a notice. -/
def notify (f : Fleet) (notice : Notice) : Fleet := { f with notices := f.notices ++ [notice] }

/-- Write lines to a server's console up to the first that is not taken. Says whether all were
    taken. -/
def writeLines (f : Fleet) (ref : ServerRef) (lines : List String) : Bool × Fleet :=
  match f.server? ref with
  | none => (false, f)
  | some s =>
    let (taken, console) := s.console.writeAll lines
    (taken, f.update ref ({ · with console := console }))

/-- Write lines to a server's console, whether they are taken or not. -/
def tellConsole (f : Fleet) (ref : ServerRef) (lines : List String) : Fleet :=
  (f.writeLines ref lines).2

end Fleet

end HostDaemon
