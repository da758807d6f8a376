import HostDaemon.Fleet.Events
import HostDaemon.Fleet.Launch
import HostDaemon.Log.Tail

/-! # The end of a launch

What happens when the process of a server has ended: what it held is given back, its end is
reported, it is taken out of the registry, and it may be launched again. Each of these is a step of
its supervisor, and other things may happen between two of them. -/

namespace HostDaemon.Fleet

/-- Give back what a process held: the claim on its port, its log file, its console. -/
def closeRun (f : Fleet) (env : Surroundings) (ref : ServerRef) (v : Supervisor) : Fleet :=
  match f.server? ref with
  | none => f
  | some s =>
    let f := f.releaseClaim ref
    let footer := Log.footer env.nowSeconds (s.uptime env.now).toNat
    let f := { f with files := f.files.appendAt v.log (Text.Utf8.bytesOf footer) }
    (f.update ref fun s => { s with console := s.console.close, pid := none }).leaveLaunching ref

/-- The notices about the end of a server. -/
def exitNotices (s : Server) (now : Int64) : List Notice :=
  let ran := "Server ran for " ++ Log.uptimeText (s.uptime now).toNat
  let place := s!"'{s.hostname}' on port {s.port}"
  if s.hidesStop then []
  else if s.port ≠ 0 then
    if s.isKilled then
      .owner s.owner s!"Server {place} stopped! {ran}" ::
        (if s.isKilledByOwner then []
          else [.moderation s!"{s.owner}'s server {place} stopped! {ran}"])
    else
      [.owner s.owner s!"Server {place} crashed! {ran}",
        .error s!"{s.owner}'s server {place} crashed! {ran}"]
  else if s.isRecovering then []
  else
    [.owner s.owner s!"Server '{s.hostname}' was unable to start. This is most likely due to a wad error, incorrect load order, missing required wads or requires a later game version. See your log file for more details.",
      .owner s.owner s!"You can view your logfile at {s.logFile}"]

/-- Report the end of a server. -/
def reportExit (f : Fleet) (env : Surroundings) (s : Server) : Fleet :=
  { f with notices := f.notices ++ exitNotices s env.now }

/-- Is a server launched again? It has to want that, not be killed, have told its port, and not
    have been launched too often. -/
def wantsRestart (f : Fleet) (s : Server) : Bool :=
  s.autoRestart && !s.isKilled && s.port ≠ 0 && s.restarts < f.config.host.maxRestarts

/-- Claim a port for the next launch: the one that the server had, the one that was claimed for
    it, or the least that can be handed out. -/
def reserveForRestart (f : Fleet) (env : Surroundings) (bound launchPort : UInt16) :
    Option (UInt16 × PortPool) :=
  match f.ports.reserve env.isFree bound with
  | .ok ports => some (bound, ports)
  | .error _ =>
    match f.ports.reserve env.isFree launchPort with
    | .ok ports => some (launchPort, ports)
    | .error _ => f.ports.reserveFirst? env.isFree

/-- Decide whether a server is launched again, claim a port for that, and announce it. -/
def planRestart (f : Fleet) (env : Surroundings) (v : Supervisor) (s : Server) :
    SupervisorPhase × Fleet :=
  if !f.wantsRestart s then (.done, f)
  else
    match f.reserveForRestart env s.port v.launchPort with
    | none =>
      (.done, f.notify
        (.error s!"{s.owner}'s server '{s.hostname}' could not be restarted: no free port"))
    | some (port, ports) =>
      let attempt := s.restarts + 1
      let most := f.config.host.maxRestarts
      (.restarting port, { f with ports := ports }.notify (.owner s.owner
        s!"Server '{s.hostname}' is being restarted (attempt {attempt} of {most})."))

/-- Launch a server again on a claimed port. -/
def relaunch (f : Fleet) (env : Surroundings) (s : Server) (port : UInt16) : Fleet :=
  let spec := { s.spec with requestedPort := some s.port }
  match f.launch env spec (s.restarts + 1) false port with
  | (.ok _, f) => f
  | (.error e, f) =>
    f.notify (.error (s!"Server '{s.hostname}' failed to restart: " ++ e.message))

/-- Bring a supervisor into a phase. -/
def setPhase (f : Fleet) (ref : ServerRef) (phase : SupervisorPhase) : Fleet :=
  f.updateSupervisor ref ({ · with phase := phase })

/-- The next step of a supervisor whose server's process has ended. -/
def advance (f : Fleet) (env : Surroundings) (ref : ServerRef) : Fleet :=
  match f.supervisor? ref, f.server? ref with
  | some v, some s =>
    match v.phase with
    | .reading =>
      if v.isProcessAlive then f else (f.closeRun env ref v).setPhase ref .ended
    | .ended => (f.reportExit env s).setPhase ref .reported
    | .reported => (f.unregister ref).2.setPhase ref .removed
    | .removed =>
      let (phase, f) := f.planRestart env v s
      f.setPhase ref phase
    | .restarting port => (f.relaunch env s port).setPhase ref .done
    | .done => f
  | _, _ => f

/-- The process of a server has ended: all steps of its supervisor, one after the other. -/
def wrapUp (f : Fleet) (env : Surroundings) (ref : ServerRef) : Fleet :=
  ((((f.advance env ref).advance env ref).advance env ref).advance env ref).advance env ref

/-- The process of a server ends by itself. -/
def endProcess (f : Fleet) (ref : ServerRef) : Fleet :=
  f.updateSupervisor ref ({ · with isProcessAlive := false })

/-- All questions about addresses are sent and answered, one after the other. -/
def answerLookups (f : Fleet) (env : Surroundings) : Fleet :=
  f.lookups.foldl (fun f _ => (f.beginLookup 0).finishLookup env 0) f

/-- Everything that follows by itself: the answers to questions about addresses, and the ends of
    the launches whose processes were killed. -/
def settle (f : Fleet) (env : Surroundings) : Fleet :=
  let f := f.answerLookups env
  (f.supervisors.map (·.server)).foldl (fun f ref => f.wrapUp env ref) f

/-! ### What a process does -/

/-- Does a server have a process? -/
def hasProcess (f : Fleet) (ref : ServerRef) : Bool :=
  match f.supervisor? ref with
  | some v => v.isProcessAlive
  | none => false

/-- A process prints a line, and everything that follows happens. -/
def afterLine (f : Fleet) (env : Surroundings) (ref : ServerRef) (line : String) : Fleet :=
  (f.onLine env ref line).settle env

/-- A process prints bytes and ends, and everything that follows happens. -/
def afterExit (f : Fleet) (env : Surroundings) (ref : ServerRef) (output : List UInt8) : Fleet :=
  let f := (Log.forwardedLines output).foldl (fun f line =>
    (f.onLine env ref line).answerLookups env) f
  (f.endProcess ref).settle env

end HostDaemon.Fleet
