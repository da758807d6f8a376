import HostDaemon.Fleet.Control
import HostDaemon.Fleet.Exit

/-! # Traffic

Hosting requests, supervisors, kills and the end of the daemon act on one fleet at the same time.
Each of them goes on step by step, and between two of its steps all others may go on. A step ends
where others can see what was done; the operations of the fleet, run without a break, take the same
steps.

- `Traffic.step` is one step of whoever is named by the action. An action that is not possible
  changes nothing.
- `Traffic.Reachable` holds of whatever can come about from a start, in any order of steps and in
  any surroundings. -/

namespace HostDaemon

/-! ### What is going on -/

/-- How far a hosting request has come. -/
inductive HostingStage where
  /-- It waits at the gate of the quota. -/
  | waiting
  /-- It has passed the gate and counted the requests of its owner that hold a place. -/
  | countedPending (n : Nat)
  /-- It has counted the launching servers of its owner, too. -/
  | countedLaunching (n : Nat)
  /-- It may host. It holds a place, unless a server is being recovered. -/
  | permitted
  /-- It has seen which ports are registered. -/
  | looked (registered : List UInt16)
  /-- Its options were checked. -/
  | built (spec : LaunchSpec)
  /-- A port is claimed for it. -/
  | claimed (spec : LaunchSpec) (port : UInt16)
  /-- Its server is launching. -/
  | launched (server : ServerRef)
  /-- It has failed after it was permitted. -/
  | failed (cause : RequestError)
  /-- It is answered. -/
  | answered (outcome : Except RequestError ServerRef)

/-- A hosting request. -/
structure Hosting where
  /-- The account that asks. -/
  owner : String
  /-- The level of the account. -/
  level : AccountLevel
  /-- The option line. -/
  optionLine : String
  /-- The port that is asked for. -/
  port : Option UInt16
  /-- Is a server being recovered? -/
  recovering : Bool
  /-- How far it has come. -/
  stage : HostingStage

/-- How far a kill has come. -/
inductive KillStage where
  /-- Nothing is done yet. -/
  | begun
  /-- It is noted on the server. -/
  | marked
  /-- The server is out of the registry; `removed` says whether it was in. -/
  | unregistered (removed : Bool)
  /-- The process was killed; `removed` says whether the server was in the registry. -/
  | finished (removed : Bool)
deriving Repr, DecidableEq

/-- A kill of a server. -/
structure KillTask where
  /-- The server. -/
  server : ServerRef
  /-- Whether it is its owner who kills it on purpose. A process that is only made to end is not
      killed on purpose. -/
  byOwner : Option Bool
  /-- How far it has come. -/
  stage : KillStage
deriving Repr, DecidableEq

/-- How far the end of the daemon has come. -/
inductive ShutdownStage where
  /-- The daemon serves requests. -/
  | notBegun
  /-- The registered servers were listed. -/
  | listed (registered : List ServerRef)
  /-- These servers have still to be killed. -/
  | killing (targets : List ServerRef)
  /-- Every server that was listed is killed. -/
  | finished
deriving Repr, DecidableEq

/-- A fleet and all that goes on in it. -/
structure Traffic where
  /-- The fleet. -/
  fleet : Fleet
  /-- The hosting requests, oldest first. -/
  hostings : List Hosting
  /-- The hosting request that has passed the gate of the quota and not left it. -/
  gate : Option Nat
  /-- Servers that are registered and still count as launching. -/
  starting : List ServerRef
  /-- The kills, oldest first. -/
  kills : List KillTask
  /-- The end of the daemon. -/
  shutdown : ShutdownStage

namespace Traffic

/-- Who goes on. -/
inductive Action where
  /-- A request comes. -/
  | request (r : Request)
  /-- A hosting request goes on. -/
  | hosting (i : Nat)
  /-- A supervisor handles a line that its process has printed. -/
  | line (server : ServerRef) (text : String)
  /-- A supervisor finishes the start of its server. -/
  | finishStart (server : ServerRef)
  /-- A process ends by itself. -/
  | processEnds (server : ServerRef)
  /-- A supervisor whose process has ended goes on. -/
  | supervise (server : ServerRef)
  /-- A question about an address is sent. -/
  | beginLookup (i : Nat)
  /-- A question about an address is answered. -/
  | finishLookup (i : Nat)
  /-- A kill begins. -/
  | beginKill (server : ServerRef) (byOwner : Option Bool)
  /-- A kill goes on. -/
  | kill (i : Nat)
  /-- Idle servers are swept. -/
  | sweep
  /-- The end of the daemon goes on. -/
  | shutdown

/-- Nothing goes on in a fleet. -/
def start (f : Fleet) : Traffic := ⟨f, [], none, [], [], .notBegun⟩

/-! ### Hosting requests -/

/-- The first stage of a hosting request: it is refused at once, or it waits at the gate, or needs
    no place. -/
def firstStage (f : Fleet) (owner : String) (recovering : Bool) : AccountLevel × HostingStage :=
  if !recovering && !f.isAccepting then (.none, .answered (.error .notAccepting))
  else
    match f.require owner .registered with
    | .error e => (.none, .answered (.error e))
    | .ok level => (level, if recovering then .permitted else .waiting)

/-- A hosting request comes. -/
def arrive (t : Traffic) (owner optionLine : String) (port : Option UInt16) (recovering : Bool) :
    Traffic :=
  let (level, stage) := firstStage t.fleet owner recovering
  { t with hostings := t.hostings ++ [⟨owner, level, optionLine, port, recovering, stage⟩] }

/-- Give the place of a hosting request back, where it holds one. -/
def leavePlace (f : Fleet) (h : Hosting) : Fleet :=
  if h.recovering then f else f.givePlaceBack h.owner

/-- The next stage of a hosting request that was permitted, and the fleet afterwards. -/
def nextStage (f : Fleet) (env : Surroundings) (h : Hosting) : HostingStage × Fleet :=
  match h.stage with
  | .permitted => (.looked f.registry.ports, f)
  | .looked registered =>
    match f.buildSpec env registered h.owner h.level h.optionLine h.port h.recovering with
    | .ok spec => (.built spec, f)
    | .error e => (.failed e, f)
  | .built spec =>
    match f.reserveFor env spec with
    | .ok (port, f) => (.claimed spec port, f)
    | .error e => (.failed e, f)
  | .claimed spec port =>
    match f.launch env spec 0 h.recovering port with
    | (.ok ref, f) => (.launched ref, f)
    | (.error e, f) => (.failed (.start e), f)
  | .launched ref => (.answered (.ok ref), leavePlace f h)
  | .failed e => (.answered (.error e), leavePlace f h)
  | stage => (stage, f)

/-- Bring a hosting request into a stage. -/
def setStage (t : Traffic) (i : Nat) (stage : HostingStage) : Traffic :=
  { t with hostings := t.hostings.modify i ({ · with stage := stage }) }

/-- A hosting request goes on. Only one at a time is past the gate. -/
def stepHosting (t : Traffic) (env : Surroundings) (i : Nat) : Traffic :=
  match t.hostings[i]? with
  | none => t
  | some h =>
    match h.stage with
    | .waiting =>
      if t.gate.isSome then t
      else { t.setStage i (.countedPending (t.fleet.pendingOf h.owner)) with gate := some i }
    | .countedPending n => t.setStage i (.countedLaunching (n + t.fleet.launchingOf h.owner))
    | .countedLaunching n =>
      match t.fleet.grantPlace h.owner (n + t.fleet.registeredOf h.owner) with
      | .ok f => { t.setStage i .permitted with fleet := f, gate := none }
      | .error e => { t.setStage i (.answered (.error e)) with gate := none }
    | _ =>
      let (stage, f) := nextStage t.fleet env h
      { t.setStage i stage with fleet := f }

/-! ### Supervisors -/

/-- Does the supervisor of a server wait for lines? -/
def isReading (t : Traffic) (ref : ServerRef) : Bool :=
  match t.fleet.supervisor? ref with
  | some v => v.phase = .reading && !t.starting.contains ref
  | none => false

/-- The first startup line of a server: it is registered, or turned away. -/
def register (t : Traffic) (f : Fleet) (ref : ServerRef) : Traffic :=
  match (f.beginStart ref).register ref with
  | .ok f => { t with fleet := f, starting := ref :: t.starting }
  | .error e => { t with fleet := (f.beginStart ref).rejectStart ref e }

/-- Does a startup line tell of the start of a server? It does the first time. -/
def startsNow (f : Fleet) (ref : ServerRef) (events : List ConsoleEvent) : Bool :=
  events = [.initialized] && (f.server? ref).any (!·.isRunning)

/-- A supervisor handles a line. A line can wait in the pipe of a process that has ended. -/
def stepLine (t : Traffic) (env : Surroundings) (ref : ServerRef) (text : String) : Traffic :=
  if !t.isReading ref then t
  else if startsNow t.fleet ref (ConsoleLine.recognize text) then
    t.register (t.fleet.logLine env ref text) ref
  else { t with fleet := t.fleet.onLine env ref text }

/-- A supervisor finishes the start of its server. -/
def stepStart (t : Traffic) (ref : ServerRef) : Traffic :=
  if t.starting.contains ref then
    { t with fleet := t.fleet.finishStart ref, starting := t.starting.filter (· ≠ ref) }
  else t

/-- A supervisor whose process has ended goes on. -/
def stepSupervisor (t : Traffic) (env : Surroundings) (ref : ServerRef) : Traffic :=
  if t.starting.contains ref then t else { t with fleet := t.fleet.advance env ref }

/-! ### Kills -/

/-- The next stage of a kill, and the fleet afterwards. -/
def nextKillStage (f : Fleet) (k : KillTask) : KillStage × Fleet :=
  match k.stage with
  | .begun =>
    (.marked,
      match k.byOwner with
      | some byOwner => f.update k.server (·.markKilled byOwner)
      | none => f)
  | .marked =>
    let (removed, f) := f.unregister k.server
    (.unregistered removed, f)
  | .unregistered removed => (.finished removed, f.killProcess k.server)
  | .finished removed => (.finished removed, f)

/-- A kill begins. Whoever kills a server knows it, so that there is one. -/
def beginKill (t : Traffic) (ref : ServerRef) (byOwner : Option Bool) : Traffic :=
  if (t.fleet.server? ref).isSome then { t with kills := t.kills ++ [⟨ref, byOwner, .begun⟩] }
  else t

/-- A kill goes on. -/
def stepKill (t : Traffic) (i : Nat) : Traffic :=
  match t.kills[i]? with
  | none => t
  | some k =>
    let (stage, f) := nextKillStage t.fleet k
    { t with fleet := f, kills := t.kills.set i { k with stage := stage } }

/-- The end of the daemon goes on: the registered servers are listed, then the launching ones, and
    then all of them are killed. -/
def stepShutdown (t : Traffic) : Traffic :=
  match t.shutdown with
  | .notBegun => { t with shutdown := .listed (t.fleet.all.map (·.1)) }
  | .listed registered =>
    { t with shutdown := .killing (registered ++ t.fleet.launchingBeside registered) }
  | .killing [] => { t with shutdown := .finished }
  | .killing (ref :: refs) =>
    { t with fleet := t.fleet.killQuietly ref false, shutdown := .killing refs }
  | .finished => t

/-! ### All steps -/

/-- A request comes. A hosting request goes on in steps of its own; every other is done at once. -/
def stepRequest (t : Traffic) (env : Surroundings) : Request → Traffic
  | .host owner optionLine port recovering => t.arrive owner optionLine port recovering
  | r => { t with fleet := (t.fleet.dispatch env r).2 }

/-- One step. -/
def step (t : Traffic) (env : Surroundings) : Action → Traffic
  | .request r => t.stepRequest env r
  | .hosting i => t.stepHosting env i
  | .line ref text => t.stepLine env ref text
  | .finishStart ref => t.stepStart ref
  | .processEnds ref => { t with fleet := t.fleet.endProcess ref }
  | .supervise ref => t.stepSupervisor env ref
  | .beginLookup i => { t with fleet := t.fleet.beginLookup i }
  | .finishLookup i => { t with fleet := t.fleet.finishLookup env i }
  | .beginKill ref byOwner => t.beginKill ref byOwner
  | .kill i => t.stepKill i
  | .sweep => { t with fleet := (t.fleet.sweep env.now).2 }
  | .shutdown => t.stepShutdown

/-- Several steps, each in its surroundings. -/
def run (t : Traffic) (steps : List (Surroundings × Action)) : Traffic :=
  steps.foldl (fun t (env, a) => t.step env a) t

/-- What can come about from `s`. -/
inductive Reachable (s : Traffic) : Traffic → Prop where
  /-- The start itself. -/
  | start : Reachable s s
  /-- What one more step makes of it. -/
  | step {t : Traffic} (env : Surroundings) (a : Action) (h : Reachable s t) :
      Reachable s (t.step env a)

/-- Some steps lead to something reachable. -/
theorem Reachable.run {s t : Traffic} (h : Reachable s t) (steps : List (Surroundings × Action)) :
    Reachable s (t.run steps) := by
  induction steps generalizing t with
  | nil => exact h
  | cons a steps ih => exact ih (h.step a.1 a.2)

/-- What is reachable is reached by a list of steps. -/
theorem Reachable.exists_run {s t : Traffic} (h : Reachable s t) :
    ∃ steps, t = s.run steps := by
  induction h with
  | start => exact ⟨[], rfl⟩
  | step env a _ ih =>
    obtain ⟨steps, rfl⟩ := ih
    exact ⟨steps ++ [(env, a)], by simp [Traffic.run]⟩

end Traffic

end HostDaemon
