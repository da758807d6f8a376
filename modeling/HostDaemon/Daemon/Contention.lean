import HostDaemon.Daemon.PidFile

/-! # Contention

Any number of processes act on one data directory at the same time: daemons that claim it, hold it
and give it up, and clients that only look for a daemon. Each of them goes on by one operation on a
file, or one question about a process, at a time, and between two of its steps all others may go
on. A process can die between any two of its steps, and what it has done to the files stays.

- `Contention.step` is one step of whoever is named by the action. An action that is not possible
  changes nothing.
- `Contention.Reachable` holds of whatever can come about from a start, in any order of steps. -/

namespace HostDaemon

/-! ### What is going on -/

/-- What a process is after. -/
inductive Purpose where
  /-- It looks for a daemon. -/
  | look
  /-- It claims the data directory. -/
  | claim
deriving Repr, DecidableEq

/-- How far a process has come. -/
inductive ClaimStage where
  /-- It is about to read the pid file. -/
  | reading
  /-- The pid file names a process. It is about to ask whether that process is alive. -/
  | judging (named : UInt32)
  /-- The named process is alive. It is about to try the socket. -/
  | connecting (named : UInt32)
  /-- The named process was not alive. It is about to take the pid file away. -/
  | clearingPidFile
  /-- It is about to take the socket away. -/
  | clearingSocket
  /-- It is about to create the pid file. -/
  | creating
  /-- There was a pid file. It is about to read who made it. -/
  | naming
  /-- It has made a pid file and is about to write into it; `linked` says whether the file that it
      has open still is the pid file. -/
  | writing (linked : Bool)
  /-- It holds the claim. -/
  | holding
  /-- It gives the claim up, and is about to read the pid file. -/
  | releasing
  /-- The pid file names it. It is about to take the file away. -/
  | clearingOwn
  /-- It has given the claim up. -/
  | released
  /-- It has seen this. -/
  | seen (state : DaemonState)
  /-- Its claim was refused. -/
  | refused (cause : ClaimError)
deriving Repr, DecidableEq

/-- A process that acts on the data directory. -/
structure Contender where
  /-- Its process identifier. -/
  pid : UInt32
  /-- What it is after. -/
  purpose : Purpose
  /-- Is it alive? -/
  isAlive : Bool
  /-- How far it has come. -/
  stage : ClaimStage
deriving Repr, DecidableEq

/-- The processes that act on a data directory, and the files. -/
structure Contention where
  /-- The files of the machine. -/
  files : FileSystem
  /-- The processes, in the order in which they came. -/
  contenders : List Contender

namespace Contender

/-- Does it hold a claim? -/
def holds (c : Contender) : Bool := c.isAlive && c.stage = .holding

/-- Where a process goes on that has seen no daemon. -/
def whenStopped (c : Contender) : ClaimStage :=
  match c.purpose with
  | .look => .seen .stopped
  | .claim => .creating

/-- Where a process goes on that has seen a daemon. -/
def whenTaken (c : Contender) (other : UInt32) (state : DaemonState) : ClaimStage :=
  match c.purpose with
  | .look => .seen state
  | .claim => .refused (.alreadyRunning other)

/-- The file that it has open is no longer the pid file, where it has one open. -/
def unlink (c : Contender) : Contender :=
  match c.stage with
  | .writing _ => { c with stage := .writing false }
  | _ => c

/-- The next stage, and the files afterwards. -/
def next (c : Contender) (d : DataDirectory) (p : Processes) (fs : FileSystem) :
    ClaimStage × FileSystem :=
  match c.stage with
  | .reading =>
    match d.namedPid? fs with
    | some named => (.judging named, fs)
    | none => (c.whenStopped, fs)
  | .judging named => (if p.isAlive named then .connecting named else .clearingPidFile, fs)
  | .connecting named =>
    (c.whenTaken named (if p.listensOn d.socketFile then .ready named else .starting named), fs)
  | .clearingPidFile => (.clearingSocket, DataDirectory.discard fs d.pidFile)
  | .clearingSocket => (c.whenStopped, DataDirectory.discard fs d.socketFile)
  | .creating =>
    match fs.createNew d.pidFile [] with
    | .ok fs => (.writing true, fs)
    | .error .alreadyExists => (.naming, fs)
    | .error e => (.refused (.file d.pidFile e), fs)
  | .naming => (.refused (.alreadyRunning ((d.namedPid? fs).getD 0)), fs)
  | .writing linked => (.holding, if linked then d.writePid fs c.pid else fs)
  | .releasing => (if d.namedPid? fs = some c.pid then .clearingOwn else .released, fs)
  | .clearingOwn => (.released, DataDirectory.discard fs d.pidFile)
  | stage => (stage, fs)

/-- Does the next step take the pid file away? -/
def clearsPidFile (c : Contender) : Bool :=
  c.stage = .clearingPidFile || c.stage = .clearingOwn

end Contender

namespace Contention

/-- Who goes on. -/
inductive Action where
  /-- A process comes. -/
  | arrive (pid : UInt32) (purpose : Purpose)
  /-- A process goes on. -/
  | proceed (i : Nat)
  /-- A process gives its claim up. -/
  | giveUp (i : Nat)
  /-- A process dies. -/
  | die (i : Nat)
deriving Repr, DecidableEq

/-- Nobody acts on the files yet. -/
def start (fs : FileSystem) : Contention := ⟨fs, []⟩

/-- What can be asked of processes, where some of them act on the data directory: these exist while
    they are alive, and `others` knows of all others. -/
def processes (t : Contention) (others : Processes) : Processes where
  exists? pid := t.contenders.any (fun c => c.isAlive && c.pid = pid) || others.exists? pid
  listensOn := others.listensOn

/-- A process goes on, where it is alive. -/
def proceed (t : Contention) (d : DataDirectory) (others : Processes) (i : Nat) : Contention :=
  match t.contenders[i]? with
  | none => t
  | some c =>
    if !c.isAlive then t
    else
      let (stage, fs) := c.next d (t.processes others) t.files
      let contenders := if c.clearsPidFile then t.contenders.map (·.unlink) else t.contenders
      ⟨fs, contenders.set i { c with stage := stage }⟩

/-- Change a process that is alive. -/
def change (t : Contention) (i : Nat) (f : Contender → Contender) : Contention :=
  { t with contenders := t.contenders.modify i fun c => if c.isAlive then f c else c }

/-- One step. -/
def step (t : Contention) (d : DataDirectory) (others : Processes) :
    Action → Contention
  | .arrive pid purpose => { t with contenders := t.contenders ++ [⟨pid, purpose, true, .reading⟩] }
  | .proceed i => t.proceed d others i
  | .giveUp i =>
    t.change i fun c => if c.stage = .holding then { c with stage := .releasing } else c
  | .die i => t.change i ({ · with isAlive := false })

/-- Several steps, each beside other processes. -/
def run (t : Contention) (d : DataDirectory) (steps : List (Processes × Action)) :
    Contention :=
  steps.foldl (fun t (others, a) => t.step d others a) t

/-- What can come about from `s`. -/
inductive Reachable (d : DataDirectory) (s : Contention) : Contention → Prop where
  /-- The start itself. -/
  | start : Reachable d s s
  /-- What one more step makes of it. -/
  | step {t : Contention} (others : Processes) (a : Action) (h : Reachable d s t) :
      Reachable d s (t.step d others a)

/-- Some steps lead to something reachable. -/
theorem Reachable.run {d : DataDirectory} {s t : Contention} (h : Reachable d s t)
    (steps : List (Processes × Action)) : Reachable d s (t.run d steps) := by
  induction steps generalizing t with
  | nil => exact h
  | cons a steps ih => exact ih (h.step a.1 a.2)

/-- Among the processes that are alive at most one holds a claim. -/
def Exclusive (t : Contention) : Prop :=
  ∀ (i j : Nat) (c e : Contender),
    t.contenders[i]? = some c → t.contenders[j]? = some e → c.holds → e.holds → i = j

end Contention

end HostDaemon
