import HostDaemon.Config.File
import HostDaemon.Daemon.Directory
import HostDaemon.Number.Bounded

/-! # The pid file

Of all daemons that are started on one data directory one may run. The pid file names the process
that owns the directory, and the socket tells whether it serves requests yet. A file that names a
process that is gone is taken away with its socket. Looking, taking away, creating and writing are
separate operations on files: other processes may act in between. -/

namespace HostDaemon

/-- What the data directory tells of a daemon. -/
inductive DaemonState where
  /-- No process is named that is alive. -/
  | stopped
  /-- A process is alive and does not serve requests. -/
  | starting (pid : UInt32)
  /-- A process serves requests. -/
  | ready (pid : UInt32)
deriving Repr, DecidableEq

/-- Why a data directory cannot be claimed. -/
inductive ClaimError where
  /-- Another daemon has it. -/
  | alreadyRunning (pid : UInt32)
  /-- The pid file cannot be made. -/
  | file (path : Path) (cause : FileError)
deriving Repr, DecidableEq

/-- The text of the error. -/
def ClaimError.message : ClaimError → String
  | .alreadyRunning pid => s!"daemon is already running (pid {pid})"
  | .file path cause => s!"pid file {path}: " ++ cause.message

/-- What can be asked of the processes of a machine. -/
structure Processes where
  /-- Is there a process with an identifier? -/
  exists? : UInt32 → Bool
  /-- Does a process accept connections on a socket? -/
  listensOn : Path → Bool

/-- Is there a process with an identifier? Zero and what does not fit into 31 bits name none. -/
def Processes.isAlive (p : Processes) (pid : UInt32) : Bool :=
  0 < pid && pid < 2147483648 && p.exists? pid

namespace DataDirectory

/-- The process that the pid file names. -/
def namedPid? (d : DataDirectory) (fs : FileSystem) : Option UInt32 :=
  match fs.readText d.pidFile with
  | .ok text => Number.readUInt32? (Text.trim text)
  | .error _ => none

/-- Take a file away, where it can be. -/
def discard (fs : FileSystem) (p : Path) : FileSystem := (fs.removeFile p).toOption.getD fs

/-- Look for a daemon. What a process that is gone has left is taken away. -/
def daemonState (d : DataDirectory) (p : Processes) (fs : FileSystem) : DaemonState × FileSystem :=
  match d.namedPid? fs with
  | none => (.stopped, fs)
  | some pid =>
    if !p.isAlive pid then (.stopped, discard (discard fs d.pidFile) d.socketFile)
    else if p.listensOn d.socketFile then (.ready pid, fs)
    else (.starting pid, fs)

/-- Create the pid file, which must not exist. -/
def createPidFile (d : DataDirectory) (fs : FileSystem) : Except ClaimError FileSystem :=
  match fs.createNew d.pidFile [] with
  | .ok fs => .ok fs
  | .error .alreadyExists => .error (.alreadyRunning ((d.namedPid? fs).getD 0))
  | .error e => .error (.file d.pidFile e)

/-- Write a process identifier into the pid file. -/
def writePid (d : DataDirectory) (fs : FileSystem) (pid : UInt32) : FileSystem :=
  match fs.locate d.pidFile with
  | .ok (l, _) => fs.appendAt l (Text.Utf8.bytesOf (toString pid))
  | .error _ => fs

/-- Claim the data directory for a process. The files afterwards are given also where that
    fails. -/
def claim (d : DataDirectory) (p : Processes) (pid : UInt32) (fs : FileSystem) :
    Except ClaimError Unit × FileSystem :=
  match d.daemonState p fs with
  | (.starting other, fs) | (.ready other, fs) => (.error (.alreadyRunning other), fs)
  | (.stopped, fs) =>
    match d.createPidFile fs with
    | .error e => (.error e, fs)
    | .ok fs => (.ok (), d.writePid fs pid)

/-- Give the claim of a process up: the pid file is taken away where it names that process. -/
def release (d : DataDirectory) (pid : UInt32) (fs : FileSystem) : FileSystem :=
  if d.namedPid? fs = some pid then discard fs d.pidFile else fs

end DataDirectory

end HostDaemon
