import HostDaemon.Daemon.PidFile
import HostDaemon.Fleet.Control
import HostDaemon.Fleet.Exit
import HostDaemon.Wire.Line

/-! # The daemon

A daemon claims its data directory, loads its configuration and opens its socket; then it serves
requests, one for each connection; at the end it kills every server and takes its files away. -/

namespace HostDaemon

/-- Why a daemon does not start. -/
inductive StartupError where
  /-- The data directory cannot be made. -/
  | directory (cause : FileError)
  /-- The data directory cannot be claimed. -/
  | claim (cause : ClaimError)
  /-- The configuration is rejected. -/
  | config (path : Path) (cause : ConfigError)
  /-- What is in the place of the socket cannot be taken away. -/
  | socket (cause : FileError)

/-- The causes of the error, the outermost first. -/
def StartupError.causes : StartupError → List String
  | .directory cause | .socket cause => [cause.message]
  | .claim (.file path cause) => [(ClaimError.file path cause).message, cause.message]
  | .claim cause => [cause.message]
  | .config path cause => [s!"failed to load {path}", cause.message]

/-- A daemon that serves requests. -/
structure Daemon where
  /-- The data directory. -/
  directory : DataDirectory
  /-- The process. -/
  pid : UInt32
  /-- The servers; the files of the machine are among what it holds. -/
  fleet : Fleet

namespace Daemon

/-- Take away what lies in the place of the socket. -/
def clearSocket (d : DataDirectory) (fs : FileSystem) : Except StartupError FileSystem :=
  if fs.contains d.socketFile then
    match fs.removeFile d.socketFile with
    | .ok fs => .ok fs
    | .error e => .error (.socket e)
  else .ok fs

/-- Load the configuration and open the socket in a data directory that is claimed. -/
def openDirectory (d : DataDirectory) (pid : UInt32) (fs : FileSystem) :
    Except StartupError Daemon :=
  match Config.load fs d.configFile with
  | .error e => .error (.config d.configFile e)
  | .ok config =>
    match clearSocket d fs with
    | .error e => .error e
    | .ok fs =>
      match fs.createNew d.socketFile [] with
      | .error e => .error (.socket e)
      | .ok fs => .ok ⟨d, pid, .start config (config.logDirOr d.logDir) fs⟩

/-- Start a daemon. The claim is given up where that fails; the files afterwards are given in
    either case, with a daemon among what it holds. -/
def start (d : DataDirectory) (p : Processes) (pid : UInt32) (fs : FileSystem) :
    Except (StartupError × FileSystem) Daemon :=
  match fs.createDirectories d.path with
  | .error e => .error (.directory e, fs)
  | .ok fs =>
    match d.claim p pid fs with
    | (.error e, fs) => .error (.claim e, fs)
    | (.ok (), fs) =>
      match openDirectory d pid fs with
      | .ok daemon => .ok daemon
      | .error e => .error (e, d.release pid fs)

/-- Serve a connection: the first line of what comes is a request. Nothing is answered where
    nothing comes. Says whether the daemon is to stop. -/
def serve (daemon : Daemon) (env : Surroundings) (text : String) :
    Option Response × Bool × Daemon :=
  let cs := text.toList
  let line := cs.take ((cs.takeWhile (· ≠ '\n')).length + 1)
  if line.isEmpty then (none, false, daemon)
  else
    match Request.readLine (String.ofList line) with
    | .error e => (some (.error ("invalid request: " ++ e.message)), false, daemon)
    | .ok request =>
      let (response, fleet) := daemon.fleet.dispatch env request
      (some response, request.stopsDaemon, { daemon with fleet := fleet.settle env })

/-- Stop a daemon: every server is killed, and the socket and the pid file are taken away. -/
def stop (daemon : Daemon) (env : Surroundings) : FileSystem :=
  let fleet := daemon.fleet.killAllServers.settle env
  daemon.directory.release daemon.pid
    (DataDirectory.discard fleet.files daemon.directory.socketFile)

end Daemon

end HostDaemon
