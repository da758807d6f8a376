import HostDaemon.Daemon.Directory
import HostDaemon.Fleet.Basic
import HostDaemon.Fleet.Surroundings
import HostDaemon.Launch.CommandLine
import HostDaemon.Log.Banner

/-! # Launching

Starting the process of a server on a port that is claimed for it. The owner's files are made first,
then the process is started, then its log file is opened. A launch that fails on the way leaves no
process and gives the port back. -/

namespace HostDaemon

/-- Why a process cannot be started. -/
inductive SpawnError where
  /-- The program cannot be run. -/
  | program (cause : FileError)
  /-- A word of the command line holds a character that ends it. -/
  | nulInWord
deriving Repr, DecidableEq

/-- The text of the error. -/
def SpawnError.message : SpawnError → String
  | .program cause => cause.message
  | .nulInWord => "nul byte found in provided data"

/-- Why a launch fails. -/
inductive StartError where
  /-- The directory of the program does not exist. -/
  | missingDirectory (path : Path)
  /-- The process cannot be started. -/
  | spawn (cause : SpawnError)
  /-- The owner's files cannot be made. -/
  | ownerFiles (cause : FileError)
  /-- The log file cannot be opened. -/
  | logFile (cause : FileError)
deriving Repr, DecidableEq

/-- The text of the error. -/
def StartError.message : StartError → String
  | .missingDirectory path => s!"working directory {path} does not exist"
  | .spawn cause => "failed to spawn server: " ++ cause.message
  | .ownerFiles cause => "failed to prepare per-owner files: " ++ cause.message
  | .logFile cause => "failed to open instance log: " ++ cause.message

/-! ### Files and processes -/

/-- Make a directory and a file in it where they are missing; a file that is there is left as it
    is. The file system afterwards is given also where that fails. -/
def FileSystem.ensureFile (fs : FileSystem) (dir file : Path) :
    Except FileError Unit × FileSystem :=
  match fs.createDirectories dir with
  | .error e => (.error e, fs)
  | .ok fs =>
    match fs.openAppend file with
    | .error e => (.error e, fs)
    | .ok (_, fs) => (.ok (), fs)

/-- Make an owner's files in some directories. -/
def FileSystem.ensureOwnerFiles (fs : FileSystem) (owner : String) :
    List Path → Except FileError Unit × FileSystem
  | [] => (.ok (), fs)
  | dir :: dirs =>
    match fs.ensureFile dir (ownerFile dir owner) with
    | (.error e, fs) => (.error e, fs)
    | (.ok (), fs) => fs.ensureOwnerFiles owner dirs

/-- Can a process be started with a command line? -/
def FileSystem.checkSpawn (fs : FileSystem) (commandLine : List String) : Except SpawnError Unit :=
  if commandLine.any (·.toList.contains '\x00') then .error .nulInWord
  else
    match fs.locate (commandLine.headD "") with
    | .error e => .error (.program e)
    | .ok (_, none) => .error (.program .notFound)
    | .ok (_, some (.file _ true)) => .ok ()
    | .ok (_, some _) => .error (.program .denied)

/-- Open a log file and write the banner of a run. The file system afterwards is given also where
    that fails. -/
def FileSystem.openLog (fs : FileSystem) (path : Path) (banner : String) :
    Except FileError Location × FileSystem :=
  match fs.createDirectories ((Path.parent? path).getD "") with
  | .error e => (.error e, fs)
  | .ok fs =>
    match fs.openAppend path with
    | .error e => (.error e, fs)
    | .ok (log, fs) => (.ok log, fs.appendAt log (Text.Utf8.bytesOf banner))

namespace Fleet

/-- The directories of the owners' files. -/
def ownerDirectories (f : Fleet) : List Path :=
  [f.config.host.banlistDir, f.config.host.adminlistDir, f.config.host.whitelistDir]

/-- The banner of a run. -/
def bannerOf (f : Fleet) (owner : String) (commandLine : List String) : Log.Banner where
  owner := owner
  service := f.config.service.name
  node := f.config.service.node
  commandLine := commandLine

/-- Take over a started process: the server is made, its supervision begins, and it is launching. -/
def adopt (f : Fleet) (env : Surroundings) (spec : LaunchSpec) (restarts : UInt32)
    (isRecovering : Bool) (port : UInt16) (logFile : Path) (log : Location) : ServerRef × Fleet :=
  let s := (Server.create spec logFile restarts isRecovering env.now).setPid (some env.freshPid)
  let (ref, f) := f.addServer { s with console := .opened }
  let v : Supervisor := ⟨ref, log, port, true, true, .reading⟩
  (ref, { f with supervisors := f.supervisors ++ [v] }.enterLaunching ref)

/-- Launch a server on a claimed port. The claim passes to the launch, or is given back where the
    launch fails. -/
def launch (f : Fleet) (env : Surroundings) (spec : LaunchSpec) (restarts : UInt32)
    (isRecovering : Bool) (port : UInt16) : Except StartError ServerRef × Fleet :=
  let failed := fun (files : FileSystem) => { f with files := files, ports := f.ports.release port }
  let commandLine := spec.commandLine f.config port
  let dir := (Path.parent? spec.version.path).getD ""
  if !f.files.isDirectory dir then (.error (.missingDirectory dir), failed f.files)
  else
    match f.files.ensureOwnerFiles spec.owner f.ownerDirectories with
    | (.error e, files) => (.error (.ownerFiles e), failed files)
    | (.ok (), files) =>
      match files.checkSpawn commandLine with
      | .error e => (.error (.spawn e), failed files)
      | .ok () =>
        let logFile := serverLog f.logDir spec.credentials.id
        let banner := (f.bannerOf spec.owner commandLine).render env.nowSeconds
        match files.openLog logFile banner with
        | (.error e, files) => (.error (.logFile e), failed files)
        | (.ok log, files) =>
          let (ref, f) :=
            { f with files := files }.adopt env spec restarts isRecovering port logFile log
          (.ok ref, f)

end Fleet

end HostDaemon
