import HostDaemon.Console.Event
import HostDaemon.Launch.Spec
import HostDaemon.Path
import HostDaemon.Server.Console
import HostDaemon.Server.Views
import HostDaemon.Text.Quoted

/-! # Servers

One launch of a game server: the specification that it was launched with, which does not change,
and what is known of it while it runs. The flags say where it stands in its life and how its end is
to be reported. A server that is launched again is a new value of this type with the same
identifier. -/

namespace HostDaemon

/-- The settings of a server that its console can change. -/
structure TrackedSettings where
  /-- The name that players see. -/
  hostname : String
  /-- The password of the remote console. -/
  rconPassword : String
  /-- The password for joining the game. -/
  joinPassword : String
  /-- The password for connecting. -/
  connectPassword : String
deriving Repr, DecidableEq

namespace TrackedSettings

/-- The settings that a server is launched with. -/
def ofSpec (spec : LaunchSpec) : TrackedSettings where
  hostname := spec.hostname
  rconPassword := spec.credentials.rconPassword
  joinPassword := spec.credentials.connectPassword
  connectPassword := spec.credentials.connectPassword

/-- The value of a setting. -/
def get (t : TrackedSettings) : Credential → String
  | .hostname => t.hostname
  | .rconPassword => t.rconPassword
  | .joinPassword => t.joinPassword
  | .connectPassword => t.connectPassword

/-- Change a setting. -/
def set (t : TrackedSettings) (value : String) : Credential → TrackedSettings
  | .hostname => { t with hostname := value }
  | .rconPassword => { t with rconPassword := value }
  | .joinPassword => { t with joinPassword := value }
  | .connectPassword => { t with connectPassword := value }

end TrackedSettings

/-- One launch of a game server. -/
structure Server where
  /-- How it was launched. -/
  spec : LaunchSpec
  /-- The path of its log file. -/
  logFile : Path
  /-- How many launches with the same identifier came before. -/
  restarts : UInt32
  /-- When it was launched, in milliseconds since 1970. -/
  launchedAt : Int64
  /-- The port, zero until it is known. -/
  port : UInt16
  /-- The process identifier while there is a process. -/
  pid : Option UInt32
  /-- When a player was last seen doing something, in milliseconds since 1970. -/
  lastActivity : Int64
  /-- Is its start not to be announced? -/
  isRecovering : Bool
  /-- Has it reported its startup? -/
  isRunning : Bool
  /-- Was it killed on purpose? -/
  isKilled : Bool
  /-- Was it killed by its owner? -/
  isKilledByOwner : Bool
  /-- Was its process asked to end without a signal? -/
  isKillRequested : Bool
  /-- Is its end not to be reported? -/
  hidesStop : Bool
  /-- Do sweeps of idle servers spare it? -/
  isProtected : Bool
  /-- Is it launched again when it ends on its own? -/
  autoRestart : Bool
  /-- The address that it is bound to, where it has told. -/
  address : Option String
  /-- The settings as far as they are known. -/
  settings : TrackedSettings
  /-- Its console. -/
  console : Console
deriving Repr, DecidableEq

namespace Server

/-- A server that has just been launched, with no process and no console attached. -/
def create (spec : LaunchSpec) (logFile : Path) (restarts : UInt32) (isRecovering : Bool)
    (now : Int64) : Server where
  spec := spec
  logFile := logFile
  restarts := restarts
  launchedAt := now
  port := 0
  pid := none
  lastActivity := now
  isRecovering := isRecovering
  isRunning := false
  isKilled := false
  isKilledByOwner := false
  isKillRequested := false
  hidesStop := false
  isProtected := false
  autoRestart := spec.autoRestart
  address := none
  settings := .ofSpec spec
  console := .unattached

/-- The identifier. -/
def id (s : Server) : String := s.spec.credentials.id

/-- The account that asked for the server. -/
def owner (s : Server) : String := s.spec.owner

/-- The name of the engine version. -/
def versionName (s : Server) : String := s.spec.version.name

/-- The name that players see. -/
def hostname (s : Server) : String := s.settings.hostname

/-- Does the server belong to the account? The case of the letters A to Z is ignored. -/
def isOwnedBy (s : Server) (account : String) : Bool := Text.sameLetters s.owner account

/-! ### Changes -/

/-- Take over a process identifier; zero stands for none. -/
def setPid (s : Server) (pid : Option UInt32) : Server := { s with pid := pid.filter (· ≠ 0) }

/-- Move the time of the last activity forward. It never moves back. -/
def touch (s : Server) (now : Int64) : Server :=
  if s.lastActivity < now then { s with lastActivity := now } else s

/-- Note a kill on purpose. A server that was killed is not launched again. -/
def markKilled (s : Server) (byOwner : Bool) : Server :=
  { s with isKilled := true, isKilledByOwner := s.isKilledByOwner || byOwner, autoRestart := false }

/-! ### Views -/

/-- Whole seconds between two times. -/
def secondsBetween (start now : Int64) : UInt64 :=
  UInt64.ofNat ((now.toInt - start.toInt) / 1000).toNat

/-- Seconds since the launch. -/
def uptime (s : Server) (now : Int64) : UInt64 := secondsBetween s.launchedAt now

/-- Where the server stands in its life. -/
def stage (s : Server) : ServerStage :=
  if s.isRunning then .running else if s.isKilled then .stopped else .launching

/-- What everyone may see. -/
def summary (s : Server) (now : Int64) : ServerSummary where
  id := s.id
  port := s.port
  owner := s.owner
  hostname := s.hostname
  version := s.versionName
  iwad := s.spec.iwad
  wads := s.spec.wads.map (·.name)
  stage := s.stage
  pid := s.pid
  uptime := s.uptime now
  restarts := s.restarts
  isProtected := s.isProtected
  autoRestart := s.autoRestart
  lastActivity := s.lastActivity

/-- What only the owner and the staff may see. -/
def secrets (s : Server) : ServerSecrets where
  id := s.id
  port := s.port
  rconPassword := s.settings.rconPassword
  joinPassword := s.settings.joinPassword
  connectPassword := s.settings.connectPassword
  logPath := s.logFile

/-- The text of a process identifier that may be missing. -/
def pidText : Option UInt32 → String
  | none => "None"
  | some pid => s!"Some({pid})"

/-- A short description for diagnostics. -/
def description (s : Server) : String :=
  "ServerInstance \x7b id: " ++ Text.Quoted.write s.id ++ ", owner: " ++
    Text.Quoted.write s.owner ++ s!", port: {s.port}, pid: {pidText s.pid} \x7d"

end Server

end HostDaemon
