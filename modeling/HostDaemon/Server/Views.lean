/-! # What is shown of a server

The views of a server that leave the daemon: the summary that everyone may see, the secrets that
its owner and the staff may see, and the answer to a status query. -/

namespace HostDaemon

/-- Where a server stands in its life. -/
inductive ServerStage where
  /-- The process is up and has not reported its startup. -/
  | launching
  /-- The process has reported its startup. -/
  | running
  /-- The server was killed before it reported its startup. -/
  | stopped
deriving Repr, DecidableEq

/-- The name of a stage. -/
def ServerStage.name : ServerStage → String
  | .launching => "launching"
  | .running => "running"
  | .stopped => "stopped"

/-- What everyone may see of a server. -/
structure ServerSummary where
  /-- The identifier, kept over restarts. -/
  id : String
  /-- The port, zero until it is known. -/
  port : UInt16
  /-- The account that asked for the server. -/
  owner : String
  /-- The name that players see. -/
  hostname : String
  /-- The name of the engine version. -/
  version : String
  /-- The main game file. -/
  iwad : String
  /-- The names of the game files that the owner added. -/
  wads : List String
  /-- Where the server stands in its life. -/
  stage : ServerStage
  /-- The process identifier while there is a process. -/
  pid : Option UInt32
  /-- Seconds since the launch. -/
  uptime : UInt64
  /-- How many launches of this server came before this one. -/
  restarts : UInt32
  /-- Do sweeps of idle servers spare it? -/
  isProtected : Bool
  /-- Is it launched again when it ends on its own? -/
  autoRestart : Bool
  /-- When a player was last seen doing something, in milliseconds since 1970. -/
  lastActivity : Int64
deriving Repr, DecidableEq

/-- What only the owner and the staff may see of a server. -/
structure ServerSecrets where
  /-- The identifier. -/
  id : String
  /-- The port. -/
  port : UInt16
  /-- The password of the remote console. -/
  rconPassword : String
  /-- The password for joining the game. -/
  joinPassword : String
  /-- The password for connecting. -/
  connectPassword : String
  /-- The path of the log file. -/
  logPath : String
deriving Repr, DecidableEq

/-- The answer to a status query. -/
structure QueryReport where
  /-- The server. -/
  summary : ServerSummary
  /-- The last lines of its log, oldest first. -/
  recent : List String
deriving Repr, DecidableEq

end HostDaemon
