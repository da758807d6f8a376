import HostDaemon.Path

/-! # The data directory

The files by which a daemon and its clients find each other, all in one directory. -/

namespace HostDaemon

/-- The directory in which a daemon keeps its files. -/
structure DataDirectory where
  /-- The path of the directory. -/
  path : Path
deriving Repr, DecidableEq

namespace DataDirectory

/-- The file with the daemon's process identifier. -/
def pidFile (d : DataDirectory) : Path := Path.join d.path "gamehost.pid"

/-- The socket on which the daemon listens. -/
def socketFile (d : DataDirectory) : Path := Path.join d.path "gamehost.sock"

/-- The configuration. -/
def configFile (d : DataDirectory) : Path := Path.join d.path "gamehost.toml"

/-- The output of a daemon that a client started. -/
def daemonLog (d : DataDirectory) : Path := Path.join d.path "daemon.log"

/-- The servers' log files, where the configuration names no directory. -/
def logDir (d : DataDirectory) : Path := Path.join d.path "logs"

/-- Where the data directory is, by the environment: the directory that is named, or one below
    the user's directory for data, which has to be absolute, or below the home directory. -/
def ofEnvironment (named dataHome home : Option String) : Option DataDirectory :=
  match named with
  | some path => some ⟨path⟩
  | none =>
    match dataHome.filter Path.isAbsolute with
    | some base => some ⟨Path.join base "gamehost"⟩
    | none => home.map fun home => ⟨Path.join (Path.join home ".local/share") "gamehost"⟩

end DataDirectory

/-- The log file of a server. -/
def serverLog (logDir : Path) (id : String) : Path := Path.join logDir (id ++ ".txt")

end HostDaemon
