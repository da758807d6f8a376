import HostDaemon.Client.View
import HostDaemon.Cli.Command
import HostDaemon.Daemon.PidFile

/-! # Clients

A client looks for the daemon of its data directory. It connects to one that serves requests, waits
for one that is starting, and starts one where there is none, provided that there is a
configuration. -/

namespace HostDaemon

namespace Client

/-- What a client does to reach the daemon. -/
inductive Approach where
  /-- It connects. -/
  | connect
  /-- It waits for a daemon that is starting. -/
  | wait (pid : UInt32)
  /-- It starts a daemon. -/
  | start
  /-- It gives up, since there is no configuration. -/
  | giveUp
deriving Repr, DecidableEq

/-- Look for the daemon of a data directory. The files afterwards are given too, since what a
    process that is gone has left is taken away. -/
def approach (d : DataDirectory) (p : Processes) (fs : FileSystem) : Approach × FileSystem :=
  match d.daemonState p fs with
  | (.ready _, fs) => (.connect, fs)
  | (.starting pid, fs) => (.wait pid, fs)
  | (.stopped, fs) => (if fs.contains d.configFile then .start else .giveUp, fs)

/-- The outcome of a client that has given up. -/
def gaveUp (d : DataDirectory) : Outcome :=
  .failed [s!"no daemon running and no config at {d.configFile}"]

/-- The outcome of a client whose daemon has ended while it was starting. -/
def daemonEnded (d : DataDirectory) : Outcome :=
  .failed [s!"daemon exited during startup (exit status: 1); see {d.daemonLog}"]

end Client

/-- What a run of the program is about. -/
inductive Errand where
  /-- To show something and end. -/
  | show (outcome : Outcome)
  /-- To be the daemon. -/
  | serve
  /-- To make a request and show the response, as JSON or not. -/
  | ask (request : Request) (asJson : Bool)
deriving Repr, DecidableEq

namespace Errand

/-- The name of the program with its version. -/
def versionText : String := "gamehost 0.1.0"

/-- What the program's arguments ask for. -/
def ofWords (words : List String) (user : Option String) : Errand :=
  match Cli.Invocation.parse words with
  | .error .displayVersion => .show (.ended 0 (versionText ++ "\n") "")
  | .error .displayHelp => .show (.usage 0)
  | .error _ => .show (.usage 2)
  | .ok i =>
    if i.daemon then .serve
    else
      match i.command with
      | none => .show (.usage 0)
      | some c => .ask (c.toRequest (i.account.getD (Cli.defaultAccount user))) i.json

end Errand

end HostDaemon
