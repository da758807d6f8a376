import HostDaemon.Client.Connection
import HostDaemon.Daemon.Run
import HostDaemon.Report.Basic

/-! # A machine with the program

Running the program on a machine where nothing else uses the data directory: a client starts the
daemon where it needs one, and the daemon goes on running until it is told to stop. While it runs,
the files of the machine are among what the daemon holds. -/

namespace HostDaemon

/-- A machine. -/
inductive Station where
  /-- No daemon runs. -/
  | idle (files : FileSystem)
  /-- A daemon runs. -/
  | serving (daemon : Daemon)

namespace Station

/-- The surroundings at a time, where everything is free and nothing answers. -/
def surroundings (now : Int64) (f : Fleet) : Surroundings where
  now := now
  isFree := fun _ => true
  fetch := fun _ => none
  freshId := Json.hexDigits 32 (f.servers.length + 1)
  freshPid := UInt32.ofNat (f.servers.length + 1)

/-- Send a line to a daemon. -/
def send (now : Int64) (daemon : Daemon) (text : String) : Option Response × Station :=
  let (reply, stops, daemon) := daemon.serve (surroundings now daemon.fleet) text
  (reply, if stops then .idle (daemon.stop (surroundings now daemon.fleet)) else .serving daemon)

/-- Tell a daemon to stop. -/
def halt (now : Int64) : Station → FileSystem
  | .idle files => files
  | .serving daemon => daemon.stop (surroundings now daemon.fleet)

/-- Make a request of a daemon and show the reply. -/
def ask (now : Int64) (daemon : Daemon) (request : Request) (asJson : Bool) : Outcome × Station :=
  let (reply, station) := send now daemon request.writeLine
  (Client.viewReply asJson ((reply.map Response.writeLine).getD ""), station)

/-- Run a client. `p` are the processes of the machine and `pid` is that of a daemon that is
    started. -/
def client (now : Int64) (d : DataDirectory) (p : Processes) (pid : UInt32) (request : Request)
    (asJson : Bool) : Station → Outcome × Station
  | .serving daemon => ask now daemon request asJson
  | .idle files =>
    match Client.approach d p files with
    | (.giveUp, files) => (Client.gaveUp d, .idle files)
    | (_, files) =>
      match Daemon.start d p pid files with
      | .error (_, files) => (Client.daemonEnded d, .idle files)
      | .ok daemon => ask now daemon request asJson

end Station

end HostDaemon
