import HostDaemon.Client.Station
import HostDaemon.Digest.Sha256

/-! # The program

The command line. The daemon takes requests from its standard input, one on each line, and answers
on its standard output. A client starts a daemon of its own for its request. The configuration is
the one file that is read; whatever the servers write stays in memory and ends with the program. -/

namespace HostDaemon.Program

/-- How the program is to be used. -/
def usageText : String :=
  "usage: gamehost [--json] [--as ACCOUNT] COMMAND\n\ncommands: " ++
    Text.joinWith ", " Cli.programShape.commands ++ "\n"

/-- Write what a run leaves, and give its code. -/
def leave : Outcome → IO UInt32
  | .ended code output errors => do
    IO.print output
    IO.eprint errors
    return UInt32.ofNat code
  | .usage code => do
    if code = 0 then IO.print usageText else IO.eprint usageText
    return UInt32.ofNat code
  | .failed causes => do
    IO.eprint ("Error: " ++ Text.joinWith "\n  " causes ++ "\n")
    return 1

/-- The files of the machine, of which the configuration is the only one that is known. -/
def filesOf (d : DataDirectory) : IO FileSystem := do
  let files := FileSystem.empty.ensureDirectory d.path
  try
    let text ← IO.FS.readFile d.configFile
    return files.place d.configFile text
  catch _ => return files

/-- No other process is known of. -/
def noProcesses : Processes := ⟨fun _ => false, fun _ => false⟩

/-- The process of the program. -/
def ownPid : UInt32 := 1

/-- The surroundings at the moment, of a fleet with some servers. -/
def surroundings (servers : Nat) : IO Surroundings := do
  let now ← IO.monoMsNow
  let chance ← IO.rand 0 0x4000000000000000
  let id := Digest.Sha256.hex (Text.Utf8.bytesOf s!"{now} {servers} {chance}")
  return {
    now := Int64.ofNat now
    isFree := fun _ => true
    fetch := fun _ => none
    freshId := String.ofList (id.toList.take 32)
    freshPid := UInt32.ofNat (servers + 2) }

/-- Answer requests until the input ends or one of them stops the daemon. -/
partial def serve (daemon : Daemon) : IO UInt32 := do
  let line ← (← IO.getStdin).getLine
  let env ← surroundings daemon.fleet.servers.length
  let (reply, stops, daemon) := daemon.serve env line
  match reply with
  | some r => IO.print r.writeLine
  | none => pure ()
  (← IO.getStdout).flush
  if stops || line.isEmpty then return 0 else serve daemon

/-- The data directory of the environment. -/
def dataDirectory : IO (Option DataDirectory) := do
  let named ← IO.getEnv "GAMEHOST_DATA_DIR"
  let dataHome ← IO.getEnv "XDG_DATA_HOME"
  return DataDirectory.ofEnvironment named dataHome (← IO.getEnv "HOME")

/-- Run the program. -/
def run (words : List String) : IO UInt32 := do
  match Errand.ofWords words (← IO.getEnv "USER") with
  | .show outcome => leave outcome
  | errand =>
    match ← dataDirectory with
    | none => leave (.failed ["could not determine data directory"])
    | some d =>
      let files ← filesOf d
      match errand with
      | .show outcome => leave outcome
      | .serve =>
        match Daemon.start d noProcesses ownPid files with
        | .error (e, _) => leave (.failed e.causes)
        | .ok daemon => serve daemon
      | .ask request asJson =>
        let now := Int64.ofNat (← IO.monoMsNow)
        leave (Station.client now d noProcesses ownPid request asJson (.idle files)).1

end HostDaemon.Program

def main (words : List String) : IO UInt32 := HostDaemon.Program.run words
