import HostDaemon.Client.Table
import HostDaemon.Wire.Line

/-! # What a client shows

Responses as they are shown in a terminal: in colours and tables, or as the JSON of the response.
A response that is an error goes to the error output. -/

namespace HostDaemon

/-- What a run of the program leaves. -/
inductive Outcome where
  /-- It has written something and ended with a code. -/
  | ended (code : Nat) (output errors : String)
  /-- It has shown how it is to be used and ended with a code. -/
  | usage (code : Nat)
  /-- It has failed: the causes, the outermost first. -/
  | failed (causes : List String)
deriving Repr, DecidableEq

namespace Terminal

/-- Text in a style, between the sequences that begin and end it. -/
def styled (start stop text : String) : String :=
  "\x1b[" ++ start ++ "m" ++ text ++ "\x1b[" ++ stop ++ "m"

/-- Text in green. -/
def green (text : String) : String := styled "32" "39" text

/-- Text in yellow. -/
def yellow (text : String) : String := styled "33" "39" text

/-- Text in red. -/
def red (text : String) : String := styled "31" "39" text

/-- Text in cyan. -/
def cyan (text : String) : String := styled "36" "39" text

/-- Bold text. -/
def bold (text : String) : String := styled "1" "0" text

/-- Faint text. -/
def faint (text : String) : String := styled "2" "0" text

end Terminal

namespace Client

open Terminal

/-- A time in its two largest units. -/
def shortUptime (secs : UInt64) : String :=
  let n := secs.toNat
  if n < 60 then s!"{n}s"
  else if n < 3600 then
    let m := n / 60
    let s := n % 60
    s!"{m}m {s}s"
  else if n < 86400 then
    let h := n / 3600
    let m := n % 3600 / 60
    s!"{h}h {m}m"
  else
    let d := n / 86400
    let h := n % 86400 / 3600
    s!"{d}d {h}h"

/-- What is special about a server. -/
def marks (s : ServerSummary) : String :=
  Text.joinWith ","
    ((if s.isProtected then ["protected"] else []) ++
      (if s.autoRestart then ["autorestart"] else []))

/-- The columns of a table of servers. -/
def columns : List String :=
  ["port", "owner", "hostname", "version", "iwad", "state", "uptime", "restarts", "flags"]

/-- The row of a server. -/
def row (s : ServerSummary) : List String :=
  [toString s.port, s.owner, s.hostname, s.version, s.iwad, s.stage.name, shortUptime s.uptime,
    toString s.restarts, marks s]

/-- A list of servers. -/
def showServers (servers : List ServerSummary) : String :=
  if servers.isEmpty then yellow "no servers running"
  else (Table.mk columns (servers.map row)).render

/-- A line with a name and a value. -/
def detail (name value : String) : String := "  " ++ faint (name ++ ":") ++ " " ++ value

/-- The lines of a response that is no error. -/
def showLines : Response → List String
  | .success message => [green (message.getD "ok")]
  | .error _ => []
  | .hosted s => [green "launching" ++ " " ++ bold (cyan s.hostname) ++ s!" on port {s.port}",
      detail "id" s.id]
  | .serverList servers => [showServers servers]
  | .serverInfo i => [bold (cyan "port") ++ s!": {i.port}", detail "id" i.id,
      detail "rcon password" i.rconPassword, detail "join password" i.joinPassword,
      detail "connect password" i.connectPassword, detail "log" i.logPath]
  | .logLines port lines => lines.map fun line => bold (cyan s!"[{port}]") ++ " " ++ line
  | .queryResult r => showServers [r.summary] :: r.recent.map fun line => "  " ++ faint line

/-- Lines, each with a line feed. -/
def withLineFeeds (lines : List String) : String := String.join (lines.map (· ++ "\n"))

/-- Show a response, and end with a code that tells errors from successes. -/
def view (asJson : Bool) (r : Response) : Outcome :=
  let code :=
    match r with
    | .error _ => 1
    | _ => 0
  if asJson then .ended code r.writeLine ""
  else
    match r with
    | .error message => .ended code "" (bold (red "error:") ++ " " ++ message ++ "\n")
    | r => .ended code (withLineFeeds (showLines r)) ""

/-- The causes of a reply that is no message. -/
def causesOf : Wire.LineError → List String
  | .malformed reason => [(Wire.LineError.malformed reason).message]
  | e => [e.message, e.reason]

/-- Show the reply of a daemon: its first line. -/
def viewReply (asJson : Bool) (reply : String) : Outcome :=
  let cs := reply.toList
  let line := cs.take ((cs.takeWhile (· ≠ '\n')).length + 1)
  if line.isEmpty then .failed ["daemon closed the connection without replying"]
  else
    match Response.readLine (String.ofList line) with
    | .ok r => view asJson r
    | .error e => .failed (causesOf e)

end Client

end HostDaemon
