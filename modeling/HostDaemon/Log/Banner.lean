import HostDaemon.Calendar

/-! # What is written into a log file besides the lines of a server

The banner at the start of a run, the time before each line, and the footer at the end. -/

namespace HostDaemon.Log

/-- A line of dashes. -/
def rule : String := String.ofList (List.replicate 64 '-')

/-- What the banner tells. -/
structure Banner where
  /-- The owner of the server. -/
  owner : String
  /-- The name of the service. -/
  service : String
  /-- The name of the machine. -/
  node : String
  /-- The command line. -/
  commandLine : List String
deriving Repr, DecidableEq

/-- The banner of a run that started at a moment. -/
def Banner.render (b : Banner) (started : Int) : String :=
  rule ++ "\n Server started at " ++ Calendar.stamp started ++ "\n Owner: " ++ b.owner ++
    "\n Service: " ++ b.service ++ "\n Node: " ++ b.node ++ "\n Hostline: " ++
    Text.joinWith " " b.commandLine ++ "\n" ++ rule ++ "\n"

/-- A number with its unit, which gets an s unless the number is one. -/
def counted (n : Nat) (unit : String) : String :=
  if n = 1 then s!"{n} {unit}" else s!"{n} {unit}s"

/-- A time in days, hours, minutes and seconds. -/
def uptimeText (secs : Nat) : String :=
  counted (secs / 86400) "day" ++ " " ++ counted (secs % 86400 / 3600) "hour" ++ " " ++
    counted (secs % 3600 / 60) "minute" ++ " and " ++ counted (secs % 60) "second"

/-- A line of a server with the time at which it came. -/
def stampedLine (now : Int) (line : String) : String := Calendar.stamp now ++ " " ++ line ++ "\n"

/-- The last line of a run. -/
def footer (now : Int) (secs : Nat) : String :=
  Calendar.stamp now ++ " Server stopped! Uptime was " ++ uptimeText secs ++ ".\n"

end HostDaemon.Log
