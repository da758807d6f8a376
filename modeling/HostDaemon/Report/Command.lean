import HostDaemon.Cli.Command
import HostDaemon.Report.Basic

/-! # Reports of what the program is asked to do -/

namespace HostDaemon.Cli

/-- The name of a command and its fields. -/
def Command.fields : Command → String × List (String × Json)
  | .host options port recovering =>
    ("host", [("options", .ofTexts options), ("port", .orNull .ofUInt16 port),
      ("recovering", .bool recovering)])
  | .kill port => ("kill", [("port", .ofUInt16 port)])
  | .killMine => ("killmine", [])
  | .list owner => ("list", [("owner", .orNull .text owner)])
  | .send port words => ("send", [("port", .ofUInt16 port), ("command", .ofTexts words)])
  | .sendAll words => ("sendall", [("command", .ofTexts words)])
  | .broadcast words => ("broadcast", [("message", .ofTexts words)])
  | .killAll => ("killall", [])
  | .killVersion version => ("killversion", [("version", .text version)])
  | .killInactive days => ("killinactive", [("days", .ofUInt64 days)])
  | .protect port => ("protect", [("port", .ofUInt16 port)])
  | .info port => ("info", [("port", .ofUInt16 port)])
  | .log port lines => ("log", [("port", .ofUInt16 port), ("lines", .ofUInt64 lines)])
  | .query port => ("query", [("port", .ofUInt16 port)])
  | .cleanup => ("cleanup", [])
  | .accepting enabled => ("accepting", [("state", .bool enabled)])
  | .shutdown => ("shutdown", [])

/-- The report of a command. -/
def Command.report (c : Command) : Json :=
  let (name, fields) := c.fields
  .object (("name", .text name) :: fields)

/-- The report of the program's arguments. -/
def Invocation.report (i : Invocation) : Json :=
  .object [("daemon", .bool i.daemon), ("json", .bool i.json), ("as", .orNull .text i.account),
    ("command", .orNull Command.report i.command)]

end HostDaemon.Cli
