import HostDaemon.Notice
import HostDaemon.Report.Basic
import HostDaemon.Server.Basic
import HostDaemon.Store

/-! # Reports of servers, of what they tell and of what is told about them -/

namespace HostDaemon

/-- The report of what a console line tells. -/
def ConsoleEvent.report : ConsoleEvent → Json
  | .alternatePort port => .object [("event", .text "alternate_port"), ("port", .ofUInt16 port)]
  | .bindRetry port => .object [("event", .text "bind_retry"), ("port", .ofUInt16 port)]
  | .boundAddress address =>
    .object [("event", .text "bound_address"), ("address", .text address)]
  | .initialized => .object [("event", .text "initialized")]
  | .playerSeen name ip checkReputation =>
    .object [("event", .text "player"), ("name", .text name), ("ip", .text ip),
      ("check_reputation", .bool checkReputation)]
  | .credentialChanged credential value =>
    .object [("event", .text "credential"), ("credential", .text credential.label),
      ("value", .text value)]
  | .activity => .object [("event", .text "activity")]

/-- The report of a notice. -/
def Notice.report : Notice → Json
  | .owner account message =>
    .object [("to", .text "owner"), ("owner", .text account), ("message", .text message)]
  | .moderation message => .object [("to", .text "moderation"), ("message", .text message)]
  | .error message => .object [("to", .text "error"), ("message", .text message)]

/-- The report of a server that started. -/
def StartRecord.report (r : StartRecord) : Json :=
  .object [("hostname", .text r.hostname), ("id", .text r.id), ("owner", .text r.owner)]

/-- The report of a forbidden file. -/
def BlacklistHit.report (h : BlacklistHit) : Json :=
  .object [("wad", .text h.wad), ("entry", .text h.entry), ("reason", .text h.reason),
    ("hash", .text h.hash)]

/-- Where a server stands and what is known of its settings. -/
def Server.report (s : Server) : List (String × Json) :=
  [("port", .ofUInt16 s.port), ("address", .orNull .text s.address),
    ("running", .bool s.isRunning), ("recovering", .bool s.isRecovering),
    ("killed", .bool s.isKilled), ("killed_by_owner", .bool s.isKilledByOwner),
    ("hide_stop", .bool s.hidesStop), ("protected", .bool s.isProtected),
    ("auto_restart", .bool s.autoRestart), ("restarts", .ofUInt32 s.restarts),
    ("hostname", .text s.hostname), ("rcon", .text s.settings.rconPassword),
    ("join", .text s.settings.joinPassword), ("connect", .text s.settings.connectPassword)]

end HostDaemon
