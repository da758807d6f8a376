import HostDaemon.Server.Views

/-! # Messages between client and daemon

A connection carries one request and one response. A requester is the account in whose name the
request is made. -/

namespace HostDaemon

/-- What a client asks of the daemon. -/
inductive Request where
  /-- Host a server; `options` is a line of options. -/
  | host (owner options : String) (port : Option UInt16) (recovering : Bool)
  /-- Kill the server on a port. -/
  | kill (requester : String) (port : UInt16)
  /-- Kill every server of the requester. -/
  | killMine (requester : String)
  /-- List the servers, of one owner or of all. -/
  | list (owner : Option String)
  /-- Send a console command to one server. -/
  | send (requester : String) (port : UInt16) (command : String)
  /-- Send a console command to every server. -/
  | sendAll (requester command : String)
  /-- Announce a message on every server. -/
  | broadcast (requester message : String)
  /-- Kill every server. -/
  | killAll (requester : String)
  /-- Kill every server of an engine version. -/
  | killVersion (requester version : String)
  /-- Kill every unprotected server that has been idle for some days. -/
  | killInactive (requester : String) (days : UInt64)
  /-- Protect a server from sweeps of idle servers, or stop protecting it. -/
  | protect (requester : String) (port : UInt16)
  /-- Show the secrets of a server. -/
  | info (requester : String) (port : UInt16)
  /-- Show the last lines of a server's log. -/
  | log (requester : String) (port : UInt16) (lines : UInt64)
  /-- Ask for the status of a server. -/
  | query (port : UInt16)
  /-- Sweep idle servers now. -/
  | cleanup (requester : String)
  /-- Turn hosting on or off. -/
  | accepting (requester : String) (enabled : Bool)
  /-- Stop the daemon. -/
  | shutdown
deriving Repr, DecidableEq

/-- What the daemon answers. -/
inductive Response where
  /-- It is done. -/
  | success (message : Option String)
  /-- It was refused or failed. -/
  | error (message : String)
  /-- A server was launched. -/
  | hosted (server : ServerSummary)
  /-- The servers that were asked for. -/
  | serverList (servers : List ServerSummary)
  /-- The secrets of a server. -/
  | serverInfo (info : ServerSecrets)
  /-- The last lines of a log. -/
  | logLines (port : UInt16) (lines : List String)
  /-- The status of a server. -/
  | queryResult (report : QueryReport)
deriving Repr, DecidableEq

/-- How many lines of a log are shown where a request does not say. -/
def defaultLogLines : UInt64 := 15

end HostDaemon
