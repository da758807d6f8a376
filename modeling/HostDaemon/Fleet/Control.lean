import HostDaemon.Console.Command
import HostDaemon.Fleet.Hosting
import HostDaemon.Fleet.Kill
import HostDaemon.Log.Tail
import HostDaemon.Wire.Message

/-! # Requests

What the daemon does for a request. Every operation first asks for the level that it needs; those
on a single server then ask whether the requester may act on it: the owner may, and so may
moderators. A request that is refused changes nothing. -/

namespace HostDaemon

/-- The ending of a word that stands for `n` things. -/
def pluralEnding (n : Nat) : String := if n = 1 then "" else "s"

/-- The last lines of a file. A file that does not exist has none. -/
def FileSystem.lastLines (fs : FileSystem) (p : Path) (n : Nat) : Except FileError (List String) :=
  if n = 0 then .ok []
  else
    match fs.read p with
    | .ok bytes => .ok (Log.tailLines bytes n)
    | .error .notFound => .ok []
    | .error e => .error e

namespace Fleet

/-- The server under a port, where the requester may act on it, and whether it is the requester's
    own. -/
def controlled (f : Fleet) (port : UInt16) (who : String) (level : AccountLevel) :
    Except RequestError (ServerRef × Server × Bool) :=
  match f.lookup port with
  | none => .error (.notFound port)
  | some (ref, s) =>
    let owns := s.isOwnedBy who
    if !owns && !level.atLeast .moderator then .error (.notOwner port) else .ok (ref, s, owns)

/-- The server under a port, where the requester has a level and may act on it. -/
def authorized (f : Fleet) (port : UInt16) (who : String) (required : AccountLevel) :
    Except RequestError (ServerRef × Server × Bool) :=
  match f.require who required with
  | .error e => .error e
  | .ok level => f.controlled port who level

/-! ### Kills -/

/-- Kill the server on a port. -/
def killOn (f : Fleet) (port : UInt16) (who : String) : Except RequestError (String × Fleet) :=
  match f.authorized port who .registered with
  | .error e => .error e
  | .ok (ref, _, owns) => .ok (s!"Server on port {port} killed.", (f.kill ref owns).2)

/-- Kill every server of the requester. -/
def killMine (f : Fleet) (who : String) : Except RequestError (String × Fleet) :=
  match f.require who .registered with
  | .error e => .error e
  | .ok _ =>
    let mine := f.ofOwner who
    if mine.isEmpty then .ok ("You do not have any servers running.", f)
    else
      let ports := Text.joinWith ", " (mine.map fun (_, s) => toString s.port)
      let s := pluralEnding mine.length
      .ok (s!"Killed your {mine.length} server{s} ({ports})", f.killEach (mine.map (·.1)) true)

/-- What a kill of several servers has done. -/
def killedText (n : Nat) : String :=
  let s := pluralEnding n
  s!"Killed a total of {n} server{s}."

/-- Kill every server. -/
def killAll (f : Fleet) (who : String) : Except RequestError (String × Fleet) :=
  match f.require who .admin with
  | .error e => .error e
  | .ok _ =>
    let targets := f.all
    if targets.isEmpty then .ok ("There are no servers running.", f)
    else
      let message := killedText targets.length
      .ok (message,
        (f.killEach (targets.map (·.1)) false).notify (.moderation s!"{who}: {message}"))

/-- Kill every server of an engine version. -/
def killVersion (f : Fleet) (version who : String) : Except RequestError (String × Fleet) :=
  match f.require who .admin with
  | .error e => .error e
  | .ok _ =>
    match f.config.catalog.get? version with
    | none => .error (.unknownVersion version)
    | some v =>
      let targets := f.ofVersion v.name
      if targets.isEmpty then .ok ("No servers to kill.", f)
      else
        .ok (killedText targets.length, (f.killEach (targets.map (·.1)) false).notify
          (.moderation s!"{who} killed all {targets.length} {v.name} servers"))

/-- Kill the servers that have been idle for some days. -/
def killInactive (f : Fleet) (env : Surroundings) (days : UInt64) (who : String) :
    Except RequestError (String × Fleet) :=
  match f.require who .moderator with
  | .error e => .error e
  | .ok _ =>
    if days = 0 then .error .invalidDays
    else
      let (killed, f) := f.killIdle days env.now
      if killed = 0 then .ok ("No servers were killed.", f)
      else
        let message := sweepText killed days
        .ok (message, f.notify (.moderation s!"{who}: {message}"))

/-- Sweep idle servers now. -/
def cleanUp (f : Fleet) (env : Surroundings) (who : String) :
    Except RequestError (String × Fleet) :=
  match f.require who .moderator with
  | .error e => .error e
  | .ok _ =>
    let days := f.config.host.cleanupIntervalDays
    if days = 0 then .ok ("Inactivity cleanup is disabled.", f)
    else
      let (killed, f) := f.sweep env.now
      .ok (sweepText killed days, f)

/-! ### Looking -/

/-- The registered servers, of one owner or of all. -/
def list (f : Fleet) (env : Surroundings) (owner : Option String) : List ServerSummary :=
  let servers :=
    match owner with
    | some owner => f.ofOwner owner
    | none => f.all
  servers.map fun (_, s) => s.summary env.now

/-- The secrets of the server on a port. -/
def info (f : Fleet) (port : UInt16) (who : String) : Except RequestError ServerSecrets :=
  match f.authorized port who .registered with
  | .error e => .error e
  | .ok (_, s, _) => .ok s.secrets

/-- The last lines of the log of the server on a port. -/
def log (f : Fleet) (port : UInt16) (lines : UInt64) (who : String) :
    Except RequestError (List String) :=
  match f.authorized port who .registered with
  | .error e => .error e
  | .ok (_, s, _) =>
    match f.files.lastLines s.logFile lines.toNat with
    | .ok lines => .ok lines
    | .error e => .error (.logUnreadable e)

/-- How many lines of a log a status query shows. -/
def queryLines : Nat := 5

/-- The status of the server on a port with the last lines of its log. -/
def probe (f : Fleet) (env : Surroundings) (lines : Nat) (port : UInt16) : QueryResult :=
  match f.lookup port with
  | none => .error (.notFound port)
  | some (_, s) =>
    match f.files.lastLines s.logFile lines with
    | .ok recent => .ok ⟨s.summary env.now, recent⟩
    | .error e => .error (.failed e)

/-- A status query that finds nothing else in the queue. -/
def query (f : Fleet) (env : Surroundings) (port : UInt16) : Except RequestError QueryReport :=
  match f.probe env queryLines port with
  | .ok report => .ok report
  | .error e => .error (.query e)

/-! ### Switches -/

/-- Protect the server on a port from sweeps, or stop protecting it. -/
def protect (f : Fleet) (port : UInt16) (who : String) : Except RequestError (String × Fleet) :=
  match f.authorized port who .vip with
  | .error e => .error e
  | .ok (ref, s, _) =>
    let on := !s.isProtected
    let state := if on then "now" else "no longer"
    .ok (s!"Server on port {port} is {state} protected.",
      f.update ref ({ · with isProtected := on }))

/-- Turn hosting on or off. -/
def setAccepting (f : Fleet) (enabled : Bool) (who : String) :
    Except RequestError (String × Fleet) :=
  match f.require who .admin with
  | .error e => .error e
  | .ok _ =>
    let state := if enabled then "enabled" else "disabled"
    let changed := { f with isAccepting := enabled }
    .ok (s!"Hosting {state}.",
      if f.isAccepting = enabled then changed
      else changed.notify (.moderation s!"{who} {state} hosting"))

/-! ### Consoles -/

/-- Send a console command to the server on a port. -/
def send (f : Fleet) (port : UInt16) (command who : String) :
    Except RequestError Unit × Fleet :=
  match f.authorized port who .registered with
  | .error e => (.error e, f)
  | .ok (ref, _, _) =>
    match ConsoleCommand.prepare? command who (some f.config.host.hostnameBase) with
    | none => (.error .emptyCommand, f)
    | some lines =>
      match f.writeLines ref lines with
      | (true, f) => (.ok (), f)
      | (false, f) => (.error .consoleFailed, f)

/-- Write lines to the consoles of servers, each independent of the others. Says how many took all
    of them. -/
def writeToEach (f : Fleet) (lines : List String) : List ServerRef → Nat × Fleet
  | [] => (0, f)
  | ref :: refs =>
    let (taken, f) := f.writeLines ref lines
    let (n, f) := f.writeToEach lines refs
    (if taken then n + 1 else n, f)

/-- The lines of a command for every server, where it may be sent to every server. -/
def linesForAll (command who : String) : Except RequestError (List String) :=
  match ConsoleCommand.split? command with
  | none => .error .emptyCommand
  | some (name, arguments) =>
    if ConsoleCommand.isDenied name arguments then .error (.deniedCommand name)
    else
      match ConsoleCommand.prepare? command who none with
      | none => .error .emptyCommand
      | some lines => .ok lines

/-- Send a console command to every server. Says how many took it. -/
def sendAll (f : Fleet) (command who : String) : Except RequestError (Nat × Fleet) :=
  match f.require who .admin with
  | .error e => .error e
  | .ok _ =>
    match linesForAll command who with
    | .error e => .error e
    | .ok lines => .ok (f.writeToEach lines (f.all.map (·.1)))

/-- Announce a message on every server: its first line. Says how many took it. -/
def broadcast (f : Fleet) (message who : String) : Except RequestError (Nat × Fleet) :=
  match f.require who .moderator with
  | .error e => .error e
  | .ok _ =>
    let first := (Text.lines message).headD ""
    .ok (f.writeToEach (ConsoleCommand.broadcastLines first) (f.all.map (·.1)))

/-! ### All requests -/

/-- The response to an operation that only looks. -/
def answered {α : Type} (f : Fleet) (respond : α → Response) :
    Except RequestError α → Response × Fleet
  | .ok a => (respond a, f)
  | .error e => (.error e.message, f)

/-- The response to an operation that changes something where it succeeds. -/
def changed {α : Type} (f : Fleet) (text : α → String) :
    Except RequestError (α × Fleet) → Response × Fleet
  | .ok (a, f) => (.success (some (text a)), f)
  | .error e => (.error e.message, f)

/-- The text about servers that took something. -/
def reachedText (what : String) (n : Nat) : String :=
  let s := pluralEnding n
  s!"{what} {n} server{s}."

/-- Do what a request asks for and answer it. -/
def dispatch (f : Fleet) (env : Surroundings) : Request → Response × Fleet
  | .host owner options port recovering =>
    match f.host env owner options port recovering with
    | (.ok server, f) => (.hosted server, f)
    | (.error e, f) => (.error e.message, f)
  | .kill who port => f.changed id (f.killOn port who)
  | .killMine who => f.changed id (f.killMine who)
  | .list owner => (.serverList (f.list env owner), f)
  | .send who port command =>
    match f.send port command who with
    | (.ok (), f) => (.success (some s!"Sent command to port {port}."), f)
    | (.error e, f) => (.error e.message, f)
  | .sendAll who command => f.changed (reachedText "Sent command to") (f.sendAll command who)
  | .broadcast who message => f.changed (reachedText "Announced on") (f.broadcast message who)
  | .killAll who => f.changed id (f.killAll who)
  | .killVersion who version => f.changed id (f.killVersion version who)
  | .killInactive who days => f.changed id (f.killInactive env days who)
  | .protect who port => f.changed id (f.protect port who)
  | .info who port => f.answered .serverInfo (f.info port who)
  | .log who port lines => f.answered (.logLines port) (f.log port lines who)
  | .query port => f.answered .queryResult (f.query env port)
  | .cleanup who => f.changed id (f.cleanUp env who)
  | .accepting who enabled => f.changed id (f.setAccepting enabled who)
  | .shutdown => (.success (some "daemon shutting down"), f)

end Fleet

/-- Does a request stop the daemon? -/
def Request.stopsDaemon : Request → Bool
  | .shutdown => true
  | _ => false

end HostDaemon
