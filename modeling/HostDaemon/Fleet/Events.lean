import HostDaemon.Console.Command
import HostDaemon.Fleet.Kill
import HostDaemon.Fleet.Surroundings
import HostDaemon.Log.Banner

/-! # Lines of a server

What the daemon does with the lines that a server prints. Each goes into the log file and is looked
at for events. The startup line registers a server under its port; port lines count only before
it. -/

namespace HostDaemon.Fleet

/-! ### Startup -/

/-- The address that players connect to. -/
def connectAddress (f : Fleet) (s : Server) : String :=
  let address := s.address.getD s!"{f.config.host.gameAddress}:{s.port}"
  s!"zds://{address}/za"

/-- The notices to the owner of a server that started. -/
def startNotices (f : Fleet) (s : Server) : List Notice :=
  [s!"Server '{s.hostname}' started successfully on port {s.port}! {f.connectAddress s}",
    s!"To kill your server, type: kill {s.port}",
    s!"Your unique server ID is: {s.id}. You can view your logfile at {s.logFile}",
    s!"Your RCON password is {s.settings.rconPassword}. Your server's connect and join passwords are {s.settings.connectPassword} if you have either of those enabled."].map
    fun message => Notice.owner s.owner message

/-- Announce and record that a server started, unless it is being recovered. -/
def announceStart (f : Fleet) (ref : ServerRef) : Fleet :=
  match f.server? ref with
  | none => f
  | some s =>
    let f :=
      if s.isRecovering then f
      else { f with
        notices := f.notices ++ f.startNotices s
        store := f.store.recordStart ⟨s.hostname, s.id, s.owner⟩ }
    f.update ref ({ · with isRecovering := false })

/-- Turn away a server that started under a port that is taken: it is killed, and its end is not
    reported. -/
def refuseStart (f : Fleet) (ref : ServerRef) (e : PortTaken) : Fleet :=
  match f.server? ref with
  | none => f
  | some s =>
    let f := f.notify
      (.error (s!"{s.owner}'s server '{s.hostname}' could not be registered: " ++ e.message))
    (f.update ref fun s => { s with hidesStop := true }.markKilled false).killProcess ref

/-- Fix the port of a server that started: the one that it told, or the one that was claimed. -/
def settlePort (f : Fleet) (ref : ServerRef) : Fleet :=
  match f.supervisor? ref with
  | none => f
  | some v =>
    if v.holdsClaim then
      f.update ref fun s => if s.port = 0 then { s with port := v.launchPort } else s
    else f

/-- A server that is registered is no longer launching. Its start is announced, and the claim on its
    port is given back last. -/
def finishStart (f : Fleet) (ref : ServerRef) : Fleet :=
  ((f.leaveLaunching ref).announceStart ref).releaseClaim ref

/-- A server that could not be registered is turned away. -/
def rejectStart (f : Fleet) (ref : ServerRef) (e : PortTaken) : Fleet :=
  ((f.leaveLaunching ref).refuseStart ref e).releaseClaim ref

/-- The first startup line of a server fixes its port, and it runs. -/
def beginStart (f : Fleet) (ref : ServerRef) : Fleet :=
  (f.settlePort ref).update ref ({ · with isRunning := true })

/-- Handle the first startup line of a server. It is registered before it leaves the launching
    servers. -/
def onStarted (f : Fleet) (ref : ServerRef) : Fleet :=
  let f := f.beginStart ref
  match f.register ref with
  | .ok f => f.finishStart ref
  | .error e => f.rejectStart ref e

/-! ### Players -/

/-- Want to know the reputation of a player's address, where questions are asked. -/
def askReputation (f : Fleet) (ref : ServerRef) (ip : String) : Fleet :=
  match f.checker with
  | some c => if c.enabled then { f with lookups := f.lookups ++ [⟨ref, ip, false⟩] } else f
  | none => f

/-- Send a question about an address. It is dropped where questions were turned off by then. -/
def beginLookup (f : Fleet) (i : Nat) : Fleet :=
  match f.checker with
  | some c =>
    if c.enabled then { f with lookups := f.lookups.modify i ({ · with isBegun := true }) }
    else { f with lookups := f.lookups.eraseIdx i }
  | none => { f with lookups := f.lookups.eraseIdx i }

/-- Handle the answer to a question about an address: a player who comes through a proxy is turned
    away. -/
def finishLookup (f : Fleet) (env : Surroundings) (i : Nat) : Fleet :=
  match f.lookups[i]?, f.checker with
  | some question, some c =>
    if question.isBegun then
      let (banned, c) := c.verdict env.fetch question.ip
      let f := { f with lookups := f.lookups.eraseIdx i, checker := some c }
      if banned then
        f.tellConsole question.server
          [ConsoleCommand.proxyBanLine question.ip f.config.service.short]
      else f
    else f
  | _, _ => f

/-- Handle a player who was seen. Whitelisted addresses are left alone, banned ones are banned on
    the server too. -/
def onPlayer (f : Fleet) (ref : ServerRef) (ip : String) (checkReputation : Bool) : Fleet :=
  if f.store.isWhitelisted ip then f
  else
    let f := if checkReputation then f.askReputation ref ip else f
    match f.store.banReason? ip with
    | some reason =>
      f.tellConsole ref [ConsoleCommand.banLine ip f.config.service.short reason]
    | none => f

/-! ### Settings -/

/-- The notice about a setting that was changed. -/
def changeNotice (s : Server) (credential : Credential) (value : String) : Notice :=
  .owner s.owner
    s!"{credential.label} for '{s.hostname}' on port {s.port} has been changed to: '{value}'"

/-- Handle a new name of a server. Servers of owners below the level of a VIP get the common
    beginning put before it. -/
def onHostname (f : Fleet) (ref : ServerRef) (s : Server) (value : String) : Fleet :=
  if s.hostname = value then f
  else
    let f := f.update ref fun s => { s with settings := s.settings.set value .hostname }
    let f :=
      if s.spec.ownerLevel.atLeast .vip then f
      else f.tellConsole ref [ConsoleCommand.hostnameLine f.config.host.hostnameBase value]
    f.notify (changeNotice s .hostname value)

/-- Handle a new password. One that is too short is refused. -/
def onPassword (f : Fleet) (ref : ServerRef) (s : Server) (credential : Credential)
    (value : String) : Fleet :=
  let least := f.config.host.passwordMinLength
  if value.length < least.toNat then
    f.notify (.error
      s!"{credential.label} change for '{s.hostname}' on port {s.port} failed: Must be {least} or more characters!")
  else if s.settings.get credential = value then f
  else
    (f.update ref fun s => { s with settings := s.settings.set value credential }).notify
      (changeNotice s credential value)

/-- Handle a setting that was changed on the console. Blank values are passed over. -/
def onCredential (f : Fleet) (ref : ServerRef) (credential : Credential) (value : String) : Fleet :=
  match f.server? ref with
  | none => f
  | some s =>
    if Text.isBlankText value then f
    else
      match credential with
      | .hostname => f.onHostname ref s value
      | _ => f.onPassword ref s credential value

/-! ### Lines -/

/-- Handle one event of a server. -/
def onEvent (f : Fleet) (env : Surroundings) (ref : ServerRef) : ConsoleEvent → Fleet
  | .alternatePort port | .bindRetry port =>
    f.update ref fun s => if s.isRunning then s else { s with port := port }
  | .boundAddress address => f.update ref ({ · with address := some address })
  | .initialized =>
    match f.server? ref with
    | some s => if s.isRunning then f else f.onStarted ref
    | none => f
  | .playerSeen _ ip checkReputation => f.onPlayer ref ip checkReputation
  | .credentialChanged credential value => f.onCredential ref credential value
  | .activity => f.update ref (·.touch env.now)

/-- Write a line into a server's log file. -/
def logLine (f : Fleet) (env : Surroundings) (ref : ServerRef) (line : String) : Fleet :=
  match f.supervisor? ref with
  | none => f
  | some v =>
    let text := Log.stampedLine env.nowSeconds (Text.trimEnd line)
    { f with files := f.files.appendAt v.log (Text.Utf8.bytesOf text) }

/-- Handle a line that a server printed. -/
def onLine (f : Fleet) (env : Surroundings) (ref : ServerRef) (line : String) : Fleet :=
  (ConsoleLine.recognize line).foldl (fun f event => f.onEvent env ref event)
    (f.logLine env ref line)

end HostDaemon.Fleet
