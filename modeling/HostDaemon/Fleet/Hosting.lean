import HostDaemon.Fleet.Launch
import HostDaemon.Launch.Builder
import HostDaemon.Query.Queue

/-! # Hosting

A hosting request takes a place in its owner's quota, has its options checked, claims a port, and
launches a server. The place is held until the server is launching and counts by itself, or until
the request fails. -/

namespace HostDaemon

/-- Why a request is refused or fails. -/
inductive RequestError where
  /-- Hosting is turned off. -/
  | notAccepting
  /-- The account's level is too low. -/
  | permission (required : AccountLevel)
  /-- The account has as many servers as it may have. -/
  | quotaExceeded (quota : UInt32)
  /-- No server is registered under the port. -/
  | notFound (port : UInt16)
  /-- The server belongs to somebody else. -/
  | notOwner (port : UInt16)
  /-- There is no such engine version. -/
  | unknownVersion (version : String)
  /-- A number of days is zero. -/
  | invalidDays
  /-- The option line is wrong. -/
  | options (cause : OptionsError)
  /-- The options cannot be hosted. -/
  | launch (cause : LaunchError)
  /-- The server cannot be started. -/
  | start (cause : StartError)
  /-- There is no command to send. -/
  | emptyCommand
  /-- The command may not be sent to every server. -/
  | deniedCommand (name : String)
  /-- A console takes no more. -/
  | consoleFailed
  /-- A status query fails. -/
  | query (cause : QueryError)
  /-- The log file cannot be read. -/
  | logUnreadable (cause : FileError)
deriving Repr, DecidableEq

/-- The text of the error. -/
def RequestError.message : RequestError → String
  | .notAccepting => "new servers are not being accepted right now"
  | .permission required => s!"you must be {required.name} or higher to do that"
  | .quotaExceeded quota => s!"you have reached your server quota ({quota})"
  | .notFound port => s!"there is no server running on port {port}"
  | .notOwner port => s!"you do not own the server on port {port}"
  | .unknownVersion version => s!"unknown version `{version}`"
  | .invalidDays => "number of days must be greater than zero"
  | .options cause => cause.message
  | .launch cause => cause.message
  | .start cause => cause.message
  | .emptyCommand => "no command given"
  | .deniedCommand name => s!"`{name}` cannot be sent to every server"
  | .consoleFailed => "could not write to the server console: " ++ consoleClosed
  | .query cause => cause.message
  | .logUnreadable cause => "internal error: " ++ cause.message

namespace Fleet

/-! ### Levels -/

/-- The level of an account, where it is at least as high as is required. -/
def require (f : Fleet) (who : String) (required : AccountLevel) :
    Except RequestError AccountLevel :=
  let level := f.store.level who
  if level.atLeast required then .ok level else .error (.permission required)

/-! ### Quota -/

/-- How many hosting requests of an owner hold a place. -/
def pendingOf (f : Fleet) (owner : String) : Nat :=
  (f.pending.lookup (Text.asciiLower owner)).getD 0

/-- How many servers of an owner are launching. -/
def launchingOf (f : Fleet) (owner : String) : Nat :=
  (f.launchingServers.filter fun (_, s) => s.isOwnedBy owner).length

/-- How many servers of an owner are registered. -/
def registeredOf (f : Fleet) (owner : String) : Nat := (f.ofOwner owner).length

/-- Set how many hosting requests of an owner hold a place. -/
def setPending (f : Fleet) (owner : String) (n : Nat) : Fleet :=
  let key := Text.asciiLower owner
  let others := f.pending.filter (·.1 ≠ key)
  { f with pending := if n = 0 then others else (key, n) :: others }

/-- Take a place in an owner's quota. -/
def holdPlace (f : Fleet) (owner : String) : Fleet := f.setPending owner (f.pendingOf owner + 1)

/-- Give a place in an owner's quota back. -/
def givePlaceBack (f : Fleet) (owner : String) : Fleet :=
  f.setPending owner (f.pendingOf owner - 1)

/-- Take a place in an owner's quota, where `n` requests and servers of the owner were counted. -/
def grantPlace (f : Fleet) (owner : String) (n : Nat) : Except RequestError Fleet :=
  let quota := f.store.quota owner
  if quota.toNat ≤ n then .error (.quotaExceeded quota) else .ok (f.holdPlace owner)

/-- Take a place in an owner's quota, where the requests that hold one, the launching and the
    registered servers leave one. They are counted in this order, in which they move on: who moves
    on in the meantime is counted twice rather than not at all. -/
def claimQuota (f : Fleet) (owner : String) : Except RequestError Fleet :=
  f.grantPlace owner (f.pendingOf owner + f.launchingOf owner + f.registeredOf owner)

/-! ### A request -/

/-- What launch specifications are built against at the moment, where some ports were registered
    when that was looked up. -/
def buildContext (f : Fleet) (env : Surroundings) (registered : List UInt16) : BuildContext where
  config := f.config
  store := f.store
  files := f.files
  ports := f.ports
  isFree := env.isFree
  registered := registered

/-- The launch specification of an option line. -/
def buildSpec (f : Fleet) (env : Surroundings) (registered : List UInt16) (owner : String)
    (level : AccountLevel) (optionLine : String) (port : Option UInt16) (recovering : Bool) :
    Except RequestError LaunchSpec :=
  match OptionList.parse optionLine with
  | .error e => .error (.options e)
  | .ok options =>
    match (f.buildContext env registered).build owner level options port recovering env.freshId with
    | .error e => .error (.launch e)
    | .ok spec => .ok spec

/-- Claim the port that a specification asks for, or the least that can be handed out. -/
def reserveFor (f : Fleet) (env : Surroundings) (spec : LaunchSpec) :
    Except RequestError (UInt16 × Fleet) :=
  match spec.requestedPort with
  | some port =>
    match f.ports.reserve env.isFree port with
    | .ok ports => .ok (port, { f with ports := ports })
    | .error (.outOfRange port _ _) => .error (.launch (.invalidPort (toString port)))
    | .error (.reserved port) | .error (.inUse port) => .error (.launch (.portInUse port))
  | none =>
    match f.ports.reserveFirst? env.isFree with
    | some (port, ports) => .ok (port, { f with ports := ports })
    | none => .error (.launch .capacityReached)

/-- Build, claim a port and launch. Also where that fails, the fleet afterwards is given. -/
def hostChecked (f : Fleet) (env : Surroundings) (owner : String) (level : AccountLevel)
    (optionLine : String) (port : Option UInt16) (recovering : Bool) :
    Except RequestError ServerSummary × Fleet :=
  match f.buildSpec env f.registry.ports owner level optionLine port recovering with
  | .error e => (.error e, f)
  | .ok spec =>
    match f.reserveFor env spec with
    | .error e => (.error e, f)
    | .ok (port, f) =>
      match f.launch env spec 0 recovering port with
      | (.error e, f) => (.error (.start e), f)
      | (.ok ref, f) =>
        match f.server? ref with
        | some s => (.ok { s.summary env.now with port := port }, f)
        | none => (.error (.notFound port), f)

/-- Host a server. Servers that are being recovered need no place in the quota and are hosted also
    while hosting is turned off. -/
def host (f : Fleet) (env : Surroundings) (owner optionLine : String) (port : Option UInt16)
    (recovering : Bool) : Except RequestError ServerSummary × Fleet :=
  if !recovering && !f.isAccepting then (.error .notAccepting, f)
  else
    match f.require owner .registered with
    | .error e => (.error e, f)
    | .ok level =>
      if recovering then f.hostChecked env owner level optionLine port recovering
      else
        match f.claimQuota owner with
        | .error e => (.error e, f)
        | .ok f =>
          let (result, f) := f.hostChecked env owner level optionLine port recovering
          (result, f.givePlaceBack owner)

end Fleet

end HostDaemon
