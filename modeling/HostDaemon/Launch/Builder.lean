import HostDaemon.Digest.Sha256
import HostDaemon.FileSystem
import HostDaemon.Launch.CommandLine
import HostDaemon.Ports
import HostDaemon.Store

/-! # From options to a launch specification

The options of a hosting request are applied one after the other to a draft. Then the draft is
checked: there is a main game file and a name, every file exists, no file is forbidden, and a port
can be handed out. What passes becomes a launch specification. -/

namespace HostDaemon

/-- Why a hosting request is rejected before anything is started. -/
inductive LaunchError where
  /-- An option is not known. -/
  | unknownOption (key : String)
  /-- There is no such engine version. -/
  | unknownVersion (value : String)
  /-- There is no such main game file. -/
  | unknownIwad (value : String)
  /-- There is no such game mode. -/
  | unknownGamemode (value : String)
  /-- The skill is not a number from 0 to 4. -/
  | invalidSkill (value : String)
  /-- The value of a flag is not a number of 32 bits. -/
  | invalidFlag (flag value : String)
  /-- The port is not a number in the range. -/
  | invalidPort (value : String)
  /-- The port is taken. -/
  | portInUse (port : UInt16)
  /-- A configuration file of the engine does not exist. -/
  | missingConfig (name : String)
  /-- A game file does not exist. -/
  | missingWad (name : String)
  /-- A game file cannot be read. -/
  | unreadable (name reason : String)
  /-- No main game file is named. -/
  | iwadRequired
  /-- No name is given. -/
  | hostnameRequired
  /-- A game file is forbidden. -/
  | blacklisted (hit : BlacklistHit)
  /-- No port is left. -/
  | capacityReached
deriving Repr, DecidableEq

/-- The text of the error. -/
def LaunchError.message : LaunchError → String
  | .unknownOption key => s!"unknown option `{key}`"
  | .unknownVersion value => s!"invalid version `{value}`"
  | .unknownIwad value => s!"invalid iwad `{value}`"
  | .unknownGamemode value => s!"unknown gamemode `{value}`"
  | .invalidSkill value => s!"skill must be between 0-4, got `{value}`"
  | .invalidFlag flag value => s!"{flag} must be a non-negative integer, got `{value}`"
  | .invalidPort value => s!"you did not input a valid port: `{value}`"
  | .portInUse port => s!"port {port} is already in use"
  | .missingConfig name => s!"config file `{name}` does not exist"
  | .missingWad name => s!"file `{name}` does not exist"
  | .unreadable name reason => s!"could not read `{name}`: {reason}"
  | .iwadRequired => "you are missing an iwad"
  | .hostnameRequired => "you are missing the hostname"
  | .blacklisted hit =>
    "wad " ++ hit.wad ++ " matches blacklist " ++ hit.entry ++ " with reason: \"" ++ hit.reason ++
      "\" (hash: " ++ hit.hash ++ ")"
  | .capacityReached => "Global server limit has been reached."

/-- What a launch specification is built against. -/
structure BuildContext where
  /-- The configuration. -/
  config : Config
  /-- What is known of files. -/
  store : Store
  /-- The files. -/
  files : FileSystem
  /-- The ports that can be handed out. -/
  ports : PortPool
  /-- The test whether a port is free. -/
  isFree : UInt16 → Bool
  /-- The ports of running servers. -/
  registered : List UInt16

/-- What the options have said so far. -/
structure LaunchDraft where
  /-- The engine version. -/
  version : Option Version
  /-- The main game file. -/
  iwad : Option String
  /-- Other game files. -/
  wads : List WadRef
  /-- Files that players may have or not. -/
  optionalWads : List String
  /-- The maps to play. -/
  maps : List String
  /-- How to play. -/
  gamemode : Option Gamemode
  /-- The skill. -/
  skill : Option UInt8
  /-- Engine flags. -/
  flags : FlagTable
  /-- One hit kills. -/
  instagib : Bool
  /-- Shotguns alone. -/
  buckshot : Bool
  /-- A configuration file of the engine. -/
  config : Option String
  /-- Are the files that come with the version loaded? -/
  includeData : Bool
  /-- Is the server launched again when it ends on its own? -/
  autoRestart : Bool
  /-- The name that players see. -/
  hostname : Option String
  /-- The port. -/
  port : Option UInt16
deriving Repr, DecidableEq

namespace LaunchDraft

/-- The draft of a request that asks for a port or not. -/
def start (port : Option UInt16) : LaunchDraft where
  version := none
  iwad := none
  wads := []
  optionalWads := []
  maps := []
  gamemode := none
  skill := none
  flags := []
  instagib := false
  buckshot := false
  config := none
  includeData := false
  autoRestart := false
  hostname := none
  port := port

/-! ### Values of options -/

/-- The skill of a value. -/
def readSkill (value : String) : Except LaunchError UInt8 :=
  match Number.readUInt8? (Text.trim value) with
  | some skill => if skill ≤ maxSkill then .ok skill else .error (.invalidSkill value)
  | none => .error (.invalidSkill value)

/-- The engine version of a value. -/
def readVersion (b : BuildContext) (value : String) : Except LaunchError Version :=
  match b.config.catalog.get? (Text.trim value) with
  | some v => .ok v
  | none => .error (.unknownVersion value)

/-- The engine's configuration file of a value: it has to exist. -/
def readConfig (b : BuildContext) (value : String) : Except LaunchError String :=
  let name := Text.lowercase (cleanFileName value)
  if name = "" || !b.files.isFile (Path.join b.config.host.configDir name) then
    .error (.missingConfig name)
  else .ok name

/-- The game mode of a value. -/
def readGamemode (b : BuildContext) (value : String) : Except LaunchError Gamemode :=
  match Gamemode.ofAlias? value with
  | some mode => .ok mode
  | none =>
    match b.config.host.unknownGamemode with
    | .reject => .error (.unknownGamemode value)
    | .cooperative => .ok .cooperative

/-- The main game file of a value: one that a word asks for or that the configuration names. -/
def readIwad (b : BuildContext) (value : String) : Except LaunchError String :=
  let cleaned := Text.lowercase (cleanFileName value)
  match iwadOfAlias? cleaned with
  | some file => .ok file
  | none =>
    if b.config.host.iwads.any fun name => Text.sameLetters name cleaned then .ok cleaned
    else .error (.unknownIwad value)

/-- The port of a value: in the range, and neither a running server's nor claimed. -/
def readPort (b : BuildContext) (value : String) : Except LaunchError UInt16 :=
  match Number.readUInt16? (Text.trim value) with
  | none => .error (.invalidPort value)
  | some port =>
    if !b.ports.inRange port then .error (.invalidPort value)
    else if b.registered.contains port || b.ports.isClaimed port then .error (.portInUse port)
    else .ok port

/-- The mark of a wad that lies in the directory of iwads. -/
def iwadMark : String := "iwad:"

/-- A wad of a list. -/
def readWad (item : String) : WadRef :=
  let lower := Text.lowercase item
  match Text.after? iwadMark.toList lower.toList with
  | some rest => ⟨cleanFileName (String.ofList rest), .iwadDir⟩
  | none => .wad (cleanFileName lower)

/-- The wads of a value; items of which nothing is left are passed over. -/
def readWads (value : String) : List WadRef :=
  ((OptionValue.items value).map readWad).filter (·.name ≠ "")

/-- Add the optional wads of a value; each name is kept once. -/
def addOptional (names : List String) (value : String) : List String :=
  (OptionValue.items value).foldl (fun names item =>
    let name := cleanFileName (Text.lowercase item)
    if name = "" || names.contains name then names else names ++ [name]) names

/-- The bits of a flag. -/
def readMask (flag value : String) : Except LaunchError UInt32 :=
  match Number.readUInt32? (Text.trim value) with
  | some bits => .ok bits
  | none => .error (.invalidFlag flag value)

/-! ### Options -/

/-- What an option is about. -/
inductive OptionKind where
  | autoRestart
  | version
  | config
  | data
  | gamemode
  | hostname
  | instagib
  | buckshot
  | iwad
  | maps
  | port
  | skill
  | wads
  | optionalWads
  /-- A flag that is a set of bits. -/
  | mask (name : String)
  /-- A flag that is on or off. -/
  | toggle (name : String)
  /-- Nothing that is known. -/
  | unknown (key : String)
deriving Repr, DecidableEq

/-- What the option with a key is about. -/
def OptionKind.ofKey (key : String) : OptionKind :=
  match key with
  | "autorestart" => .autoRestart
  | "version" => .version
  | "config" => .config
  | "data" | "stdata" => .data
  | "gamemode" => .gamemode
  | "hostname" => .hostname
  | "instagib" => .instagib
  | "buckshot" => .buckshot
  | "iwad" => .iwad
  | "map" | "maps" => .maps
  | "port" => .port
  | "skill" => .skill
  | "wad" | "wads" | "file" | "files" => .wads
  | "optionalwad" | "optionalwads" | "optwad" | "optwads" | "opt" | "opts" | "optfile"
  | "optfiles" => .optionalWads
  | key =>
    if maskFlags.contains key then .mask key
    else if toggleFlags.contains key then .toggle key
    else .unknown key

/-- Apply one option to a draft. -/
def apply (b : BuildContext) (d : LaunchDraft) (key value : String) :
    Except LaunchError LaunchDraft :=
  match OptionKind.ofKey key with
  | .autoRestart => .ok { d with autoRestart := OptionValue.isOn value }
  | .version => (readVersion b value).map fun v => { d with version := some v }
  | .config => (readConfig b value).map fun name => { d with config := some name }
  | .data => .ok { d with includeData := OptionValue.isOn value }
  | .gamemode => (readGamemode b value).map fun mode => { d with gamemode := some mode }
  | .hostname =>
    let name := Text.trim value
    .ok (if name = "" then d else { d with hostname := some name })
  | .instagib => .ok { d with instagib := OptionValue.isOn value }
  | .buckshot => .ok { d with buckshot := OptionValue.isOn value }
  | .iwad => (readIwad b value).map fun file => { d with iwad := some file }
  | .maps => .ok { d with maps := d.maps ++ OptionValue.items value }
  | .port => (readPort b value).map fun port => { d with port := some port }
  | .skill => (readSkill value).map fun skill => { d with skill := some skill }
  | .wads => .ok { d with wads := d.wads ++ readWads value }
  | .optionalWads => .ok { d with optionalWads := addOptional d.optionalWads value }
  | .mask name =>
    (readMask name value).map fun bits => { d with flags := d.flags.insert name (.mask bits) }
  | .toggle name =>
    .ok { d with flags := d.flags.insert name (.toggle (OptionValue.isOn value)) }
  | .unknown key =>
    if b.config.host.strictOptions then .error (.unknownOption key) else .ok d

/-- Apply options in order. -/
def applyAll (b : BuildContext) (d : LaunchDraft) : OptionList → Except LaunchError LaunchDraft
  | [] => .ok d
  | (key, value) :: options => do
    let d ← d.apply b key value
    applyAll b d options

end LaunchDraft

namespace BuildContext

/-- The hashes of some files, in order. -/
def digests (b : BuildContext) : List WadRef → Except LaunchError (List WadDigest)
  | [] => .ok []
  | wad :: wads =>
    match b.files.read (b.config.resolveWad wad) with
    | .error e => .error (.unreadable wad.name e.message)
    | .ok bytes => do
      let more ← digests b wads
      return ⟨wad.name, Digest.Sha256.hex bytes⟩ :: more

/-- No file may be forbidden. -/
def checkBlacklist (b : BuildContext) (wads : List WadRef) : Except LaunchError Unit := do
  let digests ← b.digests wads
  match b.store.blacklistHit? digests with
  | some hit => .error (.blacklisted hit)
  | none => .ok ()

/-- The first wad that does not exist. -/
def missing? (b : BuildContext) (wads : List WadRef) : Option WadRef :=
  wads.find? fun wad => !b.files.isFile (b.config.resolveWad wad)

/-- The name of a server: what the draft says, or one made from the owner's where that is
    allowed. -/
def hostnameOf (b : BuildContext) (owner : String) (d : LaunchDraft) : Except LaunchError String :=
  match d.hostname with
  | some name => .ok name
  | none =>
    if b.config.host.hostnameFallback then .ok (owner ++ "'s server") else .error .hostnameRequired

/-- Check a draft and make it a launch specification. The identifier is given from outside.
    Servers that are being recovered need no port to be left. -/
def finish (b : BuildContext) (owner : String) (level : AccountLevel) (options : OptionList)
    (recovering : Bool) (id : String) (d : LaunchDraft) : Except LaunchError LaunchSpec := do
  let iwad ←
    match d.iwad with
    | some iwad => .ok iwad
    | none => .error .iwadRequired
  let hostname ← b.hostnameOf owner d
  if !b.files.isFile (Path.join b.config.host.iwadDir iwad) then .error (.missingWad iwad)
  let wads := d.wads ++ d.optionalWads.map WadRef.wad
  match b.missing? wads with
  | some wad => .error (.missingWad wad.name)
  | none => .ok ()
  b.checkBlacklist wads
  if !recovering && d.port.isNone && !b.ports.hasCapacity b.isFree then .error .capacityReached
  return {
    owner := owner
    ownerLevel := level
    requestedPort := d.port
    version := d.version.getD b.config.catalog.default
    iwad := iwad
    wads := d.wads
    optionalWads := d.optionalWads
    maps := d.maps
    gamemode := d.gamemode
    skill := d.skill
    flags := d.flags
    instagib := d.instagib
    buckshot := d.buckshot
    config := d.config
    includeData := d.includeData
    autoRestart := d.autoRestart
    hostname := hostname
    credentials := .ofId id
    options := options }

/-- The launch specification of a request. -/
def build (b : BuildContext) (owner : String) (level : AccountLevel) (options : OptionList)
    (port : Option UInt16) (recovering : Bool) (id : String) : Except LaunchError LaunchSpec := do
  let d ← (LaunchDraft.start port).applyAll b options
  b.finish owner level options recovering id d

end BuildContext

end HostDaemon
