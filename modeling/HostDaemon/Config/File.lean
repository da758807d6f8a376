import HostDaemon.Config.Decode
import HostDaemon.FileSystem
import HostDaemon.Number.Shortest
import HostDaemon.Text.Blank
import HostDaemon.Toml.Document

/-! # The configuration file

Reading a configuration: the file is TOML, its sections are known, the range of ports is not empty,
the least score of a banned address is a probability, and the versions make a catalog. The checks
are made in this order, and the first that fails is the error. -/

namespace HostDaemon

/-- Why a configuration is rejected. -/
inductive ConfigError where
  /-- The file holds nothing but blanks. -/
  | empty
  /-- The file is no TOML, or a setting is missing or of the wrong type. -/
  | notToml
  /-- There is a section that is not known. -/
  | unknownSection (name : String)
  /-- The range of ports is empty or begins with zero. -/
  | invalidPortRange (min max : UInt16)
  /-- The least score of a banned address is no probability. -/
  | invalidMinimum (minimum : Float)
  /-- The versions make no catalog. -/
  | catalog (cause : CatalogError)
  /-- The file cannot be read. -/
  | unreadable (path : Path) (reason : String)
deriving Repr

/-- The text of the error. -/
def ConfigError.message : ConfigError → String
  | .empty => "config file is empty"
  | .notToml => "TOML parse error"
  | .unknownSection name => s!"unknown section `{name}`"
  | .invalidPortRange min max => s!"invalid port range {min}..{max}"
  | .invalidMinimum minimum =>
    "reputation minimum must be within 0.0..=1.0, got " ++ Number.Shortest.write minimum
  | .catalog cause => "version catalog: " ++ cause.message
  | .unreadable path reason => s!"{path}: {reason}"

/-- The text of a file that is not UTF-8 cannot be read. -/
def notUtf8 : String := "stream did not contain valid UTF-8"

/-- The text of a file, or why it cannot be read. -/
def FileSystem.readText (fs : FileSystem) (p : Path) : Except String String :=
  match fs.read p with
  | .error e => .error e.message
  | .ok bytes =>
    match Text.Utf8.decode? bytes with
    | some cs => .ok (String.ofList cs)
    | none => .error notUtf8

namespace Config

/-- The sections of a configuration. -/
def sectionNames : List String := ["host", "service", "reputation", "policy", "versions"]

/-- A section that may be missing. -/
def sectionOr {α : Type} (entries : List (String × Toml)) (name : String) (default : α)
    (read : Toml → Option α) : Option α :=
  match entries.lookup name with
  | some v => read v
  | none => some default

/-- The first of some names in the order of their characters. -/
def least? : List String → Option String
  | [] => none
  | name :: names =>
    match least? names with
    | some other => some (if other < name then other else name)
    | none => some name

/-- The key of a table that stands for a date. -/
def dateKey : String := "$__toml_private_datetime"

/-- Is the table sound where it stands for a date? It does so where its first key says it, and then
    a date in a string is all that it holds. -/
def isSoundDate (entries : List (String × Toml)) : Bool :=
  if least? (entries.map (·.1)) = some dateKey then
    match entries with
    | [(_, .text s)] => Toml.isDate s.toList
    | _ => false
  else true

/-- Can a value be kept whose meaning is not known? Its whole numbers have a sign bit to spare, and
    its tables that stand for dates are sound. Sections that are not known are held to that before
    they are named. -/
def canKeep : Toml → Bool
  | .integer n => n < 0x8000000000000000
  | .array items => all items
  | .table entries => isSoundDate entries && allEntries entries
  | _ => true
where
  /-- Every item. -/
  all : List Toml → Bool
    | [] => true
    | item :: items => canKeep item && all items
  /-- Every entry. -/
  allEntries : List (String × Toml) → Bool
    | [] => true
    | (_, v) :: entries => canKeep v && allEntries entries

/-- The settings of a configuration before they are checked against each other. -/
structure Draft where
  /-- Section `host`. -/
  host : HostSettings
  /-- Section `service`. -/
  service : ServiceSettings
  /-- Section `reputation`. -/
  reputation : ReputationSettings
  /-- Section `policy`. -/
  policy : PolicySettings
  /-- The engine versions. -/
  versions : List Version
  /-- The sections that are not known. -/
  unknown : List String

/-- The settings of a document. -/
def Draft.ofEntries (entries : List (String × Toml)) : Option Draft := do
  let host ← (entries.lookup "host").bind HostSettings.ofToml
  let service ← sectionOr entries "service" ServiceSettings.default ServiceSettings.ofToml
  let reputation ←
    sectionOr entries "reputation" ReputationSettings.default ReputationSettings.ofToml
  let policy ← sectionOr entries "policy" PolicySettings.default PolicySettings.ofToml
  let versions ← sectionOr entries "versions" [] (list Version.ofToml)
  let others := entries.filter fun (name, _) => name ∉ sectionNames
  if others.all fun (_, v) => canKeep v then
    return ⟨host, service, reputation, policy, versions, others.map (·.1)⟩
  else none

/-- The configuration of some settings, its versions made into a catalog. -/
def ofDraft (d : Draft) : Except ConfigError Config :=
  match Catalog.ofList d.versions with
  | .error cause => .error (.catalog cause)
  | .ok catalog => .ok ⟨d.host, d.service, d.reputation, d.policy, catalog⟩

/-- Check some settings against each other. -/
def check (d : Draft) : Except ConfigError Config :=
  match least? d.unknown with
  | some name => .error (.unknownSection name)
  | none =>
    if d.host.minPort = 0 ∨ d.host.maxPort ≤ d.host.minPort then
      .error (.invalidPortRange d.host.minPort d.host.maxPort)
    else if 0 ≤ d.reputation.minimum && d.reputation.minimum ≤ 1 then ofDraft d
    else .error (.invalidMinimum d.reputation.minimum)

/-- Read a configuration. -/
def parse (content : String) : Except ConfigError Config :=
  if Text.isBlankText content then .error .empty
  else
    match (Toml.parse? content).bind Draft.ofEntries with
    | none => .error .notToml
    | some d => check d

/-- Read the configuration in a file. -/
def load (fs : FileSystem) (p : Path) : Except ConfigError Config :=
  match fs.readText p with
  | .error reason => .error (.unreadable p reason)
  | .ok content => parse content

end Config

end HostDaemon
