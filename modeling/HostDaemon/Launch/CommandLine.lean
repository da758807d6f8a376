import HostDaemon.Config.Settings
import HostDaemon.Launch.Spec

/-! # The command line of a server

A server's program is started with pairs of a parameter and its value in a fixed order, between
the program's path and the word that makes it host. The command line depends on nothing but the
configuration, the specification and the port. -/

namespace HostDaemon

/-- Where a game file lies. -/
def Config.resolveWad (c : Config) (wad : WadRef) : Path :=
  match wad.location with
  | .wadDir => Path.join c.host.wadDir wad.name
  | .iwadDir => Path.join c.host.iwadDir wad.name

/-- The game files besides the main one in the order in which they are loaded: those that come
    with the version where they are asked for, the user's, and those of the configuration; of
    each name the first alone. -/
def Config.loadOrder (c : Config) (spec : LaunchSpec) : List WadRef :=
  WadRef.dedup ((if spec.includeData then spec.version.data.map WadRef.wad else []) ++
    spec.wads ++ c.host.extraWads.map WadRef.wad)

/-- The path under which a game file is loaded: a name that the configuration counts among the
    iwads is looked for there, whatever its location says. -/
def Config.loadPath (c : Config) (wad : WadRef) : Path :=
  let amongIwads :=
    wad.location = .iwadDir || c.host.iwads.any fun name => Text.sameLetters name wad.name
  Path.join (if amongIwads then c.host.iwadDir else c.host.wadDir) wad.name

/-- The file in a directory that belongs to an owner. -/
def ownerFile (dir : Path) (owner : String) : Path :=
  Path.join dir (cleanFileName owner ++ ".txt")

namespace LaunchSpec

/-- A parameter and its value. -/
abbrev Parameter := String × String

/-- The parameters for the maps: the first one is played, the others are added. -/
def mapParameters : List String → List Parameter
  | [] => []
  | first :: others => ("+map", first) :: others.map fun name => ("+addmap", name)

/-- The parameters for the game mode. Every mode but the cooperative one first turns that off. -/
def modeParameters : Option Gamemode → List Parameter
  | none => []
  | some .cooperative => [("+cooperative", "1")]
  | some mode => [("+cooperative", "0"), ("+" ++ mode.cvar, "1")]

/-- The parameters for the flags that are sets of bits; empty sets are left out. -/
def maskParameters (flags : FlagTable) : List Parameter :=
  flags.filterMap fun (name, value) =>
    match value with
    | .mask bits => if 0 < bits then some ("+" ++ name, toString bits) else none
    | .toggle _ => none

/-- The parameters for the flags that are on or off. -/
def toggleParameters (flags : FlagTable) : List Parameter :=
  flags.filterMap fun (name, value) =>
    match value with
    | .mask _ => none
    | .toggle on => some ("+sv_" ++ name, if on then "1" else "0")

/-- All parameters in order. -/
def parameters (c : Config) (spec : LaunchSpec) (port : UInt16) : List Parameter :=
  let host := c.host
  [("-port", toString port),
    ("+exec", Path.join host.configDir "global.cfg"),
    ("-iwad", Path.join host.iwadDir spec.iwad)] ++
  (c.loadOrder spec).map (fun wad => ("-file", c.loadPath wad)) ++
  spec.optionalWads.map (fun name => ("-optfile", Path.join host.wadDir name)) ++
  mapParameters spec.maps ++
  [("+skill", toString spec.skillOrDefault)] ++
  modeParameters spec.gamemode ++
  maskParameters spec.flags ++
  (if spec.instagib then [("+instagib", "1")] else []) ++
  (if spec.buckshot then [("+buckshot", "1")] else []) ++
  toggleParameters spec.flags ++
  (match spec.config with
    | some name => [("+exec", Path.join host.configDir name)]
    | none => []) ++
  [("+sv_hostname", host.hostnameBase ++ " " ++ spec.hostname),
    ("+sv_rconpassword", spec.credentials.rconPassword),
    ("+sv_password", spec.credentials.connectPassword),
    ("+sv_joinpassword", spec.credentials.connectPassword),
    ("+sv_banfile", ownerFile host.banlistDir spec.owner),
    ("+sv_adminlistfile", ownerFile host.adminlistDir spec.owner),
    ("+sv_banexemptionfile", ownerFile host.whitelistDir spec.owner)]

/-- The command line: the program, the parameters with their values, and the word that makes the
    engine host. -/
def commandLine (c : Config) (spec : LaunchSpec) (port : UInt16) : List String :=
  spec.version.path ::
    ((parameters c spec port).flatMap fun (name, value) => [name, value]) ++ ["-host"]

end LaunchSpec

end HostDaemon
