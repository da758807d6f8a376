import HostDaemon.Launch.Spec
import HostDaemon.Report.Config

/-! # Reports of launch specifications -/

namespace HostDaemon

/-- The report of a game file. -/
def WadRef.report (w : WadRef) : Json :=
  .object [("name", .text w.name), ("location", .text w.location.name)]

/-- The report of the value of a flag. -/
def FlagValue.report : FlagValue → Json
  | .mask bits => .object [("kind", .text "mask"), ("value", .ofUInt32 bits)]
  | .toggle on => .object [("kind", .text "toggle"), ("value", .bool on)]

/-- The report of an identifier with the passwords made of it. -/
def Credentials.report (c : Credentials) : Json :=
  .object [("id", .text c.id), ("rcon_password", .text c.rconPassword),
    ("connect_password", .text c.connectPassword)]

/-- The report of options. -/
def OptionList.report (options : OptionList) : Json :=
  .array (options.map fun (key, value) => .array [.text key, .text value])

/-- The report of a launch specification; `credentials` stands for the identifier and the
    passwords. -/
def LaunchSpec.report (s : LaunchSpec) (credentials : Json) : Json :=
  .object [("owner", .text s.owner), ("owner_level", .text s.ownerLevel.name),
    ("requested_port", .orNull .ofUInt16 s.requestedPort), ("version", s.version.report),
    ("iwad", .text s.iwad), ("wads", .array (s.wads.map WadRef.report)),
    ("optional_wads", .ofTexts s.optionalWads), ("maps", .ofTexts s.maps),
    ("gamemode", .orNull (fun m => .text m.name) s.gamemode),
    ("skill", .orNull (fun n => .ofNat n.toNat) s.skill),
    ("flags", .object (s.flags.map fun (name, value) => (name, value.report))),
    ("instagib", .bool s.instagib), ("buckshot", .bool s.buckshot),
    ("config", .orNull .text s.config), ("include_data", .bool s.includeData),
    ("auto_restart", .bool s.autoRestart), ("hostname", .text s.hostname),
    ("credentials", credentials), ("options", OptionList.report s.options)]

end HostDaemon
