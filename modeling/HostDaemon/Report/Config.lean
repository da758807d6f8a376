import HostDaemon.Config.Settings
import HostDaemon.Report.Basic

/-! # Reports of configurations -/

namespace HostDaemon

/-- The report of an engine version. -/
def Version.report (v : Version) : Json :=
  .object [("name", .text v.name), ("path", .text v.path), ("description", .text v.description),
    ("default", .bool v.isDefault), ("data", .ofTexts v.data)]

/-- The report of section `host`. -/
def HostSettings.report (h : HostSettings) : Json :=
  .object [("min_port", .ofUInt16 h.minPort), ("max_port", .ofUInt16 h.maxPort),
    ("wad_dir", .text h.wadDir), ("iwad_dir", .text h.iwadDir), ("config_dir", .text h.configDir),
    ("banlist_dir", .text h.banlistDir), ("whitelist_dir", .text h.whitelistDir),
    ("adminlist_dir", .text h.adminlistDir), ("log_dir", .orNull .text h.logDir),
    ("hostname_base", .text h.hostnameBase), ("extra_wads", .ofTexts h.extraWads),
    ("iwads", .ofTexts h.iwads), ("max_restarts", .ofUInt32 h.maxRestarts),
    ("cleanup_interval_days", .ofUInt64 h.cleanupIntervalDays),
    ("cleanup_period_secs", .ofUInt64 h.cleanupPeriodSecs),
    ("default_quota", .ofUInt32 h.defaultQuota), ("strict_options", .bool h.strictOptions),
    ("unknown_gamemode", .text h.unknownGamemode.name),
    ("hostname_fallback", .bool h.hostnameFallback), ("game_address", .text h.gameAddress),
    ("password_min_length", .ofUInt64 h.passwordMinLength)]

/-- The report of section `policy`. -/
def PolicySettings.report (p : PolicySettings) : Json :=
  .object [("quotas", .object (p.quotas.map fun (who, n) => (who, .ofUInt32 n))),
    ("levels", .object (p.levels.map fun (who, level) => (who, .text level.name))),
    ("whitelist", .ofTexts p.whitelist),
    ("bans", .array (p.bans.map fun b =>
      .object [("ip", .text b.ip), ("reason", .orNull .text b.reason)])),
    ("blacklist", .array (p.blacklist.map fun e =>
      .object [("name", .text e.name), ("hash", .text e.hash), ("reason", .text e.reason)]))]

/-- The report of a configuration whose servers' log files lie in `defaultLogDir` where it names no
    directory. -/
def Config.report (c : Config) (defaultLogDir : Path) : Json :=
  .object [("host", c.host.report),
    ("service", .object [("name", .text c.service.name), ("short", .text c.service.short),
      ("node", .text c.service.node)]),
    ("reputation", .object [("enabled", .bool c.reputation.enabled),
      ("endpoint", .text c.reputation.endpoint), ("contact", .text c.reputation.contact),
      ("minimum", .ofFloatBits c.reputation.minimum)]),
    ("policy", c.policy.report), ("versions", .array (c.catalog.entries.map Version.report)),
    ("default", .text c.catalog.default.name), ("log_dir", .text (c.logDirOr defaultLogDir))]

end HostDaemon
