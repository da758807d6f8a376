import HostDaemon.Config.Section
import HostDaemon.Config.Settings

/-! # Sections as settings

The settings of each section, their names, and what holds where one is left out. -/

namespace HostDaemon

open Config

/-- An engine version. -/
def Version.ofToml (v : Toml) : Option Version := do
  let s ← Section.ofToml ["name", "path", "description", "default", "data"] v
  return {
    name := ← s.required 0 "name" text
    path := ← s.required 1 "path" text
    description := ← s.withDefault 2 "description" "" text
    isDefault := ← s.withDefault 3 "default" false bool
    data := ← s.withDefault 4 "data" [] (list text) }

/-- The choice for unknown game modes with a name. -/
def UnknownGamemode.ofName? : String → Option UnknownGamemode
  | "reject" => some .reject
  | "cooperative" => some .cooperative
  | _ => none

namespace HostSettings

/-- The settings in order. -/
def settingNames : List String :=
  ["min_port", "max_port", "wad_dir", "iwad_dir", "config_dir", "banlist_dir", "whitelist_dir",
    "adminlist_dir", "log_dir", "hostname_base", "extra_wads", "iwads", "max_restarts",
    "cleanup_interval_days", "cleanup_period_secs", "default_quota", "strict_options",
    "unknown_gamemode", "hostname_fallback", "game_address", "password_min_length"]

/-- Section `host`. -/
def ofToml (v : Toml) : Option HostSettings := do
  let s ← Section.ofToml settingNames v
  return {
    minPort := ← s.withDefault 0 "min_port" 10666 uint16
    maxPort := ← s.withDefault 1 "max_port" 10766 uint16
    wadDir := ← s.required 2 "wad_dir" text
    iwadDir := ← s.required 3 "iwad_dir" text
    configDir := ← s.required 4 "config_dir" text
    banlistDir := ← s.required 5 "banlist_dir" text
    whitelistDir := ← s.required 6 "whitelist_dir" text
    adminlistDir := ← s.required 7 "adminlist_dir" text
    logDir := ← s.optional 8 "log_dir" text
    hostnameBase := ← s.withDefault 9 "hostname_base" "" text
    extraWads := ← s.withDefault 10 "extra_wads" [] (list text)
    iwads := ← s.withDefault 11 "iwads" [] (list text)
    maxRestarts := ← s.withDefault 12 "max_restarts" 3 uint32
    cleanupIntervalDays := ← s.withDefault 13 "cleanup_interval_days" 3 uint64
    cleanupPeriodSecs := ← s.withDefault 14 "cleanup_period_secs" 3600 uint64
    defaultQuota := ← s.withDefault 15 "default_quota" 1 uint32
    strictOptions := ← s.withDefault 16 "strict_options" true bool
    unknownGamemode := ← s.withDefault 17 "unknown_gamemode" .reject
      (oneOf UnknownGamemode.ofName?)
    hostnameFallback := ← s.withDefault 18 "hostname_fallback" false bool
    gameAddress := ← s.withDefault 19 "game_address" "" text
    passwordMinLength := ← s.withDefault 20 "password_min_length" 5 uint64 }

end HostSettings

namespace ServiceSettings

/-- What holds where the section is missing. -/
def default : ServiceSettings := ⟨"", "", ""⟩

/-- Section `service`. -/
def ofToml (v : Toml) : Option ServiceSettings := do
  let s ← Section.ofToml ["name", "short", "node"] v
  return {
    name := ← s.withDefault 0 "name" "" text
    short := ← s.withDefault 1 "short" "" text
    node := ← s.withDefault 2 "node" "" text }

end ServiceSettings

namespace ReputationSettings

/-- The least score of an address that is banned, where the configuration names none. -/
def defaultMinimum : Float := 0.995

/-- What holds where the section is missing. -/
def default : ReputationSettings := ⟨false, defaultEndpoint, "", defaultMinimum⟩

/-- Section `reputation`. -/
def ofToml (v : Toml) : Option ReputationSettings := do
  let s ← Section.ofToml ["enabled", "endpoint", "contact", "minimum"] v
  return {
    enabled := ← s.withDefault 0 "enabled" false bool
    endpoint := ← s.withDefault 1 "endpoint" defaultEndpoint text
    contact := ← s.withDefault 2 "contact" "" text
    minimum := ← s.withDefault 3 "minimum" defaultMinimum float }

end ReputationSettings

/-- A ban. -/
def BanEntry.ofToml (v : Toml) : Option BanEntry := do
  let s ← Section.ofToml ["ip", "reason"] v
  return {
    ip := ← s.required 0 "ip" text
    reason := ← s.withDefault 1 "reason" none fun v => (text v).map some }

/-- A forbidden file. -/
def BlacklistEntry.ofToml (v : Toml) : Option BlacklistEntry := do
  let s ← Section.ofToml ["name", "hash", "reason"] v
  return {
    name := ← s.required 0 "name" text
    hash := ← s.required 1 "hash" text
    reason := ← s.withDefault 2 "reason" "" text }

namespace PolicySettings

/-- What holds where the section is missing. -/
def default : PolicySettings := ⟨[], [], [], [], []⟩

/-- Section `policy`. -/
def ofToml (v : Toml) : Option PolicySettings := do
  let s ← Section.ofToml ["quotas", "levels", "whitelist", "bans", "blacklist"] v
  return {
    quotas := ← s.withDefault 0 "quotas" [] (map uint32)
    levels := ← s.withDefault 1 "levels" [] (map (oneOf AccountLevel.ofName?))
    whitelist := ← s.withDefault 2 "whitelist" [] (list text)
    bans := ← s.withDefault 3 "bans" [] (list BanEntry.ofToml)
    blacklist := ← s.withDefault 4 "blacklist" [] (list BlacklistEntry.ofToml) }

end PolicySettings

end HostDaemon
