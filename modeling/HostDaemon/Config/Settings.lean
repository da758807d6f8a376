import HostDaemon.Account
import HostDaemon.Catalog

/-! # Settings

What the configuration of a daemon says, section by section, with the values of what it leaves
out. -/

namespace HostDaemon

/-- What is done with a game mode that no word asks for. -/
inductive UnknownGamemode where
  /-- The request is rejected. -/
  | reject
  /-- The game is cooperative. -/
  | cooperative
deriving Repr, DecidableEq, Inhabited

/-- The name of the choice. -/
def UnknownGamemode.name : UnknownGamemode → String
  | .reject => "reject"
  | .cooperative => "cooperative"

/-- Section `host`: where things are and what is allowed. -/
structure HostSettings where
  /-- The first port for servers. -/
  minPort : UInt16
  /-- The first port after those for servers. -/
  maxPort : UInt16
  /-- The directory of wads. -/
  wadDir : Path
  /-- The directory of iwads. -/
  iwadDir : Path
  /-- The directory of the engine's configuration files. -/
  configDir : Path
  /-- The directory of the owners' ban lists. -/
  banlistDir : Path
  /-- The directory of the owners' lists of players exempt from bans. -/
  whitelistDir : Path
  /-- The directory of the owners' lists of administrators. -/
  adminlistDir : Path
  /-- The directory of the servers' log files, where the configuration names one. -/
  logDir : Option Path
  /-- The text that every server's name begins with. -/
  hostnameBase : String
  /-- Wads that every server loads after its own. -/
  extraWads : List String
  /-- Names that are looked for in the directory of iwads. -/
  iwads : List String
  /-- How often a server is launched again. -/
  maxRestarts : UInt32
  /-- After how many days an idle server is swept away; zero turns sweeps off. -/
  cleanupIntervalDays : UInt64
  /-- The seconds between two sweeps; zero turns them off. -/
  cleanupPeriodSecs : UInt64
  /-- How many servers an account may have. -/
  defaultQuota : UInt32
  /-- Are options with an unknown key rejected? -/
  strictOptions : Bool
  /-- What is done with an unknown game mode. -/
  unknownGamemode : UnknownGamemode
  /-- Does a request without a name get one made from its owner? -/
  hostnameFallback : Bool
  /-- The address at which players reach the servers. -/
  gameAddress : String
  /-- The least length of a password that is set on a console. -/
  passwordMinLength : UInt64
deriving Repr, DecidableEq

/-- Section `service`: what the service is called. -/
structure ServiceSettings where
  /-- The name. -/
  name : String
  /-- A short form of the name. -/
  short : String
  /-- The name of this machine. -/
  node : String
deriving Repr, DecidableEq

/-- The service that is asked about addresses where the configuration names none. -/
def defaultEndpoint : String := "http://check.getipintel.net/check.php"

/-- Section `reputation`: asking a service whether an address is a proxy. -/
structure ReputationSettings where
  /-- Is the service asked at all? -/
  enabled : Bool
  /-- Where the service is. -/
  endpoint : String
  /-- The address of whoever asks, which the service wants to know. -/
  contact : String
  /-- The least score with which an address is banned. -/
  minimum : Float
deriving Repr

/-- A ban of an address. -/
structure BanEntry where
  /-- The address. -/
  ip : String
  /-- Why it is banned. -/
  reason : Option String
deriving Repr, DecidableEq

/-- A forbidden file. -/
structure BlacklistEntry where
  /-- A name for the file. -/
  name : String
  /-- The hash of its contents in hexadecimal digits. -/
  hash : String
  /-- Why it is forbidden. -/
  reason : String
deriving Repr, DecidableEq

/-- Section `policy`: what is known of accounts, addresses and files. -/
structure PolicySettings where
  /-- How many servers some accounts may have. -/
  quotas : List (String × UInt32)
  /-- The levels of accounts. -/
  levels : List (String × AccountLevel)
  /-- Addresses that are never banned. -/
  whitelist : List String
  /-- Addresses that are banned. -/
  bans : List BanEntry
  /-- Files that are forbidden. -/
  blacklist : List BlacklistEntry
deriving Repr, DecidableEq

/-- The whole configuration. -/
structure Config where
  /-- Where things are and what is allowed. -/
  host : HostSettings
  /-- What the service is called. -/
  service : ServiceSettings
  /-- Whether and whom to ask about addresses. -/
  reputation : ReputationSettings
  /-- What is known of accounts, addresses and files. -/
  policy : PolicySettings
  /-- The engine versions. -/
  catalog : Catalog

/-- The directory of log files: the one that the configuration names, or `default`. -/
def Config.logDirOr (c : Config) (default : Path) : Path := c.host.logDir.getD default

end HostDaemon
