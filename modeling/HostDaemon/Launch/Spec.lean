import HostDaemon.Account
import HostDaemon.Catalog
import HostDaemon.Gamemode
import HostDaemon.Number.Bounded
import HostDaemon.Options
import HostDaemon.Text.Utf8
import HostDaemon.Wad

/-! # Launch specifications

Everything that decides how a server is started, resolved and checked. A specification does not
change; a server that is launched again is launched with the same one. -/

namespace HostDaemon

/-- The value of an engine flag. -/
inductive FlagValue where
  /-- A set of bits. -/
  | mask (bits : UInt32)
  /-- On or off. -/
  | toggle (on : Bool)
deriving Repr, DecidableEq

/-- Flags by name, in ascending order of their names and without two of one name. -/
abbrev FlagTable := List (String × FlagValue)

/-- Set a flag, in place of an earlier value. -/
def FlagTable.insert (name : String) (value : FlagValue) : FlagTable → FlagTable
  | [] => [(name, value)]
  | (other, old) :: table =>
    if name = other then (name, value) :: table
    else if name < other then (name, value) :: (other, old) :: table
    else (other, old) :: FlagTable.insert name value table

/-- Flags whose value is a set of bits. -/
def maskFlags : List String := ["dmflags", "dmflags2", "zadmflags", "compatflags", "zacompatflags"]

/-- Flags that are on or off. -/
def toggleFlags : List String := [
  "dmfarspawn", "callvote_scorelimit", "callvote_fraglimit", "callvote_restart",
  "callvote_randpickup", "callvote_randcaps", "callvote_randmap", "callvote_nextmap",
  "callvote_map", "callvote_forcestart", "callvote_forcespec", "callvote_kick",
  "callvote_coinflip", "vote_specvote", "vote_speccall", "vote_countabs", "unblockplayers",
  "forcerespawn", "allowshowspawns", "allowwidescreen", "allowpwo", "allowredscreen",
  "allowmovebob", "sharekeys", "keepkeys", "weaponstay", "nomonsters", "monstersrespawn",
  "respawnsuper", "itemsrespawn", "infiniteammo", "fragexitswitch", "allowtargetnames", "freelook",
  "forcewater", "doubleammo", "allowjump", "allowexit", "friendlyfire"]

/-- The identifier of a server and the passwords it starts with. -/
structure Credentials where
  /-- The identifier. -/
  id : String
  /-- The password of the remote console. -/
  rconPassword : String
  /-- The password for connecting and for joining the game. -/
  connectPassword : String
deriving Repr, DecidableEq

/-- Characters cut after as many bytes as `size` says; a character is not split but goes to the
    second part. -/
def splitAtByte (size : Nat) : List Char → List Char × List Char
  | [] => ([], [])
  | c :: cs =>
    if c.utf8Size ≤ size then
      let (first, second) := splitAtByte (size - c.utf8Size) cs
      (c :: first, second)
    else ([], c :: cs)

/-- The passwords are the halves of the identifier, the remote console's first; of an odd number
    of bytes the second half has one more. -/
def Credentials.ofId (id : String) : Credentials :=
  let (first, second) := splitAtByte (Text.Utf8.sizeOfChars id.toList / 2) id.toList
  ⟨id, String.ofList first, String.ofList second⟩

/-- The skill of a game that does not say. -/
def defaultSkill : UInt8 := 3

/-- The highest skill. -/
def maxSkill : UInt8 := 4

/-- How to start a server. -/
structure LaunchSpec where
  /-- The account that asked for it. -/
  owner : String
  /-- The level that the account had then. -/
  ownerLevel : AccountLevel
  /-- The port that was asked for. -/
  requestedPort : Option UInt16
  /-- The engine version. -/
  version : Version
  /-- The main game file. -/
  iwad : String
  /-- Other game files. -/
  wads : List WadRef
  /-- Files that players may have or not. -/
  optionalWads : List String
  /-- The maps to play, in order. -/
  maps : List String
  /-- How to play. -/
  gamemode : Option Gamemode
  /-- The skill, where one was asked for. -/
  skill : Option UInt8
  /-- Engine flags. -/
  flags : FlagTable
  /-- One hit kills. -/
  instagib : Bool
  /-- Shotguns alone. -/
  buckshot : Bool
  /-- A configuration file of the engine. -/
  config : Option String
  /-- Are the files that come with the version loaded? -/
  includeData : Bool
  /-- Is the server launched again when it ends on its own? -/
  autoRestart : Bool
  /-- The name that players see, after the common beginning. -/
  hostname : String
  /-- The identifier and the passwords. -/
  credentials : Credentials
  /-- The options of the request. -/
  options : OptionList
deriving Repr, DecidableEq

/-- The skill to play with. -/
def LaunchSpec.skillOrDefault (s : LaunchSpec) : UInt8 := s.skill.getD defaultSkill

end HostDaemon
