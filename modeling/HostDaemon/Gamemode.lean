import HostDaemon.Text.Blank
import HostDaemon.Text.Lowercase

/-! # Game modes

The modes a server can be played in, the words by which requests ask for them, and the console
variables that turn them on. -/

namespace HostDaemon

/-- How a server is played. -/
inductive Gamemode where
  | deathmatch
  | ctf
  | teamplay
  | terminator
  | possession
  | teamPossession
  | lastManStanding
  | teamLms
  | skulltag
  | duel
  | teamgame
  | domination
  | cooperative
  | survival
  | invasion
  | oneFlagCtf
deriving Repr, DecidableEq

namespace Gamemode

/-- All modes. -/
def all : List Gamemode :=
  [deathmatch, ctf, teamplay, terminator, possession, teamPossession, lastManStanding, teamLms,
    skulltag, duel, teamgame, domination, cooperative, survival, invasion, oneFlagCtf]

/-- The name under which a mode is stored. -/
def name : Gamemode → String
  | deathmatch => "deathmatch"
  | ctf => "ctf"
  | teamplay => "teamplay"
  | terminator => "terminator"
  | possession => "possession"
  | teamPossession => "team_possession"
  | lastManStanding => "last_man_standing"
  | teamLms => "team_lms"
  | skulltag => "skulltag"
  | duel => "duel"
  | teamgame => "teamgame"
  | domination => "domination"
  | cooperative => "cooperative"
  | survival => "survival"
  | invasion => "invasion"
  | oneFlagCtf => "one_flag_ctf"

/-- The console variable that turns a mode on. -/
def cvar : Gamemode → String
  | teamPossession => "teampossession"
  | lastManStanding => "lastmanstanding"
  | teamLms => "teamlms"
  | oneFlagCtf => "oneflagctf"
  | mode => mode.name

/-- The words that ask for a mode. -/
def aliases : Gamemode → List String
  | deathmatch => ["deathmatch", "dm", "ffa"]
  | ctf => ["ctf", "capturetheflag"]
  | teamplay => ["tdm", "teamdm", "tdeathmatch", "teamdeathmatch", "teamplay"]
  | terminator => ["term", "terminator"]
  | possession => ["pos", "possession"]
  | teamPossession => ["tpos", "teampossession"]
  | lastManStanding => ["lms", "lastmanstanding"]
  | teamLms => ["tlms", "teamlms", "teamlastmanstanding"]
  | skulltag => ["skulltag", "st"]
  | duel => ["duel"]
  | teamgame => ["teamgame"]
  | domination => ["domination", "dom"]
  | cooperative => ["coop", "co-op", "cooperative"]
  | survival => ["survival"]
  | invasion => ["inv", "invasion"]
  | oneFlagCtf => ["ofctf", "oneflagctf"]

/-- The mode that a word asks for, blanks around it and the case of its letters ignored. -/
def ofAlias? (word : String) : Option Gamemode :=
  let word := Text.lowercase (Text.trim word)
  all.find? fun mode => mode.aliases.contains word

end Gamemode

end HostDaemon
