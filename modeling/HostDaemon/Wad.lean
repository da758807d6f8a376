import HostDaemon.Text.Basic
import HostDaemon.Text.Blank
import HostDaemon.Text.Lowercase

/-! # Game files

The files a game is made of: one main file, the iwad, and any number of others, the wads. A wad
lies in the directory of wads or in that of iwads. A name given by a user is cleaned before it is
put into a path, so that it cannot leave its directory. -/

namespace HostDaemon

/-- The directory in which a game file lies. -/
inductive WadLocation where
  /-- The directory of wads. -/
  | wadDir
  /-- The directory of iwads. -/
  | iwadDir
deriving Repr, DecidableEq

/-- The name of a location. -/
def WadLocation.name : WadLocation → String
  | .wadDir => "wad_dir"
  | .iwadDir => "iwad_dir"

/-- A game file. -/
structure WadRef where
  /-- The name of the file. -/
  name : String
  /-- Where it lies. -/
  location : WadLocation
deriving Repr, DecidableEq

namespace WadRef

/-- A file in the directory of wads. -/
def wad (name : String) : WadRef := ⟨name, .wadDir⟩

/-- The files whose names have not occurred before, where `seen` holds the names before the
    list. -/
def dedupFrom (seen : List String) : List WadRef → List WadRef
  | [] => []
  | w :: wads =>
    if w.name ∈ seen then dedupFrom seen wads else w :: dedupFrom (w.name :: seen) wads

/-- The files in order, of each name the first alone. -/
def dedup (wads : List WadRef) : List WadRef := dedupFrom [] wads

end WadRef

/-- A name without slashes and backslashes, and then without blanks at its ends. -/
def cleanFileName (name : String) : String :=
  Text.trim (String.ofList (name.toList.filter fun c => c ≠ '/' ∧ c ≠ '\\'))

/-- The main game files with the words that ask for them. The file's own name is always one. -/
def iwadAliases : List (String × List String) := [
  ("doom2.wad", ["doom2"]),
  ("doom.wad", ["doom"]),
  ("tnt.wad", ["tnt"]),
  ("plutonia.wad", ["plutonia"]),
  ("heretic.wad", ["heretic"]),
  ("hexen.wad", ["hexen"]),
  ("strife1.wad", ["strife1"]),
  ("doom1.wad", ["sharewaredoom", "doom1"]),
  ("harm1.wad", ["harmony", "harm1", "harmony.wad"]),
  ("hacx.wad", ["hacx"]),
  ("chex3.wad", ["chex3"]),
  ("megagame.wad", ["megaman", "megagame"]),
  ("freedm.wad", ["freedm"]),
  ("freedoom2.wad", ["freedoom", "freedoom.wad", "freedoom2"]),
  ("freedoom1.wad", ["freedoom1"]),
  ("nerve.wad", ["nerve"]),
  ("rott_tc_full.pk3", ["rott", "rotttc", "rotttcfull", "rott_tc", "rott_tc_full"])]

/-- The main game file that a word asks for, blanks around it and the case of its letters
    ignored. -/
def iwadOfAlias? (word : String) : Option String :=
  let word := Text.lowercase (Text.trim word)
  (iwadAliases.find? fun (file, words) => file = word || words.contains word).map (·.1)

end HostDaemon
