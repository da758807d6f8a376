import HostDaemon.Text.Basic

/-! # Paths

A path is the text that names a file, kept as it is written: nothing is normalised when paths are
joined, so what a command line shows is what the configuration says. -/

namespace HostDaemon

/-- A path as it is written. -/
abbrev Path := String

namespace Path

/-- Does the path begin at the root? -/
def isAbsolute (p : Path) : Bool := p.toList.head? == some '/'

/-- `name` seen from the directory `base`. An absolute name takes the place of the whole path, and
    an empty name leaves the directory with a slash at its end. -/
def join (base name : Path) : Path :=
  if isAbsolute name then name
  else if base.isEmpty || base.toList.getLast? == some '/' then base ++ name
  else base ++ "/" ++ name

/-- The parts of a path between its slashes, empty ones included. -/
def parts (p : Path) : List String := (Text.pieces (· == '/') p.toList).map String.ofList

/-- A part that names nothing: the empty one and the single dot. -/
def isVoid (part : String) : Bool := part == "" || part == "."

/-- Parts without the void ones at their end; the first part of a relative path names something
    even where it is a dot. The list has the last part first. -/
def dropVoid (absolute : Bool) : List String → List String
  | [] => []
  | [part] => if absolute || part == "" then [] else [part]
  | part :: more => if isVoid part then dropVoid absolute more else part :: more

/-- The path without its last part, or `none` where there is no part to take away. -/
def parent? (p : Path) : Option Path :=
  let absolute := isAbsolute p
  match dropVoid absolute (parts p).reverse with
  | [] => none
  | _ :: more =>
    match dropVoid absolute more with
    | [] => some (if absolute then "/" else "")
    | kept => some (Text.joinWith "/" kept.reverse)

end Path

end HostDaemon
