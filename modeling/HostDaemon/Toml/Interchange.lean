import HostDaemon.Json.Access
import HostDaemon.Toml.Value

/-! # JSON as TOML

The sections of a configuration can also be given as JSON. TOML has no `null`: a member that is
`null` counts as left out. -/

namespace HostDaemon.Toml

mutual

/-- The TOML value that says the same as a JSON value. -/
def ofJson : Json → Toml
  | .null => .text ""
  | .bool b => .boolean b
  | .integer n => .integer n
  | .fraction d => .fraction d.toFloat
  | .text s => .text s
  | .array vs => .array (ofItems vs)
  | .object ms => .table (ofMembers ms)

/-- The items of an array. -/
def ofItems : List Json → List Toml
  | [] => []
  | v :: vs => ofJson v :: ofItems vs

/-- The entries of a table. -/
def ofMembers : List (String × Json) → List (String × Toml)
  | [] => []
  | (_, .null) :: ms => ofMembers ms
  | (name, v) :: ms => (name, ofJson v) :: ofMembers ms

end

/-- The section with the members of an object, and defaults for those it leaves out. -/
def sectionOf (j : Json) (defaults : List (String × Json)) : Toml :=
  let given := j.members
  ofJson (.object (given ++ defaults.filter fun (name, _) => (given.lookup name).isNone))

end HostDaemon.Toml
