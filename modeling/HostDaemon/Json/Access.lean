import HostDaemon.Json.Value

/-! # Looking into JSON values

The parts of a JSON value whose shape is known only roughly: what is missing or of another kind is
passed over. -/

namespace HostDaemon.Json

/-- The members of an object. -/
def members : Json → List (String × Json)
  | .object ms => ms
  | _ => []

/-- The items of an array. -/
def items : Json → List Json
  | .array vs => vs
  | _ => []

/-- The value of a member, `null` where there is none. -/
def get (j : Json) (name : String) : Json := (j.members.lookup name).getD .null

/-- A string. -/
def text? : Json → Option String
  | .text s => some s
  | _ => none

/-- A whole number. -/
def int? : Json → Option Int
  | .integer n => some n
  | _ => none

/-- Is the value `true`? -/
def isTrue : Json → Bool
  | .bool b => b
  | _ => false

/-- Is the value `null`? -/
def isNull : Json → Bool
  | .null => true
  | _ => false

/-- A string, empty where the value is none. -/
def asText (j : Json) : String := j.text?.getD ""

/-- A whole number, zero where the value is none. -/
def asInt (j : Json) : Int := j.int?.getD 0

mutual

/-- Change every string of a value, names of members included. -/
def mapTexts (f : String → String) : Json → Json
  | .text s => .text (f s)
  | .array vs => .array (mapItems f vs)
  | .object ms => .object (mapMembers f ms)
  | v => v

/-- Change every string of some values. -/
def mapItems (f : String → String) : List Json → List Json
  | [] => []
  | v :: vs => mapTexts f v :: mapItems f vs

/-- Change every string of some members. -/
def mapMembers (f : String → String) : List (String × Json) → List (String × Json)
  | [] => []
  | (name, v) :: ms => (f name, mapTexts f v) :: mapMembers f ms

end

end HostDaemon.Json
