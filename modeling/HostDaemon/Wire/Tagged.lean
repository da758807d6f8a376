import HostDaemon.Json.Reader
import HostDaemon.Text.Basic
import HostDaemon.Wire.Record

/-! # Tagged values

A message is a record with one more field, `type`, that says which message it is. As an array it
begins with that name and goes on with the fields. -/

namespace HostDaemon.Wire

/-- The field that names the message. -/
def tagName : String := "type"

/-- The name of a message and the value that holds its fields. -/
structure Tagged where
  /-- The name. -/
  tag : String
  /-- An object without the name, or an array with the items after it. -/
  content : Json

namespace Tagged

/-- The JSON form of a message with these fields. -/
def encode (tag : String) (fields : List (String × Json)) : Json :=
  .object ((tagName, .text tag) :: fields)

/-- Take a tag out of its value. -/
def tagOf (possible : List String) : Json → Except DecodeFault String
  | .text s => if s ∈ possible then .ok s else .error (.unknownVariant s possible)
  | v => .error (.invalidType (describe v) "variant identifier")

/-- The tagged value that a JSON value holds. `what` names the kind of message for a fault and
    `possible` are its names. -/
def ofJson (what : String) (possible : List String) (v : Json) : Except DecodeFault Tagged :=
  match v with
  | .object members =>
    match members.filter (·.1 = tagName) with
    | [] => .error (.missingField tagName)
    | (_, tag) :: more =>
      match tagOf possible tag with
      | .error fault => .error fault
      | .ok tag =>
        if more.isEmpty then .ok ⟨tag, .object (members.filter (·.1 ≠ tagName))⟩
        else .error (.duplicateField tagName)
  | .array [] => .error (.missingField tagName)
  | .array (tag :: items) => (tagOf possible tag).map fun tag => ⟨tag, .array items⟩
  | v => .error (.invalidType (describe v) s!"internally tagged enum {what}")

/-- A message without fields: an object may hold anything, and an array no more items. -/
def withoutFields {α : Type} (a : α) (t : Tagged) : Except DecodeFault α :=
  match t.content with
  | .array items =>
    match Record.itemFault? 0 [] items with
    | some fault => .error fault
    | none => .ok a
  | _ => .ok a

/-! ### Faults of the name

A name that is wrong is seen as soon as it is read, before what follows it. -/

/-- The fault of a name that stands at the front of a text, and what is left of the text where it
    is seen. An array or an object is not read for that. -/
def faultAtFront? (possible : List String) (cs : List Char) :
    Option (DecodeFault × List Char) :=
  let cs := Json.skipSpace cs
  match cs with
  | '[' :: _ => some (.invalidType (describe (.array [])) "variant identifier", cs)
  | c :: _ =>
    if c = '\x7b' then some (.invalidType (describe (.object [])) "variant identifier", cs)
    else
      match Json.readValue 0 (3 * cs.length + 3) cs with
      | .error _ => none
      | .ok (v, rest) =>
        match tagOf possible v with
        | .error fault => some (fault, rest)
        | .ok _ => none
  | [] => none

/-- The fault of the name among the members at the front of a text, where `seen` says that there
    was one before. -/
def faultInMembers? (possible : List String) : (fuel : Nat) → (seen : Bool) → List Char →
    Option (DecodeFault × List Char)
  | 0, _, _ => none
  | fuel + 1, seen, cs =>
    match Text.after? ['"'] (Json.skipSpace cs) with
    | none => none
    | some cs =>
      match Json.stringBody cs with
      | .error _ => none
      | .ok (name, rest) =>
        let rest := Json.skipSpace rest
        if name = tagName ∧ seen then some (.duplicateField tagName, rest)
        else
          match Text.after? [':'] rest with
          | none => none
          | some rest =>
            match if name = tagName then faultAtFront? possible rest else none with
            | some found => some found
            | none =>
              match Json.readValue (Json.maxDepth - 1) (3 * rest.length + 3) rest with
              | .error _ => none
              | .ok (_, rest) =>
                match Text.after? [','] (Json.skipSpace rest) with
                | none => none
                | some rest => faultInMembers? possible fuel (seen || name = tagName) rest

/-- The fault of the name of the tagged value at the front of a text, and what is left of the text
    where it is seen. -/
def nameFault? (possible : List String) (cs : List Char) : Option (DecodeFault × List Char) :=
  match Json.skipSpace cs with
  | '[' :: rest => faultAtFront? possible rest
  | c :: rest => if c = '\x7b' then faultInMembers? possible rest.length false rest else none
  | [] => none

end Tagged

end HostDaemon.Wire
