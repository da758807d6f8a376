import HostDaemon.Json.Value
import HostDaemon.Number.Shortest
import HostDaemon.Text.Quoted

/-! # Decoding values

Taking values of one type out of JSON values, and what can be wrong with them. -/

namespace HostDaemon.Wire

/-- Why a value is not what was asked for. -/
inductive DecodeFault where
  /-- A field is missing. -/
  | missingField (name : String)
  /-- A field occurs twice. -/
  | duplicateField (name : String)
  /-- A value has the wrong shape. -/
  | invalidType (found expected : String)
  /-- A value has the right shape and is out of range. -/
  | invalidValue (found expected : String)
  /-- An array has the wrong number of items. -/
  | invalidLength (length : Nat) (expected : String)
  /-- A name is not one of those that are possible. -/
  | unknownVariant (name : String) (possible : List String)
deriving Repr, DecidableEq

/-- Names between backquotes, as a list in words. -/
def oneOf : List String → String
  | [] => "there are no variants"
  | [a] => s!"expected `{a}`"
  | [a, b] => s!"expected `{a}` or `{b}`"
  | names => "expected one of " ++ ", ".intercalate (names.map fun n => s!"`{n}`")

/-- The wording of a fault. -/
def DecodeFault.message : DecodeFault → String
  | .missingField name => s!"missing field `{name}`"
  | .duplicateField name => s!"duplicate field `{name}`"
  | .invalidType found expected => s!"invalid type: {found}, expected {expected}"
  | .invalidValue found expected => s!"invalid value: {found}, expected {expected}"
  | .invalidLength length expected => s!"invalid length {length}, expected {expected}"
  | .unknownVariant name possible => s!"unknown variant `{name}`, {oneOf possible}"

/-- A value in words, as a fault shows it. -/
def describe : Json → String
  | .null => "null"
  | .bool b => s!"boolean `{b}`"
  | .integer n => s!"integer `{n}`"
  | .fraction d =>
    let plain := Number.Shortest.write d.toFloat
    let shown := if plain.toList.contains '.' then plain else plain ++ ".0"
    s!"floating point `{shown}`"
  | .text s => s!"string {Text.Quoted.write s}"
  | .array _ => "sequence"
  | .object _ => "map"

/-! ### Values of one type -/

/-- A string. -/
def text : Json → Except DecodeFault String
  | .text s => .ok s
  | v => .error (.invalidType (describe v) "a string")

/-- A truth value. -/
def bool : Json → Except DecodeFault Bool
  | .bool b => .ok b
  | v => .error (.invalidType (describe v) "a boolean")

/-- A whole number between two bounds. -/
def integer (low high : Int) (expected : String) : Json → Except DecodeFault Int
  | .integer n =>
    if low ≤ n ∧ n ≤ high then .ok n else .error (.invalidValue (describe (.integer n)) expected)
  | v => .error (.invalidType (describe v) expected)

/-- A whole number of 16 bits without sign. -/
def uint16 (v : Json) : Except DecodeFault UInt16 :=
  (integer 0 65535 "u16" v).map fun n => UInt16.ofNat n.toNat

/-- A whole number of 32 bits without sign. -/
def uint32 (v : Json) : Except DecodeFault UInt32 :=
  (integer 0 4294967295 "u32" v).map fun n => UInt32.ofNat n.toNat

/-- A whole number of 64 bits without sign. -/
def uint64 (v : Json) : Except DecodeFault UInt64 :=
  (integer 0 18446744073709551615 "u64" v).map fun n => UInt64.ofNat n.toNat

/-- A count: a whole number of 64 bits without sign. -/
def count (v : Json) : Except DecodeFault UInt64 :=
  (integer 0 18446744073709551615 "usize" v).map fun n => UInt64.ofNat n.toNat

/-- A whole number of 64 bits with a sign. -/
def int64 (v : Json) : Except DecodeFault Int64 :=
  (integer (-9223372036854775808) 9223372036854775807 "i64" v).map Int64.ofInt

/-- A value that may be `null`. -/
def optional {α : Type} (decode : Json → Except DecodeFault α) :
    Json → Except DecodeFault (Option α)
  | .null => .ok none
  | v => (decode v).map some

/-- An array of values of one kind. -/
def list {α : Type} (decode : Json → Except DecodeFault α) : Json → Except DecodeFault (List α)
  | .array items => items.mapM decode
  | v => .error (.invalidType (describe v) "a sequence")

end HostDaemon.Wire
