import HostDaemon.Number.Decimal

/-! # JSON values

A JSON value as it is written. Objects keep the order of their members and may name one twice, so
that whoever decodes a value can still reject the second one; whole numbers are kept apart from
fractions, since a field that asks for a whole number takes no fraction, not even `7.0`. -/

namespace HostDaemon

/-- A JSON value. -/
inductive Json where
  /-- The value `null`. -/
  | null
  /-- `true` or `false`. -/
  | bool (b : Bool)
  /-- A whole number written with digits alone, between `-2⁶³` and `2⁶⁴ - 1`. -/
  | integer (n : Int)
  /-- Every other number. -/
  | fraction (d : Number.Decimal)
  /-- A string. -/
  | text (s : String)
  /-- An array. -/
  | array (items : List Json)
  /-- An object. -/
  | object (members : List (String × Json))
deriving Repr, Inhabited

namespace Json

/-- The JSON form of a number of 16 bits. -/
def ofUInt16 (n : UInt16) : Json := .integer n.toNat

/-- The JSON form of a number of 32 bits. -/
def ofUInt32 (n : UInt32) : Json := .integer n.toNat

/-- The JSON form of a number of 64 bits. -/
def ofUInt64 (n : UInt64) : Json := .integer n.toNat

/-- The JSON form of a number of 64 bits with a sign. -/
def ofInt64 (n : Int64) : Json := .integer n.toInt

/-- The JSON form of a list of strings. -/
def ofTexts (texts : List String) : Json := .array (texts.map .text)

end Json

end HostDaemon
