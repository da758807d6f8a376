import HostDaemon.Json.Value

/-! # Reports

The JSON form of what the daemon holds, for whoever wants to look at it from outside. -/

namespace HostDaemon.Json

/-- The value, or `null` where there is none. -/
def orNull {α : Type} (report : α → Json) : Option α → Json
  | some a => report a
  | none => .null

/-- A natural number. -/
def ofNat (n : Nat) : Json := .integer n

/-- The lowercase hexadecimal digits of a number, with zeros in front up to `width` digits. -/
def hexDigits (width n : Nat) : String :=
  let digits := Nat.toDigits 16 n
  String.ofList (List.replicate (width - digits.length) '0' ++ digits)

/-- A number with a fraction by its 64 bits, of which a decimal text could lose some. -/
def ofFloatBits (x : Float) : Json :=
  .text (if x.isNaN then "nan" else hexDigits 16 x.toBits.toNat)

end HostDaemon.Json
