/-! # Numerals with a bound

Reading a whole number in decimal that must not exceed a bound, and the machine integers that are
read this way. A plus sign may stand in front; a minus sign, a blank or an empty text is no
number. -/

namespace HostDaemon.Number

/-- The value of a digit from 0 to 9. -/
def digitValue? (c : Char) : Option Nat :=
  if '0' ≤ c ∧ c ≤ '9' then some (c.toNat - 48) else none

/-- The number written by the digits `cs` after the digits of `soFar`. -/
def readDigits? (soFar : Nat) : List Char → Option Nat
  | [] => some soFar
  | c :: cs =>
    match digitValue? c with
    | some d => readDigits? (soFar * 10 + d) cs
    | none => none

/-- The number of a numeral, which may have a plus sign in front and has at least one digit. -/
def readChars? : List Char → Option Nat
  | [] => none
  | '+' :: cs => if cs.isEmpty then none else readDigits? 0 cs
  | cs => readDigits? 0 cs

/-- The number of a numeral that does not exceed `bound`. -/
def read? (bound : Nat) (s : String) : Option Nat :=
  (readChars? s.toList).filter (· ≤ bound)

/-- Read an 8-bit number. -/
def readUInt8? (s : String) : Option UInt8 := (read? 255 s).map UInt8.ofNat

/-- Read a 16-bit number, such as a port. -/
def readUInt16? (s : String) : Option UInt16 := (read? 65535 s).map UInt16.ofNat

/-- Read a 32-bit number. -/
def readUInt32? (s : String) : Option UInt32 := (read? 4294967295 s).map UInt32.ofNat

/-- Read a 64-bit number. -/
def readUInt64? (s : String) : Option UInt64 :=
  (read? 18446744073709551615 s).map UInt64.ofNat

end HostDaemon.Number
