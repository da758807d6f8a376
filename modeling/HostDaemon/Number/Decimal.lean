import HostDaemon.Number.Bounded

/-! # Decimal fractions

Numerals with a point and a power of ten, kept exactly, and the nearest binary fraction of one.
Keeping the exact value lets a reader decide later whether a numeral was meant as a whole number,
and lets every step before the last one be reasoned about. -/

namespace HostDaemon.Number

/-- The number `± digits · 10 ^ exponent`. -/
structure Decimal where
  /-- Is there a minus sign? Zero can have one. -/
  negative : Bool
  /-- All digits of the numeral as one whole number. -/
  digits : Nat
  /-- The power of ten of the last digit. -/
  exponent : Int
deriving Repr, DecidableEq

namespace Decimal

/-- The nearest double. Numerals far beyond the largest double are infinite and those far below
    the least are zero, which is decided from the number of digits alone. -/
def toFloat (d : Decimal) : Float :=
  let size : Int := (Nat.toDigits 10 d.digits).length + d.exponent
  let magnitude : Float :=
    if d.digits = 0 ∨ size < -400 then 0.0
    else if 400 < size then 1.0 / 0.0
    else
      match d.exponent with
      | .ofNat e => Float.ofScientific d.digits false e
      | .negSucc e => Float.ofScientific d.digits true (e + 1)
  if d.negative then -magnitude else magnitude

/-- Does the nearest double exist? -/
def isFinite (d : Decimal) : Bool := d.toFloat.isFinite

end Decimal

/-- The leading digits from 0 to 9 and the rest. -/
def spanDigits (cs : List Char) : List Char × List Char :=
  (cs.takeWhile (digitValue? · |>.isSome), cs.dropWhile (digitValue? · |>.isSome))

/-- The value of some digits; other characters count as zero. -/
def digitsValue (cs : List Char) : Nat :=
  cs.foldl (fun n c => n * 10 + (digitValue? c).getD 0) 0

/-- A power of ten after its letter: a sign that may be missing and at least one digit. -/
def readPower? : List Char → Option Int
  | '-' :: cs => if cs.isEmpty then none else (readDigits? 0 cs).map fun n => -(n : Int)
  | '+' :: cs => if cs.isEmpty then none else (readDigits? 0 cs).map (·)
  | cs => if cs.isEmpty then none else (readDigits? 0 cs).map (·)

/-- A numeral without its sign: digits, a point that may stand anywhere among them, and a power
    of ten that may be missing. -/
def readUnsigned? (negative : Bool) (cs : List Char) : Option Decimal := do
  let (whole, rest) := spanDigits cs
  let (fraction, rest) :=
    match rest with
    | '.' :: rest => spanDigits rest
    | rest => ([], rest)
  if whole.isEmpty && fraction.isEmpty then none
  let digits := digitsValue (whole ++ fraction)
  let shift : Int := -(fraction.length : Int)
  match rest with
  | [] => some ⟨negative, digits, shift⟩
  | c :: power =>
    if c = 'e' ∨ c = 'E' then (readPower? power).map fun p => ⟨negative, digits, shift + p⟩
    else none

/-- The letters of a word in lowercase. -/
private def lowerWord (cs : List Char) : String :=
  String.ofList (cs.map fun c => if 'A' ≤ c ∧ c ≤ 'Z' then Char.ofNat (c.toNat + 32) else c)

/-- Read a double: a decimal fraction, or a name of infinity or of the value that is no number,
    in any case of letters, each with a sign that may be missing. -/
def readFloat? (s : String) : Option Float :=
  let (negative, cs) :=
    match s.toList with
    | '-' :: cs => (true, cs)
    | '+' :: cs => (false, cs)
    | cs => (false, cs)
  match lowerWord cs with
  | "inf" | "infinity" => some (if negative then -(1.0 / 0.0) else 1.0 / 0.0)
  | "nan" => some (0.0 / 0.0)
  | _ => (readUnsigned? negative cs).map Decimal.toFloat

end HostDaemon.Number
