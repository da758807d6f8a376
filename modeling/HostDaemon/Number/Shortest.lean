/-! # Shortest decimals of doubles

The decimal fraction with the fewest digits that reads back as a given double, and its text. A
double is taken apart into a whole number times a power of two; the numbers that round to it form
an interval, and for each count of digits the two neighbours of the double on that decimal grid
are tried. All of it is exact arithmetic on natural numbers. -/

namespace HostDaemon.Number.Shortest

/-- A positive double `mantissa · 2 ^ exponent`. -/
structure Binary where
  /-- The whole number in front. -/
  mantissa : Nat
  /-- The power of two. -/
  exponent : Int
  /-- Is the gap below half as wide as the gap above? -/
  narrowBelow : Bool

/-- The double with these bits, its sign left out; `none` for zero, infinity and no number. -/
def ofBits? (bits : UInt64) : Option Binary :=
  let fraction : Nat := bits.toNat % 0x10000000000000
  let biased : Nat := bits.toNat / 0x10000000000000 % 2048
  if biased = 2047 then none
  else if biased = 0 then
    if fraction = 0 then none else some ⟨fraction, -1074, false⟩
  else some ⟨0x10000000000000 + fraction, (biased : Int) - 1075, fraction = 0 && 1 < biased⟩

/-- A fraction `n / d` of natural numbers, for `n · 2 ^ e`. -/
def scaled (n : Nat) (e : Int) : Nat × Nat :=
  match e with
  | .ofNat e => (n * Nat.pow 2 e, 1)
  | .negSucc e => (n, Nat.pow 2 (e + 1))

/-- How far below one a fraction lies: the least power of ten that lifts it to one or more.
    `fuel` bounds the search. -/
def liftPower (num den : Nat) : (fuel : Nat) → Nat
  | 0 => 0
  | fuel + 1 => if den ≤ num then 0 else liftPower (num * 10) den fuel + 1

/-- The power of ten of the first digit of `num / den`. -/
def leadingPower (num den : Nat) : Int :=
  if den ≤ num then ((Nat.toDigits 10 (num / den)).length : Int) - 1
  else -(liftPower num den 400 : Int)

/-- The multiple of `10 ^ k` next to the double that rounds to it, if there is one: the nearer of
    the neighbour below and the neighbour above. The values are in quarters of the last binary
    place. -/
def onGrid? (b : Binary) (k : Int) : Option Nat :=
  let e := b.exponent - 2
  let value := 4 * b.mantissa
  let low := value - (if b.narrowBelow then 1 else 2)
  let high := value + 2
  -- compare `d · 10 ^ k` with `x · 2 ^ e`, both sides as whole numbers
  let (binNum, binDen) := scaled 1 e
  let (tenNum, tenDen) : Nat × Nat :=
    match k with
    | .ofNat k => (Nat.pow 10 k, 1)
    | .negSucc k => (1, Nat.pow 10 (k + 1))
  let left := fun (d : Nat) => d * tenNum * binDen
  let right := fun (x : Nat) => x * binNum * tenDen
  let d := right value / (tenNum * binDen)
  let inside := fun (d : Nat) =>
    if b.mantissa % 2 = 0 then right low ≤ left d ∧ left d ≤ right high
    else right low < left d ∧ left d < right high
  let below := decide (inside d)
  let above := decide (inside (d + 1))
  if below && above then
    let gapBelow := right value - left d
    let gapAbove := left (d + 1) - right value
    if gapBelow < gapAbove || (gapBelow == gapAbove && d % 2 == 0) then some d else some (d + 1)
  else if below then some d
  else if above then some (d + 1)
  else none

/-- Try grids of more and more digits; `count` digits are tried first and `fuel` bounds the
    number of tries. -/
def search (b : Binary) (lead : Int) (count : Nat) : (fuel : Nat) → Nat × Int
  | 0 => (0, 0)
  | fuel + 1 =>
    let k := lead - (count : Int) + 1
    match onGrid? b k with
    | some d => (d, k)
    | none => search b lead (count + 1) fuel

/-- The fewest digits and the power of ten of the last one. -/
def digits (b : Binary) : Nat × Int :=
  let (num, den) := scaled b.mantissa b.exponent
  search b (leadingPower num den) 1 17

/-- Drop the zeros at the end of a numeral, raising the power of ten. -/
def dropZeros (cs : List Char) (k : Int) : List Char × Int :=
  let zeros := (cs.reverse.takeWhile (· == '0')).length
  (cs.take (cs.length - zeros), k + zeros)

/-- The digits `cs` with the power of ten `k` for the last one, written without an exponent. -/
def positional (cs : List Char) (k : Int) : List Char :=
  match k with
  | .ofNat k => cs ++ List.replicate k '0'
  | .negSucc k =>
    let places := k + 1
    if cs.length ≤ places then
      '0' :: '.' :: (List.replicate (places - cs.length) '0' ++ cs)
    else cs.take (cs.length - places) ++ '.' :: cs.drop (cs.length - places)

/-- The text of a double: the fewest digits that read back, never with an exponent, and without a
    point where there is no fraction. -/
def write (x : Float) : String :=
  let bits := x.toBits
  if x.isNaN then "NaN"
  else
    let sign := if bits.toNat / 0x8000000000000000 = 1 then "-" else ""
    if x.isInf then sign ++ "inf"
    else
      match ofBits? bits with
      | none => sign ++ "0"
      | some b =>
        let (d, k) := digits b
        let (cs, k) := dropZeros (Nat.toDigits 10 d) k
        sign ++ String.ofList (positional cs k)

end HostDaemon.Number.Shortest
