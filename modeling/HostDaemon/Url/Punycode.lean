import HostDaemon.Text.Basic

/-! # Domain labels in ASCII

How a label of a domain name with characters beyond ASCII is written in ASCII: the ASCII ones come
first, and then, in numerals of base 36 with digits of varying weight, how the others are put in
between. `encodeLabel` writes a label, and `decode?` reads what it has written after the mark
`xn--`. -/

namespace HostDaemon.Url.Punycode

/-- A digit: `a` to `z` and then `0` to `9`. -/
def digit (n : Nat) : Char := if n < 26 then Char.ofNat (97 + n) else Char.ofNat (22 + n)

/-- The threshold of the digit at place `k`. -/
def threshold (k bias : Nat) : Nat := if k ≤ bias then 1 else if bias + 26 ≤ k then 26 else k - bias

/-- Halve the scale until the step is small; `fuel` bounds the number of rounds. -/
def adaptFrom (delta k : Nat) : (fuel : Nat) → Nat
  | 0 => k
  | fuel + 1 =>
    if 455 < delta then adaptFrom (delta / 35) (k + 36) fuel else k + 36 * delta / (delta + 38)

/-- The bias after a step. -/
def adapt (delta count : Nat) (first : Bool) : Nat :=
  let delta := if first then delta / 700 else delta / 2
  adaptFrom (delta + delta / count) 0 64

/-- A number in digits of varying weight, from place `k` on; `fuel` bounds the number of digits. -/
def numeral (q k bias : Nat) : (fuel : Nat) → List Char
  | 0 => []
  | fuel + 1 =>
    let t := threshold k bias
    if q < t then [digit q]
    else digit (t + (q - t) % (36 - t)) :: numeral ((q - t) / (36 - t)) (k + 36) bias fuel

/-- The state of writing one label. -/
structure Progress where
  /-- The step since the last character. -/
  delta : Nat
  /-- The bias of the next numeral. -/
  bias : Nat
  /-- How many characters have been put in. -/
  done : Nat
  /-- What has been written. -/
  output : List Char

/-- Go over the label once and put in the characters `n`. -/
def insertAll (n basic : Nat) (p : Progress) (label : List Nat) : Progress :=
  label.foldl (fun p c =>
    if c < n then { p with delta := p.delta + 1 }
    else if c = n then
      { delta := 0
        bias := adapt p.delta (p.done + 1) (p.done = basic)
        done := p.done + 1
        output := p.output ++ numeral p.delta 36 p.bias 64 }
    else p) p

/-- Put in the characters from `n` on in ascending order; `fuel` bounds the number of rounds. -/
def encodeFrom (label : List Nat) (basic n : Nat) (p : Progress) : (fuel : Nat) → List Char
  | 0 => p.output
  | fuel + 1 =>
    match (label.filter (n ≤ ·)).min? with
    | none => p.output
    | some m =>
      let p := { p with delta := p.delta + (m - n) * (p.done + 1) }
      let p := insertAll m basic p label
      encodeFrom label basic (m + 1) { p with delta := p.delta + 1 } fuel

/-- A label in ASCII. -/
def encodeLabel (label : List Char) : List Char :=
  if label.all (·.toNat < 128) then label
  else
    let basic := label.filter (·.toNat < 128)
    let start := if basic.isEmpty then [] else basic ++ ['-']
    "xn--".toList ++
      encodeFrom (label.map Char.toNat) basic.length 128 ⟨0, 72, basic.length, start⟩
        (label.length + 1)

/-! ### Reading -/

/-- The value of a digit. -/
def digitValue? (c : Char) : Option Nat :=
  if 'a' ≤ c ∧ c ≤ 'z' then some (c.toNat - 97)
  else if '0' ≤ c ∧ c ≤ '9' then some (c.toNat - 22)
  else none

/-- The bound below which all numbers have to stay. -/
def bound : Nat := 0x100000000

/-- The numeral at the front, whose digits weigh `weight` from place `k` on, added to `sum`, and the
    rest. -/
def readNumeral? (bias : Nat) : List Char → (k weight sum : Nat) → Option (Nat × List Char)
  | [], _, _, _ => none
  | c :: cs, k, weight, sum =>
    match digitValue? c with
    | none => none
    | some d =>
      let t := threshold k bias
      let sum := sum + d * weight
      if bound ≤ sum then none
      else if d < t then some (sum, cs)
      else if bound ≤ weight * (36 - t) then none
      else readNumeral? bias cs (k + 36) (weight * (36 - t)) sum

/-- A numeral takes at least one character. -/
theorem length_lt_of_readNumeral? {bias : Nat} {cs rest : List Char} {k weight sum n : Nat}
    (h : readNumeral? bias cs k weight sum = some (n, rest)) : rest.length < cs.length := by
  induction cs generalizing k weight sum with
  | nil => simp [readNumeral?] at h
  | cons c cs ih =>
    unfold readNumeral? at h
    split at h
    · simp at h
    · dsimp only at h
      split at h
      · simp at h
      · split at h
        · simp_all
        · split at h
          · simp at h
          · have := ih h
            simp only [List.length_cons]
            omega

/-- Put in characters as the numerals say: the next one is at least `n`, and one that is `n` comes at
    place `i` or behind it. -/
def insertFrom? (bias n i : Nat) (output : List Char) (cs : List Char) : Option (List Char) :=
  if cs.isEmpty then some output
  else
    match _ : readNumeral? bias cs 36 1 i with
    | none => none
    | some (sum, rest) =>
      let count := output.length + 1
      let m := n + sum / count
      if m.isValidChar then
        insertFrom? (adapt (sum - i) count (i = 0)) m (sum % count + 1)
          (output.insertIdx (sum % count) (Char.ofNat m)) rest
      else none
termination_by cs.length
decreasing_by exact length_lt_of_readNumeral? ‹_›

/-- The ASCII characters of an encoded label, which stand before its last hyphen, and its
    numerals. -/
def splitBasic (cs : List Char) : List Char × List Char :=
  match Text.cutAt? (· == '-') cs.reverse with
  | some (_, []) | none => ([], cs)
  | some (numerals, basic) => (basic.reverse, numerals.reverse)

/-- The label that is written as `cs` after its mark. -/
def decode? (cs : List Char) : Option (List Char) :=
  let (basic, numerals) := splitBasic cs
  insertFrom? 72 128 0 basic numerals

end HostDaemon.Url.Punycode
