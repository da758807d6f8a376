import HostDaemon.Text.Composition.Table

/-! # Composed text

The same text can be written with letters and marks apart or with characters that stand for both.
`compose` gives the one form in which marks are in order and as many of them as possible are part of
the character before them, the normalization form C of the Unicode standard. -/

namespace HostDaemon.Text

/-- The combining class of a character; it is zero for all but marks. -/
def combiningClass (c : Char) : Nat :=
  if c.toNat < 0x300 then 0
  else
    match combiningClasses.find? fun (_, ranges) => ranges.holdsChar c with
    | some (n, _) => n
    | none => 0

/-! ### Hangul syllables

A syllable is counted by its first consonant, its vowel and its last consonant, which may be
missing. -/

/-- The parts of a syllable, for a code point `n` above the first syllable. -/
def hangulSplit (n : Nat) : List Char :=
  let first := Char.ofNat (0x1100 + n / 588)
  let vowel := Char.ofNat (0x1161 + n % 588 / 28)
  if n % 28 = 0 then [first, vowel] else [first, vowel, Char.ofNat (0x11A7 + n % 28)]

/-- The syllable of two parts: a consonant and a vowel, or a syllable without a last consonant and
    one. -/
def hangulJoin? (a b : Char) : Option Char :=
  let first := a.toNat
  let second := b.toNat
  if 0x1100 ≤ first ∧ first ≤ 0x1112 ∧ 0x1161 ≤ second ∧ second ≤ 0x1175 then
    some (Char.ofNat (0xAC00 + ((first - 0x1100) * 21 + (second - 0x1161)) * 28))
  else if 0xAC00 ≤ first ∧ first ≤ 0xD7A3 ∧ (first - 0xAC00) % 28 = 0 ∧
      0x11A8 ≤ second ∧ second ≤ 0x11C2 then
    some (Char.ofNat (first + (second - 0x11A7)))
  else none

/-! ### Taking apart -/

/-- A character taken apart; `fuel` bounds how often a first part is taken apart again. -/
def decomposeUpTo : (fuel : Nat) → Char → List Char
  | 0, c => [c]
  | fuel + 1, c =>
    if 0xAC00 ≤ c.toNat ∧ c.toNat ≤ 0xD7A3 then hangulSplit (c.toNat - 0xAC00)
    else
      match composites.find? (·.whole == c.toNat) with
      | some p =>
        decomposeUpTo fuel (Char.ofNat p.first) ++ decomposeUpTo fuel (Char.ofNat p.second)
      | none => [c]

/-- A character taken apart. No character has more than four parts in a row. -/
def decompose (c : Char) : List Char := if c.toNat < 0xC0 then [c] else decomposeUpTo 4 c

/-- Put a character before others: a mark goes behind the marks of lower classes. -/
def insertMark (c : Char) : List Char → List Char
  | [] => [c]
  | d :: cs =>
    if 0 < combiningClass d ∧ combiningClass d < combiningClass c then d :: insertMark c cs
    else c :: d :: cs

/-- The characters with the marks on each in the order of their classes; marks of one class keep
    their order. -/
def orderMarks : List Char → List Char
  | [] => []
  | c :: cs => insertMark c (orderMarks cs)

/-! ### Putting together -/

/-- The character that is the same as two. -/
def join? (a b : Char) : Option Char :=
  match hangulJoin? a b with
  | some c => some c
  | none =>
    (composites.find? fun p => p.first == a.toNat && p.second == b.toNat).map
      (Char.ofNat ·.whole)

/-- Put marks together with the character `base` before them. `marks` holds those that have stayed
    apart, last one first. A mark reaches the base over marks of lower classes alone. -/
def composeAfter (base : Char) (marks : List Char) : List Char → List Char
  | [] => base :: marks.reverse
  | c :: cs =>
    let reaches := marks.all fun m => combiningClass m < combiningClass c
    match if reaches then join? base c else none with
    | some whole => composeAfter whole marks cs
    | none =>
      if combiningClass c = 0 then base :: marks.reverse ++ composeAfter c [] cs
      else composeAfter base (c :: marks) cs

/-- Put marks together with the characters before them; marks at the very front stay as they
    are. -/
def composeMarks : List Char → List Char
  | [] => []
  | c :: cs => if combiningClass c = 0 then composeAfter c [] cs else c :: composeMarks cs

/-- The composed form of a text. -/
def compose (cs : List Char) : List Char := composeMarks (orderMarks (cs.flatMap decompose))

end HostDaemon.Text
