import HostDaemon.Number.Hexadecimal
import HostDaemon.Text.Basic

/-! # Sets of characters

A property of characters is a list of ranges of code points. Long lists are written as lines of
hexadecimal numbers with blanks between them: `A-B` stands for the code points from `A` to `B`, and
`A` for itself alone. -/

namespace HostDaemon.Text

/-- Ranges of code points, each given by its first and its last one. -/
abbrev CodeRanges := List (Nat × Nat)

namespace CodeRanges

/-- Does one of the ranges hold the code point? -/
def holds (ranges : CodeRanges) (n : Nat) : Bool :=
  ranges.any fun (first, last) => first ≤ n && n ≤ last

/-- Does one of the ranges hold the character? -/
def holdsChar (ranges : CodeRanges) (c : Char) : Bool := ranges.holds c.toNat

/-- The range that a word stands for. -/
def ofWord (word : List Char) : Nat × Nat :=
  match cutAt? (· == '-') word with
  | some (first, last) => (Number.readHex first, Number.readHex last)
  | none => (Number.readHex word, Number.readHex word)

/-- The ranges that lines of words stand for. -/
def ofLines (lines : List String) : CodeRanges :=
  lines.flatMap fun line => (pieces (· == ' ') line.toList).map ofWord

end CodeRanges

end HostDaemon.Text
