/-! # Cutting and comparing text

Cutting a text at a character, cutting it into lines, replacing, and comparing without regard
to the case of the letters A to Z. The work is done on lists of characters. -/

namespace HostDaemon.Text

/-! ### Cutting -/

/-- Cut at the first character that satisfies `p`: what stands before it and what follows it,
    or `none` where no character does. -/
def cutAt? (p : Char → Bool) : List Char → Option (List Char × List Char)
  | [] => none
  | c :: cs =>
    if p c then some ([], cs)
    else (cutAt? p cs).map fun (before, after) => (c :: before, after)

/-- Cut into the pieces between the characters that satisfy `p`. There is always one piece more
    than there are such characters. -/
def pieces (p : Char → Bool) : List Char → List (List Char)
  | [] => [[]]
  | c :: cs =>
    if p c then [] :: pieces p cs
    else
      match pieces p cs with
      | [] => [[c]]
      | first :: others => (c :: first) :: others

/-- What is left of `cs` after `start`, where `cs` begins with it. -/
def after? : (start cs : List Char) → Option (List Char)
  | [], cs => some cs
  | _ :: _, [] => none
  | a :: start, c :: cs => if a = c then after? start cs else none

/-- Does `needle` stand anywhere in the text? -/
def occurs (needle : List Char) : List Char → Bool
  | [] => needle.isEmpty
  | c :: cs => (after? needle (c :: cs)).isSome || occurs needle cs

/-- Cut at the first place where `mark` stands. -/
def cutAtWord? (mark : List Char) : List Char → Option (List Char × List Char)
  | [] => (after? mark []).map fun rest => ([], rest)
  | c :: cs =>
    match after? mark (c :: cs) with
    | some rest => some ([], rest)
    | none => (cutAtWord? mark cs).map fun (before, rest) => (c :: before, rest)

/-- Replace `mark` by `new` wherever it stands, left to right and without overlaps. `fuel` is a
    bound on the number of characters. -/
def replaceWithin (mark new : List Char) : (fuel : Nat) → List Char → List Char
  | 0, cs => cs
  | _ + 1, [] => []
  | fuel + 1, c :: cs =>
    match after? mark (c :: cs) with
    | some rest => new ++ replaceWithin mark new fuel rest
    | none => c :: replaceWithin mark new fuel cs

/-- Replace the non-empty `mark` by `new` wherever it stands, left to right and without
    overlaps. -/
def replace (mark new : String) (s : String) : String :=
  String.ofList (replaceWithin mark.toList new.toList s.toList.length s.toList)

/-- Does `s` begin with `start`? -/
def startsWith (s start : String) : Bool := (after? start.toList s.toList).isSome

/-! ### Lines -/

/-- A line without the carriage return at its end, where it has one. -/
def dropReturn (line : List Char) : List Char :=
  if line.getLast? = some '\r' then line.dropLast else line

/-- The lines of a text. A line feed ends a line; what follows the last one is a line only where
    it is not empty. A carriage return is dropped where a line feed follows it. -/
def linesOf (cs : List Char) : List (List Char) :=
  let all := pieces (· == '\n') cs
  all.dropLast.map dropReturn ++
    match all.getLast? with
    | none | some [] => []
    | some last => [last]

/-- The lines of a text. -/
def lines (s : String) : List String := (linesOf s.toList).map String.ofList

/-! ### Case of the letters A to Z -/

/-- The lowercase form of a letter from A to Z; every other character is its own. -/
def asciiLowerChar (c : Char) : Char :=
  if 'A' ≤ c ∧ c ≤ 'Z' then Char.ofNat (c.toNat + 32) else c

/-- A text with the letters A to Z in lowercase. -/
def asciiLower (s : String) : String := String.ofList (s.toList.map asciiLowerChar)

/-- Are two texts equal when the case of the letters A to Z is ignored? -/
def sameLetters (a b : String) : Bool :=
  a.toList.map asciiLowerChar == b.toList.map asciiLowerChar

/-! ### Putting together -/

/-- The texts in order with `mark` between two neighbours. -/
def joinWith (mark : String) : List String → String
  | [] => ""
  | [s] => s
  | s :: more => s ++ mark ++ joinWith mark more

/-- A decimal numeral with at least `width` digits, zeros in front. -/
def padNumber (width n : Nat) : String :=
  let digits := Nat.toDigits 10 n
  String.ofList (List.replicate (width - digits.length) '0' ++ digits)

end HostDaemon.Text
