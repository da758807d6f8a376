import HostDaemon.Number.Decimal
import HostDaemon.Number.Hexadecimal
import HostDaemon.Text.Basic
import HostDaemon.Toml.Value

/-! # TOML strings, numbers and dates

The values that have no parts. Strings are read up to their closing quotes; every other
value is a word without blanks, whose form decides what it is. -/

namespace HostDaemon.Toml

/-- Is the character a control other than the tab? -/
def isControl (c : Char) : Bool := (c.toNat < 0x20 && c != '\t') || c.toNat == 0x7F

/-- The rest after a line break. -/
def lineBreak? : List Char → Option (List Char)
  | '\n' :: cs => some cs
  | '\r' :: '\n' :: cs => some cs
  | _ => none

/-! ### Strings -/

/-- The character with a code of `count` hexadecimal digits. -/
def hexChar (count : Nat) (cs : List Char) : Option (Char × List Char) := do
  if cs.length < count then none
  let n ← (cs.take count).foldlM (fun n c => (Number.hexDigit? c).map fun d => n * 16 + d) 0
  if h : n.isValidChar then return (Char.ofNatAux n h, cs.drop count) else none

/-- The character of an escape after its backslash. -/
def escape : List Char → Option (Char × List Char)
  | [] => none
  | c :: cs =>
    if c = 'b' then some ('\x08', cs)
    else if c = 't' then some ('\t', cs)
    else if c = 'n' then some ('\n', cs)
    else if c = 'f' then some ('\x0c', cs)
    else if c = 'r' then some ('\r', cs)
    else if c = 'e' then some ('\x1b', cs)
    else if c = '"' then some ('"', cs)
    else if c = '\\' then some ('\\', cs)
    else if c = 'x' then hexChar 2 cs
    else if c = 'u' then hexChar 4 cs
    else if c = 'U' then hexChar 8 cs
    else none

/-- A string on one line after its opening quote; `fuel` bounds its length. -/
def basicString : (fuel : Nat) → List Char → Option (List Char × List Char)
  | 0, _ | _ + 1, [] => none
  | fuel + 1, c :: cs =>
    if c = '"' then some ([], cs)
    else if c = '\\' then do
      let (d, rest) ← escape cs
      let (more, rest) ← basicString fuel rest
      return (d :: more, rest)
    else if isControl c then none
    else do
      let (more, rest) ← basicString fuel cs
      return (c :: more, rest)

/-- A string without escapes on one line after its opening quote. -/
def literalString : List Char → Option (List Char × List Char)
  | [] => none
  | c :: cs =>
    if c = '\'' then some ([], cs)
    else if isControl c then none
    else do
      let (more, rest) ← literalString cs
      return (c :: more, rest)

/-- The end of a string over several lines, where the text begins with three quotes: two more may
    belong to the string. -/
def closeQuotes? (quote : Char) (cs : List Char) : Option (List Char × List Char) :=
  let run := (cs.takeWhile (· == quote)).length
  if run < 3 then none
  else
    let kept := min (run - 3) 2
    some (List.replicate kept quote, cs.drop (kept + 3))

/-- The text after a backslash at the end of a line: all blanks and line breaks are dropped, and
    there has to be a line break among the first of them. -/
def joinLines? (cs : List Char) : Option (List Char) := do
  let rest ← lineBreak? (cs.dropWhile fun c => c == ' ' || c == '\t')
  return rest.dropWhile fun c => c == ' ' || c == '\t' || c == '\n' || c == '\r'

/-- A string over several lines after its opening quotes; `fuel` bounds its length. -/
def blockString (quote : Char) : (fuel : Nat) → List Char → Option (List Char × List Char)
  | 0, _ | _ + 1, [] => none
  | fuel + 1, c :: cs =>
    match closeQuotes? quote (c :: cs) with
    | some found => some found
    | none =>
      match lineBreak? (c :: cs) with
      | some rest => do
        let (more, rest) ← blockString quote fuel rest
        return ('\n' :: more, rest)
      | none =>
        if c = '\\' ∧ quote = '"' then
          match joinLines? cs with
          | some rest => blockString quote fuel rest
          | none => do
            let (d, rest) ← escape cs
            let (more, rest) ← blockString quote fuel rest
            return (d :: more, rest)
        else if isControl c then none
        else do
          let (more, rest) ← blockString quote fuel cs
          return (c :: more, rest)

/-- A string of any kind, from its opening quote on. -/
def quotedString (cs : List Char) : Option (String × List Char) :=
  let fuel := cs.length
  let found : Option (List Char × List Char) :=
    match cs with
    | '"' :: '"' :: '"' :: rest => blockString '"' fuel ((lineBreak? rest).getD rest)
    | '\'' :: '\'' :: '\'' :: rest => blockString '\'' fuel ((lineBreak? rest).getD rest)
    | '"' :: rest => basicString fuel rest
    | '\'' :: rest => literalString rest
    | _ => none
  found.map fun (s, rest) => (String.ofList s, rest)

/-! ### Numbers -/

/-- Digits with single underscores between them: the digits alone, where `isDigit` holds of each
    and there is at least one. -/
def plainDigits? (isDigit : Char → Bool) (cs : List Char) : Option (List Char) :=
  let groups := Text.pieces (· == '_') cs
  if groups.all fun g => !g.isEmpty && g.all isDigit then some (cs.filter (· ≠ '_')) else none

/-- Is the character a digit from 0 to 9? -/
def isDigit (c : Char) : Bool := '0' ≤ c && c ≤ '9'

/-- The digits of a whole number in decimal: no zero stands in front of another digit. -/
def wholeDigits? (cs : List Char) : Option (List Char) :=
  match cs with
  | '0' :: _ :: _ => none
  | cs => plainDigits? isDigit cs

/-- A number in another base after its mark. -/
def inBase? (base : Nat) (cs : List Char) : Option Nat := do
  let digits ← plainDigits? (fun c => ((Number.hexDigit? c).getD base) < base) cs
  return digits.foldl (fun n c => n * base + (Number.hexDigit? c).getD 0) 0

/-- The sign of a word, where it has one, and the rest. -/
def signed : List Char → Option Bool × List Char
  | '+' :: cs => (some false, cs)
  | '-' :: cs => (some true, cs)
  | cs => (none, cs)

/-- A whole number. -/
def integerWord? (word : List Char) : Option Toml :=
  let inRange := fun (n : Int) =>
    if -0x8000000000000000 ≤ n ∧ n < 0x10000000000000000 then some (Toml.integer n) else none
  match word with
  | '0' :: 'x' :: cs => (inBase? 16 cs).bind fun n => inRange n
  | '0' :: 'o' :: cs => (inBase? 8 cs).bind fun n => inRange n
  | '0' :: 'b' :: cs => (inBase? 2 cs).bind fun n => inRange n
  | word => do
    let (sign, cs) := signed word
    let digits ← wholeDigits? cs
    let n : Int := Number.digitsValue digits
    inRange (if sign = some true then -n else n)

/-- The power of ten of a fraction after its letter. -/
def powerWord? (cs : List Char) : Option Int := do
  let (sign, cs) := signed cs
  let digits ← plainDigits? isDigit cs
  let n : Int := Number.digitsValue digits
  return if sign = some true then -n else n

/-- A fraction. -/
def fractionWord? (word : List Char) : Option Toml := do
  let (sign, cs) := signed word
  let negative := sign = some true
  if cs = ['i', 'n', 'f'] then
    return .fraction (if negative then -(1.0 / 0.0) else 1.0 / 0.0)
  if cs = ['n', 'a', 'n'] then return .fraction (0.0 / 0.0)
  let (mantissa, power) ←
    match Text.cutAt? (fun c => c == 'e' || c == 'E') cs with
    | some (mantissa, power) => (powerWord? power).map fun p => (mantissa, p)
    | none => some (cs, (0 : Int))
  let (whole, decimals) ←
    match Text.cutAt? (· == '.') mantissa with
    | some (whole, decimals) => (plainDigits? isDigit decimals).map fun d => (whole, d)
    | none => if mantissa.length < cs.length then some (mantissa, []) else none
  let whole ← wholeDigits? whole
  let d : Number.Decimal :=
    ⟨negative, Number.digitsValue (whole ++ decimals), power - (decimals.length : Int)⟩
  if d.isFinite then return .fraction d.toFloat else none

/-! ### Dates -/

/-- A number of exactly `count` digits, between two bounds. -/
def fixed? (count low high : Nat) (cs : List Char) : Option (Nat × List Char) :=
  let digits := cs.take count
  let n := Number.digitsValue digits
  if digits.length = count ∧ digits.all isDigit ∧ low ≤ n ∧ n ≤ high then some (n, cs.drop count)
  else none

/-- The number of days of a month. -/
def daysOfMonth (year month : Nat) : Nat :=
  if month = 2 then
    if year % 4 = 0 ∧ (year % 100 ≠ 0 ∨ year % 400 = 0) then 29 else 28
  else if month = 4 ∨ month = 6 ∨ month = 9 ∨ month = 11 then 30
  else 31

/-- The rest after a day such as `1979-05-27`. -/
def day? (cs : List Char) : Option (List Char) := do
  let (year, cs) ← fixed? 4 0 9999 cs
  let cs ← Text.after? ['-'] cs
  let (month, cs) ← fixed? 2 1 12 cs
  let cs ← Text.after? ['-'] cs
  let (_, cs) ← fixed? 2 1 (daysOfMonth year month) cs
  return cs

/-- The rest after a time of day such as `07:32`, `07:32:00` or `07:32:00.999`. -/
def clock? (cs : List Char) : Option (List Char) := do
  let (_, cs) ← fixed? 2 0 23 cs
  let cs ← Text.after? [':'] cs
  let (_, cs) ← fixed? 2 0 59 cs
  match cs with
  | ':' :: rest => do
    let (_, rest) ← fixed? 2 0 60 rest
    match rest with
    | '.' :: more =>
      let digits := more.takeWhile isDigit
      if digits.isEmpty then none else return more.drop digits.length
    | rest => return rest
  | cs => return cs

/-- The rest after an offset such as `Z` or `-07:00`. -/
def offset? : List Char → Option (List Char)
  | 'Z' :: cs | 'z' :: cs => some cs
  | '+' :: cs | '-' :: cs => do
    let (_, cs) ← fixed? 2 0 23 cs
    let cs ← Text.after? [':'] cs
    let (_, cs) ← fixed? 2 0 59 cs
    return cs
  | _ => none

/-- Is the word a date, a time of day, or both? -/
def isDate (word : List Char) : Bool :=
  match day? word with
  | some [] => true
  | some (c :: rest) =>
    if c = 'T' ∨ c = 't' ∨ c = ' ' then
      match clock? rest with
      | some [] => true
      | some rest => offset? rest = some []
      | none => false
    else false
  | none => clock? word = some []

/-! ### Words -/

/-- Does the character end a word? -/
def endsWord (c : Char) : Bool :=
  [' ', '\t', '\n', '\r', ',', ']', '\x7d', '#', '=', '[', '\x7b', '"', '\''].contains c

/-- The word at the front of a text. A day and a time of day may have a space between them. -/
def spanWord (cs : List Char) : List Char × List Char :=
  let word := cs.takeWhile (!endsWord ·)
  let rest := cs.drop word.length
  match rest with
  | ' ' :: more =>
    let second := more.takeWhile (!endsWord ·)
    if day? word = some [] ∧ (fixed? 2 0 99 second).isSome then
      (word ++ ' ' :: second, more.drop second.length)
    else (word, rest)
  | rest => (word, rest)

/-- The value of a word. -/
def wordValue? (word : List Char) : Option Toml :=
  if word = ['t', 'r', 'u', 'e'] then some (.boolean true)
  else if word = ['f', 'a', 'l', 's', 'e'] then some (.boolean false)
  else if isDate word then some .date
  else
    match integerWord? word with
    | some v => some v
    | none => fractionWord? word

/-- A value without parts at the front of a text. -/
def scalar (cs : List Char) : Option (Toml × List Char) :=
  match cs with
  | '"' :: _ | '\'' :: _ => (quotedString cs).map fun (s, rest) => (.text s, rest)
  | cs =>
    let (word, rest) := spanWord cs
    (wordValue? word).map fun v => (v, rest)

end HostDaemon.Toml
