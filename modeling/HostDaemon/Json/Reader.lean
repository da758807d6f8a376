import HostDaemon.Json.Fault
import HostDaemon.Json.Value
import HostDaemon.Number.Hexadecimal

/-! # Reading JSON

A reader for one JSON value. Each function takes what is left of the text and gives what it read
with the rest, or the first fault. Arrays and objects may lie 127 deep in each other. `fuel`
bounds the number of nested calls; the functions at the end of the module supply enough of it for
their text. -/

namespace HostDaemon.Json

/-- A fault that the next character shows. -/
def faultAhead {α : Type} (kind : FaultKind) (rest : List Char) : Except Fault α :=
  .error ⟨kind, rest, true⟩

/-- A fault that the character before shows. -/
def faultBehind {α : Type} (kind : FaultKind) (rest : List Char) : Except Fault α :=
  .error ⟨kind, rest, false⟩

/-- Is the character white space between the parts of a value? -/
def isSpace (c : Char) : Bool := c == ' ' || c == '\n' || c == '\t' || c == '\r'

/-- The text without the white space in front. -/
def skipSpace (cs : List Char) : List Char := cs.dropWhile isSpace

/-- The rest after a word that the text has to go on with. -/
def expectWord : (word cs : List Char) → Except Fault (List Char)
  | [], cs => .ok cs
  | _ :: _, [] => faultBehind .endInValue []
  | w :: word, c :: cs => if w = c then expectWord word cs else faultBehind .badWord cs

/-! ### Strings -/

/-- A number of four hexadecimal digits. -/
def hex4 : List Char → Except Fault (Nat × List Char)
  | a :: b :: c :: d :: cs =>
    match Number.hexDigit? a, Number.hexDigit? b, Number.hexDigit? c, Number.hexDigit? d with
    | some a, some b, some c, some d => .ok (((a * 16 + b) * 16 + c) * 16 + d, cs)
    | _, _, _, _ => faultBehind .badEscape cs
  | _ => faultBehind .endInString []

/-- The second half of a pair of escapes, after its first half `high`. -/
def lowSurrogate (high : Nat) : List Char → Except Fault (Char × List Char)
  | [] => faultBehind .endInString []
  | '\\' :: [] => faultBehind .endInString []
  | '\\' :: 'u' :: cs => do
    let (low, rest) ← hex4 cs
    if low < 0xDC00 ∨ 0xDFFF < low then faultBehind .loneSurrogate rest
    else .ok (Char.ofNat ((high - 0xD800) * 0x400 + (low - 0xDC00) + 0x10000), rest)
  | '\\' :: _ :: cs => faultBehind .unfinishedPair cs
  | _ :: cs => faultBehind .unfinishedPair cs

/-- The character of an escape, after its backslash. -/
def escape : List Char → Except Fault (Char × List Char)
  | [] => faultBehind .endInString []
  | c :: cs =>
    if c = '"' ∨ c = '\\' ∨ c = '/' then .ok (c, cs)
    else if c = 'b' then .ok ('\x08', cs)
    else if c = 'f' then .ok ('\x0c', cs)
    else if c = 'n' then .ok ('\n', cs)
    else if c = 'r' then .ok ('\r', cs)
    else if c = 't' then .ok ('\t', cs)
    else if c = 'u' then do
      let (n, rest) ← hex4 cs
      if 0xDC00 ≤ n ∧ n ≤ 0xDFFF then faultBehind .loneSurrogate rest
      else if 0xD800 ≤ n ∧ n ≤ 0xDBFF then lowSurrogate n rest
      else .ok (Char.ofNat n, rest)
    else faultBehind .badEscape cs

/-- The characters of a string after its opening quote. -/
def stringFrom : (fuel : Nat) → List Char → Except Fault (List Char × List Char)
  | 0, cs => faultBehind .endInString cs
  | _ + 1, [] => faultBehind .endInString []
  | fuel + 1, c :: cs =>
    if c = '"' then .ok ([], cs)
    else if c = '\\' then do
      let (d, rest) ← escape cs
      let (more, rest) ← stringFrom fuel rest
      .ok (d :: more, rest)
    else if c.toNat < 0x20 then faultBehind .controlInString cs
    else do
      let (more, rest) ← stringFrom fuel cs
      .ok (c :: more, rest)

/-- A string after its opening quote. -/
def stringBody (cs : List Char) : Except Fault (String × List Char) := do
  let (chars, rest) ← stringFrom (cs.length + 1) cs
  .ok (String.ofList chars, rest)

/-! ### Numbers -/

/-- The digits after a point: there has to be one. -/
def fractionDigits (cs : List Char) : Except Fault (List Char × List Char) :=
  match Number.spanDigits cs with
  | ([], []) => faultAhead .endInValue []
  | ([], rest) => faultAhead .badNumber rest
  | found => .ok found

/-- The power of ten after its letter: there has to be a digit. -/
def powerOfTen (cs : List Char) : Except Fault (Int × List Char) :=
  let (negative, cs) :=
    match cs with
    | '-' :: cs => (true, cs)
    | '+' :: cs => (false, cs)
    | cs => (false, cs)
  match Number.spanDigits cs with
  | ([], []) => faultBehind .endInValue []
  | ([], _ :: rest) => faultBehind .badNumber rest
  | (digits, rest) =>
    let n : Int := Number.digitsValue digits
    .ok (if negative then -n else n, rest)

/-- The value of a number written with digits alone: a whole number where it is in range, and
    otherwise, as for zero with a minus sign, a fraction. -/
def ofDigits (negative : Bool) (n : Nat) : Json :=
  if negative then
    if n = 0 ∨ 0x8000000000000000 < n then .fraction ⟨true, n, 0⟩ else .integer (-(n : Int))
  else if n < 0x10000000000000000 then .integer n
  else .fraction ⟨false, n, 0⟩

/-- A number after its sign. -/
def number (negative : Bool) (cs : List Char) : Except Fault (Json × List Char) := do
  let (whole, rest) ←
    match cs with
    | [] => faultBehind .endInValue []
    | '0' :: c :: rest =>
      if (Number.digitValue? c).isSome then faultAhead .badNumber (c :: rest)
      else .ok (['0'], c :: rest)
    | c :: rest =>
      match Number.spanDigits (c :: rest) with
      | ([], _) => faultBehind .badNumber rest
      | found => .ok found
  let (decimals, rest) ←
    match rest with
    | '.' :: rest => fractionDigits rest
    | rest => .ok ([], rest)
  let plain := decimals.isEmpty
  let (power, scientific, rest) ←
    match rest with
    | c :: more =>
      if c = 'e' ∨ c = 'E' then do
        let (power, rest) ← powerOfTen more
        .ok (power, true, rest)
      else .ok (0, false, c :: more)
    | [] => .ok ((0 : Int), false, [])
  let v :=
    if plain && !scientific then ofDigits negative (Number.digitsValue whole)
    else
      .fraction ⟨negative, Number.digitsValue (whole ++ decimals), power - (decimals.length : Int)⟩
  match v with
  | .fraction d => if d.isFinite then .ok (v, rest) else faultBehind .numberTooLarge rest
  | v => .ok (v, rest)

/-! ### Values -/

/-- A member of an object as it was read. -/
structure Member where
  /-- The name. -/
  name : String
  /-- The value. -/
  value : Json
  /-- What is left of the text after the value. -/
  rest : List Char

mutual

/-- A value; `depth` says how many arrays and objects may still be opened. -/
def readValue (depth : Nat) : (fuel : Nat) → List Char → Except Fault (Json × List Char)
  | 0, cs => faultAhead .tooDeep cs
  | fuel + 1, cs =>
    match skipSpace cs with
    | [] => faultAhead .endInValue []
    | c :: rest =>
      if c = 'n' then (expectWord ['u', 'l', 'l'] rest).map fun rest => (.null, rest)
      else if c = 't' then (expectWord ['r', 'u', 'e'] rest).map fun rest => (.bool true, rest)
      else if c = 'f' then
        (expectWord ['a', 'l', 's', 'e'] rest).map fun rest => (.bool false, rest)
      else if c = '-' then number true rest
      else if (Number.digitValue? c).isSome then number false (c :: rest)
      else if c = '"' then (stringBody rest).map fun (s, rest) => (.text s, rest)
      else if c = '[' then
        match depth with
        | 0 => faultAhead .tooDeep (c :: rest)
        | depth + 1 =>
          (readItems depth fuel true rest).map fun (found, rest) => (.array found, rest)
      else if c = '\x7b' then
        match depth with
        | 0 => faultAhead .tooDeep (c :: rest)
        | depth + 1 =>
          (readMembers depth fuel true rest).map fun (found, rest) =>
            (.object (found.map fun m => (m.name, m.value)), rest)
      else faultAhead .noValue (c :: rest)

/-- The items of an array up to its closing bracket; `first` says that none has been read yet. -/
def readItems (depth : Nat) : (fuel : Nat) → (first : Bool) → List Char →
    Except Fault (List Json × List Char)
  | 0, _, cs => faultAhead .tooDeep cs
  | fuel + 1, first, cs =>
    match skipSpace cs with
    | [] => faultAhead .endInArray []
    | c :: rest =>
      if c = ']' then .ok ([], rest)
      else if first then do
        let (item, rest) ← readValue depth fuel (c :: rest)
        let (more, rest) ← readItems depth fuel false rest
        .ok (item :: more, rest)
      else if c = ',' then
        match skipSpace rest with
        | [] => faultAhead .endInValue []
        | d :: rest =>
          if d = ']' then faultAhead .trailingComma (d :: rest)
          else do
            let (item, rest) ← readValue depth fuel (d :: rest)
            let (more, rest) ← readItems depth fuel false rest
            .ok (item :: more, rest)
      else faultAhead .noCommaInArray (c :: rest)

/-- The members of an object up to its closing brace; `first` says that none has been read yet. -/
def readMembers (depth : Nat) : (fuel : Nat) → (first : Bool) → List Char →
    Except Fault (List Member × List Char)
  | 0, _, cs => faultAhead .tooDeep cs
  | fuel + 1, first, cs =>
    match skipSpace cs with
    | [] => faultAhead .endInObject []
    | c :: rest =>
      if c = '\x7d' then .ok ([], rest)
      else if first then
        if c = '"' then do
          let (m, rest) ← readMember depth fuel rest
          let (more, rest) ← readMembers depth fuel false rest
          .ok (m :: more, rest)
        else faultAhead .nameNotText (c :: rest)
      else if c = ',' then
        match skipSpace rest with
        | [] => faultAhead .endInValue []
        | d :: rest =>
          if d = '"' then do
            let (m, rest) ← readMember depth fuel rest
            let (more, rest) ← readMembers depth fuel false rest
            .ok (m :: more, rest)
          else if d = '\x7d' then faultAhead .trailingComma (d :: rest)
          else faultAhead .nameNotText (d :: rest)
      else faultAhead .noCommaInObject (c :: rest)

/-- One member after the opening quote of its name. -/
def readMember (depth : Nat) : (fuel : Nat) → List Char → Except Fault (Member × List Char)
  | 0, cs => faultAhead .tooDeep cs
  | fuel + 1, cs => do
    let (name, rest) ← stringBody cs
    match skipSpace rest with
    | [] => faultAhead .endInObject []
    | c :: rest =>
      if c = ':' then do
        let (v, rest) ← readValue depth fuel rest
        .ok (⟨name, v, rest⟩, rest)
      else faultAhead .noColon (c :: rest)

end

/-- How many arrays and objects may be open at once. -/
def maxDepth : Nat := 127

/-- The value at the front of a text and the rest. -/
def readFront (cs : List Char) : Except Fault (Json × List Char) :=
  readValue maxDepth (3 * cs.length + 3) cs

/-- The value that a whole text holds; only white space may follow it. -/
def readChars (cs : List Char) : Except Fault Json := do
  let (v, rest) ← readFront cs
  match skipSpace rest with
  | [] => .ok v
  | rest => faultAhead .trailingText rest

/-- The value that a whole text holds. -/
def read (s : String) : Except Fault Json := readChars s.toList

end HostDaemon.Json
