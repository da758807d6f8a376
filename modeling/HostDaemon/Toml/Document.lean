import HostDaemon.Toml.Scalar
import HostDaemon.Toml.Tree

/-! # TOML documents

A document: lines that set keys, headers that say to which table the lines after them
belong, blank lines and comments. Arrays and tables in braces may go over several lines and may end
with a comma. They stand inside one another, and keys have parts, up to a depth of 80. -/

namespace HostDaemon.Toml

/-- The text without the blanks in front. -/
def skipBlank (cs : List Char) : List Char := cs.dropWhile fun c => c == ' ' || c == '\t'

/-- The rest of a comment's line, after the number sign. -/
def skipComment : List Char → Option (List Char)
  | [] => some []
  | c :: cs =>
    if (lineBreak? (c :: cs)).isSome then some (c :: cs)
    else if isControl c then none
    else skipComment cs

/-- The text without blanks, line breaks and comments in front; `fuel` bounds their number. -/
def skipTrivia : (fuel : Nat) → List Char → Option (List Char)
  | 0, cs => some cs
  | fuel + 1, cs =>
    let cs := skipBlank cs
    match cs with
    | '#' :: rest => (skipComment rest).bind (skipTrivia fuel)
    | cs =>
      match lineBreak? cs with
      | some rest => skipTrivia fuel rest
      | none => some cs

/-- The text after the end of a line: blanks, a comment, and a line break or the end of all. -/
def endOfLine (cs : List Char) : Option (List Char) := do
  let cs := skipBlank cs
  let cs ←
    match cs with
    | '#' :: rest => skipComment rest
    | cs => some cs
  match cs with
  | [] => some []
  | cs => lineBreak? cs

/-! ### Keys -/

/-- May the character stand in a key without quotes? -/
def isBareKeyChar (c : Char) : Bool :=
  ('a' ≤ c && c ≤ 'z') || ('A' ≤ c && c ≤ 'Z') || isDigit c || c == '_' || c == '-'

/-- One part of a key. -/
def keyPart (cs : List Char) : Option (String × List Char) :=
  match cs with
  | '"' :: rest => (basicString cs.length rest).map fun (s, rest) => (String.ofList s, rest)
  | '\'' :: rest => (literalString rest).map fun (s, rest) => (String.ofList s, rest)
  | cs =>
    let word := cs.takeWhile isBareKeyChar
    if word.isEmpty then none else some (String.ofList word, cs.drop word.length)

/-- How many parts a key may have, and how many arrays and tables in braces may stand inside one
    another. -/
def depthLimit : Nat := 80

/-- A key with dots, as its parts; there are at most `limit`. -/
def keyUpTo : (limit : Nat) → List Char → Option (List String × List Char)
  | 0, _ => none
  | limit + 1, cs => do
    let (part, rest) ← keyPart (skipBlank cs)
    match skipBlank rest with
    | '.' :: rest => do
      let (parts, rest) ← keyUpTo limit rest
      return (part :: parts, rest)
    | rest => return ([part], rest)

/-- A key with dots, as its parts. -/
def key (cs : List Char) : Option (List String × List Char) := keyUpTo depthLimit cs

/-! ### Values -/

mutual

/-- A value in which at most `depth` arrays and tables stand inside one another. `fuel` bounds the
    number of nested calls. -/
def value : (fuel depth : Nat) → List Char → Option (Toml × List Char)
  | 0, _, _ => none
  | fuel + 1, depth, cs =>
    match depth, cs with
    | depth + 1, '[' :: rest =>
      (arrayItems fuel depth rest).map fun (items, rest) => (.array items, rest)
    | depth + 1, '\x7b' :: rest =>
      (inlineEntries fuel depth [] rest).map fun (entries, rest) =>
        (.table (entriesToToml entries), rest)
    | _, cs => scalar cs

/-- The items of an array up to its closing bracket. -/
def arrayItems : (fuel depth : Nat) → List Char → Option (List Toml × List Char)
  | 0, _, _ => none
  | fuel + 1, depth, cs => do
    let cs ← skipTrivia cs.length cs
    match cs with
    | ']' :: rest => return ([], rest)
    | cs => do
      let (item, rest) ← value fuel depth cs
      let rest ← skipTrivia rest.length rest
      match rest with
      | ',' :: rest => do
        let (more, rest) ← arrayItems fuel depth rest
        return (item :: more, rest)
      | ']' :: rest => return ([item], rest)
      | _ => none

/-- The entries of a table in braces up to its closing brace, added to those before. -/
def inlineEntries : (fuel depth : Nat) → Entries → List Char → Option (Entries × List Char)
  | 0, _, _, _ => none
  | fuel + 1, depth, entries, cs => do
    let cs ← skipTrivia cs.length cs
    match cs with
    | '\x7d' :: rest => return (entries, rest)
    | cs => do
      let (parts, rest) ← key cs
      let rest ← Text.after? ['='] rest
      let (v, rest) ← value fuel depth (skipBlank rest)
      let entries ← assign v parts entries
      let rest ← skipTrivia rest.length rest
      match rest with
      | ',' :: rest => inlineEntries fuel depth entries rest
      | '\x7d' :: rest => return (entries, rest)
      | _ => none

end

/-! ### Lines -/

/-- The entries of a document, after those of the lines before. `place` is the table that the last
    header named; `fuel` bounds the number of lines. -/
def document : (fuel : Nat) → (place : List String) → Entries → List Char → Option Entries
  | 0, _, _, _ => none
  | fuel + 1, place, entries, cs => do
    let cs ← skipTrivia cs.length cs
    match cs with
    | [] => return entries
    | '[' :: '[' :: rest => do
      let (parts, rest) ← key rest
      let rest ← Text.after? [']', ']'] rest
      let rest ← endOfLine rest
      document fuel parts (← openArray parts entries) rest
    | '[' :: rest => do
      let (parts, rest) ← key rest
      let rest ← Text.after? [']'] rest
      let rest ← endOfLine rest
      document fuel parts (← openTable parts entries) rest
    | cs => do
      let (parts, rest) ← key cs
      let rest ← Text.after? ['='] rest
      let (v, rest) ← value (2 * rest.length + 2) depthLimit (skipBlank rest)
      let rest ← endOfLine rest
      document fuel place (← within (assign v parts) place entries) rest

/-- The entries of a document, or `none` where it is no TOML. A mark of the byte order may stand in
    front. -/
def parse? (s : String) : Option (List (String × Toml)) :=
  let cs := s.toList
  let cs := (Text.after? ['\uFEFF'] cs).getD cs
  (document (cs.length + 1) [] [] cs).map entriesToToml

end HostDaemon.Toml
