import HostDaemon.Text.Lowercase.Table

/-! # Lowercase text

The full lowercase mapping of the Unicode standard. Two characters need care: a capital I with a
dot becomes two characters, and a capital sigma takes its final form at the end of a word, that
is after a cased letter and not before one, where case-ignorable characters are passed over. -/

namespace HostDaemon.Text

namespace Lowercase

/-- Is the character a cased letter that is not passed over? -/
def isCased (c : Char) : Bool := casedRanges.holdsChar c

/-- Is the character passed over when a cased letter is looked for? -/
def isIgnorable (c : Char) : Bool := ignorableRanges.holdsChar c

/-- Is the first character that is not passed over a cased letter? -/
def meetsCased (cs : List Char) : Bool :=
  match cs.dropWhile isIgnorable with
  | [] => false
  | c :: _ => isCased c

/-- The lowercase form of a character that does not depend on its surroundings. -/
def ofChar (c : Char) : List Char :=
  if c.toNat < 128 then
    [if 'A' ≤ c ∧ c ≤ 'Z' then Char.ofNat (c.toNat + 32) else c]
  else if c.toNat = 0x130 then ['i', Char.ofNat 0x307]
  else
    match caseRanges.find? (·.holds c.toNat) with
    | some r => [Char.ofNat (Int.ofNat c.toNat + r.shift).toNat]
    | none => [c]

/-- The lowercase form of `cs`, where `before` holds the characters already passed, the nearest
    one first. -/
def withContext (before : List Char) : List Char → List Char
  | [] => []
  | c :: cs =>
    let lower :=
      if c = 'Σ' then
        if meetsCased before && !meetsCased cs then ['ς'] else ['σ']
      else ofChar c
    lower ++ withContext (c :: before) cs

end Lowercase

/-- A text in lowercase. -/
def lowercase (s : String) : String := String.ofList (Lowercase.withContext [] s.toList)

end HostDaemon.Text
