/-! # Blank characters

The characters of the Unicode property `White_Space`, and trimming them off the ends of a text.
Every place of this library that trims or asks whether a text is blank uses this class; the
wire format alone knows a smaller one. -/

namespace HostDaemon.Text

/-- Does the character have the Unicode property `White_Space`? -/
def isBlank (c : Char) : Bool :=
  let n := c.toNat
  (9 ≤ n && n ≤ 13) || n == 0x20 || n == 0x85 || n == 0xA0 || n == 0x1680 ||
    (0x2000 ≤ n && n ≤ 0x200A) || n == 0x2028 || n == 0x2029 || n == 0x202F ||
    n == 0x205F || n == 0x3000

/-- The characters without the blank ones at the front. -/
def dropBlank (cs : List Char) : List Char := cs.dropWhile isBlank

/-- The characters without those at the end that satisfy `p`. -/
def dropEndWhile (p : Char → Bool) (cs : List Char) : List Char :=
  (cs.reverse.dropWhile p).reverse

/-- The characters without the blank ones at both ends. -/
def trimBlank (cs : List Char) : List Char := dropEndWhile isBlank (dropBlank cs)

/-- A text without the blank characters at both of its ends. -/
def trim (s : String) : String := String.ofList (trimBlank s.toList)

/-- A text without the blank characters at its front. -/
def trimStart (s : String) : String := String.ofList (dropBlank s.toList)

/-- A text without the blank characters at its end. -/
def trimEnd (s : String) : String := String.ofList (dropEndWhile isBlank s.toList)

/-- Does the text hold nothing but blank characters? -/
def isBlankText (s : String) : Bool := s.toList.all isBlank

end HostDaemon.Text
