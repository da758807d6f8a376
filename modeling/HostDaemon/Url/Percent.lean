import HostDaemon.Number.Hexadecimal
import HostDaemon.Text.Utf8

/-! # Percent encoding

Writing bytes of a URL as a percent sign and two hexadecimal digits. Which characters of ASCII are
written so depends on the part of the URL; all characters beyond ASCII are, byte by byte. -/

namespace HostDaemon.Url

/-- A hexadecimal digit in uppercase. -/
def upperHex (n : Nat) : Char := if n < 10 then Char.ofNat (48 + n) else Char.ofNat (55 + n)

/-- A byte after a percent sign. -/
def percentByte (b : UInt8) : List Char := ['%', upperHex (b.toNat / 16), upperHex (b.toNat % 16)]

/-- A character byte by byte. -/
def percentChar (c : Char) : List Char := (Text.Utf8.encode [c]).flatMap percentByte

/-- Is the character a control of ASCII? -/
def isControl (c : Char) : Bool := c.toNat < 0x20 || c.toNat == 0x7F

/-- Characters with those that `escaped` names, all controls, and all beyond ASCII written as
    bytes. -/
def encodeWith (escaped : List Char) (cs : List Char) : List Char :=
  cs.flatMap fun c =>
    if isControl c || 0x80 ≤ c.toNat || escaped.contains c then percentChar c else [c]

/-- What is written as bytes in a fragment. -/
def fragmentSet : List Char := [' ', '"', '<', '>', '`']

/-- What is written as bytes in a path. -/
def pathSet : List Char := fragmentSet ++ ['#', '?', '\x7b', '\x7d']

/-- What is written as bytes in a user's name and password. -/
def userSet : List Char := pathSet ++ ['/', ':', ';', '=', '@', '[', '\\', ']', '^', '|']

/-- What is written as bytes in a query. -/
def querySet (special : Bool) : List Char :=
  [' ', '"', '#', '<', '>'] ++ if special then ['\''] else []

/-- The bytes of a text in which some may be written with percent signs. -/
def percentDecode : List Char → List UInt8
  | [] => []
  | [c] => Text.Utf8.encode [c]
  | [c, d] => Text.Utf8.encode [c, d]
  | c :: a :: b :: cs =>
    match c, Number.hexDigit? a, Number.hexDigit? b with
    | '%', some x, some y => UInt8.ofNat (x * 16 + y) :: percentDecode cs
    | _, _, _ => Text.Utf8.encode [c] ++ percentDecode (a :: b :: cs)

/-! ### Forms -/

/-- Is the byte written as it is in a form? -/
def isFormByte (b : UInt8) : Bool :=
  let n := b.toNat
  (48 ≤ n && n ≤ 57) || (65 ≤ n && n ≤ 90) || (97 ≤ n && n ≤ 122) || n == 42 || n == 45 ||
    n == 46 || n == 95

/-- A name or a value in a form. -/
def formEncode (s : String) : List Char :=
  (Text.Utf8.bytesOf s).flatMap fun b =>
    if isFormByte b then [Char.ofNat b.toNat] else if b = 32 then ['+'] else percentByte b

/-- Names and values in a form. -/
def formPairs (pairs : List (String × String)) : List Char :=
  List.intercalate ['&'] (pairs.map fun (name, value) => formEncode name ++ '=' :: formEncode value)

end HostDaemon.Url
