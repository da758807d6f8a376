import HostDaemon.Text.Mark
import HostDaemon.Text.Unseen

/-! # Quoted text

A text between double quotes in which every character that cannot be seen is written as an
escape. Marks that would join the character before them count as unseen. -/

namespace HostDaemon.Text.Quoted

/-- Is the character written as it is? The two halfwidth voicing marks are, although they belong to
    the character before them. -/
def isSeen (c : Char) : Bool :=
  !isUnseen c && (!isExtender c || c == '\uFF9E' || c == '\uFF9F')

/-- A character inside the quotes. -/
def escape (c : Char) : List Char :=
  if c = '\x00' then ['\\', '0']
  else if c = '\t' then ['\\', 't']
  else if c = '\r' then ['\\', 'r']
  else if c = '\n' then ['\\', 'n']
  else if c = '"' then ['\\', '"']
  else if c = '\\' then ['\\', '\\']
  else if isSeen c then [c]
  else ['\\', 'u', '\x7b'] ++ Nat.toDigits 16 c.toNat ++ ['\x7d']

/-- The text between double quotes. -/
def write (s : String) : String :=
  String.ofList ('"' :: s.toList.flatMap escape ++ ['"'])

end HostDaemon.Text.Quoted
