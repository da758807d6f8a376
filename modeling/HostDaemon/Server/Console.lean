/-! # Consoles

The daemon's end of a server's console. Lines are written to it one by one. A console that is
closed takes none, and one may break after some more lines; which lines it has taken is kept. -/

namespace HostDaemon

/-- A server's console. -/
structure Console where
  /-- The lines that were written, oldest first. -/
  lines : List String
  /-- How many more lines it takes; `none` where there is no bound. -/
  room : Option Nat
deriving Repr, DecidableEq

namespace Console

/-- A console that is open and has not been written to. -/
def opened : Console := ⟨[], none⟩

/-- A console that takes nothing and has not been written to. -/
def unattached : Console := ⟨[], some 0⟩

/-- Does the console take a line? -/
def isOpen (c : Console) : Bool := c.room != some 0

/-- Close the console. -/
def close (c : Console) : Console := { c with room := some 0 }

/-- Write one line. `none` where the console takes no more. -/
def write? (c : Console) (line : String) : Option Console :=
  match c.room with
  | some 0 => none
  | some (n + 1) => some ⟨c.lines ++ [line], some n⟩
  | none => some ⟨c.lines ++ [line], none⟩

/-- Write lines up to the first that is not taken. Says whether all were taken. -/
def writeAll (c : Console) : List String → Bool × Console
  | [] => (true, c)
  | line :: lines =>
    match c.write? line with
    | none => (false, c)
    | some c => c.writeAll lines

end Console

/-- The error of writing to a console that takes no more. -/
def consoleClosed : String := "server console is closed"

end HostDaemon
