import HostDaemon.Text.Basic
import HostDaemon.Text.Utf8

/-! # Lines of output and of log files

Cutting the bytes that a process writes into lines, and finding the last lines of a log file. A log
file is searched from its end in chunks, so that a long file is not read as a whole. -/

namespace HostDaemon.Log

/-! ### Lines of a process -/

/-- The bytes of the lines: each ended by a line feed, but for the last one, which is a line where
    it is not empty. A carriage return before a line feed belongs to the end of the line. -/
def byteLines : List UInt8 → List (List UInt8)
  | [] => []
  | b :: bytes =>
    if b = 10 then [] :: byteLines bytes
    else if b = 13 ∧ bytes.head? = some 10 then
      match byteLines bytes with
      | [] => [[b]]
      | lines => lines
    else
      match byteLines bytes with
      | [] => [[b]]
      | line :: lines => (b :: line) :: lines

/-- The leading values, up to the first that is missing. -/
def leading {α : Type} : List (Option α) → List α
  | some a :: more => a :: leading more
  | _ => []

/-- The lines that are forwarded from the output of a process: all before the first that is not
    UTF-8, where reading stops. -/
def forwardedLines (bytes : List UInt8) : List String :=
  (leading ((byteLines bytes).map Text.Utf8.decode?)).map String.ofList

/-! ### The end of a file -/

/-- How many bytes are read at once when a file is searched from its end. -/
def chunkSize : Nat := 8192

/-- The outcome of searching one chunk. -/
inductive ScanResult where
  /-- The place after the line feed that was looked for. -/
  | found (start : Nat)
  /-- How many line feeds have been passed. -/
  | passed (seen : Nat)
deriving Repr, DecidableEq

/-- Search a chunk whose bytes are given last first and whose last byte lies just before `pos`.
    The search is for the line feed after `n` others; `seen` have been passed. -/
def scanBack (n seen pos : Nat) : List UInt8 → ScanResult
  | [] => .passed seen
  | b :: bytes =>
    if b = 10 then
      if n < seen + 1 then .found pos else scanBack n (seen + 1) (pos - 1) bytes
    else scanBack n seen (pos - 1) bytes

/-- Search the bytes before `pos` in chunks of `chunk` bytes, from the last one back: the place
    after the line feed that follows `n` others from the end, or the start of the file. `fuel`
    bounds the number of chunks. -/
def scanFrom (chunk : Nat) (bytes : List UInt8) (n : Nat) : (fuel seen pos : Nat) → Nat
  | 0, _, _ => 0
  | fuel + 1, seen, pos =>
    if pos = 0 then 0
    else
      let start := pos - chunk
      match scanBack n seen pos ((bytes.drop start).take (pos - start)).reverse with
      | .found place => place
      | .passed seen => scanFrom chunk bytes n fuel seen start

/-- Where the lines that are shown begin. There are no more chunks than bytes. -/
def tailStart (bytes : List UInt8) (n : Nat) : Nat :=
  scanFrom chunkSize bytes n bytes.length 0 bytes.length

/-- The lines that are shown of a file: the first `n` from the place that was found on. Bytes that
    are not UTF-8 are replaced. -/
def tailLines (bytes : List UInt8) (n : Nat) : List String :=
  if n = 0 ∨ bytes = [] then []
  else
    let rest := bytes.drop (tailStart bytes n)
    ((Text.linesOf (Text.Utf8.decodeLossy rest)).map String.ofList).take n

end HostDaemon.Log
