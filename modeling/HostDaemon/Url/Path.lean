import HostDaemon.Text.Basic
import HostDaemon.Url.Percent

/-! # Paths of URLs

A path is a list of segments, each after a slash. Segments that are dots are resolved, and the
letter of a drive, which the path of a file may begin with, is kept whatever follows it. -/

namespace HostDaemon.Url

/-- The scheme of files. -/
def fileScheme : String := "file"

/-- Is the segment a single dot? -/
def isDot (segment : List Char) : Bool :=
  [['.'], ['%', '2', 'e']].contains (segment.map Text.asciiLowerChar)

/-- Is the segment two dots? -/
def isDoubleDot (segment : List Char) : Bool :=
  [['.', '.'], ['.', '%', '2', 'e'], ['%', '2', 'e', '.'], ['%', '2', 'e', '%', '2', 'e']].contains
    (segment.map Text.asciiLowerChar)

/-- Is the character a letter from A to Z in either case? -/
def isLetter (c : Char) : Bool := ('a' ≤ c && c ≤ 'z') || ('A' ≤ c && c ≤ 'Z')

/-- Is the text the letter of a drive: a letter and a colon, which may be written as a bar? -/
def isDrive : List Char → Bool
  | [c, mark] => isLetter c && (mark == ':' || mark == '|')
  | _ => false

/-- Does the segment begin with the letter of a drive that a backslash or nothing follows? -/
def beginsWithDrive (segment : List Char) : Bool :=
  isDrive (segment.take 2) && (segment.drop 2).head?.all (· == '\\')

/-- Is the character a tab or a line break? Where one stands in a URL, it counts for nothing, but in
    one place: it parts the letter of a drive from what follows. -/
def isBreak (c : Char) : Bool := c == '\t' || c == '\n' || c == '\r'

/-- The characters without tabs and line breaks. -/
def withoutBreaks (cs : List Char) : List Char := cs.filter (!isBreak ·)

/-- The letter of a drive with its colon and what follows it, where a tab or a line break parts the
    two. -/
def cutDrive? (piece : List Char) : Option (List Char × List Char) := do
  let (letter, after) ← Text.cutAt? (· == ':') piece
  let drive := withoutBreaks letter ++ [':']
  let rest := withoutBreaks after
  if isDrive drive && after.head?.any isBreak && !rest.isEmpty then return (drive, rest) else none

/-! ### Segments -/

/-- The segments of a path as far as it has been read. -/
structure Trail where
  /-- The segments passed, last one first. -/
  passed : List (List Char)
  /-- Does the path begin with a segment that is the letter of a drive? -/
  hasDrive : Bool

namespace Trail

/-- The trail before the first segment. -/
def start : Trail := ⟨[], false⟩

/-- Leave the last segment. One that begins with the letter of a drive stays. -/
def leave (t : Trail) : Trail :=
  match t.passed with
  | [] => t
  | last :: before => if beginsWithDrive last then t else { t with passed := before }

/-- Enter a segment. The letter of a drive with which the path of a file begins gets a colon. -/
def enter (file : Bool) (segment : List Char) (t : Trail) : Trail :=
  if file && t.passed.isEmpty && isDrive segment then ⟨[segment.take 1 ++ [':']], true⟩
  else { t with passed := segment :: t.passed }

/-- Go on with the text of a segment: dots are resolved, and all else is brought to written form. -/
def follow (file last : Bool) (piece : List Char) (t : Trail) : Trail :=
  match if file && t.passed.isEmpty then cutDrive? piece else none with
  | some (drive, rest) => { t with passed := [encodeWith pathSet rest, drive] }
  | none =>
    let segment := encodeWith pathSet (withoutBreaks piece)
    let close := fun (t : Trail) => if last then { t with passed := [] :: t.passed } else t
    if isDoubleDot segment then close t.leave
    else if isDot segment then close t
    else t.enter file segment

/-- Go on with the texts of all segments up to the end of the path. -/
def followAll (file : Bool) (t : Trail) : List (List Char) → Trail
  | [] => t
  | piece :: pieces => followAll file (t.follow file pieces.isEmpty piece) pieces

end Trail

/-- Does the character separate segments? -/
def isSeparator (special : Bool) (c : Char) : Bool := c == '/' || (special && c == '\\')

/-- The segments of a path after its first slash. -/
def trailOf (special file : Bool) (cs : List Char) : Trail :=
  Trail.start.followAll file (Text.pieces (isSeparator special) cs)

/-- The text of a path. -/
def writePath (segments : List (List Char)) : String :=
  String.ofList (segments.flatMap ('/' :: ·))

/-- A path after its first slash. -/
def slashPath (special : Bool) (cs : List Char) : String :=
  writePath (trailOf special false cs).passed.reverse

/-- A path after an authority. -/
def pathAfterHost (special : Bool) (cs : List Char) : String :=
  match cs with
  | [] => if special then "/" else ""
  | c :: rest => slashPath special (if isSeparator special c then rest else c :: rest)

/-- The path of a file after its first slash, and whether it begins with the letter of a drive.
    Empty segments at the front are left out, but not the last segment. -/
def filePath (cs : List Char) : String × Bool :=
  let trail := trailOf true true cs
  let shown := trail.passed.reverse.dropWhile (·.isEmpty)
  (writePath (if shown.isEmpty then [[]] else shown), trail.hasDrive)

end HostDaemon.Url
