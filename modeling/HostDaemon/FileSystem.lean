import HostDaemon.Path
import HostDaemon.Text.Utf8

/-! # The file system

A file system as a table from absolute locations to files and directories, with the few operations
that hosting needs: asking what a path names, reading, creating directories, appending, creating a
file that must not exist, and removing. A path is followed part by part, so that every part before
the last one has to name a directory that exists. -/

namespace HostDaemon

/-- What a location holds. -/
inductive FileNode where
  /-- A directory. -/
  | directory
  /-- A file with its bytes; `runnable` says whether it may be started as a program. -/
  | file (bytes : List UInt8) (runnable : Bool)
deriving Repr, DecidableEq

/-- Why an operation on a file fails. -/
inductive FileError where
  /-- Nothing is there. -/
  | notFound
  /-- Something is there already. -/
  | alreadyExists
  /-- A part of the path before the last one is not a directory. -/
  | notDirectory
  /-- A directory is there and a file is needed. -/
  | isDirectory
  /-- The file may not be used in this way. -/
  | denied
  /-- A part of the path is longer than 255 bytes, or the path longer than 4095. -/
  | nameTooLong
  /-- The path holds a character that ends it. -/
  | nulInPath
deriving Repr, DecidableEq

/-- The text of the error, as the operating system words it. -/
def FileError.message : FileError → String
  | .notFound => "No such file or directory (os error 2)"
  | .alreadyExists => "File exists (os error 17)"
  | .notDirectory => "Not a directory (os error 20)"
  | .isDirectory => "Is a directory (os error 21)"
  | .denied => "Permission denied (os error 13)"
  | .nameTooLong => "File name too long (os error 36)"
  | .nulInPath => "file name contained an unexpected NUL byte"

/-- Where something lies: the names from the root down. -/
abbrev Location := List String

/-- The locations that hold something. The root holds a directory even where the table does not
    say so. -/
structure FileSystem where
  /-- What each location holds; the first entry of a location counts. -/
  entries : List (Location × FileNode)
deriving Repr

namespace FileSystem

/-- A file system with nothing but the root. -/
def empty : FileSystem := ⟨[]⟩

/-- What a location holds. -/
def get? (fs : FileSystem) (l : Location) : Option FileNode :=
  if l = [] then some .directory else fs.entries.lookup l

/-- Put something at a location, in place of what was there. -/
def put (fs : FileSystem) (l : Location) (node : FileNode) : FileSystem :=
  ⟨(l, node) :: fs.entries.filter (·.1 ≠ l)⟩

/-- Take away what a location holds. -/
def erase (fs : FileSystem) (l : Location) : FileSystem := ⟨fs.entries.filter (·.1 ≠ l)⟩

/-! ### Following a path -/

/-- Follow the parts from the location `here`. The answer is where the path ends, with what is
    there; `none` says that nothing is there but that the directory around it exists. -/
def follow (fs : FileSystem) (here : Location) :
    List String → Except FileError (Location × Option FileNode)
  | [] => .ok (here, fs.get? here)
  | part :: more =>
    match fs.get? here with
    | none => .error .notFound
    | some (.file _ _) => .error .notDirectory
    | some .directory =>
      if Text.Utf8.sizeOfChars part.toList > 255 then .error .nameTooLong
      else if Path.isVoid part then follow fs here more
      else if part = ".." then follow fs here.dropLast more
      else
        let next := here ++ [part]
        if more = [] ∧ fs.get? next = none then .ok (next, none) else follow fs next more

/-- Where a path leads. A path that is not absolute begins at the root. -/
def locate (fs : FileSystem) (p : Path) : Except FileError (Location × Option FileNode) :=
  if p = "" then .error .notFound
  else if p.toList.contains '\x00' then .error .nulInPath
  else if Text.Utf8.sizeOfChars p.toList > 4095 then .error .nameTooLong
  else follow fs [] (Path.parts p)

/-- What a path names. -/
def node? (fs : FileSystem) (p : Path) : Option FileNode :=
  match fs.locate p with
  | .ok (_, node) => node
  | .error _ => none

/-- Does the path name a file? -/
def isFile (fs : FileSystem) (p : Path) : Bool :=
  match fs.node? p with
  | some (.file _ _) => true
  | _ => false

/-- Does the path name a directory? -/
def isDirectory (fs : FileSystem) (p : Path) : Bool := fs.node? p = some .directory

/-- Does the path name anything? -/
def contains (fs : FileSystem) (p : Path) : Bool := (fs.node? p).isSome

/-! ### Reading and writing -/

/-- The bytes of a file. -/
def read (fs : FileSystem) (p : Path) : Except FileError (List UInt8) :=
  match fs.locate p with
  | .error e => .error e
  | .ok (_, none) => .error .notFound
  | .ok (_, some .directory) => .error .isDirectory
  | .ok (_, some (.file bytes _)) => .ok bytes

/-- Create the directory `p` if it is missing, with every directory above it that is missing. -/
def createDirectories (fs : FileSystem) (p : Path) : Except FileError FileSystem :=
  if p = "" then .ok fs
  else if p.toList.contains '\x00' then .error .nulInPath
  else if Text.Utf8.sizeOfChars p.toList > 4095 then .error .nameTooLong
  else go fs [] (Path.parts p)
where
  /-- Create the directories that the parts name below `here`. -/
  go (fs : FileSystem) (here : Location) : List String → Except FileError FileSystem
    | [] => .ok fs
    | part :: more =>
      if Text.Utf8.sizeOfChars part.toList > 255 then .error .nameTooLong
      else if Path.isVoid part then go fs here more
      else if part = ".." then go fs here.dropLast more
      else
        let next := here ++ [part]
        match fs.get? next with
        | none => go (fs.put next .directory) next more
        | some .directory => go fs next more
        | some (.file _ _) =>
          .error (if more.all Path.isVoid then .alreadyExists else .notDirectory)

/-- Open a file for writing at its end, creating it if it is missing. -/
def openAppend (fs : FileSystem) (p : Path) : Except FileError (Location × FileSystem) :=
  match fs.locate p with
  | .error e => .error e
  | .ok (l, none) => .ok (l, fs.put l (.file [] false))
  | .ok (_, some .directory) => .error .isDirectory
  | .ok (l, some (.file _ _)) => .ok (l, fs)

/-- Write bytes at the end of the file at a location. Nothing happens where no file is there: it
    was removed while it was open. -/
def appendAt (fs : FileSystem) (l : Location) (bytes : List UInt8) : FileSystem :=
  match fs.get? l with
  | some (.file old runnable) => fs.put l (.file (old ++ bytes) runnable)
  | _ => fs

/-- Create a file that must not exist yet. -/
def createNew (fs : FileSystem) (p : Path) (bytes : List UInt8) : Except FileError FileSystem :=
  match fs.locate p with
  | .error e => .error e
  | .ok (l, none) => .ok (fs.put l (.file bytes false))
  | .ok (_, some _) => .error .alreadyExists

/-- Write a file in place of whatever was in it. -/
def write (fs : FileSystem) (p : Path) (bytes : List UInt8) : Except FileError FileSystem :=
  match fs.locate p with
  | .error e => .error e
  | .ok (_, some .directory) => .error .isDirectory
  | .ok (l, some (.file _ runnable)) => .ok (fs.put l (.file bytes runnable))
  | .ok (l, none) => .ok (fs.put l (.file bytes false))

/-- Remove a file. -/
def removeFile (fs : FileSystem) (p : Path) : Except FileError FileSystem :=
  match fs.locate p with
  | .error e => .error e
  | .ok (_, none) => .error .notFound
  | .ok (_, some .directory) => .error .isDirectory
  | .ok (l, some (.file _ _)) => .ok (fs.erase l)

/-- Make a directory where that can be done. -/
def ensureDirectory (fs : FileSystem) (p : Path) : FileSystem :=
  (fs.createDirectories p).toOption.getD fs

/-- Put a text into a file, with the directories above it, where that can be done. -/
def place (fs : FileSystem) (p : Path) (text : String) : FileSystem :=
  let fs := fs.ensureDirectory ((Path.parent? p).getD "")
  (fs.write p (Text.Utf8.bytesOf text)).toOption.getD fs

/-- Take away what a path names, with everything below it. -/
def removeTree (fs : FileSystem) (p : Path) : FileSystem :=
  match fs.locate p with
  | .ok (l, some _) => ⟨fs.entries.filter fun (entry, _) => !l.isPrefixOf entry⟩
  | _ => fs

/-- The names in a directory, in no particular order. -/
def names (fs : FileSystem) (p : Path) : List String :=
  match fs.locate p with
  | .ok (l, some .directory) =>
    (fs.entries.filterMap fun (entry, _) =>
      if entry ≠ [] ∧ entry.dropLast = l then entry.getLast? else none).eraseDups
  | _ => []

end FileSystem

end HostDaemon
