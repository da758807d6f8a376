import HostDaemon.Number.Bounded
import HostDaemon.Text.Basic

/-! # Arguments of a program

Reading the words that a program is started with against a description of what it takes: flags,
options with a value, and positional values. The words are taken one after the other. A value is
looked at when the next flag, option or positional value begins, or at the end, so an unknown flag
right after a bad value is what gets reported. After a word of two dashes every word is a
positional value. -/

namespace HostDaemon.Cli

/-- Why the words are refused, or what is shown instead of running. -/
inductive UsageError where
  /-- A positional value is missing. -/
  | missingRequiredArgument
  /-- A flag, an option or a positional value is not known. -/
  | unknownArgument
  /-- A value is not of its kind. -/
  | valueValidation
  /-- A flag or an option is given twice. -/
  | argumentConflict
  /-- An option stands without its value. -/
  | invalidValue
  /-- A flag is given a value. -/
  | tooManyValues
  /-- A command is not known. -/
  | invalidSubcommand
  /-- Help was asked for. -/
  | displayHelp
  /-- The version was asked for. -/
  | displayVersion
deriving Repr, DecidableEq

/-- What a value has to be. -/
inductive ValueKind where
  /-- Any text. -/
  | text
  /-- A port. -/
  | port
  /-- A whole number of 64 bits. -/
  | number
  /-- On or off, in one of several words. -/
  | switch
deriving Repr, DecidableEq

/-- A value that has been read. -/
inductive Value where
  /-- A text. -/
  | text (s : String)
  /-- A port. -/
  | port (n : UInt16)
  /-- A whole number. -/
  | number (n : UInt64)
  /-- On or off. -/
  | switch (on : Bool)
deriving Repr, DecidableEq

/-- A port: a whole number from 0 to 65535, of which zero may carry a minus sign. -/
def readPort? (s : String) : Option UInt16 :=
  match s.toList with
  | '-' :: digits =>
    if !digits.isEmpty && digits.all (· == '0') then some 0 else none
  | _ => Number.readUInt16? s

/-- On or off, the case of the letters A to Z ignored. -/
def readSwitch? (s : String) : Option Bool :=
  let word := Text.asciiLower s
  if ["on", "true", "yes", "enable", "1"].contains word then some true
  else if ["off", "false", "no", "disable", "0"].contains word then some false
  else none

/-- The value of a word. -/
def ValueKind.read? (kind : ValueKind) (s : String) : Option Value :=
  match kind with
  | .text => some (.text s)
  | .port => (readPort? s).map .port
  | .number => (Number.readUInt64? s).map .number
  | .switch => (readSwitch? s).map .switch

/-- An option's value or a positional value. -/
structure Parameter where
  /-- The name; that of an option follows two dashes. -/
  name : String
  /-- What a value has to be. -/
  kind : ValueKind
  /-- May there be more than one value? -/
  many : Bool
deriving Repr, DecidableEq

/-- What a program or one of its commands takes. -/
structure Shape where
  /-- The names of flags, which follow two dashes. -/
  flags : List String
  /-- Options with a value. -/
  options : List Parameter
  /-- Positional values in order; all of them are required. -/
  positionals : List Parameter
  /-- The names of commands. -/
  commands : List String
  /-- Can the version be asked for? -/
  hasVersion : Bool

/-- What has been read. -/
structure Matches where
  /-- The flags that were given. -/
  flags : List String
  /-- The values of options and positional values by name. -/
  values : List (String × List Value)
deriving Repr

namespace Matches

/-- Nothing has been read. -/
def empty : Matches := ⟨[], []⟩

/-- Is the flag given? -/
def hasFlag (m : Matches) (name : String) : Bool := m.flags.contains name

/-- All values of a name. -/
def all (m : Matches) (name : String) : List Value := (m.values.lookup name).getD []

/-- Add values to a name. -/
def add (m : Matches) (name : String) (values : List Value) : Matches :=
  { m with values := (name, m.all name ++ values) :: m.values.filter (·.1 ≠ name) }

/-- The texts among the values of a name. -/
def texts (m : Matches) (name : String) : List String :=
  (m.all name).filterMap fun
    | .text s => some s
    | _ => none

/-- The first text of a name. -/
def text? (m : Matches) (name : String) : Option String := (m.texts name).head?

/-- The first port of a name. -/
def port? (m : Matches) (name : String) : Option UInt16 :=
  (m.all name).findSome? fun
    | .port n => some n
    | _ => none

/-- The first number of a name. -/
def number? (m : Matches) (name : String) : Option UInt64 :=
  (m.all name).findSome? fun
    | .number n => some n
    | _ => none

/-- The first switch of a name. -/
def switch? (m : Matches) (name : String) : Option Bool :=
  (m.all name).findSome? fun
    | .switch on => some on
    | _ => none

end Matches

/-- Values that have been taken and not been looked at. -/
structure Pending where
  /-- To whom they belong. -/
  parameter : Parameter
  /-- The words in order. -/
  words : List String
deriving Repr

/-- How far the reading has come. -/
structure Progress where
  /-- What has been read. -/
  found : Matches
  /-- What has been taken and not been looked at. -/
  pending : Option Pending
  /-- Does an option wait for its value? -/
  waiting : Bool
  /-- How many positional parameters are full. -/
  position : Nat
deriving Repr

namespace Progress

/-- The start. -/
def start : Progress := ⟨.empty, none, false, 0⟩

/-- Look at what is pending: there has to be a value, a parameter for one value must not have one
    yet, and every value has to be of its kind. -/
def resolve (p : Progress) : Except UsageError Progress :=
  match p.pending with
  | none => .ok p
  | some ⟨parameter, words⟩ =>
    if words.isEmpty then .error .invalidValue
    else if !parameter.many && !(p.found.all parameter.name).isEmpty then .error .argumentConflict
    else
      match words.mapM parameter.kind.read? with
      | none => .error .valueValidation
      | some values => .ok { p with found := p.found.add parameter.name values, pending := none }

/-- Set a flag. -/
def setFlag (p : Progress) (name : String) : Except UsageError Progress := do
  let p ← p.resolve
  if p.found.hasFlag name then .error .argumentConflict
  else return { p with found := { p.found with flags := name :: p.found.flags }, waiting := false }

/-- Begin an option; its value may come with it. -/
def setOption (p : Progress) (parameter : Parameter) (value : Option String) :
    Except UsageError Progress := do
  let p ← p.resolve
  match value with
  | some word =>
    let p ← { p with pending := some ⟨parameter, [word]⟩ }.resolve
    return { p with waiting := false }
  | none => return { p with pending := some ⟨parameter, []⟩, waiting := true }

/-- Show something instead of running, once what is pending has been looked at. -/
def display (p : Progress) (what : UsageError) : Except UsageError Progress := do
  let _ ← p.resolve
  .error what

/-- A word that begins with two dashes, without them. -/
def takeLong (shape : Shape) (p : Progress) (word : List Char) : Except UsageError Progress :=
  let (name, value) :=
    match Text.cutAt? (· == '=') word with
    | some (name, value) => (String.ofList name, some (String.ofList value))
    | none => (String.ofList word, none)
  match shape.options.find? (·.name = name) with
  | some parameter => p.setOption parameter value
  | none =>
    let known :=
      shape.flags.contains name || name == "help" || (name == "version" && shape.hasVersion)
    if !known then .error .unknownArgument
    else if value.isSome then .error .tooManyValues
    else if name = "help" then p.display .displayHelp
    else if name = "version" then p.display .displayVersion
    else p.setFlag name

/-- A word that begins with one dash, without it: the letters ask for help or for the version. -/
def takeShort (shape : Shape) (p : Progress) : List Char → Except UsageError Progress
  | 'h' :: _ => p.display .displayHelp
  | 'V' :: _ => if shape.hasVersion then p.display .displayVersion else .error .unknownArgument
  | _ => .error .unknownArgument

/-- Take the first word of a positional parameter. -/
def take (p : Progress) (parameter : Parameter) (word : String) : Progress :=
  { p with
    pending := some ⟨parameter, [word]⟩
    waiting := false
    position := if parameter.many then p.position else p.position + 1 }

/-- A positional value. -/
def takePositional (shape : Shape) (p : Progress) (afterDashes : Bool) (word : String) :
    Except UsageError Progress :=
  match shape.positionals[p.position]? with
  | none =>
    .error
      (if shape.commands.isEmpty || (afterDashes && shape.commands.contains word) then
        .unknownArgument
      else .invalidSubcommand)
  | some parameter =>
    match p.pending with
    | some pending =>
      if parameter.many && pending.parameter.name == parameter.name then
        .ok { p with pending := some { pending with words := pending.words ++ [word] } }
      else do
        let p ← p.resolve
        return p.take parameter word
    | none => .ok (p.take parameter word)

end Progress

/-- What reading some words gives: how far it came and, where a command was named, its name and
    the words after it. -/
structure Reading where
  /-- How far the reading came. -/
  progress : Progress
  /-- The command and the words after it. -/
  command : Option (String × List String)

/-- Read words against a description, up to a command's name. -/
def readWords (shape : Shape) (p : Progress) (afterDashes : Bool) :
    List String → Except UsageError Reading
  | [] => .ok ⟨p, none⟩
  | word :: words =>
    if afterDashes then do
      let p ← p.takePositional shape true word
      readWords shape p true words
    else if !p.waiting && shape.commands.contains word then .ok ⟨p, some (word, words)⟩
    else
      match word.toList with
      | ['-', '-'] => readWords shape p true words
      | '-' :: '-' :: rest => do
        let p ← p.takeLong shape rest
        readWords shape p false words
      | '-' :: c :: rest => do
        let p ← p.takeShort shape (c :: rest)
        readWords shape p false words
      | _ =>
        if p.waiting then
          let pending := p.pending.map fun pending =>
            { pending with words := pending.words ++ [word] }
          readWords shape { p with pending := pending, waiting := false } false words
        else do
          let p ← p.takePositional shape false word
          readWords shape p false words

/-- Finish reading: look at what is pending, and see that no positional value is missing. -/
def finish (shape : Shape) (p : Progress) : Except UsageError Matches := do
  let p ← p.resolve
  if shape.positionals.any fun parameter => (p.found.all parameter.name).isEmpty then
    .error .missingRequiredArgument
  else return p.found

end HostDaemon.Cli
