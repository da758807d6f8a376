import HostDaemon.Cli.Shape
import HostDaemon.ShellWord
import HostDaemon.Text.Blank
import HostDaemon.Wire.Message

/-! # The commands of the program

What the program can be asked for on its command line, and the request that each command makes. -/

namespace HostDaemon.Cli

/-- What the program is asked to do. -/
inductive Command where
  /-- Host a server. -/
  | host (options : List String) (port : Option UInt16) (recovering : Bool)
  /-- Kill the server on a port. -/
  | kill (port : UInt16)
  /-- Kill every own server. -/
  | killMine
  /-- List the servers. -/
  | list (owner : Option String)
  /-- Send a console command to one server. -/
  | send (port : UInt16) (words : List String)
  /-- Send a console command to every server. -/
  | sendAll (words : List String)
  /-- Announce a message on every server. -/
  | broadcast (words : List String)
  /-- Kill every server. -/
  | killAll
  /-- Kill every server of an engine version. -/
  | killVersion (version : String)
  /-- Kill unprotected servers that have been idle for some days. -/
  | killInactive (days : UInt64)
  /-- Protect a server from sweeps, or stop protecting it. -/
  | protect (port : UInt16)
  /-- Show the secrets of a server. -/
  | info (port : UInt16)
  /-- Show the last lines of a server's log. -/
  | log (port : UInt16) (lines : UInt64)
  /-- Ask for the status of a server. -/
  | query (port : UInt16)
  /-- Sweep idle servers now. -/
  | cleanup
  /-- Turn hosting on or off. -/
  | accepting (enabled : Bool)
  /-- Stop the daemon. -/
  | shutdown
deriving Repr, DecidableEq

/-- The program's arguments. -/
structure Invocation where
  /-- Run as the daemon. -/
  daemon : Bool
  /-- Show responses as JSON. -/
  json : Bool
  /-- The account in whose name to act. -/
  account : Option String
  /-- What to do. -/
  command : Option Command
deriving Repr, DecidableEq

/-! ### Descriptions -/

/-- The options that may stand anywhere. -/
def accountOption : Parameter := ⟨"as", .text, false⟩

/-- The flag that may stand anywhere. -/
def jsonFlag : String := "json"

/-- The description of a command. -/
def shapeOf (flags : List String) (options positionals : List Parameter) : Shape where
  flags := jsonFlag :: flags
  options := accountOption :: options
  positionals := positionals
  commands := []
  hasVersion := false

/-- A positional port. -/
def portParameter : Parameter := ⟨"port", .port, false⟩

/-- A positional list of words. -/
def wordsParameter (name : String) : Parameter := ⟨name, .text, true⟩

/-- A command: its names, its description, and how it is made of what was read. -/
structure CommandForm where
  /-- The name and other words for it. -/
  names : List String
  /-- The description. -/
  shape : Shape
  /-- The command. -/
  make : Matches → Command

/-- The port among what was read. -/
def portOf (m : Matches) : UInt16 := (m.port? "port").getD 0

/-- All commands. -/
def commandForms : List CommandForm := [
  ⟨["host"], shapeOf ["recovering"] [portParameter] [wordsParameter "options"], fun m =>
    .host (m.texts "options") (m.port? "port") (m.hasFlag "recovering")⟩,
  ⟨["kill"], shapeOf [] [] [portParameter], fun m => .kill (portOf m)⟩,
  ⟨["killmine"], shapeOf [] [] [], fun _ => .killMine⟩,
  ⟨["list", "ls"], shapeOf [] [⟨"owner", .text, false⟩] [], fun m => .list (m.text? "owner")⟩,
  ⟨["send"], shapeOf [] [] [portParameter, wordsParameter "command"], fun m =>
    .send (portOf m) (m.texts "command")⟩,
  ⟨["sendall"], shapeOf [] [] [wordsParameter "command"], fun m => .sendAll (m.texts "command")⟩,
  ⟨["broadcast"], shapeOf [] [] [wordsParameter "message"], fun m =>
    .broadcast (m.texts "message")⟩,
  ⟨["killall"], shapeOf [] [] [], fun _ => .killAll⟩,
  ⟨["killversion"], shapeOf [] [] [⟨"version", .text, false⟩], fun m =>
    .killVersion ((m.text? "version").getD "")⟩,
  ⟨["killinactive"], shapeOf [] [] [⟨"days", .number, false⟩], fun m =>
    .killInactive ((m.number? "days").getD 0)⟩,
  ⟨["protect"], shapeOf [] [] [portParameter], fun m => .protect (portOf m)⟩,
  ⟨["info"], shapeOf [] [] [portParameter], fun m => .info (portOf m)⟩,
  ⟨["log"], shapeOf [] [⟨"lines", .number, false⟩] [portParameter], fun m =>
    .log (portOf m) ((m.number? "lines").getD defaultLogLines)⟩,
  ⟨["query"], shapeOf [] [] [portParameter], fun m => .query (portOf m)⟩,
  ⟨["cleanup"], shapeOf [] [] [], fun _ => .cleanup⟩,
  ⟨["accepting"], shapeOf [] [] [⟨"state", .switch, false⟩], fun m =>
    .accepting ((m.switch? "state").getD false)⟩,
  ⟨["shutdown"], shapeOf [] [] [], fun _ => .shutdown⟩]

/-- The command that shows help. -/
def helpCommand : String := "help"

/-- The description of the program. -/
def programShape : Shape where
  flags := ["daemon", jsonFlag]
  options := [accountOption]
  positionals := []
  commands := commandForms.flatMap (·.names) ++ [helpCommand]
  hasVersion := true

/-! ### Reading -/

/-- What the words after the help command ask for. -/
def helpOf : List String → UsageError
  | [] => .displayHelp
  | [name] => if programShape.commands.contains name then .displayHelp else .invalidSubcommand
  | _ => .invalidSubcommand

/-- Read the program's arguments. What is given with a command takes the place of what is given
    before it. -/
def Invocation.parse (words : List String) : Except UsageError Invocation := do
  let r ← readWords programShape .start false words
  match r.command with
  | none =>
    let m ← finish programShape r.progress
    return ⟨m.hasFlag "daemon", m.hasFlag jsonFlag, m.text? "as", none⟩
  | some (name, rest) =>
    match commandForms.find? (·.names.contains name) with
    | none => .error (helpOf rest)
    | some form =>
      let sub ← readWords form.shape .start false rest
      let own ← finish form.shape sub.progress
      let m ← finish programShape r.progress
      return {
        daemon := m.hasFlag "daemon"
        json := own.hasFlag jsonFlag || m.hasFlag jsonFlag
        account := (own.text? "as").or (m.text? "as")
        command := some (form.make own) }

/-! ### Requests -/

/-- Words with a space between two neighbours. -/
def joinWords (words : List String) : String := Text.joinWith " " words

/-- A word of an option line: a value in which there is a blank is quoted. -/
def optionWord (word : String) : String :=
  match Text.cutAt? (· == '=') word.toList with
  | some (key, value) =>
    if value.any Text.isBlank then
      String.ofList (key ++ '=' :: ShellWord.quoteChars value)
    else word
  | none => word

/-- The option line of some words. -/
def joinOptions (words : List String) : String := joinWords (words.map optionWord)

/-- The request that a command makes in the name of an account. -/
def Command.toRequest (requester : String) : Command → Request
  | .host options port recovering => .host requester (joinOptions options) port recovering
  | .kill port => .kill requester port
  | .killMine => .killMine requester
  | .list owner => .list owner
  | .send port words => .send requester port (joinWords words)
  | .sendAll words => .sendAll requester (joinWords words)
  | .broadcast words => .broadcast requester (joinWords words)
  | .killAll => .killAll requester
  | .killVersion version => .killVersion requester version
  | .killInactive days => .killInactive requester days
  | .protect port => .protect requester port
  | .info port => .info requester port
  | .log port lines => .log requester port lines
  | .query port => .query port
  | .cleanup => .cleanup requester
  | .accepting enabled => .accepting requester enabled
  | .shutdown => .shutdown

/-- The account of somebody who does not say: the user of the machine. -/
def defaultAccount (user : Option String) : String := user.getD "local"

end HostDaemon.Cli
