import HostDaemon.Number.Bounded
import HostDaemon.Text.Basic
import HostDaemon.Text.Blank
import HostDaemon.Text.Digit

/-! # What a console line tells

The lines that a game server prints, and the events that they tell of. Every kind of event has a
matcher of its own; a line goes through all of them in a fixed order and can tell of more than one
event. A line may begin with a time in square brackets, which is dropped first. -/

namespace HostDaemon

/-- A setting of a server that can be changed on its console and is kept track of. -/
inductive Credential where
  /-- The name that players see. -/
  | hostname
  /-- The password of the remote console. -/
  | rconPassword
  /-- The password for joining the game. -/
  | joinPassword
  /-- The password for connecting. -/
  | connectPassword
deriving Repr, DecidableEq

namespace Credential

/-- All of them. -/
def all : List Credential := [hostname, rconPassword, joinPassword, connectPassword]

/-- The console variable that holds it. -/
def cvar : Credential → String
  | hostname => "sv_hostname"
  | rconPassword => "sv_rconpassword"
  | joinPassword => "sv_joinpassword"
  | connectPassword => "sv_password"

/-- What it is called in notices. -/
def label : Credential → String
  | hostname => "Hostname"
  | rconPassword => "RCON Password"
  | joinPassword => "Join Password"
  | connectPassword => "Connect Password"

end Credential

/-- What a console line tells. -/
inductive ConsoleEvent where
  /-- The engine took another port. -/
  | alternatePort (port : UInt16)
  /-- The engine could not take its port and tried another. -/
  | bindRetry (port : UInt16)
  /-- The address that the engine is bound to. -/
  | boundAddress (address : String)
  /-- The startup is done; players may come. -/
  | initialized
  /-- A player is there; `checkReputation` where the player has just come. -/
  | playerSeen (name ip : String) (checkReputation : Bool)
  /-- A tracked setting was changed. -/
  | credentialChanged (credential : Credential) (value : String)
  /-- Players do something. -/
  | activity
deriving Repr, DecidableEq

namespace ConsoleLine

/-! ### Time stamps -/

/-- The line without a time in square brackets at its front, and without blanks at its ends. -/
def dropStamp (line : List Char) : List Char :=
  let line := Text.dropEndWhile (fun c => c == '\r' || c == '\n') line
  match line with
  | '[' :: _ =>
    match Text.cutAt? (· == ']') line with
    | some (_, rest) => Text.trimBlank rest
    | none => Text.trimBlank line
  | _ => Text.trimBlank line

/-- The line without a time in square brackets at its front, and without blanks at its ends. -/
def stripTimestamp (line : String) : String := String.ofList (dropStamp line.toList)

/-! ### Parts of lines -/

/-- Between one and `most` digits of any script, where no further digit follows. -/
def digits? (most : Nat) (cs : List Char) : Option (List Char × List Char) :=
  let found := cs.takeWhile Text.isDecimalDigit
  if found.isEmpty || most < found.length then none else some (found, cs.drop found.length)

/-- `count` more groups of an address, each after a dot. -/
def moreGroups? : (count : Nat) → List Char → Option (List Char × List Char)
  | 0, cs => some ([], cs)
  | count + 1, '.' :: cs => do
    let (group, rest) ← digits? 3 cs
    let (more, rest) ← moreGroups? count rest
    return ('.' :: (group ++ more), rest)
  | _ + 1, _ => none

/-- An address of four groups of digits. -/
def address? (cs : List Char) : Option (List Char × List Char) := do
  let (first, rest) ← digits? 3 cs
  let (more, rest) ← moreGroups? 3 rest
  return (first ++ more, rest)

/-- The port of a numeral. -/
def port? (digits : List Char) : Option UInt16 := Number.readUInt16? (String.ofList digits)

/-- The shortest beginning of one line after which `tail?` finds what it looks for. `before` holds
    what has been passed, last character first. -/
def shortest {α : Type} (tail? : List Char → Option α) (before : List Char) :
    List Char → Option (List Char × α)
  | [] => (tail? []).map fun found => (before.reverse, found)
  | c :: cs =>
    match tail? (c :: cs) with
    | some found => some (before.reverse, found)
    | none => if c = '\n' then none else shortest tail? (c :: before) cs

/-- Does the line end with `word`? -/
def endsWith (word line : List Char) : Bool := (Text.after? word.reverse line.reverse).isSome

/-! ### Matchers -/

/-- `using alternate port 10667.` -/
def alternatePort? (line : List Char) : Option ConsoleEvent := do
  let line := (Text.after? "Server ".toList line).getD line
  let rest ← Text.after? "using alternate port ".toList line
  let (digits, rest) ← digits? 5 rest
  let rest := (Text.after? ['.'] rest).getD rest
  if rest.all Text.isBlank then
    let port ← port? digits
    return .alternatePort port
  else none

/-- `NETWORK_Construct: Couldn't bind to 10666. Binding to 10667 instead...` -/
def bindRetry? (line : List Char) : Option ConsoleEvent := do
  let rest ← Text.after? "NETWORK_Construct: Couldn't bind to ".toList line
  let wanted := rest.takeWhile (!Text.isBlank ·)
  if wanted.length < 2 ∨ wanted.getLast? ≠ some '.' then none
  let rest ← Text.after? " Binding to ".toList (rest.drop wanted.length)
  let (digits, rest) ← digits? 5 rest
  if rest = " instead...".toList then
    let port ← port? digits
    return .bindRetry port
  else none

/-- `Bound to IP: 192.0.2.1:10666` -/
def boundAddress? (line : List Char) : Option ConsoleEvent := do
  let rest ← Text.after? "Bound to IP: ".toList line
  if rest.isEmpty || rest.contains '\n' then none
  else return .boundAddress (String.ofList (Text.trimBlank rest))

/-- A letter in the form in which letters are compared without regard to case: the letters A to Z
    in lowercase, and the long s as an s. -/
def foldLetter (c : Char) : Char := if c = 'ſ' then 's' else Text.asciiLowerChar c

/-- `UDP Initialized.`, or `==== Odamex Server Initialized ====`, in any case of letters. -/
def initialized? (line : List Char) : Option ConsoleEvent :=
  let line := line.map foldLetter
  let bars := line.takeWhile (· == '=')
  let framed :=
    match Text.after? " odamex server initialized ".toList (line.drop bars.length) with
    | some rest => !bars.isEmpty && !rest.isEmpty && rest.all (· == '=')
    | none => false
  if line = "udp initialized.".toList || framed then some .initialized else none

/-- The end of a line on which a player connects, after the name. -/
def connectTail? (cs : List Char) : Option (List Char) := do
  let rest ← Text.after? " (".toList cs
  let (ip, rest) ← address? rest
  let rest ← Text.after? [':'] rest
  let (_, rest) ← digits? 5 rest
  if rest = ") has connected.".toList then return ip else none

/-- `Name (192.0.2.1:10666) has connected.` A line of chat can be made to look like that, and is
    not believed. -/
def playerConnected? (line : List Char) : Option ConsoleEvent := do
  let (name, ip) ← shortest connectTail? [] line
  if (Text.after? "CHAT ".toList line).isSome then none
  else return .playerSeen (String.ofList name) (String.ofList ip) true

/-- What follows the name on a line of a list of players. -/
def listTail? (cs : List Char) : Option (List Char) := do
  let rest ← Text.after? " - IP ".toList cs
  let (ip, rest) ← address? rest
  let rest ← Text.after? [':'] rest
  match rest with
  | c :: _ => if Text.isDecimalDigit c then return ip else none
  | [] => none

/-- `0. Name - IP 192.0.2.1:10666`, with anything after it. -/
def playerListed? (line : List Char) : Option ConsoleEvent := do
  let (_, rest) ← digits? 2 line
  let rest ← Text.after? ". ".toList rest
  let (name, ip) ← shortest listTail? [] rest
  return .playerSeen (String.ofList name) (String.ofList ip) false

/-- Does the value of a setting end here: at the sender of the command or at the end? -/
def valueEnd? (cs : List Char) : Option Unit :=
  match Text.dropBlank cs with
  | [] => some ()
  | rest => (Text.after? "(RCON".toList rest).map fun _ => ()

/-- A value without blanks at its ends and then without a double quote at either end. -/
def unquote (value : List Char) : List Char :=
  let value := Text.trimBlank value
  let value :=
    match value with
    | '"' :: rest => rest
    | _ => value
  if value.getLast? = some '"' then value.dropLast else value

/-- `-> sv_hostname "Name" (RCON by somebody)` -/
def credentialChanged? (line : List Char) : Option ConsoleEvent := do
  let rest ← Text.after? "-> ".toList line
  let (credential, rest) ← Credential.all.findSome? fun credential =>
    (Text.after? credential.cvar.toList rest).bind fun rest =>
      match rest with
      | c :: _ => if Text.isBlank c then some (credential, Text.dropBlank rest) else none
      | [] => none
  let (value, _) ← shortest valueEnd? [] rest
  return .credentialChanged credential (String.ofList (unquote value))

/-- A line that ends by saying that somebody joined, connected or left. -/
def activity? (line : List Char) : Option ConsoleEvent :=
  if ["joined the game.", "has connected.", "disconnected."].any (endsWith ·.toList line) then
    some .activity
  else none

/-- All matchers in the order in which a line goes through them. -/
def matchers : List (List Char → Option ConsoleEvent) :=
  [alternatePort?, bindRetry?, boundAddress?, initialized?, playerConnected?, playerListed?,
    credentialChanged?, activity?]

/-- The events that a line tells of, in the order of the matchers. -/
def recognize (line : String) : List ConsoleEvent :=
  matchers.filterMap (· (dropStamp line.toList))

end ConsoleLine

end HostDaemon
