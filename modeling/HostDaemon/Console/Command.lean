import HostDaemon.Text.Basic
import HostDaemon.Text.Blank
import HostDaemon.Text.Lowercase

/-! # Console commands

The lines that are written to the console of a server: a user's command with an echo that names
its sender, announcements, and bans. Users' text stands between double quotes on such a line, with
a backslash before each of its own. -/

namespace HostDaemon.ConsoleCommand

/-- Commands that may not be sent to every server with arguments, since they would make all
    servers alike or reach for the file system. -/
def deniedForAll : List String := ["sv_hostname", "sv_website", "logfile"]

/-- Commands whose arguments are free text, which is put between double quotes. -/
def quotedCommands : List String := ["sv_hostname", "echo", "say"]

/-- The word in a name that stands for the service's own name. -/
def brandToken : String := "$brand"

/-- A character of user text. -/
def escapeChar (c : Char) : List Char := if c = '"' then ['\\', '"'] else [c]

/-- User text for a place between double quotes: every double quote gets a backslash before it. -/
def escapeQuotes (text : String) : String := String.ofList (text.toList.flatMap escapeChar)

/-- Does the character end a command? -/
def endsCommand (c : Char) : Bool := c == '\n' || c == '\r' || c == ';'

/-- The command's name and its arguments, of the part before the first semicolon or line break;
    `none` where there is nothing but blanks. -/
def split? (raw : String) : Option (String × String) :=
  let segment := Text.dropBlank (raw.toList.takeWhile (!endsCommand ·))
  if segment = [] then none
  else
    match Text.cutAt? Text.isBlank segment with
    | some (name, rest) => some (String.ofList name, String.ofList (Text.trimBlank rest))
    | none => some (String.ofList segment, "")

/-- The arguments as they are sent: those of some commands are put between double quotes, and in
    a server's name the brand's token is replaced first. -/
def sentArguments (name arguments : String) (brand : Option String) : String :=
  if quotedCommands.contains (Text.lowercase name) && arguments ≠ "" then
    let arguments :=
      match brand with
      | some brand =>
        if Text.sameLetters name "sv_hostname" then Text.replace brandToken brand arguments
        else arguments
      | none => arguments
    "\"" ++ escapeQuotes arguments ++ "\""
  else arguments

/-- The two lines of a command: an echo that names the sender, and the command itself. `none`
    where there is no command. -/
def prepare? (raw sender : String) (brand : Option String) : Option (List String) :=
  (split? raw).map fun (name, arguments) =>
    let arguments := sentArguments name arguments brand
    let shown := if arguments = "" then name else name ++ " " ++ escapeQuotes arguments
    let command := if arguments = "" then name ++ ";" else name ++ " " ++ arguments ++ ";"
    ["echo \"-> " ++ shown ++ " (RCON by " ++ escapeQuotes sender ++ ")\";", command]

/-- May the command not be sent to every server? -/
def isDenied (name arguments : String) : Bool :=
  arguments ≠ "" && deniedForAll.contains (Text.lowercase name)

/-- The line above and below an announcement. -/
def announcementRule : String := "say \"\\cf--------------\\cc\";"

/-- The lines of an announcement. -/
def broadcastLines (message : String) : List String :=
  [announcementRule, "say \"GLOBAL ANNOUNCEMENT: " ++ escapeQuotes message ++ "\";",
    announcementRule]

/-- The line that bans a player for good. -/
def banLine (ip serviceShort reason : String) : String :=
  "addban " ++ ip ++ " perm \"\\ciBanned from all " ++ serviceShort ++ " servers: " ++
    escapeQuotes reason ++ "\";"

/-- The line that turns away a player who comes through a proxy. -/
def proxyBanLine (ip serviceShort : String) : String :=
  "addban " ++ ip ++ " 10minute \"\\ciProxy connections are not allowed on " ++ serviceShort ++
    " servers.\";"

/-- The line that sets a server's name with the common beginning. -/
def hostnameLine (base value : String) : String :=
  "sv_hostname \"" ++ base ++ " " ++ escapeQuotes value ++ "\";"

end HostDaemon.ConsoleCommand
