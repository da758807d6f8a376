import HostDaemon.Wire.Message
import HostDaemon.Wire.Tagged
import HostDaemon.Wire.Views

/-! # Requests as JSON

The JSON form of a request and how it is decoded again. Fields that have a default are written
even where they hold it, but for a missing port or owner, which is left out. -/

namespace HostDaemon.Request

open Wire Wire.Fields

/-- The names of the requests. -/
def names : List String :=
  ["host", "kill", "kill_mine", "list", "send", "send_all", "broadcast", "kill_all",
    "kill_version", "kill_inactive", "protect", "info", "log", "query", "cleanup", "accepting",
    "shutdown"]

/-- A member that is left out where there is no value. -/
def member? (name : String) (v : Option Json) : List (String × Json) :=
  match v with
  | some v => [(name, v)]
  | none => []

/-- The JSON form of a request. -/
def encode : Request → Json
  | .host owner options port recovering =>
    Tagged.encode "host" ([("owner", .text owner), ("options", .text options)] ++
      member? "port" (port.map .ofUInt16) ++ [("recovering", .bool recovering)])
  | .kill requester port =>
    Tagged.encode "kill" [("requester", .text requester), ("port", .ofUInt16 port)]
  | .killMine requester => Tagged.encode "kill_mine" [("requester", .text requester)]
  | .list owner => Tagged.encode "list" (member? "owner" (owner.map .text))
  | .send requester port command =>
    Tagged.encode "send" [("requester", .text requester), ("port", .ofUInt16 port),
      ("command", .text command)]
  | .sendAll requester command =>
    Tagged.encode "send_all" [("requester", .text requester), ("command", .text command)]
  | .broadcast requester message =>
    Tagged.encode "broadcast" [("requester", .text requester), ("message", .text message)]
  | .killAll requester => Tagged.encode "kill_all" [("requester", .text requester)]
  | .killVersion requester version =>
    Tagged.encode "kill_version" [("requester", .text requester), ("version", .text version)]
  | .killInactive requester days =>
    Tagged.encode "kill_inactive" [("requester", .text requester), ("days", .ofUInt64 days)]
  | .protect requester port =>
    Tagged.encode "protect" [("requester", .text requester), ("port", .ofUInt16 port)]
  | .info requester port =>
    Tagged.encode "info" [("requester", .text requester), ("port", .ofUInt16 port)]
  | .log requester port lines =>
    Tagged.encode "log" [("requester", .text requester), ("port", .ofUInt16 port),
      ("lines", .ofUInt64 lines)]
  | .query port => Tagged.encode "query" [("port", .ofUInt16 port)]
  | .cleanup requester => Tagged.encode "cleanup" [("requester", .text requester)]
  | .accepting requester enabled =>
    Tagged.encode "accepting" [("requester", .text requester), ("enabled", .bool enabled)]
  | .shutdown => Tagged.encode "shutdown" []

/-- The request that the content of a tagged value holds. -/
def ofTagged (t : Tagged) : Except DecodeFault Request :=
  let record := fun (variant : String) (fields : Fields Request) =>
    fields.decode s!"struct variant Request::{variant}" t.content
  let requester := required "requester" text
  let port := required "port" uint16
  match t.tag with
  | "host" =>
    record "Host" (.host <$> required "owner" text <*> required "options" text <*>
      withDefault "port" none (optional uint16) <*> withDefault "recovering" false bool)
  | "kill" => record "Kill" (.kill <$> requester <*> port)
  | "kill_mine" => record "KillMine" (.killMine <$> requester)
  | "list" => record "List" (.list <$> withDefault "owner" none (optional text))
  | "send" => record "Send" (.send <$> requester <*> port <*> required "command" text)
  | "send_all" => record "SendAll" (.sendAll <$> requester <*> required "command" text)
  | "broadcast" => record "Broadcast" (.broadcast <$> requester <*> required "message" text)
  | "kill_all" => record "KillAll" (.killAll <$> requester)
  | "kill_version" => record "KillVersion" (.killVersion <$> requester <*> required "version" text)
  | "kill_inactive" =>
    record "KillInactive" (.killInactive <$> requester <*> required "days" uint64)
  | "protect" => record "Protect" (.protect <$> requester <*> port)
  | "info" => record "Info" (.info <$> requester <*> port)
  | "log" =>
    record "Log" (.log <$> requester <*> port <*> withDefault "lines" defaultLogLines count)
  | "query" => record "Query" (.query <$> port)
  | "cleanup" => record "Cleanup" (.cleanup <$> requester)
  | "accepting" => record "Accepting" (.accepting <$> requester <*> required "enabled" bool)
  | "shutdown" => t.withoutFields .shutdown
  | other => .error (.unknownVariant other names)

end HostDaemon.Request
