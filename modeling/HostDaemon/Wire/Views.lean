import HostDaemon.Server.Views
import HostDaemon.Wire.Record

/-! # The views of a server as JSON

The JSON form of the summary, the secrets and the status report of a server, and how each is
decoded again. A process identifier is left out where there is none. -/

namespace HostDaemon

open Wire Wire.Fields

namespace ServerStage

/-- The names of the stages. -/
def names : List String := ["launching", "running", "stopped"]

/-- The stage with a name. -/
def ofName (s : String) : Except DecodeFault ServerStage :=
  match s with
  | "launching" => .ok .launching
  | "running" => .ok .running
  | "stopped" => .ok .stopped
  | _ => .error (.unknownVariant s names)

/-- A stage is written as its name; an object with the name as its only member is also read. -/
def decode : Json → Except DecodeFault ServerStage
  | .text s => ofName s
  | .object [(name, content)] => do
    let stage ← ofName name
    match content with
    | .null | .object [] => .ok stage
    | v => .error (.invalidType (describe v) "unit")
  | .object _ => .error (.invalidValue "map" "map with a single key")
  | v => .error (.invalidType (describe v) "string or map")

end ServerStage

namespace ServerSummary

/-- The fields in order. -/
def fields : Fields ServerSummary :=
  ServerSummary.mk <$> required "id" text <*> required "port" uint16 <*> required "owner" text <*>
    required "hostname" text <*> required "version" text <*> required "iwad" text <*>
    withDefault "wads" [] (list text) <*> required "state" ServerStage.decode <*>
    withDefault "pid" none (optional uint32) <*> required "uptime" uint64 <*>
    withDefault "restarts" 0 uint32 <*> withDefault "protected" false bool <*>
    withDefault "auto_restart" false bool <*> required "last_activity" int64

/-- The JSON form of a summary. -/
def encode (s : ServerSummary) : Json :=
  .object ([("id", .text s.id), ("port", .ofUInt16 s.port), ("owner", .text s.owner),
    ("hostname", .text s.hostname), ("version", .text s.version), ("iwad", .text s.iwad),
    ("wads", .ofTexts s.wads), ("state", .text s.stage.name)] ++
    (match s.pid with
      | some pid => [("pid", .ofUInt32 pid)]
      | none => []) ++
    [("uptime", .ofUInt64 s.uptime), ("restarts", .ofUInt32 s.restarts),
      ("protected", .bool s.isProtected), ("auto_restart", .bool s.autoRestart),
      ("last_activity", .ofInt64 s.lastActivity)])

/-- The summary that a value holds. -/
def decode (v : Json) : Except DecodeFault ServerSummary :=
  fields.decode "struct InstanceSummary" v

end ServerSummary

namespace ServerSecrets

/-- The fields in order. -/
def fields : Fields ServerSecrets :=
  ServerSecrets.mk <$> required "id" text <*> required "port" uint16 <*>
    required "rcon_password" text <*> required "join_password" text <*>
    required "connect_password" text <*> required "log_path" text

/-- The JSON form of the secrets. -/
def encode (s : ServerSecrets) : Json :=
  .object [("id", .text s.id), ("port", .ofUInt16 s.port), ("rcon_password", .text s.rconPassword),
    ("join_password", .text s.joinPassword), ("connect_password", .text s.connectPassword),
    ("log_path", .text s.logPath)]

/-- The secrets that a value holds. -/
def decode (v : Json) : Except DecodeFault ServerSecrets :=
  fields.decode "struct InstanceSecrets" v

end ServerSecrets

namespace QueryReport

/-- The fields in order. -/
def fields : Fields QueryReport :=
  QueryReport.mk <$> required "summary" ServerSummary.decode <*>
    withDefault "recent" [] (list text)

/-- The JSON form of a report. -/
def encode (r : QueryReport) : Json :=
  .object [("summary", r.summary.encode), ("recent", .ofTexts r.recent)]

/-- The report that a value holds. -/
def decode (v : Json) : Except DecodeFault QueryReport := fields.decode "struct QueryReport" v

end QueryReport

end HostDaemon
