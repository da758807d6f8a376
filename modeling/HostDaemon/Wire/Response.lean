import HostDaemon.Wire.Message
import HostDaemon.Wire.Tagged
import HostDaemon.Wire.Views

/-! # Responses as JSON

The JSON form of a response and how it is decoded again. -/

namespace HostDaemon.Response

open Wire Wire.Fields

/-- The names of the responses. -/
def names : List String :=
  ["success", "error", "hosted", "server_list", "server_info", "log_lines", "query_result"]

/-- The JSON form of a response. -/
def encode : Response → Json
  | .success none => Tagged.encode "success" []
  | .success (some message) => Tagged.encode "success" [("message", .text message)]
  | .error message => Tagged.encode "error" [("message", .text message)]
  | .hosted server => Tagged.encode "hosted" [("server", server.encode)]
  | .serverList servers =>
    Tagged.encode "server_list" [("servers", .array (servers.map ServerSummary.encode))]
  | .serverInfo info => Tagged.encode "server_info" [("info", info.encode)]
  | .logLines port lines =>
    Tagged.encode "log_lines" [("port", .ofUInt16 port), ("lines", .ofTexts lines)]
  | .queryResult report => Tagged.encode "query_result" [("report", report.encode)]

/-- The response that the content of a tagged value holds. -/
def ofTagged (t : Tagged) : Except DecodeFault Response :=
  let record := fun (variant : String) (fields : Fields Response) =>
    fields.decode s!"struct variant Response::{variant}" t.content
  match t.tag with
  | "success" => record "Success" (.success <$> withDefault "message" none (optional text))
  | "error" => record "Error" (.error <$> required "message" text)
  | "hosted" => record "Hosted" (.hosted <$> required "server" ServerSummary.decode)
  | "server_list" =>
    record "ServerList" (.serverList <$> required "servers" (list ServerSummary.decode))
  | "server_info" => record "ServerInfo" (.serverInfo <$> required "info" ServerSecrets.decode)
  | "log_lines" =>
    record "LogLines" (.logLines <$> required "port" uint16 <*> required "lines" (list text))
  | "query_result" =>
    record "QueryResult" (.queryResult <$> required "report" QueryReport.decode)
  | other => .error (.unknownVariant other names)

end HostDaemon.Response
