import HostDaemon.Json.Printer
import HostDaemon.Text.Blank
import HostDaemon.Wire.Request
import HostDaemon.Wire.Response

/-! # Message lines

A message is one line of JSON. White space at the end of a line is dropped before it is read, and a
line with nothing else is refused. -/

namespace HostDaemon.Wire

/-- Why a line is no message. -/
inductive LineError where
  /-- The line is no JSON value. -/
  | broken (text : String) (fault : Json.Fault)
  /-- The value has no tag that could be read; `column` says where that is seen. -/
  | untagged (fault : DecodeFault) (column : Nat)
  /-- The fields of the message are wrong. -/
  | wrongFields (fault : DecodeFault)
  /-- The line holds nothing. -/
  | malformed (reason : String)
deriving Repr

/-- The reason why a line holds no value of its kind, where there is one. -/
def LineError.reason : LineError → String
  | .broken text fault => fault.message text.toList
  | .untagged fault column => Json.atColumn fault.message column
  | .wrongFields fault => fault.message
  | .malformed reason => reason

/-- The text of the error. -/
def LineError.message : LineError → String
  | .malformed reason => s!"malformed message: {reason}"
  | e => s!"failed to serialize/deserialize JSON: {e.reason}"

/-- Read a line as one of the messages with the names `possible`. -/
def readLine {α : Type} (what : String) (possible : List String)
    (ofTagged : Tagged → Except DecodeFault α) (line : String) : Except LineError α := do
  let text := Text.trimEnd line
  if text = "" then .error (.malformed "empty line")
  let cs := text.toList
  match Tagged.nameFault? possible cs with
  | some (fault, place) => .error (.untagged fault (Json.columnOf cs place))
  | none =>
    match Json.readFront cs with
    | .error fault => .error (.broken text fault)
    | .ok (v, rest) =>
      match Tagged.ofJson what possible v with
      | .error fault => .error (.untagged fault (Json.columnOf cs rest))
      | .ok tagged =>
        match ofTagged tagged with
        | .error fault => .error (.wrongFields fault)
        | .ok message =>
          match Json.skipSpace rest with
          | [] => .ok message
          | rest => .error (.broken text ⟨.trailingText, rest, true⟩)

/-- The line of a JSON value. -/
def writeLine (v : Json) : String := String.ofList (v.write ++ ['\n'])

end HostDaemon.Wire

namespace HostDaemon

/-- Read a request. -/
def Request.readLine (line : String) : Except Wire.LineError Request :=
  Wire.readLine "Request" Request.names Request.ofTagged line

/-- Write a request. -/
def Request.writeLine (r : Request) : String := Wire.writeLine r.encode

/-- Read a response. -/
def Response.readLine (line : String) : Except Wire.LineError Response :=
  Wire.readLine "Response" Response.names Response.ofTagged line

/-- Write a response. -/
def Response.writeLine (r : Response) : String := Wire.writeLine r.encode

end HostDaemon
