import SignalDesk.Json.Number
import SignalDesk.Network.Http

namespace SignalDesk

def ParamValue.form : ParamValue → Json
  | text s => .text s
  | int n => .int n

def Request.form (r : Request) : Json :=
  let headers (key : String) : Json := .object [("X-MBX-APIKEY", .text key)]
  .object <| Json.given
    [("method", some (.text r.method.name)), ("url", some (.text r.url)),
      ("params", some (.object (r.params.map fun (name, v) => (name, v.form)))),
      ("timeout", some (.real r.timeout)), ("headers", r.key.map headers)]

/-- A reply: an answer with status and body, a fault by its kind, or silence. -/
def Reply.ofFields (fields : List (Text × Json)) : Reply :=
  let text (name : String) : String :=
    match Json.fieldOrNull fields name with
    | .text s => s.characters
    | _ => ""
  match Json.fieldOrNull fields "raise", Json.fieldOrNull fields "hang" with
  | .text kind, _ => .fault ⟨(FaultKind.ofName? kind.characters).getD .connectError, text "message"⟩
  | _, .bool true => .silence
  | _, _ => .answer ((Json.fieldOrNull fields "status").toInteger.toOption.getD 0) (text "body")

end SignalDesk
