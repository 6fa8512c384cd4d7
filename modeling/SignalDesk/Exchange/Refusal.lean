import SignalDesk.Json.Number
import SignalDesk.Json.Reader
import SignalDesk.Json.Writer
import SignalDesk.Network.Http
import SignalDesk.Text.Search

namespace SignalDesk

/-- A part of an answer that cannot be used as what it stands for. -/
inductive ShapeFault
  | unhashable (type : String)
  | notIterable (type : String)
deriving DecidableEq, Repr

def ShapeFault.message : ShapeFault → String
  | unhashable type => "unhashable type: '" ++ type ++ "'"
  | notIterable type => "argument of type '" ++ type ++ "' is not iterable"

/-- Why the first fill of an order does not read. -/
inductive FillFault
  | missing
  | wrongType
  | notNumeral
deriving DecidableEq, Repr

def FillFault.name : FillFault → String
  | missing => "KeyError"
  | wrongType => "TypeError"
  | notNumeral => "ValueError"

inductive OrderError
  | unreachable (f : Fault)
  | unreadable
  | tooDeep (inObject : Bool)
  | unexpected (answer : Json)
  | fill (fault : FillFault)
  | rateLimited (message : Json)
  | keyRefused (message code : Json)
  | rejected (message code : Json)
  | fault (f : Fault)
  | shape (fault : ShapeFault)
  | number (fault : NumberFault)
  | timedOut (seconds : Real64)

/-- What an error says; a message of the exchange is kept as it came. -/
def OrderError.message : OrderError → Text
  | unreachable f => "Exchange unreachable: " ++ f.message
  | unreadable => "Unreadable exchange response: not a document"
  | tooDeep inObject => (ReadFault.tooDeep inObject).message
  | unexpected answer => "Unexpected exchange response: " ++ answer.shown
  | fill f => "Malformed order fill: " ++ f.name
  | rateLimited message => message.asText
  | keyRefused message _ => message.asText
  | rejected message _ => message.asText
  | fault f => if f.message.isEmpty then f.kind.name else f.message
  | shape f => f.message
  | number f => f.message
  | timedOut seconds => "Order timed out after " ++ seconds.briefText ++ "s"

namespace Refusal

def keyMarkers : List String :=
  ["Invalid API-key", "permissions for action", "API-key format invalid"]

def keyCodes : List Int := [-2014, -2015, -1022]

def waitCodes : List Int := [-1003, -1015]

/-- Whether a code is one of `codes`, as an integer or as a real number. -/
def hasCode (codes : List Int) : Json → Except ShapeFault Bool
  | .int n => .ok (codes.contains n)
  | .real x => .ok (codes.any fun n => x.same (.ofInt n))
  | v@(.list _) | v@(.object _) => .error (.unhashable v.kind)
  | _ => .ok false

/-- Whether a text points at the caller's key. -/
def marksKey (t : Text) : Bool := keyMarkers.any t.holds

def isText (s : String) : Json → Bool
  | .text t => t == s
  | _ => false

/-- Whether a message that is given points at the caller's key. In a list or an object a marker has
to be an entry or a name. -/
def hasMarker (message : Json) : Except ShapeFault Bool :=
  match message with
  | .text s => .ok (marksKey s)
  | .list items => .ok (keyMarkers.any fun m => items.any (isText m))
  | .object fields => .ok (keyMarkers.any fun m => fields.any (·.1 == m))
  | v => if v.isTruthy then .error (.notIterable v.kind) else .ok false

/-- Whether a refusal points at the caller's key, by its code or by its message. -/
def isKeyFault (message code : Json) : Except ShapeFault Bool := do
  if ← hasCode keyCodes code then return true else hasMarker message

/-- Classifies a refusal by status, code and message, in this order. -/
def classify (status : Int) (message code : Json) : OrderError :=
  if status = 418 || status = 429 then .rateLimited message
  else
    match hasCode waitCodes code with
    | .error fault => .shape fault
    | .ok true => .rateLimited message
    | .ok false =>
      match isKeyFault message code with
      | .error fault => .shape fault
      | .ok true => .keyRefused message code
      | .ok false => .rejected message code

def defaultMessage (status : Int) : String := "Binance API error: " ++ toString status

/-- The refusal in an answer with an error status; the body may tell a code and a message. -/
def ofAnswer (status : Int) (body : Except ReadFault Json) : OrderError :=
  match body with
  | .error (.tooDeep inObject) => .tooDeep inObject
  | .ok (.object fields) =>
    let message := Json.fieldOrNull fields "msg"
    classify status (if message.isTruthy then message else .text (defaultMessage status))
      (Json.fieldOrNull fields "code")
  | _ => classify status (.text (defaultMessage status)) .null

end Refusal

/-- What became of an order. -/
structure OrderRecord where
  failed : Bool
  error : Json

namespace OrderRecord

def keyRefused (r : OrderRecord) : Except ShapeFault Bool :=
  if r.failed then Refusal.hasMarker r.error else .ok false

/-- Whether the key was refused each time; the first time that it was not ends the search. -/
def allRefused : List OrderRecord → Except ShapeFault Bool
  | [] => .ok true
  | r :: rest => r.keyRefused.bind fun refused => if refused then allRefused rest else .ok false

/-- The first `count` records; below zero all but the last `-count`. -/
def first (count : Int) (records : List OrderRecord) : List OrderRecord :=
  if 0 ≤ count then records.take count.toNat else records.take (records.length - (-count).toNat)

def warning (count : Int) : String :=
  "Your exchange API key was rejected on the last " ++ toString count ++
    " trades. Reconnect your API key to resume trading."

/-- The warning for records with the newest first; `threshold` of them are looked at. -/
def warning? (threshold : Int) (records : List OrderRecord) : Except ShapeFault (Option String) :=
  let recent := first threshold records
  if (recent.length : Int) < threshold then .ok none
  else (allRefused recent).map fun refused => if refused then some (warning threshold) else none

end OrderRecord

end SignalDesk
