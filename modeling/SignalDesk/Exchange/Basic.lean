import SignalDesk.Exchange.Order
import SignalDesk.Exchange.Refusal
import SignalDesk.Network.Program

namespace SignalDesk

structure Keys where
  key : String
  secret : String
deriving DecidableEq, Repr

/-- An acknowledged order. The exchange may show any value as symbol, side and status. -/
structure Acknowledgement where
  order : Text
  symbol : Json
  side : Json
  executed : Real64
  price : Real64
  status : Json

structure Exchange where
  url : String
  timeout : Real64
  keys : Keys
deriving DecidableEq, Repr

namespace Exchange

def orderPath : String := "/api/v3/order"

/-- The clock of requests: seconds as a number, times a thousand in rounded arithmetic. -/
def requestTime (ms : Int) : Int :=
  let seconds := Real64.ofQuotient (decide (ms < 0)) ms.natAbs 1000
  ((seconds.mul (.ofInt 1000)).truncate?).getD 0

def request (x : Exchange) (params : Params) (clock : Int) : Request :=
  { method := .post
    url := x.url ++ orderPath
    params := (params.signed x.keys.secret (requestTime clock)).map fun (n, v) => (n, .text v)
    timeout := x.timeout
    key := some x.keys.key }

/-- The fields of an answer. `patience` is how long an answer is waited for. -/
def fields (patience : Real64) : Reply → Except OrderError (List (Text × Json))
  | .silence => .error (.timedOut patience)
  | .fault f => .error (if f.kind.isRequest then .unreachable f else .fault f)
  | .answer status body =>
    if 400 ≤ status then .error (Refusal.ofAnswer status (Json.readBody body))
    else
      match Json.readBody body with
      | .error .malformed => .error .unreadable
      | .error (.tooDeep inObject) => .error (.tooDeep inObject)
      | .ok (.object fields) => .ok fields
      | .ok answer => .error (.unexpected answer)

/-- A number of a fill. -/
def fillNumber (v : Json) : Except OrderError Real64 :=
  match v.toReal with
  | .ok x => .ok x
  | .error .wrongType => .error (.fill .wrongType)
  | .error .notNumeral => .error (.fill .notNumeral)
  | .error fault => .error (.number fault)

/-- The price of the first fill, zero without fills. -/
def fillPrice (fields : List (Text × Json)) : Except OrderError Real64 :=
  let fills := Json.fieldOrNull fields "fills"
  if !fills.isTruthy then .ok .zero
  else
    match fills with
    | .list (.object fill :: _) =>
      match Json.field? fill "price" with
      | some v => fillNumber v
      | none => .error (.fill .missing)
    | .object _ => .error (.fill .missing)
    | _ => .error (.fill .wrongType)

/-- Reads an acknowledgement; what it leaves out is taken from the order. -/
def acknowledgement (o : Order) (fields : List (Text × Json)) :
    Except OrderError Acknowledgement := do
  let price ← fillPrice fields
  let executed ← fillNumber ((Json.field? fields "executedQty").getD (.text o.quantity))
  return {
    order := ((Json.field? fields "orderId").getD (.text "")).asText
    symbol := (Json.field? fields "symbol").getD (.text o.symbol)
    side := (Json.field? fields "side").getD (.text o.side)
    executed
    price
    status := (Json.field? fields "status").getD (.text "") }

variable {σ : Type}

/-- Sends a market order. -/
def placeMarket (x : Exchange) (clock : σ → Int) (patience : Real64) (o : Order) :
    Program σ (Except OrderError Acknowledgement) :=
  .act id fun s =>
    .ask (x.request o.market (clock s)) fun reply =>
      .done ((fields patience reply).bind (acknowledgement o))

/-- Sends legs in turn and gives the names of those that were accepted. -/
def placeLegs (x : Exchange) (clock : σ → Int) : List (String × Params) → Program σ (List String)
  | [] => .done []
  | (name, params) :: legs =>
    .act id fun s =>
      .ask (x.request params (clock s)) fun reply =>
        (placeLegs x clock legs).map fun placed =>
          match fields .zero reply with
          | .ok _ => name :: placed
          | .error _ => placed

/-- Sends the protective legs of an order. A leg that fails is left out. -/
def placeProtective (x : Exchange) (clock : σ → Int) (o : Order) : Program σ (List String) :=
  x.placeLegs clock o.legs

end Exchange
end SignalDesk
