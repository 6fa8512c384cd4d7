import SignalDesk.Service.Basic

namespace SignalDesk
namespace Service

def signalFields : List String :=
  ["scriptId", "signalType", "symbol", "timeframe", "price", "candleOpenTime"]

/-- Whether a field is left out: not there, null or an empty text. -/
def isMissing (body : Body) (name : String) : Bool :=
  match Json.fieldOrNull body name with
  | .null => true
  | .text s => s.isEmpty
  | _ => false

def invalidSignal (detail : String) : Reply := error 400 ("Invalid signal: " ++ detail) none

/-- What to answer when a field gives no number. -/
def invalidNumber (fault : NumberFault) : Reply :=
  if fault.isOverflow then .error (.number fault) else invalidSignal fault.message

def readDecision (v : Json) : Except Reply Decision :=
  let name := v.asText.uppered
  match name.string?.bind Decision.ofName? with
  | some decision => .ok decision
  | none => .error (invalidSignal (name.shown ++ " is not a valid SignalType"))

/-- The signal that a body offers, or what to answer instead. -/
def readSignal (body : Body) : Except Reply SignalOffer := do
  let field := Json.fieldOrNull body
  match signalFields.filter (isMissing body) with
  | first :: rest =>
    .error (error 400 ("Missing field(s): " ++ ", ".intercalate (first :: rest)) (some first))
  | [] =>
    let real (v : Json) : Except Reply Real64 := v.toReal.mapError invalidNumber
    let zero := Json.real .zero
    let side ← readDecision (field "signalType")
    let price ← real (field "price")
    let stopLoss ← real (given body "stopLoss" zero)
    let takeProfit ← real (given body "takeProfit" zero)
    let candleTime ← (field "candleOpenTime").toInteger.mapError invalidNumber
    if !(price.isFinite && stopLoss.isFinite && takeProfit.isFinite) then
      .error (error 400 "price, stopLoss and takeProfit must be finite numbers" (some "price"))
    else if side.isNone then
      .error (error 400 "signalType must be BUY or SELL" (some "signalType"))
    else
      return {
        script := field "scriptId", side, symbol := .text (field "symbol").asText.uppered
        timeframe := field "timeframe", price, stopLoss, takeProfit
        candleTime := .int candleTime }

def keepSignal (offer : SignalOffer) (d : Desk) : Except StoreError (Option Int) × Desk :=
  match d.store.addSignal offer d.now with
  | .error e => (.error e, d)
  | .ok (id, store) => (.ok id, { d with store := store })

def duplicateForm : Json := .object [("status", .text "duplicate"), ("results", .list [])]

/-- Takes in a signal and hands it on. -/
def ingestSignal (service : Service) (body : Body) : Program Desk Reply := do
  match readSignal body with
  | .error reply => return reply
  | .ok offer =>
    match ← Program.atomically (keepSignal offer) with
    | .error e => return storeError e
    | .ok none => return ok duplicateForm
    | .ok (some id) =>
      match ← Sweep.dispatch service.config (.int id) with
      | .error e => return .error (.desk e)
      | .ok results =>
        return ok (.object
          [("status", .text "dispatched"), ("signalId", .int id),
            ("results", .list (results.map Run.form))])

end Service
end SignalDesk
