import SignalDesk.Json.Number
import SignalDesk.Json.Reader
import SignalDesk.Market.Candle

namespace SignalDesk

/-- Why a payload is refused. -/
inductive PayloadFault
  | document (fault : ReadFault)
  | expected (what : String)
  | missing
  | wrongShape
  | number (fault : NumberFault)
  | inconsistent (openTime : Int)
deriving DecidableEq, Repr

def PayloadFault.message : PayloadFault → String
  | document fault => fault.message
  | expected what => "expected a list of " ++ what
  | missing => "an entry is missing"
  | wrongShape => "not an entry"
  | number fault => fault.message
  | inconsistent openTime => "inconsistent OHLC at " ++ toString openTime

/-- A number out of range and a document that goes too deep are no faults of the payload's form:
they end the whole request. -/
def PayloadFault.endsSearch : PayloadFault → Bool
  | number fault => fault.isOverflow
  | document (.tooDeep _) => true
  | _ => false

namespace Payload

abbrev Read (α : Type) := Except PayloadFault α

def real (v : Json) : Read Real64 := v.toReal.mapError .number

def integer (v : Json) : Read Int := v.toInteger.mapError .number

/-- The entries of a row: the items of a list, or the code points of a text. -/
def entries : Json → Read (List Json)
  | .list items => .ok items
  | .text s => .ok (s.points.map fun p => .text (.ofPoints [p]))
  | .object _ => .error .missing
  | _ => .error .wrongShape

def entry (row : List Json) (i : Nat) : Read Json :=
  match row[i]? with
  | some v => .ok v
  | none => .error .missing

/-- Whether a candle keeps its order; a NaN is out of order with nothing. -/
def isConsistent (c : Candle Real64) : Bool :=
  let higher := if c.openPrice.lt c.close then c.close else c.openPrice
  let lower := if c.close.lt c.openPrice then c.close else c.openPrice
  !(c.high.lt higher || lower.lt c.low)

def candle (row : Json) : Read (Candle Real64) := do
  let row ← entries row
  let openTime ← (entry row 0).bind integer
  let openPrice ← (entry row 1).bind real
  let high ← (entry row 2).bind real
  let low ← (entry row 3).bind real
  let close ← (entry row 4).bind real
  let volume ← (entry row 5).bind real
  let closeTime ← match row[6]? with
    | some v => integer v
    | none => .ok 0
  let c : Candle Real64 := ⟨openTime, openPrice, high, low, close, volume, closeTime⟩
  if isConsistent c then .ok c else .error (.inconsistent openTime)

def list {α : Type} (what : String) (item : Json → Read α) : Json → Read (List α)
  | .list items => items.mapM item
  | _ => .error (.expected what)

def candles : Json → Read (List (Candle Real64)) := list "klines" candle

/-- An optional number; what is not given counts as zero. -/
def optionalReal (fields : List (Text × Json)) (name : String) : Read Real64 :=
  let v := Json.fieldOrNull fields name
  real (if v.isTruthy then v else .int 0)

def ticker : Json → Read Ticker
  | .object fields => do
    let need (name : String) : Read Json :=
      match Json.field? fields name with
      | some v => .ok v
      | none => .error .missing
    let symbol ← need "symbol"
    let last ← (need "lastPrice").bind real
    let bid ← optionalReal fields "bidPrice"
    let ask ← optionalReal fields "askPrice"
    let high ← optionalReal fields "highPrice"
    let low ← optionalReal fields "lowPrice"
    let volume ← optionalReal fields "volume"
    let changePercent ← optionalReal fields "priceChangePercent"
    return ⟨symbol, last, bid, ask, high, low, volume, changePercent⟩
  | _ => .error .wrongShape

def tickers : Json → Read (List Ticker) := list "tickers" ticker

/-- The document in a body. -/
def document (body : String) : Read Json := (Json.readBody body).mapError .document

end Payload
end SignalDesk
