import SignalDesk.Store.Basic

namespace SignalDesk

/-- A signal as it is offered. Script, symbol, timeframe and the candle's time may be any values. -/
structure SignalOffer where
  script : Json
  side : Decision
  symbol : Json
  timeframe : Json
  price : Real64
  stopLoss : Real64
  takeProfit : Real64
  candleTime : Json

/-- The row that an offer makes, `none` if a value is missing or not admitted. -/
def SignalOffer.row? (o : SignalOffer) (id : Int) (now : String) :
    Except StoreError (Option StoredSignal) := do
  let script ← Store.cell o.script
  let symbol ← Store.cell o.symbol
  let timeframe ← Store.cell o.timeframe
  let candleTime ← Store.figure? o.candleTime
  return do
    let script ← script
    let side ← o.side
    let symbol ← symbol
    let timeframe ← timeframe
    let price ← Store.stored? o.price
    let stopLoss ← Store.stored? o.stopLoss
    let takeProfit ← Store.stored? o.takeProfit
    let candleTime ← candleTime
    some ⟨id, script, side, symbol, timeframe, price, stopLoss, takeProfit, candleTime, false, now,
      none⟩

namespace Store

variable (s : Store)

def isSignalFor (script timeframe : String) (candleTime : Figure) (r : StoredSignal) : Bool :=
  r.script == script && r.timeframe == timeframe && r.candleTime.same candleTime

/-- Keeps a signal and gives its number, or nothing if there is one for the candle or the offer is
not admitted. -/
def addSignal (o : SignalOffer) (now : String) : Except StoreError (Option Int × Store) :=
  let id := nextId (s.signals.map (·.id))
  (o.row? id now).map fun
    | none => (none, s)
    | some row =>
      if s.signals.any (isSignalFor row.script row.timeframe row.candleTime) then (none, s)
      else (some id, { s with signals := s.signals ++ [row] })

def signal? (id : Int) : Option StoredSignal := s.signals.find? (·.id == id)

/-- Whether the signal for a candle was handed on. -/
def isProcessed (script timeframe : String) (candleTime : Figure) : Bool :=
  ((s.signals.find? (isSignalFor script timeframe candleTime)).map (·.processed)).getD false

/-- Marks a signal as handed on, and tells whether it was not before. -/
def markProcessed (id : Int) (now : String) : Bool × Store :=
  (s.signals.any fun r => r.id == id && !r.processed,
    { s with signals := s.signals.map fun r =>
        if r.id == id && !r.processed then { r with processed := true, processedAt := some now }
        else r })

/-- The signals not handed on, oldest first. -/
def unprocessed (limit : Int) : Except StoreError (List StoredSignal) :=
  (requireWord limit).map fun _ => limited limit (s.signals.filter (!·.processed))

end Store
end SignalDesk
