import SignalDesk.Desk.Basic

/-!
# Runs

One run of an activation: gates, signal, reservation, order. Up to the reservation nothing is
written. The reservation takes the coin together with the trade, and from then on the coin stays
spent whatever becomes of the order.
-/

namespace SignalDesk
namespace Run

/-- How a run ends. -/
abbrev Ending := Except DeskError Run

/-- The gate of an activation's user for its script. -/
def gateOf (a : Activation) (s : Store) : Option Gate := do
  s.gate? (← a.user.stored) (← a.script.stored)

/-- The gate of an activation, when nothing holds it back. -/
def passGates (a : Activation) (flags : Option Flags) (s : Store) : Except Run Gate :=
  let flags := flags.getD s.currentFlags
  let gated (reason : String) := Except.error (a.result .skippedGated reason none)
  if !flags.tradingEnabled then gated "Trading is disabled"
  else if flags.paidMode &&
      !((a.user.stored.bind s.profile?).any (·.subscription != 0)) then
    gated "Subscription inactive"
  else
    match gateOf a s with
    | none => gated "Bot is disabled"
    | some gate => if gate.enabled then .ok gate else gated "Bot is disabled"

def invalidScript (a : Activation) (e : ScriptError) : Ending :=
  .ok (a.result .failed ("Invalid script: " ++ e.fullMessage) none)

/-- How a run ends without candles. -/
def withoutCandles (a : Activation) : FetchError → Ending
  | e@(.rateLimited) => .ok (a.result .deferred e.message none)
  | e@(.unavailable _) => .ok (a.result .failed e.message none)
  | e => .error (.fetch e)

/-- The signal of a strategy, or how a run ends without one. -/
def signalOf (a : Activation) (s : Strategy Real64) (candles : List (Candle Real64)) :
    Except Ending (Signal Real64) :=
  match Rule.evaluate none s candles with
  | .ok signal => .ok signal
  | .error (.history e@(.tooShort ..)) => .error (.ok (a.result .skippedNoSignal e.message none))
  | .error .ruleMissing => .error (invalidScript a .ruleMissing)
  | .error e => .error (.error (.rule e))

/-- The compiled script, kept for the next time. -/
def compile (script : Label) (content : String) (d : Desk) :
    Except ScriptError (Strategy Binary64) × Desk :=
  let (strategy, cache) := d.cache.get script content
  (strategy, { d with cache := cache })

/-- Evaluates an activation's script on candles of the market. -/
def evaluate (config : Config) (a : Activation) :
    Program Desk (Except Ending (Signal Real64)) := do
  match ← Program.atomically (compile a.script a.content) with
  | .error e => return .error (invalidScript a e)
  | .ok strategy =>
    let limit := a.overrides.candleLimitOr config.candleLimit
    match ← config.market.fetchCandles a.symbol a.timeframe limit with
    | .error e => return .error (withoutCandles a e)
    | .ok candles => return signalOf a (strategy.map .finite) candles

/-- A reserved trade and the order to place for it. -/
structure Reserved where
  trade : Int
  order : Order
  keys : Keys

/-- The order amount of an activation. -/
def quoteOf (config : Config) (a : Activation) : Real64 :=
  a.overrides.quoteAmountOr config.quoteAmount

def reservation (a : Activation) (signal : Signal Real64) (quantity : String) : Reservation :=
  { user := a.user, script := a.script, symbol := a.symbol, timeframe := a.timeframe
    side := signal.side, candleTime := signal.candleTime, entryPrice := signal.price
    stopLoss := signal.stopLoss, takeProfit := signal.takeProfit, reason := signal.reason.label
    quantity := some quantity }

def order (a : Activation) (signal : Signal Real64) (quantity : String) : Order :=
  ⟨a.symbol, signal.side.name, quantity, some signal.stopLoss, some signal.takeProfit⟩

/-- Whether a time is before a stamp; only numbers are. -/
def isBefore (time : Json) (ms : Int) : Except DeskError Bool :=
  match time with
  | .int n => .ok (decide (n < ms))
  | .bool b => .ok (decide ((if b then 1 else 0) < ms))
  | .real x => .ok (x.lt (.ofInt ms))
  | v => .error (.notInOrder v.kind)

/-- Whether a signal is from before the stamp of its gate. -/
def isStale (signal : Signal Real64) (started : Option Int) : Except DeskError Bool :=
  match started with
  | some ms => isBefore signal.candleTime ms
  | none => .ok false

/-- The time of a signal's candle as rows have it, if it is not from before the gate's stamp. -/
def timeOf (gate : Gate) (signal : Signal Real64) : Except DeskError (Option (Option Figure)) := do
  let started ← gate.startedMillis.mapError .stamp
  if ← isStale signal started then return none
  else return some (← (Store.figure? signal.candleTime).mapError .store)

/-- Whether an activation has a trade for the candle of a time. -/
def hasTrade (a : Activation) (time : Option Figure) (s : Store) : Bool :=
  Option.isSome do
    guard (s.hasTradeFor (← a.user.stored) (← a.script.stored) (← a.timeframe.stored) (← time))

/-- Whether a kept signal for the candle of a time was handed on. -/
def isHandedOn (a : Activation) (time : Option Figure) (s : Store) : Bool :=
  Option.isSome do guard (s.isProcessed (← a.script.stored) (← a.timeframe.stored) (← time))

/-- Checks a signal against gate and store and reserves a trade for it. -/
def commit (config : Config) (a : Activation) (gate : Gate) (signal : Signal Real64) (now : String)
    (s : Store) : Except Ending (Reserved × Store) :=
  let ending (outcome : Outcome) (reason : String) :=
    Except.error (.ok (a.result outcome reason (some signal)))
  if signal.side.isNone then .error (.ok (a.result .skippedNoSignal signal.reason.label none))
  else
    match timeOf gate signal with
    | .error e => .error (.error e)
    | .ok none => ending .skippedGated "Signal candle precedes bot start"
    | .ok (some time) =>
      if hasTrade a time s then ending .skippedDuplicate "Trade exists for candle"
      else if isHandedOn a time s then
        ending .skippedDuplicate "Signal already processed"
      else
        match a.user.stored.bind s.orderKeys? with
        | none => ending .failed "No exchange API key configured"
        | some keys =>
          let quantity := Order.quantityText (quoteOf config a) signal.price
          match s.reserve (reservation a signal quantity) now with
          | .ok (trade, s) => .ok (⟨trade, order a signal quantity, keys⟩, s)
          | .error e@(.duplicate _) => ending .skippedDuplicate e.message
          | .error e@(.noCoins _) => ending .skippedNoBudget e.message
          | .error (.store e) => .error (.error (.store e))

/-- Does `commit` on the desk; a run that ends there leaves the desk as it was. -/
def commitOn (config : Config) (a : Activation) (gate : Gate) (signal : Signal Real64) (d : Desk) :
    Except Ending Reserved × Desk :=
  match commit config a gate signal d.now d.store with
  | .error ending => (.error ending, d)
  | .ok (reserved, store) => (.ok reserved, { d with store := store })

/-- What the row of a trade is marked with when its order failed or was filled. -/
inductive Mark
  | refused (e : OrderError) (message : String)
  | filled (order : String) (price : Real64)

/-- The mark for what an order came to. What the exchange said has to be written as it came. -/
def markFor : Except OrderError Acknowledgement → Except StoreError Mark
  | .error e => (Store.written e.message).map (.refused e)
  | .ok answer => (Store.written answer.order).map (.filled · answer.price)

/-- The order of a reserved trade failed: asked to wait, the trade is cancelled and the run put
off. -/
def markRefused (trade : Int) (e : OrderError) (message : String) (d : Desk) : Desk :=
  match e with
  | .rateLimited _ => { d with store := d.store.markCancelled trade (some message) }
  | _ => { d with store := d.store.markFailed trade (some message) }

def refusedOutcome : OrderError → Outcome
  | .rateLimited _ => .deferred
  | _ => .executionFailed

def markFilled (r : Reserved) (order : String) (price : Real64) (d : Desk) : Desk :=
  { d with
    store := d.store.markOpen r.trade (some order) (some price) (some r.order.quantity) d.now }

def filledReason (order : String) (placed : List String) : String :=
  "Order " ++ order ++ " filled; protective legs: " ++
    (if placed.isEmpty then "none" else ", ".intercalate placed)

/-- Sends the market order, unless there is no time for it. The order has a turn of its own, and it
takes another one until the run hears of the answer. -/
def placeMarket (config : Config) (r : Reserved) :
    Program Desk (Except OrderError Acknowledgement) := do
  Program.giveWay
  let answer ←
    if config.orderTimeout.le .zero then pure (.error (.timedOut config.orderTimeout))
    else (config.exchange r.keys).placeMarket Desk.clock config.orderTimeout r.order
  Program.giveWay
  Program.giveWay
  return answer

/-- The result of a run that made a trade. -/
def tradedResult (a : Activation) (signal : Signal Real64) (r : Reserved) (outcome : Outcome)
    (reason : String) : Run :=
  { a.result outcome reason (some signal) with trade := some r.trade }

/-- Marks a reserved trade, and protects it when its order is filled. Without a mark the run breaks
off, and the trade is left pending. -/
def conclude (config : Config) (a : Activation) (signal : Signal Real64) (r : Reserved) :
    Except StoreError Mark → Program Desk Ending
  | .error e => return .error (.store e)
  | .ok (.refused e message) => do
    Program.modify (markRefused r.trade e message)
    return .ok (tradedResult a signal r (refusedOutcome e) message)
  | .ok (.filled order price) => do
    Program.modify (markFilled r order price)
    let placed ← (config.exchange r.keys).placeProtective Desk.clock r.order
    return .ok (tradedResult a signal r .executed (filledReason order placed))

/-- Places the order of a reserved trade. -/
def place (config : Config) (a : Activation) (signal : Signal Real64) (r : Reserved) :
    Program Desk Ending := do
  let answer ← placeMarket config r
  conclude config a signal r (markFor answer)

/-- Runs an activation once, with a signal from outside or with that of its script. -/
def run (config : Config) (a : Activation) (flags : Option Flags)
    (signal : Option (Signal Real64)) : Program Desk Ending := do
  match ← Program.read fun d => passGates a flags d.store with
  | .error r => return .ok r
  | .ok gate =>
    let signal ← match signal with
      | some signal => pure (.ok signal)
      | none => evaluate config a
    match signal with
    | .error ending => return ending
    | .ok signal =>
      match ← Program.atomically (commitOn config a gate signal) with
      | .error ending => return ending
      | .ok reserved => place config a signal reserved

end Run
end SignalDesk
