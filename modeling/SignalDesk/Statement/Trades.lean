import SignalDesk.Statement.Basic
import SignalDesk.Store.Signals

namespace SignalDesk.Statement

def reserveTrade : Operation where
  name := "reserve_trade"
  required :=
    ["user_id", "script_id", "symbol", "timeframe", "signal_type", "candle_open_time",
      "entry_price", "stop_loss", "take_profit"]
  optional := ["reason", "quantity"]
  perform c a s := do
    let entryPrice ← real (a.get "entry_price")
    let stopLoss ← real (a.get "stop_loss")
    let takeProfit ← real (a.get "take_profit")
    let user ← label (a.get "user_id")
    let script ← label (a.get "script_id")
    let symbol ← label (a.get "symbol")
    let timeframe ← label (a.get "timeframe")
    let side ← text? (a.get "signal_type")
    let _ ← figure? (a.get "candle_open_time")
    let quantity ← text? (a.get "quantity")
    let reason ← label (a.getOr "reason" (.text ""))
    for (column, name) in [("user_id", user), ("script_id", script), ("symbol", symbol),
        ("timeframe", timeframe)] do
      discard (need ("trades." ++ column) name.stored)
    let r : Reservation :=
      { user, script, symbol, timeframe, side := Side.ofName? (← need "trades.signal_type" side)
        candleTime := a.get "candle_open_time", entryPrice, stopLoss, takeProfit, reason
        quantity }
    match s.reserve r c.now with
    | .ok (id, s) => return (.int id, s)
    | .error (.store e) => throw (.store e)
    | .error e => throw (.reserve e)

/-- An operation on one trade, whose number is taken last; where none is named nothing changes. -/
def marking (name : String) (required optional : List String)
    (mark : Scene → Arguments → Except StatementError (Store → Int → Store)) : Operation :=
  writing name ("trade_id" :: required) optional fun c a s => do
    let mark ← mark c a
    return ((← row? (a.get "trade_id")).map (mark s)).getD s

def markOpen : Operation :=
  marking "mark_open" ["order_id"] ["fill_price", "quantity"] fun c a => do
    let price ← real (a.get "fill_price")
    let order ← text? (a.get "order_id")
    let quantity ← text? (a.get "quantity")
    return fun s id => s.markOpen id order (some price) quantity c.now

def markFailed : Operation :=
  marking "mark_failed" ["error_message"] [] fun _ a => do
    let message ← text? (a.get "error_message")
    return fun s id => s.markFailed id message

def markCancelled : Operation :=
  marking "mark_cancelled" ["error_message"] [] fun _ a => do
    let message ← text? (a.get "error_message")
    return fun s id => s.markCancelled id message

def closeTrade : Operation where
  name := "close_trade"
  required := ["trade_id", "exit_price"]
  optional := ["user_id"]
  perform c a s := do
    let price ← real (a.get "exit_price")
    match ← row? (a.get "trade_id"), ← text? (a.get "user_id") with
    | some id, user =>
      let (closed, s) := s.close id price user c.now
      return (.bool closed, s)
    | none, _ => return (.bool false, s)

def getTrade : Operation :=
  reading "get_trade" ["trade_id"] [] fun a s => do
    return formOrNull Trade.form ((← row? (a.get "trade_id")).bind s.trade?)

def hasTrade : Operation :=
  reading "exists_for_candle" ["user_id", "script_id", "timeframe", "candle_open_time"] []
    fun a s => do
      let user ← text? (a.get "user_id")
      let script ← text? (a.get "script_id")
      let timeframe ← text? (a.get "timeframe")
      let candleTime ← figure? (a.get "candle_open_time")
      return .bool <| Option.isSome do
        guard (s.hasTradeFor (← user) (← script) (← timeframe) (← candleTime))

def getTrades : Operation :=
  reading "get_trades" [] ["limit", "status_filter", "user_id", "script_id"] fun a s => do
    let filter : TradeFilter :=
      ⟨← wanted (a.get "status_filter"), ← wanted (a.get "user_id"), ← wanted (a.get "script_id")⟩
    return tradesForm (← ofStore (s.tradesOf filter (← limit (a.getOr "limit" (.int 20)))))

def recentTrades : Operation :=
  reading "recent_for_user" ["user_id"] ["limit"] fun a s => do
    let user ← wanted (a.get "user_id")
    let (trades, _) ← ofStore (s.tradesOf ⟨"", user, ""⟩ (← limit (a.getOr "limit" (.int 3))))
    return .list (trades.map Trade.form)

def countTrades : Operation := reading "count" [] [] fun _ s => .ok (.int s.trades.length)

def trades : List Operation :=
  [reserveTrade, markOpen, markFailed, markCancelled, closeTrade, getTrade, hasTrade, getTrades,
    recentTrades, countTrades]

def insertSignal : Operation where
  name := "insert"
  required :=
    ["script_id", "signal_type", "symbol", "timeframe", "price", "stop_loss", "take_profit",
      "candle_open_time"]
  optional := []
  perform c a s := do
    let price ← real (a.get "price")
    let stopLoss ← real (a.get "stop_loss")
    let takeProfit ← real (a.get "take_profit")
    let _ ← text? (a.get "script_id")
    let side ← text? (a.get "signal_type")
    let offer : SignalOffer :=
      { script := a.get "script_id", side := side.bind Side.ofName?, symbol := a.get "symbol"
        timeframe := a.get "timeframe", price, stopLoss, takeProfit
        candleTime := a.get "candle_open_time" }
    let (id, s) ← ofStore (s.addSignal offer c.now)
    return (.ofInt? id, s)

def getSignal : Operation :=
  reading "get" ["signal_id"] [] fun a s => do
    return formOrNull StoredSignal.form ((← row? (a.get "signal_id")).bind s.signal?)

def markProcessed : Operation where
  name := "mark_processed"
  required := ["signal_id"]
  optional := []
  perform c a s := do
    match ← row? (a.get "signal_id") with
    | some id =>
      let (marked, s) := s.markProcessed id c.now
      return (.bool marked, s)
    | none => return (.bool false, s)

def isProcessed : Operation :=
  reading "is_processed" ["script_id", "timeframe", "candle_open_time"] [] fun a s => do
    let script ← text? (a.get "script_id")
    let timeframe ← text? (a.get "timeframe")
    let candleTime ← figure? (a.get "candle_open_time")
    return .bool <| Option.isSome do
      guard (s.isProcessed (← script) (← timeframe) (← candleTime))

def listUnprocessed : Operation :=
  reading "list_unprocessed" [] ["limit"] fun a s => do
    let limit ← limit (a.getOr "limit" (.int 100))
    return .list ((← ofStore (s.unprocessed limit)).map StoredSignal.form)

def signals : List Operation :=
  [insertSignal, getSignal, markProcessed, isProcessed, listUnprocessed]

end SignalDesk.Statement
