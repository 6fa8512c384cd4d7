import SignalDesk.Store.Accounts

namespace SignalDesk

/-- What a trade is reserved with. The time of the candle may be any value. -/
structure Reservation where
  user : Label
  script : Label
  symbol : Label
  timeframe : Label
  side : Decision
  candleTime : Json
  entryPrice : Real64
  stopLoss : Real64
  takeProfit : Real64
  reason : Label
  quantity : Option String

/-- Why a trade is not reserved. -/
inductive ReserveError
  | duplicate (message : String)
  | noCoins (user : Label)
  | store (e : StoreError)
deriving DecidableEq, Repr

def ReserveError.message : ReserveError → String
  | duplicate message => message
  | noCoins user => "User " ++ user.shown ++ " has no coins remaining"
  | store e => e.message

namespace Reservation

/-- What the message about a second trade for a candle says. Only a time that is a label makes a
trade. -/
def duplicateMessage (r : Reservation) : String :=
  "Trade exists for " ++ r.user.shown ++ "/" ++ r.script.shown ++ "/" ++ r.timeframe.shown ++ "@" ++
    ((Label.ofJson? r.candleTime).map Label.shown).getD ""

/-- What the ledger says about the coin. -/
def ledgerReason (r : Reservation) : String :=
  r.side.name ++ " " ++ r.symbol.shown ++ " " ++ r.timeframe.shown

/-- The trade that a reservation makes, when its values are admitted. -/
def trade (r : Reservation) (id : Int) (now : String) : Except StoreError Trade := do
  let user ← Store.require "trades.user_id" r.user.stored
  let script ← Store.require "trades.script_id" r.script.stored
  let symbol ← Store.require "trades.symbol" r.symbol.stored
  let timeframe ← Store.require "trades.timeframe" r.timeframe.stored
  let candleTime ← Store.require "trades.candle_open_time" (← Store.figure? r.candleTime)
  let entryPrice ← Store.require "trades.entry_price" (Store.stored? r.entryPrice)
  let stopLoss ← Store.require "trades.stop_loss" (Store.stored? r.stopLoss)
  let takeProfit ← Store.require "trades.take_profit" (Store.stored? r.takeProfit)
  match r.side with
  | none => .error (.check "signal_type IN ('BUY', 'SELL')")
  | some side =>
    return {
      id, user, script, symbol, timeframe, side, candleTime, entryPrice
      exitPrice := none, stopLoss, takeProfit, quantity := r.quantity, status := .pending
      error := none, order := none, reason := r.reason.stored, createdAt := now, openedAt := none
      closedAt := none }

end Reservation

/-- What trades are looked for; an empty text or none stands for any. -/
structure TradeFilter where
  status : String
  user : String
  script : String
deriving DecidableEq, Repr

def TradeFilter.admits (f : TradeFilter) (t : Trade) : Bool :=
  (f.status.isEmpty || t.status.name == f.status) && (f.user.isEmpty || t.user == f.user) &&
    (f.script.isEmpty || t.script == f.script)

namespace Store

variable (s : Store)

/-- Whether a trade was made for a candle. -/
def isTradeFor (user script timeframe : String) (candleTime : Figure) (t : Trade) : Bool :=
  t.user == user && t.script == script && t.timeframe == timeframe &&
    t.candleTime.same candleTime

def hasTradeFor (user script timeframe : String) (candleTime : Figure) : Bool :=
  s.trades.any (isTradeFor user script timeframe candleTime)

/-- Adds a pending trade and takes a coin for it. -/
def reserve (r : Reservation) (now : String) : Except ReserveError (Int × Store) :=
  let id := nextId (s.trades.map (·.id))
  match r.trade id now with
  | .error e => .error (.store e)
  | .ok trade =>
    if s.hasTradeFor trade.user trade.script trade.timeframe trade.candleTime then
      .error (.duplicate r.duplicateMessage)
    else
      match s.profile? trade.user with
      | none => .error (.noCoins r.user)
      | some profile =>
        let after := profile.coins.amount.plus (-1)
        if !profile.coins.isPositive then .error (.noCoins r.user)
        else if after.isNegative then .error (.store (.check "coins >= 0"))
        else
          let paid := (({ s with trades := s.trades ++ [trade] }).setCoins trade.user after).record
            trade.user (after.plus 1) after "trade_debit" (some r.ledgerReason) "engine" (some id)
            now
          .ok (id, paid)

/-- Changes the trade of a number, if `p` holds of it. -/
def changeTrade (id : Int) (p : Trade → Bool) (change : Trade → Trade) : Store :=
  { s with trades := s.trades.map fun t => if t.id == id && p t then change t else t }

def isPending (t : Trade) : Bool := t.status = .pending

/-- A pending trade opens. A fill without a price keeps the entry price. -/
def markOpen (id : Int) (order : Option String) (price : Option Real64) (quantity : Option String)
    (now : String) : Store :=
  s.changeTrade id isPending fun t =>
    { t with
      status := .opened
      order
      openedAt := some now
      entryPrice := ((price.filter (!·.isZero)).bind stored?).getD t.entryPrice
      quantity := quantity.or t.quantity }

def markFailed (id : Int) (message : Option String) : Store :=
  s.changeTrade id isPending fun t => { t with status := .failed, error := message }

def markCancelled (id : Int) (message : Option String) : Store :=
  s.changeTrade id isPending fun t => { t with status := .cancelled, error := message }

def isOpenOf (user : Option String) (t : Trade) : Bool :=
  t.status = .opened && (user.map (t.user == ·)).getD true

/-- Closes an open trade, of a certain user if one is given, and tells whether there was one. -/
def close (id : Int) (price : Real64) (user : Option String) (now : String) : Bool × Store :=
  (s.trades.any (fun t => t.id == id && isOpenOf user t),
    s.changeTrade id (isOpenOf user) fun t =>
      { t with status := .closed, exitPrice := stored? price, closedAt := some now })

def trade? (id : Int) : Option Trade := s.trades.find? (·.id == id)

/-- The trades that a filter admits, the newest first, and how many there are in all. -/
def tradesOf (f : TradeFilter) (limit : Int) : Except StoreError (List Trade × Nat) :=
  let trades := (s.trades.filter f.admits).reverse
  (requireWord limit).map fun _ => (limited limit trades, trades.length)

end Store
end SignalDesk
