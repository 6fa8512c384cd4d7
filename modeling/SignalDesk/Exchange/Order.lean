import SignalDesk.Digest.Sha256
import SignalDesk.Network.Http
import SignalDesk.Number.Arithmetic
import SignalDesk.Number.Layout
import SignalDesk.Text.Bytes

namespace SignalDesk

structure Order where
  symbol : String
  side : String
  quantity : String
  stopLoss : Option Real64
  takeProfit : Option Real64
deriving DecidableEq, Repr

abbrev Params := List (String × String)

namespace Params

/-- Sets a parameter: in its place when the name is there, else at the end. -/
def set (name value : String) : Params → Params
  | [] => [(name, value)]
  | (n, v) :: rest => if n = name then (n, value) :: rest else (n, v) :: set name value rest

/-- The parameters with a time and a signature over all of them. -/
def signed (params : Params) (secret : String) (time : Int) : Params :=
  let params := params.set "timestamp" (toString time)
  params.set "signature" (Hmac.hexDigest secret (Text.queryString params))

end Params

namespace Order

/-- What `quote` buys at a price, to six places; nothing at a price that is not above zero. -/
def quantityText (quote price : Real64) : String :=
  if price.le .zero then "0.000000" else (quote.div price).fixedText 6

def market (o : Order) : Params :=
  [("symbol", o.symbol), ("side", o.side), ("type", "MARKET"), ("quantity", o.quantity)]

/-- The side that closes the position. -/
def exitSide (o : Order) : String := if o.side = "BUY" then "SELL" else "BUY"

/-- A leg that is triggered at `trigger` and limited at `limit`. -/
def leg (o : Order) (type : String) (trigger limit : Real64) : Params :=
  [("symbol", o.symbol), ("side", o.exitSide), ("type", type), ("quantity", o.quantity),
    ("stopPrice", trigger.fixedText 2), ("price", limit.fixedText 2), ("timeInForce", "GTC")]

/-- The factors between trigger and limit, 0.995 for the stop and 1.005 for the target. -/
def stopFactor : Real64 := .ofQuotient false 995 1000
def targetFactor : Real64 := .ofQuotient false 1005 1000

/-- A level that is given; zero is none. -/
def level? (x : Option Real64) : Option Real64 := x.filter (!·.isZero)

/-- The legs that protect a filled order, by name. -/
def legs (o : Order) : List (String × Params) :=
  ((level? o.stopLoss).map fun x =>
      ("stop_loss", o.leg "STOP_LOSS_LIMIT" x (x.mul stopFactor))).toList ++
    ((level? o.takeProfit).map fun x =>
      ("take_profit", o.leg "TAKE_PROFIT_LIMIT" x (x.mul targetFactor))).toList

end Order
end SignalDesk
