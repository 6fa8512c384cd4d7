import SignalDesk.Indicator.Basic
import SignalDesk.Json.Label
import SignalDesk.Number.Layout

namespace SignalDesk

inductive Side
  | buy
  | sell
deriving DecidableEq, Repr

namespace Side

def name : Side → String
  | buy => "BUY"
  | sell => "SELL"

def ofName? : String → Option Side
  | "BUY" => some buy
  | "SELL" => some sell
  | _ => none

end Side

/-- A side, or the decision to stay out. -/
abbrev Decision := Option Side

namespace Decision

def name : Decision → String
  | some side => side.name
  | none => "NONE"

def ofName? : String → Option Decision
  | "NONE" => some none
  | s => (Side.ofName? s).map some

end Decision

/-- Why a signal is what it is. -/
inductive Reason (α : Type)
  | crossedOver (average : Average) (fast slow : Int)
  | crossedUnder (average : Average) (fast slow : Int)
  | noCrossing
  | priceAbove (threshold : α)
  | priceBelow (threshold : α)
  | priceStayed (threshold : α)
  | leftOversold (bound now : α)
  | leftOverbought (bound now : α)
  | insideBounds (now oversold overbought : α)
  | noJudge
  | shortHistory (e : HistoryError)
  | pushed (signal : Label)
  | stated (reason : Label)
deriving DecidableEq

/-- A reason in words, or as it was stated. -/
def Reason.label : Reason Real64 → Label
  | .crossedOver a fast slow =>
    .text <| "MA crossover: fast " ++ a.name ++ "(" ++ toString fast ++ ") crossed above slow " ++
      a.name ++ "(" ++ toString slow ++ ")"
  | .crossedUnder a fast slow =>
    .text <| "MA crossunder: fast " ++ a.name ++ "(" ++ toString fast ++ ") crossed below slow " ++
      a.name ++ "(" ++ toString slow ++ ")"
  | .noCrossing => .text "No crossing on the latest candle"
  | .priceAbove t => .text <| "Price crossed above " ++ t.text
  | .priceBelow t => .text <| "Price crossed below " ++ t.text
  | .priceStayed t => .text <| "Price did not cross " ++ t.text
  | .leftOversold bound now =>
    .text <| "RSI crossed above " ++ bound.briefText ++ " (oversold), now " ++ now.fixedText 2
  | .leftOverbought bound now =>
    .text <| "RSI crossed below " ++ bound.briefText ++ " (overbought), now " ++ now.fixedText 2
  | .insideBounds now oversold overbought =>
    .text <| "RSI " ++ now.fixedText 2 ++ " inside " ++ oversold.briefText ++ "/" ++
      overbought.briefText
  | .noJudge => .text "No evaluator for custom rule"
  | .shortHistory e => .text e.message
  | .pushed signal => .text <| "Webhook signal #" ++ signal.shown
  | .stated reason => reason

/-- A decision at a price. Without a side the levels mean nothing. The time of the candle is an
integer where the signal was evaluated; from outside it may be any value. -/
structure Signal (α : Type) where
  side : Decision
  price : α
  stopLoss : α
  takeProfit : α
  reason : Reason α
  candleTime : Json

namespace Signal

variable {α : Type} [Arithmetic α]

open Arithmetic

/-- Staying out. -/
def stayOut (price : α) (reason : Reason α) (candleTime : Json) : Signal α :=
  ⟨none, price, zero, zero, reason, candleTime⟩

/-- Puts the levels around the price: the stop below and the target above when buying, and the other
way round when selling. -/
def build (side : Decision) (price : α) (strategy : Strategy α) (reason : Reason α)
    (candleTime : Json) : Signal α :=
  let stop := strategy.stopLossPercent / ofNat 100
  let target := strategy.takeProfitPercent / ofNat 100
  match side with
  | some .buy =>
    ⟨some .buy, price, price * (ofNat 1 - stop), price * (ofNat 1 + target), reason, candleTime⟩
  | some .sell =>
    ⟨some .sell, price, price * (ofNat 1 + stop), price * (ofNat 1 - target), reason, candleTime⟩
  | none => stayOut price reason candleTime

end Signal
end SignalDesk
