import SignalDesk.Indicator.Arithmetic
import SignalDesk.Strategy.Basic

namespace SignalDesk

/-- Why an indicator has no series. -/
inductive HistoryError
  | periodNotPositive (indicator : String) (period : Int)
  | tooShort (required : Int) (available : Nat) (what : String)
deriving DecidableEq, Repr

def HistoryError.message : HistoryError → String
  | periodNotPositive indicator period =>
    indicator ++ " period must be positive, got " ++ toString period
  | tooShort required available what =>
    "Need at least " ++ toString required ++ " candles for " ++ what ++ ", got " ++
      toString available

abbrev Series (α : Type) := List (Option α)

namespace Indicator

variable {α : Type} [Arithmetic α]

open Arithmetic

/-- The period as a count, when there is one close more than it. -/
def requireHistory (closes : List α) (period : Int) (name : String) : Except HistoryError Nat :=
  if period < 1 then .error (.periodNotPositive name period)
  else if (closes.length : Int) < period + 1 then
    .error (.tooShort (period + 1) closes.length (name ++ "(" ++ toString period ++ ")"))
  else .ok period.toNat

/-- The sums of a window that moves on by one: each takes in a new close and gives up an old one. -/
def slide (sum : α) : (new old : List α) → List α
  | c :: new, o :: old =>
    let sum := sum + (c - o)
    sum :: slide sum new old
  | _, _ => []

/-- The simple average: the mean of the last `period` closes. -/
def smaSeries (closes : List α) (period : Nat) : Series α :=
  let first := sum (closes.take period)
  List.replicate (period - 1) none ++
    (first :: slide first (closes.drop period) closes).map fun s => some (s / ofNat period)

/-- The averages after `last`, each moving from the one before toward its close by the weight
`k`. -/
def smooth (k last : α) : List α → List α
  | [] => []
  | c :: closes =>
    let next := c * k + last * (ofNat 1 - k)
    next :: smooth k next closes

/-- The weight of the newest close in an exponential average. -/
def emaWeight (period : Nat) : α := ofNat 2 / ofNat (period + 1)

/-- The exponential average, which starts from the mean of the first `period` closes. -/
def emaSeries (closes : List α) (period : Nat) : Series α :=
  let seed := sum (closes.take period) / ofNat period
  List.replicate (period - 1) none ++
    (seed :: smooth (emaWeight period) seed (closes.drop period)).map some

/-- What each close adds to the one before it. -/
def deltas : List α → List α
  | [] => []
  | [_] => []
  | a :: b :: rest => (b - a) :: deltas (b :: rest)

def gain (d : α) : α := if lt d zero then zero else d

def loss (d : α) : α := abs (if lt zero d then zero else d)

def rsiOf (avgGain avgLoss : α) : α :=
  if isZero avgLoss then ofNat 100
  else ofNat 100 - ofNat 100 / (ofNat 1 + avgGain / avgLoss)

/-- The index after each further delta; both averages keep `period - 1` parts of the last value. -/
def rsiFrom (period : Nat) (avgGain avgLoss : α) : (deltas : List α) → List α
  | [] => []
  | d :: ds =>
    let avgGain := (avgGain * ofNat (period - 1) + gain d) / ofNat period
    let avgLoss := (avgLoss * ofNat (period - 1) + loss d) / ofNat period
    rsiOf avgGain avgLoss :: rsiFrom period avgGain avgLoss ds

/-- The relative strength index. The averages start as means over the first `period` deltas. -/
def rsiSeries (closes : List α) (period : Nat) : Series α :=
  let ds := deltas closes
  let avgGain := sum ((ds.take period).map gain) / ofNat period
  let avgLoss := sum ((ds.take period).map loss) / ofNat period
  List.replicate period none ++
    (rsiOf avgGain avgLoss :: rsiFrom period avgGain avgLoss (ds.drop period)).map some

def sma (closes : List α) (period : Int) : Except HistoryError (Series α) :=
  (requireHistory closes period "SMA").map (smaSeries closes)

def ema (closes : List α) (period : Int) : Except HistoryError (Series α) :=
  (requireHistory closes period "EMA").map (emaSeries closes)

def rsi (closes : List α) (period : Int) : Except HistoryError (Series α) :=
  (requireHistory closes period "RSI").map (rsiSeries closes)

def movingAverage (average : Average) (closes : List α) (period : Int) :
    Except HistoryError (Series α) :=
  match average with
  | .sma => sma closes period
  | .ema => ema closes period

end Indicator
end SignalDesk
