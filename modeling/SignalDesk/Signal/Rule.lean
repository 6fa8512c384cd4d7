import SignalDesk.Market.Candle
import SignalDesk.Signal.Basic

namespace SignalDesk

/-- Why a strategy gives no signal. -/
inductive RuleError
  | history (e : HistoryError)
  | ruleMissing
  | thresholdMissing
deriving DecidableEq, Repr

/-- Decides custom rules: a side and the reason. -/
abbrev Judge (α : Type) := (rule : String) → List (Candle α) → Decision × Label

namespace Rule

variable {α : Type} [Arithmetic α]

open Arithmetic

def crossedAbove (a b a' b' : α) : Bool := le a b && lt b' a'

def crossedBelow (a b a' b' : α) : Bool := le b a && lt a' b'

/-- The last two entries. -/
def lastTwo? {β : Type} : List β → Option (β × β)
  | [] => none
  | [_] => none
  | [a, b] => some (a, b)
  | _ :: rest => lastTwo? rest

/-- The last two values of a series, when both are numbers. -/
def lastDefined? (series : Series α) : Option (α × α) :=
  match lastTwo? series with
  | some (some a, some b) => if undefined a || undefined b then none else some (a, b)
  | _ => none

/-- A decision and its reason. -/
abbrev Verdict (α : Type) := Except RuleError (Decision × Reason α)

def averages (s : Strategy α) (closes : List α) : Verdict α :=
  match Indicator.movingAverage s.average closes s.fastPeriod with
  | .error e => .error (.history e)
  | .ok fast =>
    match Indicator.movingAverage s.average closes s.slowPeriod with
    | .error e => .error (.history e)
    | .ok slow =>
      match lastDefined? fast, lastDefined? slow with
      | some (prevFast, lastFast), some (prevSlow, lastSlow) =>
        if s.entry = .crossover && crossedAbove prevFast prevSlow lastFast lastSlow then
          .ok (some .buy, .crossedOver s.average s.fastPeriod s.slowPeriod)
        else if s.entry = .crossunder && crossedBelow prevFast prevSlow lastFast lastSlow then
          .ok (some .sell, .crossedUnder s.average s.fastPeriod s.slowPeriod)
        else .ok (none, .noCrossing)
      | _, _ => .error (.history (.tooShort (s.slowPeriod + 1) closes.length "crossover"))

def price (s : Strategy α) (closes : List α) : Verdict α :=
  match lastTwo? closes with
  | none => .error (.history (.tooShort 2 closes.length "price threshold"))
  | some (prev, last) =>
    match s.threshold with
    | none => .error .thresholdMissing
    | some t =>
      if s.entry = .priceAbove && (le prev t && lt t last) then .ok (some .buy, .priceAbove t)
      else if s.entry = .priceBelow && (le t prev && lt last t) then .ok (some .sell, .priceBelow t)
      else .ok (none, .priceStayed t)

/-- The period of the index; zero counts as not given. -/
def rsiPeriod (s : Strategy α) : Int :=
  match s.rsiPeriod with
  | some n => if n = 0 then Strategy.defaultRsiPeriod else n
  | none => Strategy.defaultRsiPeriod

def strength (s : Strategy α) (closes : List α) : Verdict α :=
  let period := rsiPeriod s
  let oversold := s.oversold.getD (ofNat Strategy.defaultOversold)
  let overbought := s.overbought.getD (ofNat Strategy.defaultOverbought)
  let short : HistoryError :=
    .tooShort (period + 2) closes.length ("RSI(" ++ toString period ++ ")")
  if (closes.length : Int) < period + 2 then .error (.history short)
  else
    match Indicator.rsi closes period with
    | .error e => .error (.history e)
    | .ok series =>
      match lastTwo? series with
      | some (some prev, some last) =>
        if crossedAbove prev oversold last oversold then
          .ok (some .buy, .leftOversold oversold last)
        else if crossedBelow prev overbought last overbought then
          .ok (some .sell, .leftOverbought overbought last)
        else .ok (none, .insideBounds last oversold overbought)
      | _ => .error (.history short)

/-- The rule text of a custom strategy; an empty one is none. -/
def customRule? (s : Strategy α) : Option String := s.customRule.filter (!·.isEmpty)

def custom (judge : Option (Judge α)) (s : Strategy α) (candles : List (Candle α)) : Verdict α :=
  match customRule? s with
  | none => .error .ruleMissing
  | some rule =>
    match judge with
    | none => .ok (none, .noJudge)
    | some judge => .ok ((judge rule candles).map id .stated)

def verdict (judge : Option (Judge α)) (s : Strategy α) (candles : List (Candle α)) : Verdict α :=
  let closes := candles.map (·.close)
  match s.entry with
  | .rsi => strength s closes
  | .priceAbove | .priceBelow => price s closes
  | .custom => custom judge s candles
  | .crossover | .crossunder => averages s closes

/-- The signal of the latest candle. -/
def evaluate (judge : Option (Judge α)) (s : Strategy α) (candles : List (Candle α)) :
    Except RuleError (Signal α) :=
  match candles.getLast? with
  | none => .error (.history (.tooShort 2 0 s.entry.name))
  | some last =>
    (verdict judge s candles).map fun (side, reason) =>
      Signal.build side last.close s reason (.int last.openTime)

/-- The signal of the latest candle; too short a history stays out and says so. -/
def evaluateQuietly (judge : Option (Judge α)) (s : Strategy α) (candles : List (Candle α)) :
    Except RuleError (Signal α) :=
  match evaluate judge s candles with
  | .error (.history e@(.tooShort ..)) =>
    match candles.getLast? with
    | some last => .ok (Signal.stayOut last.close (.shortHistory e) (.int last.openTime))
    | none => .ok (Signal.stayOut zero (.shortHistory e) (.int 0))
  | r => r

end Rule
end SignalDesk
