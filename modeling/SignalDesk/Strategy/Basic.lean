import SignalDesk.Number.Binary64

namespace SignalDesk

/-- The rule that opens a position. -/
inductive Entry
  | crossover
  | crossunder
  | priceAbove
  | priceBelow
  | rsi
  | custom
deriving DecidableEq, Repr

namespace Entry

def all : List Entry := [crossover, crossunder, priceAbove, priceBelow, rsi, custom]

def name : Entry → String
  | crossover => "MA_CROSSOVER"
  | crossunder => "MA_CROSSUNDER"
  | priceAbove => "PRICE_ABOVE"
  | priceBelow => "PRICE_BELOW"
  | rsi => "RSI"
  | custom => "CUSTOM"

def ofName? (s : String) : Option Entry := all.find? (·.name == s)

def crossesAverages : Entry → Bool
  | crossover | crossunder => true
  | _ => false

def crossesPrice : Entry → Bool
  | priceAbove | priceBelow => true
  | _ => false

end Entry

/-- The moving average of a crossing rule. -/
inductive Average
  | sma
  | ema
deriving DecidableEq, Repr

namespace Average

def name : Average → String
  | sma => "SMA"
  | ema => "EMA"

def ofName? (s : String) : Option Average := [sma, ema].find? (·.name == s)

end Average

structure Strategy (α : Type) where
  entry : Entry
  average : Average
  fastPeriod : Int
  slowPeriod : Int
  stopLossPercent : α
  takeProfitPercent : α
  rsiPeriod : Option Int
  overbought : Option α
  oversold : Option α
  threshold : Option α
  customRule : Option String
deriving DecidableEq, Repr

namespace Strategy

def defaultFast : Int := 12
def defaultSlow : Int := 26
def defaultRsiPeriod : Int := 14
def defaultStopLoss : Nat := 2
def defaultTakeProfit : Nat := 4
def defaultOversold : Nat := 30
def defaultOverbought : Nat := 70

/-- The same strategy over other numbers. -/
def map {α β : Type} (f : α → β) (s : Strategy α) : Strategy β :=
  { entry := s.entry
    average := s.average
    fastPeriod := s.fastPeriod
    slowPeriod := s.slowPeriod
    stopLossPercent := f s.stopLossPercent
    takeProfitPercent := f s.takeProfitPercent
    rsiPeriod := s.rsiPeriod
    overbought := s.overbought.map f
    oversold := s.oversold.map f
    threshold := s.threshold.map f
    customRule := s.customRule }

end Strategy
end SignalDesk
