import SignalDesk.Json.Value

namespace SignalDesk

structure Candle (α : Type) where
  openTime : Int
  openPrice : α
  high : α
  low : α
  close : α
  volume : α
  closeTime : Int

/-- The last day of one symbol. A market may report any value as the symbol's name. -/
structure Ticker where
  symbol : Json
  last : Real64
  bid : Real64
  ask : Real64
  high : Real64
  low : Real64
  volume : Real64
  changePercent : Real64

end SignalDesk

namespace SignalDesk.Timeframe

def intervals : List String := ["1m", "5m", "15m", "30m", "1h", "4h", "1d", "1w"]

def defaultInterval : String := "1h"

/-- The interval of a timeframe; an unknown one gets hours. -/
def interval (timeframe : String) : String :=
  if intervals.contains timeframe then timeframe else defaultInterval

end SignalDesk.Timeframe
