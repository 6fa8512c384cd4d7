import SignalDesk.Run.DryRun

namespace SignalDesk

def Strategy.form (s : Strategy Binary64) : Json :=
  .object <| Json.given
    [("entryType", some (.text s.entry.name)), ("maType", some (.text s.average.name)),
      ("fastPeriod", some (.int s.fastPeriod)), ("slowPeriod", some (.int s.slowPeriod)),
      ("stopLossPercent", some (.ofBinary64 s.stopLossPercent)),
      ("takeProfitPercent", some (.ofBinary64 s.takeProfitPercent)),
      ("rsiPeriod", s.rsiPeriod.map .int), ("rsiOverbought", s.overbought.map .ofBinary64),
      ("rsiOversold", s.oversold.map .ofBinary64),
      ("priceThreshold", s.threshold.map .ofBinary64), ("customRule", s.customRule.map (.text ·))]

def Signal.form (s : Signal Real64) : Json :=
  .object
    [("type", .text s.side.name), ("price", .real s.price), ("stopLoss", .real s.stopLoss),
      ("takeProfit", .real s.takeProfit), ("reason", s.reason.label.form),
      ("candleTime", s.candleTime)]

def Candle.form (c : Candle Real64) : Json :=
  .object
    [("openTime", .int c.openTime), ("open", .real c.openPrice), ("high", .real c.high),
      ("low", .real c.low), ("close", .real c.close), ("volume", .real c.volume),
      ("closeTime", .int c.closeTime)]

/-- The last `count` entries; all of them for zero, and all but the first `-count` below zero. -/
def lastEntries {β : Type} (count : Int) (xs : List β) : List β :=
  if 0 < count then xs.drop (xs.length - count.toNat) else xs.drop (-count).toNat

/-- The end of a series to eight places, null where there is no number. -/
def Series.tail (count : Int) (series : Series Real64) : Json :=
  .list <| (lastEntries count series).map fun
    | some .nan => .null
    | some x => .real (x.roundPlaces 8)
    | none => .null

/-- The end of an indicator's series; without enough history it is empty. -/
def indicatorTail (count : Int) : Except HistoryError (Series Real64) → Json
  | .ok series => Series.tail count series
  | .error _ => .list []

def RunResult.form {α : Type} (signalForm : α → Json) (r : RunResult α) : Json :=
  .object <| Json.given
    [("status", some (.text r.outcome.name)), ("userId", some r.user.form),
      ("scriptId", some r.script.form), ("timeframe", some r.timeframe.form),
      ("reason", some r.reason.form), ("tradeId", r.trade.map .int),
      ("signal", r.signal.map signalForm)]

def Run.form (r : Run) : Json := RunResult.form Signal.form r

def Counts.form (c : Counts) : Json :=
  .object
    [("total", .int c.total), ("executed", .int c.executed), ("failed", .int c.failed),
      ("skipped", .int c.skipped), ("deferred", .int c.deferred)]

def SweepReport.form {α : Type} (signalForm : α → Json) (r : SweepReport α) : Json :=
  .object
    [("startedAt", .text r.startedAt), ("finishedAt", .ofText? r.finishedAt),
      ("counts", r.counts.form), ("results", .list (r.results.map (RunResult.form signalForm)))]

def Sweep.form (r : Sweep) : Json := SweepReport.form Signal.form r

/-- The last candle, null without any. -/
def lastCandleForm (candles : List (Candle Real64)) : Json :=
  ((candles.getLast?).map Candle.form).getD .null

/-- An evaluation of a saved script, which was asked for by `id`. -/
def Evaluation.savedForm (id : Label) (script : SavedScript) (e : Evaluation) : Json :=
  .object
    [("script", .object [("id", id.form), ("name", .text script.name)]),
      ("symbol", .text e.symbol), ("timeframe", e.timeframe), ("strategy", e.strategy.form),
      ("signal", e.signal.form), ("currentPrice", .real e.price),
      ("lastCandle", lastCandleForm e.candles)]

/-- Series by period, each to its last `count` entries. -/
def tailsByPeriod (series : List Real64 → Int → Except HistoryError (Series Real64))
    (closes : List Real64) (count : Int) (periods : List Int) : Json :=
  .object (periods.map fun p => (toString p, indicatorTail count (series closes p)))

def Evaluation.unsavedForm (e : Evaluation) : Json :=
  let closes := e.candles.map (·.close)
  .object
    [("symbol", .text e.symbol), ("timeframe", e.timeframe), ("strategy", e.strategy.form),
      ("signal", e.signal.form), ("currentPrice", .real e.price),
      ("lastCandle", lastCandleForm e.candles),
      ("indicators", .object
        [("ema9", indicatorTail 3 (Indicator.ema closes 9)),
          ("ema21", indicatorTail 3 (Indicator.ema closes 21)),
          ("rsi", indicatorTail 3 (Indicator.rsi closes 14))])]

def DryRun.Snapshot.form (count : Int) (s : DryRun.Snapshot) : Json :=
  let closes := s.candles.map (·.close)
  .object
    [("symbol", .text s.symbol), ("timeframe", s.timeframe), ("currentPrice", .real s.price),
      ("lastCandle", lastCandleForm s.candles),
      ("indicators", .object
        [("ema", tailsByPeriod Indicator.ema closes count [9, 21, 50]),
          ("sma", tailsByPeriod Indicator.sma closes count [20, 50]),
          ("rsi", indicatorTail count (Indicator.rsi closes 14))])]

end SignalDesk
