import SignalDesk.Run.Basic

namespace SignalDesk

/-- What a script says now. The timeframe is shown as it was asked for. -/
structure Evaluation where
  symbol : String
  timeframe : Json
  strategy : Strategy Binary64
  signal : Signal Real64
  price : Real64
  candles : List (Candle Real64)

namespace DryRun

/-- The price of the ticker; when the market has none to give, the last close. -/
def currentPrice (config : Config) (symbol : String) (candles : List (Candle Real64)) :
    Program Desk (Except DeskError Real64) := do
  let lastClose := ((candles.getLast?).map (·.close)).getD .zero
  match ← config.market.fetchTicker symbol with
  | .ok ticker => return .ok ticker.last
  | .error .rateLimited => return .ok lastClose
  | .error (.unavailable _) => return .ok lastClose
  | .error e => return .error (.fetch e)

/-- A value that has to be a text. -/
def textOf (v : Json) : Except DeskError Text :=
  match v with
  | .text s => .ok s
  | v => .error (.notText v.kind)

/-- A value that the market is asked for as a timeframe. -/
def timeframeOf (v : Json) : Except DeskError Label :=
  match Label.ofJson? v with
  | some timeframe => .ok timeframe
  | none => .error (.unhashable v.kind)

/-- A symbol and a timeframe as the market is asked for them. Where there is a host to ask, a torn
symbol has no bytes for it. -/
def subject (config : Config) (symbol : Text) (timeframe : Json) :
    Except DeskError (String × Label) :=
  match timeframeOf timeframe, symbol, config.market.hosts with
  | .error e, _, _ => .error e
  | .ok _, .torn points _, _ :: _ => .error (.byteless points)
  | .ok timeframe, symbol, _ => .ok (symbol.characters, timeframe)

/-- Evaluates a strategy on the market's candles. -/
def evaluate (config : Config) (strategy : Strategy Binary64) (symbol : Text) (timeframe : Json)
    (limit : Int) : Program Desk (Except DeskError Evaluation) := do
  match subject config symbol timeframe with
  | .error e => return .error e
  | .ok (symbol, interval) =>
    match ← config.market.fetchCandles symbol interval limit with
    | .error e => return .error (.fetch e)
    | .ok candles =>
      match Rule.evaluateQuietly none (strategy.map .finite) candles with
      | .error e => return .error (.rule e)
      | .ok signal =>
        match ← currentPrice config symbol candles with
        | .error e => return .error e
        | .ok price => return .ok ⟨symbol, timeframe, strategy, signal, price, candles⟩

/-- The activation of a user for the script and the timeframe that are asked for. -/
def activationFor? (user script timeframe : Json) (s : Store) :
    Except DeskError (Option Activation) := do
  let script ← (Store.wantedText script).mapError .store
  let timeframe ← (Store.wantedText timeframe).mapError .store
  let activations ← (s.activations? script timeframe).mapError .overrides
  return activations.find? fun a => some a.user == Label.ofJson? user

/-- The number of candles a live run of a user would ask for. -/
def candleLimit (config : Config) (user script timeframe : Json) (s : Store) :
    Except DeskError Int :=
  match user with
  | .null => .ok config.candleLimit
  | user =>
    (activationFor? user script timeframe s).map fun
      | some a => a.overrides.candleLimitOr config.candleLimit
      | none => config.candleLimit

/-- The saved script that a value names, and its label. The timeframes of a script have to read. -/
def savedScript (id : Json) (s : Store) : Except DeskError (Label × SavedScript) :=
  match Store.bound id with
  | .error e => .error (.store e)
  | .ok label =>
    match label.stored.bind s.script? with
    | none => .error (.unknownScript label)
    | some script => ((Json.read script.timeframes).mapError .timeframes).map fun _ => (label, script)

/-- Evaluates a saved script, with the number of candles that its user has set. -/
def script (config : Config) (id timeframe user : Json) :
    Program Desk (Except DeskError (SavedScript × Evaluation)) := do
  match ← Program.read fun d => do
      return (← savedScript id d.store, ← candleLimit config user id timeframe d.store) with
  | .error e => return .error e
  | .ok ((label, script), limit) =>
    match ← Program.atomically (Run.compile label script.content) with
    | .error e => return .error (.script e)
    | .ok strategy =>
      let evaluation ← evaluate config strategy script.symbol timeframe limit
      return evaluation.map (script, ·)

/-- Compiles a text that is not saved; what counts as not given is an empty one. -/
def compile (text : Json) : Except DeskError (Strategy Binary64) :=
  if text.isTruthy then do (Script.parse (← textOf text).characters).mapError .script
  else (Script.parse "").mapError .script

/-- Evaluates a text that is not saved. -/
def content (config : Config) (text symbol timeframe : Json) :
    Program Desk (Except DeskError Evaluation) :=
  match compile text, textOf symbol with
  | .error e, _ => .done (.error e)
  | .ok _, .error e => .done (.error e)
  | .ok strategy, .ok symbol =>
    evaluate config strategy symbol.uppered timeframe config.candleLimit

/-- The market now: symbol and timeframe, the current price, and the candles. -/
structure Snapshot where
  symbol : String
  timeframe : Json
  price : Real64
  candles : List (Candle Real64)

def snapshot (config : Config) (symbol timeframe : Json) :
    Program Desk (Except DeskError Snapshot) := do
  match (textOf symbol).bind fun symbol => subject config symbol.uppered timeframe with
  | .error e => return .error e
  | .ok (symbol, interval) =>
    match ← config.market.fetchCandles symbol interval config.candleLimit with
    | .error e => return .error (.fetch e)
    | .ok candles =>
      match ← currentPrice config symbol candles with
      | .error e => return .error e
      | .ok price => return .ok ⟨symbol, timeframe, price, candles⟩

end DryRun
end SignalDesk
