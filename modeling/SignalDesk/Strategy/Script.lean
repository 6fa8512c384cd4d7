import SignalDesk.Number.Arithmetic
import SignalDesk.Number.Layout
import SignalDesk.Number.Numeral
import SignalDesk.Strategy.Basic
import SignalDesk.Strategy.Pattern
import SignalDesk.Text.Quoted
import SignalDesk.Text.Search
import SignalDesk.Text.Upper

namespace SignalDesk

/-- The part of a script that an error is about. -/
inductive ScriptField
  | script
  | fastPeriod
  | slowPeriod
  | stopLossPercent
  | takeProfitPercent
  | rsiPeriod
  | rsiOverbought
  | rsiOversold
  | priceThreshold
  | customRule
  | entryType
  | maType
deriving DecidableEq, Repr

def ScriptField.name : ScriptField → String
  | script => "script"
  | fastPeriod => "fastPeriod"
  | slowPeriod => "slowPeriod"
  | stopLossPercent => "stopLossPercent"
  | takeProfitPercent => "takeProfitPercent"
  | rsiPeriod => "rsiPeriod"
  | rsiOverbought => "rsiOverbought"
  | rsiOversold => "rsiOversold"
  | priceThreshold => "priceThreshold"
  | customRule => "customRule"
  | entryType => "entryType"
  | maType => "maType"

/-- Why a script is no strategy. -/
inductive ScriptError
  | empty
  | notNumber (field : ScriptField) (raw : String)
  | notFinite (field : ScriptField) (raw : String)
  | notWhole (field : ScriptField) (raw : String)
  | notPositive (field : ScriptField) (raw : String)
  | negative (field : ScriptField) (raw : String)
  | unknownEntry (raw : String)
  | unknownAverage (raw : String)
  | periodsNotRising (fast slow : Int)
  | boundsNotRising (oversold overbought : Binary64)
  | thresholdMissing (entry : Entry)
  | ruleMissing
deriving DecidableEq, Repr

namespace ScriptError

def field : ScriptError → ScriptField
  | empty => .script
  | notNumber f _ | notFinite f _ | notWhole f _ | notPositive f _ | negative f _ => f
  | unknownEntry _ => .entryType
  | unknownAverage _ => .maType
  | periodsNotRising _ _ => .slowPeriod
  | boundsNotRising _ _ => .rsiOversold
  | thresholdMissing _ => .priceThreshold
  | ruleMissing => .customRule

def message : ScriptError → String
  | empty => "script is empty"
  | notNumber _ raw => "expected a number, got " ++ Text.quoted raw
  | notFinite _ raw => "expected a finite number, got " ++ Text.quoted raw
  | notWhole _ raw => "period must be a whole number, got " ++ raw
  | notPositive _ raw => "period must be positive, got " ++ raw
  | negative _ raw => "percentage must not be negative, got " ++ raw
  | unknownEntry raw => "unknown entry type " ++ Text.quoted raw
  | unknownAverage raw => "unknown MA type " ++ Text.quoted raw
  | periodsNotRising fast slow =>
    "slow period (" ++ toString slow ++ ") must be greater than fast period (" ++
      toString fast ++ ")"
  | boundsNotRising oversold overbought =>
    "RSI bounds must satisfy 0 <= oversold < overbought <= 100, got " ++
      (Real64.finite oversold).text ++ "/" ++ (Real64.finite overbought).text
  | thresholdMissing entry => entry.name ++ " requires a price threshold"
  | ruleMissing => "CUSTOM entry requires a rule"

/-- The message with the field in front. -/
def fullMessage (e : ScriptError) : String := e.field.name ++ ": " ++ e.message

end ScriptError

namespace Script

/-- Each stem with each ending. -/
def spellings (stems endings : List String) : List String :=
  stems.flatMap fun stem => endings.map (stem ++ ·)

def lengthEndings : List String := ["length", "ma", "period", "_length", "_period"]
def percentEndings : List String := ["percent", "pct", "_pct", "_percent", ""]

def fastNames : List String := spellings ["fast"] lengthEndings
def slowNames : List String := spellings ["slow"] lengthEndings
def stopLossNames : List String := spellings ["stoploss", "stop_loss"] percentEndings
def takeProfitNames : List String := spellings ["takeprofit", "take_profit"] percentEndings
def rsiPeriodNames : List String := spellings ["rsi"] ["length", "period", "_length", "_period"]
def overboughtNames : List String := spellings ["", "rsi", "rsi_"] ["overbought"]
def oversoldNames : List String := spellings ["", "rsi", "rsi_"] ["oversold"]
def thresholdNames : List String := ["price_threshold", "pricethreshold", "threshold"]
def entryNames : List String := ["entrytype", "entry_type"]
def averageNames : List String := ["matype", "ma_type"]
def ruleNames : List String := ["customrule", "custom_rule"]

/-- Reads a value that has to be a finite number. -/
def finite (field : ScriptField) (raw : String) : Except ScriptError Binary64 :=
  match Numeral.real? raw with
  | none => .error (.notNumber field raw)
  | some (.finite x) => .ok x
  | some _ => .error (.notFinite field raw)

/-- Reads a period: a whole number, at least one. -/
def period (field : ScriptField) (raw : String) : Except ScriptError Int := do
  let x ← finite field raw
  if !x.isWhole then .error (.notWhole field raw)
  else if x.truncate < 1 then .error (.notPositive field raw)
  else .ok x.truncate

def percent (field : ScriptField) (raw : String) : Except ScriptError Binary64 := do
  let x ← finite field raw
  if x.value < 0 then .error (.negative field raw) else .ok x

/-- Reads a value that may be absent. -/
def optional {β : Type} (read : String → Except ScriptError β) :
    Option String → Except ScriptError (Option β)
  | none => .ok none
  | some raw => (read raw).map some

/-- The entry rule: the one named; else RSI when its period is given; else a crossing, downwards
when the text speaks of one. -/
def entry (named : Option String) (hasRsiPeriod : Bool) (script : List Char) :
    Except ScriptError Entry :=
  match named with
  | some raw =>
    match Entry.ofName? (Text.upper raw) with
    | some e => .ok e
    | none => .error (.unknownEntry raw)
  | none =>
    if hasRsiPeriod then .ok .rsi
    else if Text.occursIn "crossunder".toList (script.map Char.toLower) then .ok .crossunder
    else .ok .crossover

/-- The average: the one named, else the simple one when the text hints at it. -/
def average (named : Option String) (script : List Char) : Except ScriptError Average :=
  match named with
  | some raw =>
    match Average.ofName? (Text.upper raw) with
    | some a => .ok a
    | none => .error (.unknownAverage raw)
  | none => .ok (if Pattern.hintsSma script then .sma else .ema)

/-- The values of a script before they are checked against each other. -/
structure Values where
  fast : Option Int
  slow : Option Int
  stopLoss : Option Binary64
  takeProfit : Option Binary64
  rsiPeriod : Option Int
  overbought : Option Binary64
  oversold : Option Binary64
  threshold : Option Binary64
  rule : Option String
  entry : Entry
  average : Average

def values (script : List Char) : Except ScriptError Values := do
  let raw (names : List String) : Option String :=
    Pattern.assigned? names Pattern.number? script
  let fast ← optional (period .fastPeriod) (raw fastNames)
  let slow ← optional (period .slowPeriod) (raw slowNames)
  let stopLoss ← optional (percent .stopLossPercent) (raw stopLossNames)
  let takeProfit ← optional (percent .takeProfitPercent) (raw takeProfitNames)
  let rsiPeriod ← optional (period .rsiPeriod) (raw rsiPeriodNames)
  let overbought ← optional (finite .rsiOverbought) (raw overboughtNames)
  let oversold ← optional (finite .rsiOversold) (raw oversoldNames)
  let threshold ← optional (finite .priceThreshold) (raw thresholdNames)
  let rule := Pattern.assigned? ruleNames Pattern.quotedText? script
  let entry ← entry (Pattern.assigned? entryNames Pattern.word? script) rsiPeriod.isSome script
  let average ← average (Pattern.assigned? averageNames Pattern.word? script) script
  return ⟨fast, slow, stopLoss, takeProfit, rsiPeriod, overbought, oversold, threshold, rule, entry,
    average⟩

/-- A whole number as the value of a field. -/
def whole (n : Nat) : Binary64 :=
  match Real64.ofInt n with
  | .finite x => x
  | _ => ⟨false, 0, -1074⟩

/-- Holds when the bounds are in order, each default standing in for a missing one. -/
def boundsInOrder (oversold overbought : Option Binary64) : Bool :=
  let low := oversold.getD (whole Strategy.defaultOversold)
  let high := overbought.getD (whole Strategy.defaultOverbought)
  decide (0 ≤ low.value ∧ low.value < high.value ∧ high.value ≤ 100)

def isBlank (rule : String) : Bool := rule.toList.all Text.isBlank

/-- Fills in the defaults and checks the values against each other. -/
def strategy (v : Values) : Except ScriptError (Strategy Binary64) :=
  let fast := v.fast.getD Strategy.defaultFast
  let slow := v.slow.getD Strategy.defaultSlow
  let isRsi := v.entry = .rsi
  let rsiPeriod := if isRsi then some (v.rsiPeriod.getD Strategy.defaultRsiPeriod) else v.rsiPeriod
  let bound (given : Option Binary64) (default : Nat) : Option Binary64 :=
    if isRsi then some (given.getD (whole default)) else given
  let overbought := bound v.overbought Strategy.defaultOverbought
  let oversold := bound v.oversold Strategy.defaultOversold
  if v.entry.crossesAverages && decide (slow ≤ fast) then .error (.periodsNotRising fast slow)
  else if (overbought.isSome || oversold.isSome) && !boundsInOrder oversold overbought then
    .error (.boundsNotRising (oversold.getD (whole Strategy.defaultOversold))
      (overbought.getD (whole Strategy.defaultOverbought)))
  else if v.entry.crossesPrice && v.threshold.isNone then .error (.thresholdMissing v.entry)
  else if v.entry = .custom && v.rule.all isBlank then .error .ruleMissing
  else .ok
    { entry := v.entry
      average := v.average
      fastPeriod := fast
      slowPeriod := slow
      stopLossPercent := v.stopLoss.getD (whole Strategy.defaultStopLoss)
      takeProfitPercent := v.takeProfit.getD (whole Strategy.defaultTakeProfit)
      rsiPeriod := rsiPeriod
      overbought := overbought
      oversold := oversold
      threshold := v.threshold
      customRule := v.rule }

/-- Compiles a script. -/
def parse (script : String) : Except ScriptError (Strategy Binary64) :=
  if isBlank script then .error .empty else (values script.toList).bind strategy

end Script
end SignalDesk
