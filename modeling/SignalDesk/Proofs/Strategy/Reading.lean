import SignalDesk.Proofs.Results
import SignalDesk.Strategy.Script

namespace SignalDesk
namespace Script

/-- The names that a number is assigned to, by the field that it is for. -/
def numericNames : ScriptField → List String
  | .fastPeriod => fastNames
  | .slowPeriod => slowNames
  | .stopLossPercent => stopLossNames
  | .takeProfitPercent => takeProfitNames
  | .rsiPeriod => rsiPeriodNames
  | .rsiOverbought => overboughtNames
  | .rsiOversold => oversoldNames
  | .priceThreshold => thresholdNames
  | .script | .customRule | .entryType | .maType => []

/-- The numeral that a script has for a field, as it is written. -/
def numeral (field : ScriptField) (script : List Char) : Option String :=
  Pattern.assigned? (numericNames field) Pattern.number? script

/-- The rule of a custom strategy as a script has it. -/
def ruleText (script : List Char) : Option String :=
  Pattern.assigned? ruleNames Pattern.quotedText? script

def entryName (script : List Char) : Option String :=
  Pattern.assigned? entryNames Pattern.word? script

def averageName (script : List Char) : Option String :=
  Pattern.assigned? averageNames Pattern.word? script

/-- Whether values are those that a script says. -/
structure Values.Of (script : List Char) (v : Values) : Prop where
  fast : optional (period .fastPeriod) (numeral .fastPeriod script) = .ok v.fast
  slow : optional (period .slowPeriod) (numeral .slowPeriod script) = .ok v.slow
  stopLoss : optional (percent .stopLossPercent) (numeral .stopLossPercent script) = .ok v.stopLoss
  takeProfit :
    optional (percent .takeProfitPercent) (numeral .takeProfitPercent script) = .ok v.takeProfit
  rsiPeriod : optional (period .rsiPeriod) (numeral .rsiPeriod script) = .ok v.rsiPeriod
  overbought : optional (finite .rsiOverbought) (numeral .rsiOverbought script) = .ok v.overbought
  oversold : optional (finite .rsiOversold) (numeral .rsiOversold script) = .ok v.oversold
  threshold : optional (finite .priceThreshold) (numeral .priceThreshold script) = .ok v.threshold
  rule : v.rule = ruleText script
  entry : Script.entry (entryName script) v.rsiPeriod.isSome script = .ok v.entry
  average : Script.average (averageName script) script = .ok v.average

theorem values_ok {script : List Char} {v : Values} : values script = .ok v ↔ v.Of script := by
  constructor
  · intro h
    obtain ⟨fast, readFast, h⟩ := bind_ok.mp h
    obtain ⟨slow, readSlow, h⟩ := bind_ok.mp h
    obtain ⟨stopLoss, readStop, h⟩ := bind_ok.mp h
    obtain ⟨takeProfit, readTake, h⟩ := bind_ok.mp h
    obtain ⟨rsi, readRsi, h⟩ := bind_ok.mp h
    obtain ⟨overbought, readHigh, h⟩ := bind_ok.mp h
    obtain ⟨oversold, readLow, h⟩ := bind_ok.mp h
    obtain ⟨threshold, readThreshold, h⟩ := bind_ok.mp h
    obtain ⟨entry, readEntry, h⟩ := bind_ok.mp h
    obtain ⟨average, readAverage, h⟩ := bind_ok.mp h
    cases h
    exact ⟨readFast, readSlow, readStop, readTake, readRsi, readHigh, readLow, readThreshold, rfl,
      readEntry, readAverage⟩
  · intro h
    obtain ⟨fast, slow, stopLoss, takeProfit, rsi, high, low, threshold, rule, entry, average⟩ := v
    obtain rfl : rule = ruleText script := h.rule
    exact bind_ok.mpr ⟨_, h.fast, bind_ok.mpr ⟨_, h.slow, bind_ok.mpr ⟨_, h.stopLoss,
      bind_ok.mpr ⟨_, h.takeProfit, bind_ok.mpr ⟨_, h.rsiPeriod, bind_ok.mpr ⟨_, h.overbought,
        bind_ok.mpr ⟨_, h.oversold, bind_ok.mpr ⟨_, h.threshold, bind_ok.mpr ⟨_, h.entry,
          bind_ok.mpr ⟨_, h.average, rfl⟩⟩⟩⟩⟩⟩⟩⟩⟩⟩

theorem parse_ok {text : String} {s : Strategy Binary64} :
    parse text = .ok s ↔
      isBlank text = false ∧ ∃ v : Values, v.Of text.toList ∧ strategy v = .ok s := by
  simp only [parse]
  split
  · rename_i blank
    simp [blank]
  · rename_i visible
    rw [Bool.not_eq_true] at visible
    simp only [visible, true_and]
    exact bind_ok.trans (exists_congr fun v => and_congr_left' values_ok)

end Script
end SignalDesk
