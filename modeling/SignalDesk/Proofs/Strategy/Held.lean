import SignalDesk.Proofs.Number.Whole
import SignalDesk.Proofs.Strategy.Single

namespace SignalDesk
namespace Script

open Pattern

variable {field : ScriptField} {raw : String}

/-- The names that a field is assigned by. -/
def fieldNames : ScriptField → List String
  | .entryType => entryNames
  | .maType => averageNames
  | .customRule => ruleNames
  | field => numericNames field

/-- What the value of a field is read by. -/
def reader : ScriptField → List Char → Option (List Char)
  | .entryType | .maType => word?
  | .customRule => quotedText?
  | _ => number?

/-- What a script has written for a field. -/
def said (field : ScriptField) (cs : List Char) : Option String :=
  assigned? (fieldNames field) (reader field) cs

theorem fieldNames_areWords (field : ScriptField) : areWords (fieldNames field) = true := by
  have all : ∀ field ∈ fields, areWords (fieldNames field) = true := by decide
  exact all field (mem_fields field)

theorem fieldNames_apart {field field' : ScriptField} {name : String}
    (h : name ∈ fieldNames field) (h' : name ∈ fieldNames field') : field = field' := by
  have all : ∀ field ∈ fields, ∀ field' ∈ fields, ∀ name ∈ fieldNames field,
      name ∈ fieldNames field' → field = field' := by
    decide
  exact all field (mem_fields field) field' (mem_fields field') name h h'

/-- Whether a strategy has the value that is written for a field. -/
def Holds (s : Strategy Binary64) (raw : String) : ScriptField → Prop
  | .script => False
  | .fastPeriod => ∃ x, Numeral.real? raw = some (.finite x) ∧ x.Is s.fastPeriod
  | .slowPeriod => ∃ x, Numeral.real? raw = some (.finite x) ∧ x.Is s.slowPeriod
  | .stopLossPercent => Numeral.real? raw = some (.finite s.stopLossPercent)
  | .takeProfitPercent => Numeral.real? raw = some (.finite s.takeProfitPercent)
  | .rsiPeriod => ∃ n, s.rsiPeriod = some n ∧ ∃ x, Numeral.real? raw = some (.finite x) ∧ x.Is n
  | .rsiOverbought => ∃ x, s.overbought = some x ∧ Numeral.real? raw = some (.finite x)
  | .rsiOversold => ∃ x, s.oversold = some x ∧ Numeral.real? raw = some (.finite x)
  | .priceThreshold => ∃ x, s.threshold = some x ∧ Numeral.real? raw = some (.finite x)
  | .customRule => s.customRule = some raw
  | .entryType => s.entry.name = Text.upper raw
  | .maType => s.average.name = Text.upper raw

/-- Whether a strategy has the values that are given. -/
structure Values.In (v : Values) (s : Strategy Binary64) : Prop where
  fast : ∀ n, v.fast = some n → s.fastPeriod = n
  slow : ∀ n, v.slow = some n → s.slowPeriod = n
  stopLoss : ∀ x, v.stopLoss = some x → s.stopLossPercent = x
  takeProfit : ∀ x, v.takeProfit = some x → s.takeProfitPercent = x
  rsiPeriod : ∀ n, v.rsiPeriod = some n → s.rsiPeriod = some n
  overbought : ∀ x, v.overbought = some x → s.overbought = some x
  oversold : ∀ x, v.oversold = some x → s.oversold = some x
  threshold : s.threshold = v.threshold
  rule : s.customRule = v.rule
  entry : s.entry = v.entry
  average : s.average = v.average

theorem strategy_in {v : Values} {s : Strategy Binary64} (h : strategy v = .ok s) : v.In s := by
  unfold strategy at h
  extract_lets fast slow isRsi rsiPeriod bound overbought oversold at h
  have bounded : ∀ given default x, given = some x → bound given default = some x := by
    rintro _ default x rfl
    exact ite_self _
  split at h
  · cases h
  split at h
  · cases h
  split at h
  · cases h
  split at h
  · cases h
  cases h
  constructor
  case fast | slow | stopLoss | takeProfit =>
    intro n given
    simp only [fast, slow, given, Option.getD_some]
  case rsiPeriod =>
    intro n given
    simp only [rsiPeriod, given, Option.getD_some, ite_self]
  case overbought | oversold => exact bounded _ _
  case threshold | rule | entry | average => rfl

theorem optional_given {β : Type} {read : String → Except ScriptError β} {written : Option String}
    {given : Option β} (h : optional read written = .ok given) (said : written = some raw) :
    ∃ b, given = some b ∧ read raw = .ok b := by
  subst said
  obtain ⟨b, ok, same⟩ := map_ok.mp h
  exact ⟨b, same.symm, ok⟩

theorem period_is {n : Int} (h : period field raw = .ok n) :
    ∃ x, Numeral.real? raw = some (.finite x) ∧ x.Is n := by
  obtain ⟨x, read, h⟩ := bind_ok.mp h
  refine ⟨x, finite_ok.mp read, ?_⟩
  split at h
  · cases h
  rename_i fraction
  split at h
  · cases h
  cases h
  simpa [Binary64.Is] using fraction

theorem percent_ok {x : Binary64} (h : percent field raw = .ok x) :
    Numeral.real? raw = some (.finite x) := by
  obtain ⟨y, read, h⟩ := bind_ok.mp h
  split at h
  · cases h
  · cases h
    exact finite_ok.mp read

theorem entry_name {named : Option String} {hasRsiPeriod : Bool} {cs : List Char} {e : Entry}
    (h : entry named hasRsiPeriod cs = .ok e) (said : named = some raw) :
    e.name = Text.upper raw := by
  subst said
  simp only [entry] at h
  split at h
  · rename_i found
    cases h
    have same := List.find?_some (show List.find? _ _ = some _ from found)
    exact eq_of_beq same
  · cases h

theorem average_name {named : Option String} {cs : List Char} {a : Average}
    (h : average named cs = .ok a) (said : named = some raw) : a.name = Text.upper raw := by
  subst said
  simp only [average] at h
  split at h
  · rename_i found
    cases h
    have same := List.find?_some (show List.find? _ _ = some _ from found)
    exact eq_of_beq same
  · cases h

/-- A strategy has every value that its script says. -/
theorem holds_of_said {cs : List Char} {v : Values} {s : Strategy Binary64} (read : v.Of cs)
    (kept : v.In s) (written : said field cs = some raw) : Holds s raw field := by
  cases field with
  | script =>
    rw [show said .script cs = none from assigned?_nil] at written
    cases written
  | fastPeriod =>
    obtain ⟨n, given, ok⟩ := optional_given read.fast written
    obtain rfl := kept.fast n given
    exact period_is ok
  | slowPeriod =>
    obtain ⟨n, given, ok⟩ := optional_given read.slow written
    obtain rfl := kept.slow n given
    exact period_is ok
  | stopLossPercent =>
    obtain ⟨x, given, ok⟩ := optional_given read.stopLoss written
    obtain rfl := kept.stopLoss x given
    exact percent_ok ok
  | takeProfitPercent =>
    obtain ⟨x, given, ok⟩ := optional_given read.takeProfit written
    obtain rfl := kept.takeProfit x given
    exact percent_ok ok
  | rsiPeriod =>
    obtain ⟨n, given, ok⟩ := optional_given read.rsiPeriod written
    exact ⟨n, kept.rsiPeriod n given, period_is ok⟩
  | rsiOverbought =>
    obtain ⟨x, given, ok⟩ := optional_given read.overbought written
    exact ⟨x, kept.overbought x given, finite_ok.mp ok⟩
  | rsiOversold =>
    obtain ⟨x, given, ok⟩ := optional_given read.oversold written
    exact ⟨x, kept.oversold x given, finite_ok.mp ok⟩
  | priceThreshold =>
    obtain ⟨x, given, ok⟩ := optional_given read.threshold written
    exact ⟨x, kept.threshold.trans given, finite_ok.mp ok⟩
  | customRule => exact kept.rule.trans (read.rule.trans written)
  | entryType =>
    change s.entry.name = _
    rw [kept.entry]
    exact entry_name read.entry written
  | maType =>
    change s.average.name = _
    rw [kept.average]
    exact average_name read.average written

end Script
end SignalDesk
