import SignalDesk.Proofs.Strategy.Compiled
import SignalDesk.Proofs.Strategy.Reading

namespace SignalDesk

/-- Whether a number is a finite one of the format, and not below zero. -/
def Binary64.IsAmount (x : Binary64) : Prop := (Real64.finite x).Fits ∧ 0 ≤ x.value

namespace Strategy

/-- The lower bound of an index, 30 where there is none. -/
def low (s : Strategy Binary64) : Rat := (s.oversold.map Binary64.value).getD 30

/-- The upper bound of an index, 70 where there is none. -/
def high (s : Strategy Binary64) : Rat := (s.overbought.map Binary64.value).getD 70

/-- Whether every value of a strategy is in range, and what its rule needs is there. -/
structure InRange (s : Strategy Binary64) : Prop where
  fast : 1 ≤ s.fastPeriod
  slow : 1 ≤ s.slowPeriod
  rising : s.entry.crossesAverages = true → s.fastPeriod < s.slowPeriod
  stopLoss : s.stopLossPercent.IsAmount
  takeProfit : s.takeProfitPercent.IsAmount
  rsiPeriod : ∀ n, s.rsiPeriod = some n → 1 ≤ n
  index : s.entry = .rsi →
    s.rsiPeriod.isSome = true ∧ s.oversold.isSome = true ∧ s.overbought.isSome = true
  bounds : s.oversold.isSome = true ∨ s.overbought.isSome = true →
    0 ≤ s.low ∧ s.low < s.high ∧ s.high ≤ 100
  threshold : ∀ x, s.threshold = some x → (Real64.finite x).Fits
  thresholdSet : s.entry.crossesPrice = true → s.threshold.isSome = true
  rule : s.entry = .custom → ∃ rule, s.customRule = some rule ∧ Script.isBlank rule = false

end Strategy

namespace Script

open Strategy

/-- Whether the text has the fault that an error tells of, as far as the error is about a single
value of it. -/
def Misread (text : String) : ScriptError → Prop
  | .notNumber field raw => numeral field text.toList = some raw ∧ Numeral.real? raw = none
  | .notFinite field raw => numeral field text.toList = some raw ∧
      ∃ x, Numeral.real? raw = some x ∧ x.isFinite = false
  | .notWhole field raw => numeral field text.toList = some raw ∧
      ∃ x, Numeral.real? raw = some (.finite x) ∧ x.isWhole = false
  | .notPositive field raw => numeral field text.toList = some raw ∧
      ∃ x, Numeral.real? raw = some (.finite x) ∧ x.truncate < 1
  | .negative field raw => numeral field text.toList = some raw ∧
      ∃ x, Numeral.real? raw = some (.finite x) ∧ x.value < 0
  | .unknownEntry raw => entryName text.toList = some raw ∧ Entry.ofName? (Text.upper raw) = none
  | .unknownAverage raw =>
      averageName text.toList = some raw ∧ Average.ofName? (Text.upper raw) = none
  | _ => False

/-- Whether the text has the fault that an error tells of. -/
def HasFault (text : String) : ScriptError → Prop
  | .empty => isBlank text = true
  | .periodsNotRising fast slow => slow ≤ fast
  | .boundsNotRising low high =>
      ¬ (0 ≤ low.value ∧ low.value < high.value ∧ high.value ≤ 100)
  | .thresholdMissing entry =>
      entry.crossesPrice = true ∧ numeral .priceThreshold text.toList = none
  | .ruleMissing => (ruleText text.toList).all isBlank = true
  | e => Misread text e

theorem Misread.hasFault {text : String} {e : ScriptError} (h : Misread text e) :
    HasFault text e := by
  cases e with
  | empty | periodsNotRising | boundsNotRising | thresholdMissing | ruleMissing => exact h.elim
  | notNumber | notFinite | notWhole | notPositive | negative | unknownEntry | unknownAverage =>
    exact h

theorem finite_ok {field : ScriptField} {raw : String} {x : Binary64} :
    finite field raw = .ok x ↔ Numeral.real? raw = some (.finite x) := by
  constructor
  · intro h
    simp only [finite] at h
    split at h
    · cases h
    · rename_i read
      cases h
      exact read
    · cases h
  · intro h
    simp only [finite, h]

theorem finite_fits {field : ScriptField} {raw : String} {x : Binary64}
    (h : finite field raw = .ok x) : (Real64.finite x).Fits :=
  Numeral.real?_fits (finite_ok.mp h)

theorem period_finite {field : ScriptField} {raw : String} {n : Int}
    (h : period field raw = .ok n) : ∃ x, Numeral.real? raw = some (.finite x) := by
  obtain ⟨x, read, -⟩ := bind_ok.mp h
  exact ⟨x, finite_ok.mp read⟩

theorem percent_finite {field : ScriptField} {raw : String} {x : Binary64}
    (h : percent field raw = .ok x) : ∃ x, Numeral.real? raw = some (.finite x) := by
  obtain ⟨x, read, -⟩ := bind_ok.mp h
  exact ⟨x, finite_ok.mp read⟩

theorem percent_isAmount {field : ScriptField} {raw : String} {x : Binary64}
    (h : percent field raw = .ok x) : x.IsAmount := by
  obtain ⟨y, read, h⟩ := bind_ok.mp h
  split at h
  · cases h
  · rename_i low
    cases h
    exact ⟨finite_fits read, Rat.not_lt.mp low⟩

/-- What holds of every value that is read holds of one that may be absent. -/
theorem optional_ok {β : Type} {read : String → Except ScriptError β} {p : β → Prop}
    {raw : Option String} {given : Option β} (reads : ∀ raw b, read raw = .ok b → p b)
    (h : optional read raw = .ok given) : ∀ b, given = some b → p b := by
  rintro b rfl
  cases raw with
  | none => cases h
  | some raw =>
    obtain ⟨_, ok, same⟩ := map_ok.mp h
    cases same
    exact reads raw b ok

theorem optional_some {β : Type} {read : String → Except ScriptError β} {raw : String}
    {given : Option β} (h : optional read (some raw) = .ok given) : ∃ b, read raw = .ok b := by
  obtain ⟨b, ok, -⟩ := map_ok.mp h
  exact ⟨b, ok⟩

theorem optional_none {β : Type} {read : String → Except ScriptError β} {raw : Option String}
    (h : optional read raw = .ok none) : raw = none := by
  cases raw with
  | none => rfl
  | some raw =>
    obtain ⟨_, -, none⟩ := map_ok.mp h
    cases none

section Faults

variable {text : String} {field : ScriptField} {raw : String} {e : ScriptError}

theorem finite_misread (written : numeral field text.toList = some raw)
    (h : finite field raw = .error e) : Misread text e := by
  simp only [finite] at h
  split at h
  · rename_i none
    cases h
    exact ⟨written, none⟩
  · cases h
  · rename_i x notFinite some
    cases h
    refine ⟨written, x, some, ?_⟩
    cases x with
    | finite x => exact absurd rfl (notFinite x)
    | infinite negative => rfl
    | nan => rfl

theorem period_misread (written : numeral field text.toList = some raw)
    (h : period field raw = .error e) : Misread text e := by
  rcases bind_error.mp h with fault | ⟨x, read, h⟩
  · exact finite_misread written fault
  have number := finite_ok.mp read
  split at h
  · rename_i broken
    cases h
    exact ⟨written, x, number, by simpa using broken⟩
  split at h
  · rename_i small
    cases h
    exact ⟨written, x, number, small⟩
  · cases h

theorem percent_misread (written : numeral field text.toList = some raw)
    (h : percent field raw = .error e) : Misread text e := by
  rcases bind_error.mp h with fault | ⟨x, read, h⟩
  · exact finite_misread written fault
  split at h
  · rename_i negative
    cases h
    exact ⟨written, x, finite_ok.mp read, negative⟩
  · cases h

theorem optional_misread {β : Type} (field : ScriptField) {read : String → Except ScriptError β}
    (reads : ∀ raw, numeral field text.toList = some raw → read raw = .error e → Misread text e)
    (h : optional read (numeral field text.toList) = .error e) : Misread text e := by
  cases written : numeral field text.toList with
  | none =>
    rw [written] at h
    cases h
  | some raw =>
    rw [written] at h
    exact reads raw written (map_error.mp h)

theorem entry_misread {hasRsiPeriod : Bool}
    (h : entry (entryName text.toList) hasRsiPeriod text.toList = .error e) : Misread text e := by
  simp only [entry] at h
  split at h
  · rename_i raw named
    split at h
    · cases h
    · rename_i unknown
      cases h
      exact ⟨named, unknown⟩
  · split at h
    · cases h
    · split at h <;> cases h

theorem average_misread (h : average (averageName text.toList) text.toList = .error e) :
    Misread text e := by
  simp only [average] at h
  split at h
  · rename_i raw named
    split at h
    · cases h
    · rename_i unknown
      cases h
      exact ⟨named, unknown⟩
  · cases h

theorem values_misread (h : values text.toList = .error e) : Misread text e := by
  rcases bind_error.mp h with fault | ⟨_, -, h⟩
  · exact optional_misread .fastPeriod (fun _ => period_misread) fault
  rcases bind_error.mp h with fault | ⟨_, -, h⟩
  · exact optional_misread .slowPeriod (fun _ => period_misread) fault
  rcases bind_error.mp h with fault | ⟨_, -, h⟩
  · exact optional_misread .stopLossPercent (fun _ => percent_misread) fault
  rcases bind_error.mp h with fault | ⟨_, -, h⟩
  · exact optional_misread .takeProfitPercent (fun _ => percent_misread) fault
  rcases bind_error.mp h with fault | ⟨_, -, h⟩
  · exact optional_misread .rsiPeriod (fun _ => period_misread) fault
  rcases bind_error.mp h with fault | ⟨_, -, h⟩
  · exact optional_misread .rsiOverbought (fun _ => finite_misread) fault
  rcases bind_error.mp h with fault | ⟨_, -, h⟩
  · exact optional_misread .rsiOversold (fun _ => finite_misread) fault
  rcases bind_error.mp h with fault | ⟨_, -, h⟩
  · exact optional_misread .priceThreshold (fun _ => finite_misread) fault
  rcases bind_error.mp h with fault | ⟨_, -, h⟩
  · exact entry_misread fault
  rcases bind_error.mp h with fault | ⟨_, -, h⟩
  · exact average_misread fault
  · cases h

end Faults

theorem standard_isAmount :
    (whole defaultStopLoss).IsAmount ∧ (whole defaultTakeProfit).IsAmount := by
  unfold Binary64.IsAmount Real64.Fits
  decide +kernel

theorem getD_isAmount {given : Option Binary64} {default : Binary64}
    (h : ∀ x, given = some x → x.IsAmount) (standard : default.IsAmount) :
    (given.getD default).IsAmount := by
  cases given with
  | none => exact standard
  | some x => exact h x rfl

theorem getD_value {given : Option Binary64} {default : Binary64} {x : Rat}
    (standard : default.value = x) :
    (given.getD default).value = (given.map Binary64.value).getD x := by
  cases given with
  | none => exact standard
  | some y => rfl

theorem bounds_of_inOrder {oversold overbought : Option Binary64}
    (h : boundsInOrder oversold overbought = true) :
    0 ≤ (oversold.map Binary64.value).getD 30 ∧
      (oversold.map Binary64.value).getD 30 < (overbought.map Binary64.value).getD 70 ∧
      (overbought.map Binary64.value).getD 70 ≤ 100 := by
  have standardLow : (whole defaultOversold).value = 30 := by decide +kernel
  have standardHigh : (whole defaultOverbought).value = 70 := by decide +kernel
  rw [← getD_value standardLow, ← getD_value standardHigh]
  exact of_decide_eq_true h

theorem strategy_inRange {script : List Char} {v : Values} {s : Strategy Binary64}
    (said : v.Of script) (h : strategy v = .ok s) : s.InRange := by
  have periods : v.Periods := values_periods (values_ok.mpr said)
  have formed : s.WellFormed := strategy_wellFormed h periods
  unfold strategy at h
  extract_lets fast slow isRsi rsiPeriod bound overbought oversold at h
  split at h
  · cases h
  rename_i rising
  split at h
  · cases h
  rename_i ordered
  split at h
  · cases h
  split at h
  · cases h
  rename_i ruled
  cases h
  constructor
  case fast => exact formed.fast.1
  case slow => exact formed.slow.1
  case rising =>
    intro crosses
    simp only [Bool.and_eq_true, decide_eq_true_eq, not_and, Int.not_le] at rising
    exact rising crosses
  case stopLoss =>
    exact getD_isAmount (optional_ok (fun _ _ => percent_isAmount) said.stopLoss)
      standard_isAmount.1
  case takeProfit =>
    exact getD_isAmount (optional_ok (fun _ _ => percent_isAmount) said.takeProfit)
      standard_isAmount.2
  case rsiPeriod => exact fun n given => (formed.rsi n given).1
  case index => exact formed.index
  case bounds =>
    intro given
    have present : (overbought.isSome || oversold.isSome) = true :=
      Bool.or_eq_true_iff.mpr given.symm
    rw [present, Bool.true_and, Bool.not_eq_true, Bool.not_eq_false'] at ordered
    exact bounds_of_inOrder ordered
  case threshold => exact optional_ok (fun _ _ => finite_fits) said.threshold
  case thresholdSet => exact formed.threshold
  case rule =>
    intro custom
    obtain ⟨rule, written, -⟩ := formed.rule custom
    change v.rule = some rule at written
    rw [written, Bool.and_eq_true, decide_eq_true_eq, not_and, Option.all_some] at ruled
    exact ⟨rule, written, Bool.not_eq_true _ ▸ ruled custom⟩

theorem strategy_hasFault {text : String} {v : Values} {e : ScriptError}
    (said : v.Of text.toList) (h : strategy v = .error e) : HasFault text e := by
  unfold strategy at h
  extract_lets fast slow isRsi rsiPeriod bound overbought oversold at h
  split at h
  · rename_i falling
    cases h
    simp only [Bool.and_eq_true, decide_eq_true_eq] at falling
    exact falling.2
  split at h
  · rename_i disordered
    cases h
    simp only [Bool.and_eq_true, Bool.not_eq_true', boundsInOrder, decide_eq_false_iff_not]
      at disordered
    exact disordered.2
  split at h
  · rename_i missing
    cases h
    simp only [Bool.and_eq_true, Option.isNone_iff_eq_none] at missing
    exact ⟨missing.1, optional_none (missing.2 ▸ said.threshold)⟩
  split at h
  · rename_i missing
    cases h
    simp only [Bool.and_eq_true, decide_eq_true_eq] at missing
    rw [said.rule] at missing
    exact missing.2
  · cases h

theorem parse_inRange {text : String} {s : Strategy Binary64} (h : parse text = .ok s) :
    s.InRange := by
  obtain ⟨-, v, said, ok⟩ := parse_ok.mp h
  exact strategy_inRange said ok

/-- Every text compiles to a strategy that is in range, or else to an error that names a field of
scripts and tells of a fault that the text has. -/
theorem parse_checked (text : String) :
    match parse text with
    | .ok s => s.InRange
    | .error e => HasFault text e ∧ e.field.name ∈ ["script", "fastPeriod", "slowPeriod",
        "stopLossPercent", "takeProfitPercent", "rsiPeriod", "rsiOverbought", "rsiOversold",
        "priceThreshold", "customRule", "entryType", "maType"] := by
  have named : ∀ field : ScriptField, field.name ∈ ["script", "fastPeriod", "slowPeriod",
      "stopLossPercent", "takeProfitPercent", "rsiPeriod", "rsiOverbought", "rsiOversold",
      "priceThreshold", "customRule", "entryType", "maType"] := by
    intro field
    cases field <;> decide
  split
  · rename_i s ok
    exact parse_inRange ok
  · rename_i e failed
    refine ⟨?_, named e.field⟩
    simp only [parse] at failed
    split at failed
    · rename_i blank
      cases failed
      exact blank
    · rcases bind_error.mp failed with failed | ⟨v, read, failed⟩
      · exact (values_misread failed).hasFault
      · exact strategy_hasFault (values_ok.mp read) failed

end Script
end SignalDesk
