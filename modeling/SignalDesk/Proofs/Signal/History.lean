import SignalDesk.Proofs.Indicator.Lengths
import SignalDesk.Proofs.Strategy.Checked
import SignalDesk.Signal.Rule

namespace SignalDesk

/-- How many candles the rule of a strategy needs. A compiled index rule names its period. -/
def Strategy.candlesNeeded {α : Type} (s : Strategy α) : Int :=
  match s.entry with
  | .crossover | .crossunder => s.slowPeriod + 1
  | .priceAbove | .priceBelow => 2
  | .rsi => s.rsiPeriod.getD defaultRsiPeriod + 2
  | .custom => 1

namespace Rule

/-- Whether an error is that the history is too short. -/
def TooShort (e : RuleError) : Prop := ∃ fault, e = .history fault ∧ Indicator.TooShort fault

/-- Whether a result on so many candles is that of a computation which needs `needed` of them: with
fewer it says that more are required than there are, and with enough it has a value. -/
structure Needs {β : Type} (needed : Int) (available : Nat) (result : Except RuleError β) :
    Prop where
  short : (available : Int) < needed → ∃ required what,
    result = .error (.history (.tooShort required available what)) ∧ (available : Int) < required
  enough : needed ≤ available → ∃ value, result = .ok value

section Needs

variable {β γ : Type} {needed : Int} {available : Nat} {result : Except RuleError β}

theorem Needs.map (h : Needs needed available result) (f : β → γ) :
    Needs needed available (result.map f) where
  short few := by
    obtain ⟨required, what, rfl, more⟩ := h.short few
    exact ⟨required, what, rfl, more⟩
  enough many := by
    obtain ⟨value, rfl⟩ := h.enough many
    exact ⟨f value, rfl⟩

theorem Needs.short_iff (h : Needs needed available result) :
    (∃ e, result = .error e ∧ TooShort e) ↔ (available : Int) < needed := by
  constructor
  · rintro ⟨e, failed, -⟩
    refine Int.not_le.mp fun many => ?_
    obtain ⟨value, ok⟩ := h.enough many
    cases ok.symm.trans failed
  · intro few
    obtain ⟨required, what, failed, -⟩ := h.short few
    exact ⟨_, failed, _, rfl, required, available, what, rfl⟩

theorem Needs.told (h : Needs needed available result) {required : Int} {count : Nat}
    {what : String} (failed : result = .error (.history (.tooShort required count what))) :
    count = available ∧ (count : Int) < required := by
  by_cases few : (available : Int) < needed
  · obtain ⟨_, _, failed', more⟩ := h.short few
    cases failed.symm.trans failed'
    exact ⟨rfl, more⟩
  · obtain ⟨value, ok⟩ := h.enough (Int.not_lt.mp few)
    cases ok.symm.trans failed

theorem Needs.tooShort (h : Needs needed available result) {e : RuleError}
    (failed : result = .error e) : TooShort e := by
  by_cases few : (available : Int) < needed
  · obtain ⟨required, what, failed', -⟩ := h.short few
    cases failed.symm.trans failed'
    exact ⟨_, rfl, required, available, what, rfl⟩
  · obtain ⟨value, ok⟩ := h.enough (Int.not_lt.mp few)
    cases ok.symm.trans failed

end Needs

section Rules

variable {α : Type} {s : Strategy α} {closes : List α}

theorem rsiPeriod_isPeriod (well : s.WellFormed) : Strategy.IsPeriod (rsiPeriod s) := by
  have standard : Strategy.IsPeriod Strategy.defaultRsiPeriod :=
    Script.standard_isPeriod (by decide) (by decide)
  rw [rsiPeriod]
  split
  · rename_i n given
    split
    · exact standard
    · exact well.rsi n given
  · exact standard

theorem rsiPeriod_eq (well : s.WellFormed) :
    rsiPeriod s = s.rsiPeriod.getD Strategy.defaultRsiPeriod := by
  rw [rsiPeriod]
  split
  · rename_i n given
    obtain ⟨positive, -⟩ := well.rsi n given
    have apart : n ≠ 0 := by omega
    rw [if_neg apart, given, Option.getD_some]
  · rename_i absent
    rw [absent, Option.getD_none]

theorem one_le_candlesNeeded (well : s.WellFormed) : 1 ≤ s.candlesNeeded := by
  have slow := well.slow.1
  have index := (rsiPeriod_isPeriod well).1
  rw [rsiPeriod_eq well] at index
  rw [Strategy.candlesNeeded]
  split <;> omega

theorem custom_ok (well : s.WellFormed) (custom : s.entry = .custom)
    (candles : List (Candle α)) : Rule.custom none s candles = .ok (none, .noJudge) := by
  obtain ⟨rule, given, text⟩ := well.rule custom
  have named : customRule? s = some rule := by
    rw [customRule?, given, Option.filter, text]
    rfl
  rw [Rule.custom, named]

variable [Arithmetic α]

open Arithmetic

theorem lastTwo?_append {β : Type} (rest : List β) (a b : β) :
    lastTwo? (rest ++ [a, b]) = some (a, b) := by
  induction rest with
  | nil => rfl
  | cons x rest ih =>
    -- two entries after the first, or more: either way it falls away
    cases rest with
    | nil => rfl
    | cons y rest =>
      cases rest with
      | nil => rfl
      | cons z rest => exact ih

/-- A decision between three verdicts comes to one. -/
theorem choice_ok {β : Type} {p q : Prop} [Decidable p] [Decidable q] (a b c : β) :
    ∃ value, (if p then .ok a else if q then .ok b else .ok c : Except RuleError β) = .ok value := by
  split
  · exact ⟨a, rfl⟩
  split
  · exact ⟨b, rfl⟩
  · exact ⟨c, rfl⟩

theorem lastDefined?_of_defined (defined : ∀ x : α, undefined x = false) (rest : Series α)
    (a b : α) : lastDefined? (rest ++ [some a, some b]) = some (a, b) := by
  rw [lastDefined?, lastTwo?_append]
  dsimp only
  rw [defined a, defined b]
  rfl

/-- The longer average needs the longer history, so it decides. -/
theorem averages_needs (defined : ∀ x : α, undefined x = false) (positive : 1 ≤ s.fastPeriod)
    (rising : s.fastPeriod < s.slowPeriod) :
    Needs (s.slowPeriod + 1) closes.length (averages s closes) := by
  cases fastRun : Indicator.movingAverage s.average closes s.fastPeriod with
  | error e =>
    obtain ⟨⟨what, rfl⟩, few⟩ := Indicator.movingAverage_short positive fastRun
    have failed : averages s closes =
        .error (.history (.tooShort (s.fastPeriod + 1) closes.length what)) := by
      rw [averages, fastRun]
    exact ⟨fun _ => ⟨_, what, failed, few⟩, fun many => absurd few (by omega)⟩
  | ok fast =>
    cases slowRun : Indicator.movingAverage s.average closes s.slowPeriod with
    | error e =>
      obtain ⟨⟨what, rfl⟩, few⟩ := Indicator.movingAverage_short (by omega) slowRun
      have failed : averages s closes =
          .error (.history (.tooShort (s.slowPeriod + 1) closes.length what)) := by
        rw [averages, fastRun]
        dsimp only
        rw [slowRun]
      exact ⟨fun _ => ⟨_, what, failed, few⟩, fun many => absurd few (Int.not_lt.mpr many)⟩
    | ok slow =>
      obtain ⟨n, count, -, within, -⟩ := Indicator.movingAverage_values slowRun
      refine ⟨fun few => absurd few (by omega), fun _ => ?_⟩
      obtain ⟨_, _, _, rfl⟩ := Indicator.movingAverage_last_two fastRun
      obtain ⟨_, _, _, rfl⟩ := Indicator.movingAverage_last_two slowRun
      rw [averages, fastRun]
      dsimp only
      rw [slowRun]
      dsimp only
      rw [lastDefined?_of_defined defined, lastDefined?_of_defined defined]
      exact choice_ok _ _ _

theorem price_needs (given : s.threshold.isSome = true) :
    Needs 2 closes.length (price s closes) := by
  obtain ⟨t, threshold⟩ := Option.isSome_iff_exists.mp given
  rw [price]
  match closes with
  | [] => exact ⟨fun few => ⟨2, _, rfl, few⟩, fun many => absurd many (by simp)⟩
  | [c] => exact ⟨fun few => ⟨2, _, rfl, few⟩, fun many => absurd many (by simp)⟩
  | a :: b :: rest =>
    have two : 2 ≤ (a :: b :: rest).length := Nat.le_add_left 2 rest.length
    refine ⟨fun few => absurd few (by omega), fun _ => ?_⟩
    obtain ⟨rest, prev, last, all⟩ := exists_last_two (a :: b :: rest) two
    rw [all, lastTwo?_append, threshold]
    exact choice_ok _ _ _

theorem strength_needs (positive : 1 ≤ rsiPeriod s) :
    Needs (rsiPeriod s + 2) closes.length (strength s closes) := by
  simp only [strength]
  split
  · rename_i few
    exact ⟨fun _ => ⟨_, _, rfl, few⟩, fun many => absurd few (Int.not_lt.mpr many)⟩
  · rename_i many
    refine ⟨fun few => absurd few many, fun _ => ?_⟩
    cases run : Indicator.rsi closes (rsiPeriod s) with
    | error e =>
      obtain ⟨-, few⟩ := Indicator.requireHistory_short positive (map_error.mp run)
      omega
    | ok series =>
      obtain ⟨rest, prev, last, rfl⟩ := Indicator.rsi_last_two run (Int.not_lt.mp many)
      dsimp only
      rw [lastTwo?_append]
      exact choice_ok _ _ _

theorem verdict_needs (defined : ∀ x : α, undefined x = false) (well : s.WellFormed)
    (rising : s.entry.crossesAverages = true → s.fastPeriod < s.slowPeriod)
    {candles : List (Candle α)} (known : candles ≠ []) :
    Needs s.candlesNeeded candles.length (verdict none s candles) := by
  have count : candles.length = (candles.map (·.close)).length := (List.length_map _).symm
  simp only [verdict, Strategy.candlesNeeded]
  cases entry : s.entry with
  | crossover | crossunder =>
    rw [count]
    exact averages_needs defined well.fast.1 (rising (by rw [entry]; rfl))
  | priceAbove | priceBelow =>
    rw [count]
    exact price_needs (well.threshold (by rw [entry]; rfl))
  | rsi =>
    dsimp only
    rw [count, ← rsiPeriod_eq well]
    exact strength_needs (rsiPeriod_isPeriod well).1
  | custom =>
    have some := List.length_pos_iff.mpr known
    exact ⟨fun few => absurd few (by dsimp only; omega), fun _ => ⟨_, custom_ok well entry candles⟩⟩

theorem evaluate_needs (defined : ∀ x : α, undefined x = false) (well : s.WellFormed)
    (rising : s.entry.crossesAverages = true → s.fastPeriod < s.slowPeriod)
    (candles : List (Candle α)) :
    Needs s.candlesNeeded candles.length (evaluate none s candles) := by
  rw [evaluate]
  split
  · rename_i none
    obtain rfl := List.getLast?_eq_none_iff.mp none
    have one := one_le_candlesNeeded well
    refine ⟨fun _ => ⟨2, _, rfl, ?_⟩, fun many => absurd many ?_⟩
    · rw [List.length_nil]
      omega
    · rw [List.length_nil]
      omega
  · rename_i last found
    have known : candles ≠ [] := by
      rintro rfl
      cases found
    exact (verdict_needs defined well rising known).map _

end Rules

/-- **How much history is enough.** In exact arithmetic a compiled strategy finds a list of candles
too short exactly when it has fewer than its rule needs, and then it says how many there are and
that more are required; from a list that is long enough it gives a signal. -/
theorem short_history_iff {text : String} {s : Strategy Binary64}
    (compiled : Script.parse text = .ok s) (candles : List (Candle Rat)) :
    ((∃ e, evaluate none (s.map Binary64.value) candles = .error e ∧ TooShort e) ↔
      (candles.length : Int) < s.candlesNeeded) ∧
    (∀ required available what,
      evaluate none (s.map Binary64.value) candles =
        .error (.history (.tooShort required available what)) →
      available = candles.length ∧ (available : Int) < required) ∧
    (s.candlesNeeded ≤ candles.length →
      ∃ signal, evaluate none (s.map Binary64.value) candles = .ok signal) := by
  have well := (Script.parse_wellFormed compiled).map Binary64.value
  have needs : Needs s.candlesNeeded candles.length
      (evaluate none (s.map Binary64.value) candles) :=
    evaluate_needs (fun _ => rfl) well (Script.parse_inRange compiled).rising candles
  exact ⟨needs.short_iff, fun _ _ _ => needs.told, needs.enough⟩

/-- Averages over one and three closes: three candles are too few, and four are enough. -/
theorem sample_short_history :
    let candle (close : Rat) : Candle Rat := ⟨0, close, close, close, close, 1, 1⟩
    ∃ s, Script.parse "fastLength = 1 slowLength = 3" = .ok s ∧
      (∃ required what, evaluate none (s.map Binary64.value) ([5, 4, 4].map candle) =
        .error (.history (.tooShort required 3 what)) ∧ 3 < required) ∧
      ∃ signal, evaluate none (s.map Binary64.value) ([5, 4, 4, 9].map candle) = .ok signal := by
  intro candle
  obtain ⟨s, compiled⟩ : ∃ s, Script.parse "fastLength = 1 slowLength = 3" = .ok s :=
    exists_of_isOk (by decide +kernel)
  have needed : (Script.parse "fastLength = 1 slowLength = 3").toOption.map (·.candlesNeeded) =
      some 4 := by
    decide +kernel
  rw [compiled] at needed
  have four : s.candlesNeeded = 4 := Option.some.inj needed
  refine ⟨s, compiled, ?_, ?_⟩
  · obtain ⟨short, told, -⟩ := short_history_iff compiled ([5, 4, 4].map candle)
    obtain ⟨_, failed, _, rfl, required, available, what, rfl⟩ := short.mpr (by rw [four]; decide)
    obtain ⟨rfl, more⟩ := told required available what failed
    exact ⟨required, what, failed, more⟩
  · exact (short_history_iff compiled _).2.2 (by rw [four]; decide)

end Rule
end SignalDesk
