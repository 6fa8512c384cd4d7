import SignalDesk.Proofs.Indicator.Stepwise
import SignalDesk.Proofs.Signal.History

namespace SignalDesk

namespace Stepwise

open Arithmetic

/-- A decision and its reason. -/
abbrev Verdict := Checked (Decision × Reason Real64)

def averages (s : Strategy Real64) (closes : List Real64) : Verdict := do
  let fast ← movingAverage closes s.average s.fastPeriod
  let slow ← movingAverage closes s.average s.slowPeriod
  let prevFast ← entryAt fast (-2)
  let lastFast ← entryAt fast (-1)
  let prevSlow ← entryAt slow (-2)
  let lastSlow ← entryAt slow (-1)
  if [prevFast, lastFast, prevSlow, lastSlow].any Real64.isNan then
    .error (ofHistory (.tooShort (s.slowPeriod + 1) closes.length "crossover"))
  else if s.entry = .crossover && Rule.crossedAbove prevFast prevSlow lastFast lastSlow then
    .ok (some .buy, .crossedOver s.average s.fastPeriod s.slowPeriod)
  else if s.entry = .crossunder && Rule.crossedBelow prevFast prevSlow lastFast lastSlow then
    .ok (some .sell, .crossedUnder s.average s.fastPeriod s.slowPeriod)
  else .ok (none, .noCrossing)

def price (s : Strategy Real64) (closes : List Real64) : Verdict :=
  if closes.length < 2 then .error (ofHistory (.tooShort 2 closes.length "price threshold"))
  else do
    let prev ← entryAt closes (-2)
    let last ← entryAt closes (-1)
    match s.threshold with
    | none => .error (.rule .thresholdMissing)
    | some t =>
      if s.entry = .priceAbove && (le prev t && lt t last) then .ok (some .buy, .priceAbove t)
      else if s.entry = .priceBelow && (le t prev && lt last t) then .ok (some .sell, .priceBelow t)
      else .ok (none, .priceStayed t)

def strength (s : Strategy Real64) (closes : List Real64) : Verdict :=
  let period := Rule.rsiPeriod s
  let oversold := s.oversold.getD (ofNat Strategy.defaultOversold)
  let overbought := s.overbought.getD (ofNat Strategy.defaultOverbought)
  if (closes.length : Int) < period + 2 then
    .error (ofHistory
      (.tooShort (period + 2) closes.length ("RSI(" ++ toString period ++ ")")))
  else do
    let series ← rsi closes period
    let prev ← entryAt series (-2)
    let last ← entryAt series (-1)
    if Rule.crossedAbove prev oversold last oversold then
      .ok (some .buy, .leftOversold oversold last)
    else if Rule.crossedBelow prev overbought last overbought then
      .ok (some .sell, .leftOverbought overbought last)
    else .ok (none, .insideBounds last oversold overbought)

def verdict (s : Strategy Real64) (candles : List (Candle Real64)) : Verdict :=
  let closes := candles.map (·.close)
  match s.entry with
  | .rsi => strength s closes
  | .priceAbove | .priceBelow => price s closes
  | .custom =>
    match Rule.customRule? s with
    | none => .error (.rule .ruleMissing)
    | some _ => .ok (none, .noJudge)
  | .crossover | .crossunder => averages s closes

/-- Puts the levels around the price. -/
def build (side : Decision) (price : Real64) (s : Strategy Real64) (reason : Reason Real64)
    (candleTime : Json) : Checked (Signal Real64) := do
  let stop ← divide s.stopLossPercent (ofNat 100)
  let target ← divide s.takeProfitPercent (ofNat 100)
  match side with
  | some .buy => return ⟨side, price, price * (ofNat 1 - stop), price * (ofNat 1 + target), reason,
      candleTime⟩
  | some .sell => return ⟨side, price, price * (ofNat 1 + stop), price * (ofNat 1 - target), reason,
      candleTime⟩
  | none => return .stayOut price reason candleTime

/-- The signal of the latest candle, where nothing decides custom rules. -/
def evaluate (s : Strategy Real64) (candles : List (Candle Real64)) : Checked (Signal Real64) :=
  if candles.isEmpty then .error (ofHistory (.tooShort 2 0 s.entry.name))
  else do
    let last ← entryAt candles (-1)
    let (side, reason) ← verdict s candles
    build side last.close s reason (.int last.openTime)

section Last

variable {β : Type}

theorem entryAt_from_end (front back : List β) (x : β) :
    entryAt (front ++ x :: back) (-(back.length + 1 : Nat)) = .ok x := by
  have place : -((back.length + 1 : Nat) : Int) + ((front ++ x :: back).length : Nat) =
      (front.length : Nat) := by
    simp only [List.length_append, List.length_cons]
    omega
  have below : -((back.length + 1 : Nat) : Int) < 0 := by omega
  have above : ¬((front.length : Nat) : Int) < 0 := by omega
  simp only [entryAt, if_pos below, place, if_neg above, Int.toNat_natCast,
    List.getElem?_append_right (Nat.le_refl _), Nat.sub_self, List.getElem?_cons_zero]

theorem lastDefined?_append (rest : Series Real64) (a b : Option Real64) :
    Rule.lastDefined? (rest ++ [a, b]) =
      if (a.getD .nan).isNan || (b.getD .nan).isNan then none
      else some (a.getD .nan, b.getD .nan) := by
  rw [Rule.lastDefined?, Rule.lastTwo?_append]
  cases a with
  | none => rfl
  | some a =>
    cases b with
    | none => exact (if_pos (Bool.or_true _)).symm
    | some b => rfl

theorem filled_append (rest : Series Real64) (a b : Option Real64) :
    filled (rest ++ [a, b]) = filled rest ++ [a.getD .nan, b.getD .nan] := by
  simp [filled]

end Last

section Rules

variable {s : Strategy Real64} {closes : List Real64}

theorem entries_last_two (rest : List Real64) (a b : Real64) :
    entryAt (rest ++ [a, b]) (-2) = .ok a ∧ entryAt (rest ++ [a, b]) (-1) = .ok b := by
  have last := entryAt_from_end (rest ++ [a]) [] b
  rw [List.append_assoc] at last
  exact ⟨entryAt_from_end rest [b] a, last⟩

theorem averages_eq (well : s.WellFormed) :
    averages s closes = (Rule.averages s closes).mapError .rule := by
  rw [averages, movingAverage_eq well.fast.2, movingAverage_eq well.slow.2]
  cases fastRun : Indicator.movingAverage s.average closes s.fastPeriod with
  | error e =>
    simp only [Rule.averages, fastRun]
    rfl
  | ok fast =>
    cases slowRun : Indicator.movingAverage s.average closes s.slowPeriod with
    | error e =>
      simp only [Rule.averages, fastRun, slowRun]
      rfl
    | ok slow =>
      obtain ⟨fastLength, two⟩ := Indicator.movingAverage_length fastRun
      obtain ⟨slowLength, -⟩ := Indicator.movingAverage_length slowRun
      obtain ⟨fast, f, f', rfl⟩ := exists_last_two fast (by omega)
      obtain ⟨slow, g, g', rfl⟩ := exists_last_two slow (by omega)
      obtain ⟨prevFast, lastFast⟩ := entries_last_two (filled fast) (f.getD .nan) (f'.getD .nan)
      obtain ⟨prevSlow, lastSlow⟩ := entries_last_two (filled slow) (g.getD .nan) (g'.getD .nan)
      simp only [Rule.averages, fastRun, slowRun, Except.map, ok_mapError, ok_bind,
        filled_append, prevFast, lastFast, prevSlow, lastSlow, lastDefined?_append]
      generalize f.getD .nan = a, f'.getD .nan = a', g.getD .nan = b, g'.getD .nan = b'
      have any : [a, a', b, b'].any Real64.isNan =
          (a.isNan || a'.isNan || (b.isNan || b'.isNan)) := by
        simp [Bool.or_assoc]
      rw [any]
      cases a.isNan || a'.isNan with
      | true => rfl
      | false =>
        cases b.isNan || b'.isNan with
        | true => rfl
        | false =>
          simp only [Bool.or_self, Bool.false_eq_true, if_false]
          split
          · rfl
          split <;> rfl

theorem price_eq : price s closes = (Rule.price s closes).mapError .rule := by
  rw [price, Rule.price]
  split
  · rename_i short
    have none : Rule.lastTwo? closes = none := by
      cases closes with
      | nil => rfl
      | cons a rest =>
        cases rest with
        | nil => rfl
        | cons b rest => exact absurd short (Nat.not_lt.mpr (Nat.le_add_left 2 rest.length))
    rw [none]
    rfl
  · rename_i long
    obtain ⟨rest, prev, last, rfl⟩ := exists_last_two closes (Nat.not_lt.mp long)
    obtain ⟨prevAt, lastAt⟩ := entries_last_two rest prev last
    rw [Rule.lastTwo?_append, prevAt, lastAt, ok_bind, ok_bind]
    cases s.threshold with
    | none => rfl
    | some t =>
      dsimp only
      split
      · rfl
      split <;> rfl

theorem strength_eq (well : s.WellFormed) :
    strength s closes = (Rule.strength s closes).mapError .rule := by
  simp only [strength, Rule.strength]
  split
  · rfl
  · rename_i long
    rw [rsi_eq (Rule.rsiPeriod_isPeriod well).2]
    cases run : Indicator.rsi closes (Rule.rsiPeriod s) with
    | error e => rfl
    | ok series =>
      obtain ⟨rest, prev, last, rfl⟩ := Indicator.rsi_last_two run (Int.not_lt.mp long)
      obtain ⟨prevAt, lastAt⟩ := entries_last_two (filled rest) prev last
      simp only [Except.map, ok_mapError, ok_bind, filled_append, Option.getD_some, prevAt,
        lastAt, Rule.lastTwo?_append]
      split
      · rfl
      split <;> rfl

theorem verdict_eq (well : s.WellFormed) (candles : List (Candle Real64)) :
    verdict s candles = (Rule.verdict none s candles).mapError .rule := by
  simp only [verdict, Rule.verdict]
  cases s.entry with
  | rsi => exact strength_eq well
  | priceAbove => exact price_eq
  | priceBelow => exact price_eq
  | crossover => exact averages_eq well
  | crossunder => exact averages_eq well
  | custom =>
    dsimp only [Rule.custom]
    cases Rule.customRule? s <;> rfl

theorem build_eq (side : Decision) (price : Real64) (reason : Reason Real64) (time : Json) :
    build side price s reason time = .ok (Signal.build side price s reason time) := by
  have hundred : isZero (ofNat 100 : Real64) = false := ofNat_apart (by decide)
  rw [build, divide_eq hundred, ok_bind, divide_eq hundred, ok_bind]
  cases side with
  | none => rfl
  | some side => cases side <;> rfl

/-- No step of an evaluation goes wrong in a way that the rules do not name. -/
theorem evaluate_eq (well : s.WellFormed) (candles : List (Candle Real64)) :
    evaluate s candles = (Rule.evaluate none s candles).mapError .rule := by
  rw [evaluate, Rule.evaluate]
  rcases List.eq_nil_or_concat candles with rfl | ⟨front, last, rfl⟩
  · rfl
  · have lastAt : entryAt (front ++ [last]) (-1) = .ok last := entryAt_from_end front [] last
    have some : (front ++ [last]).isEmpty = false := by simp
    rw [List.concat_eq_append, List.getLast?_concat, some, if_neg Bool.false_ne_true, lastAt, ok_bind,
      verdict_eq well]
    cases verdict : Rule.verdict none s (front ++ [last]) with
    | error e => rfl
    | ok decided =>
      obtain ⟨side, reason⟩ := decided
      simp only [Except.map, ok_mapError, ok_bind, build_eq]

end Rules

end Stepwise

namespace Rule

variable {α : Type} {s : Strategy α} {closes : List α}

variable [Arithmetic α]

theorem averages_error (well : s.WellFormed) {e : RuleError}
    (h : averages s closes = .error e) : TooShort e := by
  rw [averages] at h
  split at h
  · rename_i failed
    cases h
    exact ⟨_, rfl, Indicator.movingAverage_error well.fast.1 failed⟩
  split at h
  · rename_i failed
    cases h
    exact ⟨_, rfl, Indicator.movingAverage_error well.slow.1 failed⟩
  split at h
  · split at h
    · cases h
    split at h <;> cases h
  · cases h
    exact ⟨_, rfl, _, _, _, rfl⟩

theorem verdict_error (well : s.WellFormed) {candles : List (Candle α)} {e : RuleError}
    (h : verdict none s candles = .error e) : TooShort e := by
  simp only [verdict] at h
  cases entry : s.entry with
  | rsi =>
    rw [entry] at h
    exact (strength_needs (rsiPeriod_isPeriod well).1).tooShort h
  | priceAbove =>
    rw [entry] at h
    exact (price_needs (well.threshold (by rw [entry]; rfl))).tooShort h
  | priceBelow =>
    rw [entry] at h
    exact (price_needs (well.threshold (by rw [entry]; rfl))).tooShort h
  | crossover =>
    rw [entry] at h
    exact averages_error well h
  | crossunder =>
    rw [entry] at h
    exact averages_error well h
  | custom =>
    rw [entry] at h
    rw [custom_ok well entry] at h
    cases h

theorem evaluate_error (well : s.WellFormed) {candles : List (Candle α)} {e : RuleError}
    (h : evaluate none s candles = .error e) : TooShort e := by
  rw [evaluate] at h
  split at h
  · cases h
    exact ⟨_, rfl, _, _, _, rfl⟩
  · exact verdict_error well (map_error.mp h)

end Rule

namespace Stepwise

/-- **Evaluations end well.** A compiled script has what its rule needs, and on any history, whatever
its prices, it gives a signal or finds the history too short. No place is out of range, nothing is
divided by zero, no period is below one, no integer is too large for a number, and no threshold,
bound or rule is missing. -/
theorem evaluate_ends {text : String} {s : Strategy Binary64} (compiled : Script.parse text = .ok s)
    (candles : List (Candle Real64)) :
    s.WellFormed ∧
    ((∃ signal, Rule.evaluate none (s.map .finite) candles = .ok signal ∧
      evaluate (s.map .finite) candles = .ok signal) ∨
    ∃ required available what,
      Rule.evaluate none (s.map .finite) candles =
        .error (.history (.tooShort required available what)) ∧
      evaluate (s.map .finite) candles =
        .error (.rule (.history (.tooShort required available what)))) := by
  have sound := Script.parse_wellFormed compiled
  have well := sound.map Real64.finite
  have same := evaluate_eq well candles
  refine ⟨sound, ?_⟩
  cases run : Rule.evaluate none (s.map .finite) candles with
  | ok signal =>
    rw [run] at same
    exact .inl ⟨signal, rfl, same⟩
  | error e =>
    obtain ⟨_, rfl, required, available, what, rfl⟩ := Rule.evaluate_error well run
    rw [run] at same
    exact .inr ⟨required, available, what, rfl, same⟩

/-- An index over three closes of which one is infinite and one no number. -/
theorem sample_evaluate_ends :
    let candle (close : Real64) : Candle Real64 := ⟨0, .zero, close, close, close, .zero, 1⟩
    let candles := [candle (.ofInt 3), candle (.infinite true), candle .nan]
    ∃ s, Script.parse "entrytype = RSI rsilength = 1" = .ok s ∧ s.WellFormed ∧
      ((∃ signal, Rule.evaluate none (s.map .finite) candles = .ok signal ∧
        evaluate (s.map .finite) candles = .ok signal) ∨
      ∃ required available what,
        Rule.evaluate none (s.map .finite) candles =
          .error (.history (.tooShort required available what)) ∧
        evaluate (s.map .finite) candles =
          .error (.rule (.history (.tooShort required available what)))) := by
  intro candle candles
  obtain ⟨s, compiled⟩ : ∃ s, Script.parse "entrytype = RSI rsilength = 1" = .ok s :=
    exists_of_isOk (by decide +kernel)
  exact ⟨s, compiled, evaluate_ends compiled candles⟩

end Stepwise
end SignalDesk
