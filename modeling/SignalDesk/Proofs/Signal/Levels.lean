import Mathlib.Algebra.Order.Field.Basic
import Mathlib.Tactic.Linarith
import SignalDesk.Proofs.Signal.Crossings
import SignalDesk.Proofs.Strategy.Checked

namespace SignalDesk

section Percent

variable {price percent : Rat}

theorem le_raised (nonneg : 0 ≤ price) (amount : 0 ≤ percent) :
    price ≤ price * (1 + percent / 100) := by
  have part : 0 ≤ price * (percent / 100) := mul_nonneg nonneg (by positivity)
  linarith

theorem lowered_le (nonneg : 0 ≤ price) (amount : 0 ≤ percent) :
    price * (1 - percent / 100) ≤ price := by
  have part : 0 ≤ price * (percent / 100) := mul_nonneg nonneg (by positivity)
  linarith

/-- A hundred percent are the whole price. -/
theorem lowered_nonneg_iff (nonneg : 0 ≤ price) :
    0 ≤ price * (1 - percent / 100) ↔ percent ≤ 100 ∨ price = 0 := by
  have whole : 0 ≤ 1 - percent / 100 ↔ percent ≤ 100 := by
    rw [sub_nonneg, div_le_one (by norm_num)]
  rcases nonneg.eq_or_lt with rfl | positive
  · simp
  · rw [mul_nonneg_iff_of_pos_left positive, whole, or_iff_left positive.ne']

end Percent

namespace Rule

variable {s : Strategy Rat} {price : Rat} {reason : Reason Rat} {time : Json}

theorem build_buy : Signal.build (some .buy) price s reason time =
    ⟨some .buy, price, price * (1 - s.stopLossPercent / 100),
      price * (1 + s.takeProfitPercent / 100), reason, time⟩ := by
  have one : (Arithmetic.ofNat 1 : Rat) = 1 := Nat.cast_one
  rw [Signal.build, one]
  rfl

theorem build_sell : Signal.build (some .sell) price s reason time =
    ⟨some .sell, price, price * (1 + s.stopLossPercent / 100),
      price * (1 - s.takeProfitPercent / 100), reason, time⟩ := by
  have one : (Arithmetic.ofNat 1 : Rat) = 1 := Nat.cast_one
  rw [Signal.build, one]
  rfl

/-- A signal is what its decision makes of the latest close. -/
theorem evaluate_built {judge : Option (Judge Rat)} {candles : List (Candle Rat)}
    {signal : Signal Rat} {last : Candle Rat} (latest : candles.getLast? = some last)
    (evaluated : evaluate judge s candles = .ok signal) :
    ∃ reason time, signal = Signal.build signal.side last.close s reason time := by
  rw [evaluate, latest] at evaluated
  obtain ⟨⟨side, reason⟩, -, rfl⟩ := map_ok.mp evaluated
  exact ⟨reason, _, by rw [build_side]⟩

/-- **Levels stand around the price.** In exact arithmetic a compiled strategy that buys at a price
of zero or more puts the stop at or below it and the target at or above it, and one that sells the
other way round. The lower level is zero or more exactly when its percentage is at most a hundred,
or the price is zero. -/
theorem levels_around_price {text : String} {s : Strategy Binary64}
    (compiled : Script.parse text = .ok s) (judge : Option (Judge Rat))
    {candles : List (Candle Rat)} {last : Candle Rat} (latest : candles.getLast? = some last)
    (nonneg : 0 ≤ last.close) {signal : Signal Rat}
    (evaluated : evaluate judge (s.map Binary64.value) candles = .ok signal) :
    (signal.side = some .buy →
      signal.price = last.close ∧ signal.stopLoss ≤ signal.price ∧
        signal.price ≤ signal.takeProfit ∧
        (0 ≤ signal.stopLoss ↔ s.stopLossPercent.value ≤ 100 ∨ last.close = 0)) ∧
    (signal.side = some .sell →
      signal.price = last.close ∧ signal.takeProfit ≤ signal.price ∧
        signal.price ≤ signal.stopLoss ∧
        (0 ≤ signal.takeProfit ↔ s.takeProfitPercent.value ≤ 100 ∨ last.close = 0)) := by
  have range := Script.parse_inRange compiled
  have stop : 0 ≤ (s.map Binary64.value).stopLossPercent := range.stopLoss.2
  have target : 0 ≤ (s.map Binary64.value).takeProfitPercent := range.takeProfit.2
  obtain ⟨reason, time, built⟩ := evaluate_built latest evaluated
  constructor
  · intro buys
    rw [buys, build_buy] at built
    subst built
    exact ⟨rfl, lowered_le nonneg stop, le_raised nonneg target, lowered_nonneg_iff nonneg⟩
  · intro sells
    rw [sells, build_sell] at built
    subst built
    exact ⟨rfl, lowered_le nonneg target, le_raised nonneg stop, lowered_nonneg_iff nonneg⟩

/-- What a script decides on a history, with price, stop and target. -/
def levelsOf (text : String) (candles : List (Candle Rat)) :
    Option (Decision × Rat × Rat × Rat) := do
  let s ← (Script.parse text).toOption
  let signal ← (evaluate none (s.map Binary64.value) candles).toOption
  return (signal.side, signal.price, signal.stopLoss, signal.takeProfit)

theorem levelsOf_some {text : String} {candles : List (Candle Rat)} {side : Decision}
    {price stop target : Rat} (h : levelsOf text candles = some (side, price, stop, target)) :
    ∃ s signal, Script.parse text = .ok s ∧
      evaluate none (s.map Binary64.value) candles = .ok signal ∧
      signal.side = side ∧ signal.price = price ∧ signal.stopLoss = stop ∧
      signal.takeProfit = target := by
  unfold levelsOf at h
  cases compiled : Script.parse text with
  | error e =>
    rw [compiled] at h
    cases h
  | ok s =>
    cases evaluated : evaluate none (s.map Binary64.value) candles with
    | error e =>
      simp only [compiled, Except.toOption, Option.bind_eq_bind, Option.bind_some, evaluated] at h
      cases h
    | ok signal =>
      simp only [compiled, Except.toOption, Option.bind_eq_bind, Option.bind_some, evaluated] at h
      cases h
      exact ⟨s, signal, rfl, evaluated, rfl, rfl, rfl, rfl⟩

/-- A stop of the whole price. -/
theorem sample_levels :
    ∃ s signal, Script.parse "entryType = price_above threshold = 2 stopLoss = 100" = .ok s ∧
      evaluate none (s.map Binary64.value) ((sampleHistory Rat).take 2) = .ok signal ∧
      signal.side = some .buy ∧ signal.price = 3 ∧ 0 ≤ signal.stopLoss ∧
      signal.stopLoss ≤ signal.price ∧ signal.price ≤ signal.takeProfit := by
  have levels : levelsOf "entryType = price_above threshold = 2 stopLoss = 100"
      ((sampleHistory Rat).take 2) = some (some .buy, 3, 0, 3 * (1 + 4 / 100)) := by
    decide +kernel
  obtain ⟨s, signal, compiled, evaluated, buys, price, stop, target⟩ := levelsOf_some levels
  obtain ⟨-, below, above, -⟩ :=
    (levels_around_price compiled none (by rfl) (by decide +kernel) evaluated).1 buys
  exact ⟨s, signal, compiled, evaluated, buys, price, stop.ge, below, above⟩

/-- A stop and a target of one and a half times the price compile, and put the lower level below
zero. -/
theorem levels_below_zero :
    (∃ s signal, Script.parse "entryType = price_above threshold = 2 stopLoss = 150" = .ok s ∧
      evaluate none (s.map Binary64.value) ((sampleHistory Rat).take 2) = .ok signal ∧
      signal.side = some .buy ∧ signal.price = 3 ∧ ¬0 ≤ signal.stopLoss) ∧
    ∃ s signal, Script.parse "entryType = price_below threshold = 2 takeProfit = 150" = .ok s ∧
      evaluate none (s.map Binary64.value) ((sampleHistory Rat).take 2).reverse = .ok signal ∧
      signal.side = some .sell ∧ signal.price = 1 ∧ ¬0 ≤ signal.takeProfit := by
  have buys : levelsOf "entryType = price_above threshold = 2 stopLoss = 150"
      ((sampleHistory Rat).take 2) = some (some .buy, 3, -3 / 2, 3 * (1 + 4 / 100)) := by
    decide +kernel
  have sells : levelsOf "entryType = price_below threshold = 2 takeProfit = 150"
      ((sampleHistory Rat).take 2).reverse = some (some .sell, 1, 1 + 2 / 100, -1 / 2) := by
    decide +kernel
  obtain ⟨s, signal, compiled, evaluated, side, price, stop, -⟩ := levelsOf_some buys
  obtain ⟨s', signal', compiled', evaluated', side', price', -, target⟩ := levelsOf_some sells
  refine ⟨⟨s, signal, compiled, evaluated, side, price, ?_⟩,
    s', signal', compiled', evaluated', side', price', ?_⟩
  · rw [stop]
    norm_num
  · rw [target]
    norm_num

end Rule
end SignalDesk
