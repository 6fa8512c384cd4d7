import Mathlib.Algebra.Order.Field.Basic
import Mathlib.Tactic.FieldSimp
import Mathlib.Tactic.Ring
import SignalDesk.Proofs.Indicator.Lengths
import SignalDesk.Proofs.Signal.Crossings

namespace SignalDesk

/-- The candle with its close moved to the other side: as far below `c` as it was above zero. -/
def Candle.mirror (c : Rat) (candle : Candle Rat) : Candle Rat :=
  { candle with close := c - candle.close }

def Side.opposite : Side → Side
  | buy => sell
  | sell => buy

namespace Indicator

open Arithmetic

variable {closes : List Rat}

theorem sum_mirror (c : Rat) (closes : List Rat) :
    Arithmetic.sum (closes.map (c - ·)) = closes.length * c - Arithmetic.sum closes := by
  rw [sum_rat, sum_rat]
  induction closes with
  | nil => simp
  | cons x closes ih =>
    rw [List.map_cons, List.sum_cons, ih, List.sum_cons, List.length_cons]
    push_cast
    ring

/-- A window of mirrored closes, `n` of them, keeps the mirrored sum as it moves on. -/
theorem slide_mirror (c n : Rat) (new : List Rat) : ∀ (old : List Rat) (sum : Rat),
    slide (n * c - sum) (new.map (c - ·)) (old.map (c - ·)) =
      (slide sum new old).map (n * c - ·) := by
  induction new with
  | nil => exact fun _ _ => rfl
  | cons x new ih =>
    intro old sum
    cases old with
    | nil => rfl
    | cons o old =>
      have moved : n * c - sum + (c - x - (c - o)) = n * c - (sum + (x - o)) := by ring
      simp only [List.map_cons, slide]
      rw [moved, ih]

/-- The weights of an exponential average add up to one, so a mirrored close moves the mirrored
average. -/
theorem smooth_mirror (c k last : Rat) (closes : List Rat) :
    smooth k (c - last) (closes.map (c - ·)) = (smooth k last closes).map (c - ·) := by
  have one : (ofNat 1 : Rat) = 1 := Nat.cast_one
  induction closes generalizing last with
  | nil => rfl
  | cons x closes ih =>
    have moved : (c - x) * k + (c - last) * (1 - k) = c - (x * k + last * (1 - k)) := by ring
    simp only [List.map_cons, smooth, one]
    rw [moved, ih]

section Series

variable {period : Nat} (positive : 0 < period) (within : period < closes.length) (c : Rat)

include positive

theorem mean_mirror (sum : Rat) : (period * c - sum) / ofNat period = c - sum / ofNat period := by
  have count : (period : Rat) ≠ 0 := Nat.cast_ne_zero.mpr positive.ne'
  change (period * c - sum) / (period : Rat) = c - sum / (period : Rat)
  field_simp

include within

omit positive in
theorem first_mirror : Arithmetic.sum ((closes.map (c - ·)).take period) =
    period * c - Arithmetic.sum (closes.take period) := by
  rw [← List.map_take, sum_mirror, List.length_take, Nat.min_eq_left within.le]

theorem smaSeries_mirror :
    smaSeries (closes.map (c - ·)) period = (smaSeries closes period).map (·.map (c - ·)) := by
  have means (sums : List Rat) :
      (sums.map (period * c - ·)).map (fun s => some (s / ofNat period)) =
        (sums.map fun s => some (s / ofNat period)).map (·.map (c - ·)) := by
    rw [List.map_map, List.map_map]
    exact List.map_congr_left fun s _ => congrArg some (mean_mirror positive c s)
  simp only [smaSeries]
  rw [first_mirror within, ← List.map_drop, slide_mirror, ← List.map_cons (f := (period * c - ·)),
    means, List.map_append, List.map_replicate]
  rfl

theorem emaSeries_mirror :
    emaSeries (closes.map (c - ·)) period = (emaSeries closes period).map (·.map (c - ·)) := by
  simp only [emaSeries]
  rw [first_mirror within, mean_mirror positive, ← List.map_drop, smooth_mirror,
    ← List.map_cons (f := (c - ·)), List.map_append, List.map_replicate, List.map_map, List.map_map]
  rfl

end Series

/-- **Averages are mirrored with their closes.** What is wrong with the history stays wrong. -/
theorem movingAverage_mirror (average : Average) (c : Rat) (closes : List Rat) (period : Int) :
    movingAverage average (closes.map (c - ·)) period =
      (movingAverage average closes period).map (List.map (·.map (c - ·))) := by
  have history (name : String) :
      requireHistory (closes.map (c - ·)) period name = requireHistory closes period name := by
    simp only [requireHistory, List.length_map]
  cases average with
  | sma =>
    simp only [movingAverage, sma, history]
    cases enough : requireHistory closes period "SMA" with
    | error e => rfl
    | ok n =>
      obtain ⟨-, positive, within⟩ := requireHistory_ok enough
      exact congrArg Except.ok (smaSeries_mirror positive within c)
  | ema =>
    simp only [movingAverage, ema, history]
    cases enough : requireHistory closes period "EMA" with
    | error e => rfl
    | ok n =>
      obtain ⟨-, positive, within⟩ := requireHistory_ok enough
      exact congrArg Except.ok (emaSeries_mirror positive within c)

end Indicator

namespace Rule

open Arithmetic

/-- What stands above in a history stands below in the mirrored one, and what is level stays so. -/
theorem crossedBelow_mirror (c a b a' b' : Rat) :
    crossedBelow (c - a) (c - b) (c - a') (c - b') = crossedAbove a b a' b' := by
  have first : decide (c - b ≤ c - a) = decide (a ≤ b) :=
    decide_eq_decide.mpr (sub_le_sub_iff_left c)
  have last : decide (c - a' < c - b') = decide (b' < a') :=
    decide_eq_decide.mpr (sub_lt_sub_iff_left c)
  change (decide (c - b ≤ c - a) && decide (c - a' < c - b')) = (decide (a ≤ b) && decide (b' < a'))
  rw [first, last]

theorem lastTwo?_map {β γ : Type} (f : β → γ) (xs : List β) :
    lastTwo? (xs.map f) = (lastTwo? xs).map (Prod.map f f) := by
  by_cases two : 2 ≤ xs.length
  · obtain ⟨rest, a, b, rfl⟩ := exists_last_two xs two
    rw [List.map_append, List.map_cons, List.map_cons, List.map_nil, lastTwo?_append,
      lastTwo?_append]
    rfl
  · match xs, two with
    | [], _ => rfl
    | [_], _ => rfl
    | _ :: _ :: rest, few => exact absurd (Nat.le_add_left 2 rest.length) few

theorem lastDefined?_mirror (c : Rat) (series : Series Rat) :
    lastDefined? (series.map (·.map (c - ·))) =
      (lastDefined? series).map (Prod.map (c - ·) (c - ·)) := by
  rw [lastDefined?, lastDefined?, lastTwo?_map]
  cases lastTwo? series with
  | none => rfl
  | some two =>
    obtain ⟨before, now⟩ := two
    cases before with
    | none => rfl
    | some before => cases now <;> rfl

/-- Whether one verdict opens the opposite side where the other opens a side, stays out where it
stays out, and finds the same wrong. -/
def Opposite (v v' : Verdict Rat) : Prop := v'.map (·.1) = v.map (·.1.map Side.opposite)

variable {s : Strategy Rat} {closes : List Rat} {c t : Rat}

theorem averages_mirror : Opposite (averages { s with entry := .crossover } closes)
    (averages { s with entry := .crossunder } (closes.map (c - ·))) := by
  simp only [Opposite, averages, Indicator.movingAverage_mirror]
  cases Indicator.movingAverage s.average closes s.fastPeriod with
  | error e => rfl
  | ok fast =>
    cases Indicator.movingAverage s.average closes s.slowPeriod with
    | error e => rfl
    | ok slow =>
      simp only [Except.map, lastDefined?_mirror]
      cases lastDefined? fast with
      | none => simp only [Option.map_none, List.length_map]
      | some fast =>
        cases lastDefined? slow with
        | none => simp only [Option.map_none, Option.map_some, List.length_map]
        | some slow =>
          simp only [Option.map_some, Prod.map, crossedBelow_mirror, decide_true, Bool.true_and,
            reduceCtorEq, decide_false, Bool.false_and, Bool.false_eq_true, if_false]
          cases crossedAbove fast.1 slow.1 fast.2 slow.2 <;> rfl

theorem price_mirror : Opposite (price { s with entry := .priceAbove, threshold := some t } closes)
    (price { s with entry := .priceBelow, threshold := some (c - t) } (closes.map (c - ·))) := by
  simp only [Opposite, price, lastTwo?_map]
  cases lastTwo? closes with
  | none => simp only [Option.map_none, List.length_map, Except.map]
  | some two =>
    have passed := crossedBelow_mirror c two.1 t two.2 t
    simp only [crossedBelow, crossedAbove] at passed
    simp only [Option.map_some, Prod.map, passed, decide_true, Bool.true_and,
      reduceCtorEq, decide_false, Bool.false_and, Bool.false_eq_true, if_false]
    cases le two.1 t && lt t two.2 <;> rfl

/-- Whether one evaluation sells exactly where the other buys, and finds the history too short
exactly where the other does. -/
structure Mirrors (r r' : Except RuleError (Signal Rat)) : Prop where
  opens : (∃ signal, r' = .ok signal ∧ signal.side = some .sell) ↔
    ∃ signal, r = .ok signal ∧ signal.side = some .buy
  short : (∃ e, r' = .error e ∧ TooShort e) ↔ ∃ e, r = .error e ∧ TooShort e

variable {judge : Option (Judge Rat)} {candles : List (Candle Rat)}

/-- Opposite verdicts on a history and on the mirrored one make evaluations that mirror each
other. -/
theorem Opposite.mirrors {s s' : Strategy Rat}
    (h : Opposite (verdict judge s candles) (verdict judge s' (candles.map (·.mirror c)))) :
    Mirrors (evaluate judge s candles) (evaluate judge s' (candles.map (·.mirror c))) := by
  rw [evaluate, evaluate, List.getLast?_map]
  cases candles.getLast? with
  | none => exact ⟨by simp, ⟨fun _ => ⟨_, rfl, _, rfl, _, _, _, rfl⟩, fun _ => ⟨_, rfl, _, rfl, _, _, _, rfl⟩⟩⟩
  | some last =>
    simp only [Option.map_some]
    generalize verdict judge s candles = v at h ⊢
    generalize verdict judge s' (candles.map (·.mirror c)) = v' at h ⊢
    cases v with
    | error e =>
      obtain rfl := map_error.mp h
      exact ⟨by simp [Except.map], Iff.rfl⟩
    | ok decided =>
      obtain ⟨decided', rfl, opposite⟩ := map_ok.mp h
      refine ⟨?_, by simp [Except.map]⟩
      simp only [Except.map, Except.ok.injEq, exists_eq_left', build_side, opposite]
      cases decided.1 with
      | none => simp
      | some side => cases side <;> simp [Side.opposite]

/-- **Selling mirrors buying.** In exact arithmetic, with each close `x` replaced by `c - x`, a rule
that sells where averages cross sells exactly where the rule that buys on the crossing does on the
original, and a rule that sells below the mirrored threshold exactly where the one that buys above
the threshold does. They find the same histories too short. -/
theorem selling_mirrors_buying (judge : Option (Judge Rat)) (c : Rat) (s : Strategy Rat)
    (candles : List (Candle Rat)) :
    Mirrors (evaluate judge { s with entry := .crossover } candles)
      (evaluate judge { s with entry := .crossunder } (candles.map (·.mirror c))) ∧
    ∀ t, Mirrors (evaluate judge { s with entry := .priceAbove, threshold := some t } candles)
      (evaluate judge { s with entry := .priceBelow, threshold := some (c - t) }
        (candles.map (·.mirror c))) := by
  have closes : (candles.map (·.mirror c)).map (·.close) = (candles.map (·.close)).map (c - ·) := by
    rw [List.map_map, List.map_map]
    rfl
  constructor
  · apply Opposite.mirrors
    simp only [verdict, closes]
    exact averages_mirror
  · intro t
    apply Opposite.mirrors
    simp only [verdict, closes]
    exact price_mirror

end Rule
end SignalDesk
