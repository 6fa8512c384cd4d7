import Mathlib.Algebra.Order.BigOperators.Ring.Finset
import Mathlib.Algebra.Order.Field.Basic
import Mathlib.Data.List.GetD
import Mathlib.Tactic.Linarith
import SignalDesk.Proofs.Indicator.Lengths

namespace SignalDesk.Indicator

open Arithmetic

theorem zero_rat : (zero : Rat) = 0 := Nat.cast_zero

theorem gain_rat (d : Rat) : gain d = max d 0 := by
  change (if decide (d < zero) = true then zero else d) = max d 0
  rw [zero_rat]
  by_cases falls : d < 0
  · rw [if_pos (decide_eq_true falls), max_eq_right falls.le]
  · rw [if_neg (by simpa using falls), max_eq_left (not_lt.mp falls)]

theorem loss_rat (d : Rat) : loss d = max (-d) 0 := by
  have size (x : Rat) : Arithmetic.abs x = |x| := by
    change (if x < 0 then -x else x) = |x|
    split
    · rename_i below
      exact (abs_of_neg below).symm
    · rename_i above
      exact (abs_of_nonneg (not_lt.mp above)).symm
  rw [loss, size]
  change |if decide (zero < d) = true then zero else d| = max (-d) 0
  rw [zero_rat]
  by_cases rises : 0 < d
  · rw [if_pos (decide_eq_true rises), abs_zero, max_eq_right (neg_nonpos.mpr rises.le)]
  · rw [if_neg (by simpa using rises), abs_of_nonpos (not_lt.mp rises),
      max_eq_left (neg_nonneg.mpr (not_lt.mp rises))]

theorem gain_nonneg (d : Rat) : 0 ≤ gain d := by
  rw [gain_rat]
  exact le_max_right _ _

theorem loss_nonneg (d : Rat) : 0 ≤ loss d := by
  rw [loss_rat]
  exact le_max_right _ _

theorem gain_mul {c : Rat} (positive : 0 < c) (d : Rat) : gain (c * d) = c * gain d := by
  rw [gain_rat, gain_rat, mul_max_of_nonneg _ _ positive.le, mul_zero]

theorem loss_mul {c : Rat} (positive : 0 < c) (d : Rat) : loss (c * d) = c * loss d := by
  rw [loss_rat, loss_rat, mul_max_of_nonneg _ _ positive.le, mul_zero, mul_neg]

theorem deltas_add (closes : List Rat) (c : Rat) : deltas (closes.map (· + c)) = deltas closes := by
  induction closes using deltas.induct with
  | case1 => rfl
  | case2 => rfl
  | case3 a b rest ih =>
    have first : deltas ((a :: b :: rest).map (· + c)) =
        (b + c - (a + c)) :: deltas ((b :: rest).map (· + c)) := rfl
    rw [first, ih, add_sub_add_right_eq_sub, deltas]

theorem deltas_mul (closes : List Rat) (c : Rat) :
    deltas (closes.map (c * ·)) = (deltas closes).map (c * ·) := by
  induction closes using deltas.induct with
  | case1 => rfl
  | case2 => rfl
  | case3 a b rest ih =>
    have first : deltas ((a :: b :: rest).map (c * ·)) =
        (c * b - c * a) :: deltas ((b :: rest).map (c * ·)) := rfl
    rw [first, ih, ← mul_sub, deltas, List.map_cons]

theorem getD_deltas {closes : List Rat} : ∀ {j : Nat}, j + 1 < closes.length →
    (deltas closes).getD j 0 = closes.getD (j + 1) 0 - closes.getD j 0 := by
  induction closes using deltas.induct with
  | case1 => exact fun within => absurd within (by simp)
  | case2 => exact fun within => absurd within (by simp)
  | case3 a b rest ih =>
    intro j within
    cases j with
    | zero => rfl
    | succ j => exact ih (Nat.lt_of_succ_lt_succ within)

/-- What the averages of the index come to after `n` steps: the mean of the first parts, from which
each step moves by a period's part of the next one. -/
def smoothed (part : Nat → Rat) (period : Nat) : Nat → Rat
  | 0 => (∑ j ∈ Finset.range period, part j) / period
  | n + 1 => (smoothed part period n * (period - 1 : Nat) + part (period + n)) / period

section Smoothed

variable {part : Nat → Rat} {period n : Nat}

theorem smoothed_nonneg (nonneg : ∀ j, 0 ≤ part j) : 0 ≤ smoothed part period n := by
  induction n with
  | zero => exact div_nonneg (Finset.sum_nonneg fun j _ => nonneg j) (Nat.cast_nonneg _)
  | succ n ih =>
    have next := nonneg (period + n)
    rw [smoothed]
    positivity

theorem smoothed_eq_zero (none : ∀ j < period + n, part j = 0) : smoothed part period n = 0 := by
  induction n with
  | zero =>
    have sum : ∑ j ∈ Finset.range period, part j = 0 :=
      Finset.sum_eq_zero fun j member => none j (Finset.mem_range.mp member)
    rw [smoothed, sum, zero_div]
  | succ n ih =>
    rw [smoothed, ih fun j before => none j (by omega), none (period + n) (by omega), zero_mul,
      add_zero, zero_div]

/-- With a period of two or more nothing that was added is ever forgotten. -/
theorem smoothed_pos (two : 2 ≤ period) (nonneg : ∀ j, 0 ≤ part j)
    (some : ∃ j < period + n, 0 < part j) : 0 < smoothed part period n := by
  have count : (0 : Rat) < period := Nat.cast_pos.mpr (by omega)
  have kept : (0 : Rat) < (period - 1 : Nat) := Nat.cast_pos.mpr (by omega)
  induction n with
  | zero =>
    obtain ⟨j, before, above⟩ := some
    exact div_pos (Finset.sum_pos' (fun j _ => nonneg j) ⟨j, Finset.mem_range.mpr before, above⟩)
      count
  | succ n ih =>
    obtain ⟨j, before, above⟩ := some
    refine div_pos ?_ count
    rcases Nat.lt_succ_iff_lt_or_eq.mp before with earlier | rfl
    · exact add_pos_of_pos_of_nonneg (mul_pos (ih ⟨j, earlier, above⟩) kept) (nonneg _)
    · exact add_pos_of_nonneg_of_pos (mul_nonneg (smoothed_nonneg nonneg) kept.le) above

theorem smoothed_mul (c : Rat) :
    smoothed (fun j => c * part j) period n = c * smoothed part period n := by
  induction n with
  | zero => rw [smoothed, smoothed, ← Finset.mul_sum, mul_div_assoc]
  | succ n ih =>
    rw [smoothed, smoothed, ih]
    ring

end Smoothed

theorem rsiOf_rat (g l : Rat) :
    rsiOf g l = if l = 0 then 100 else 100 - 100 / (1 + g / l) := by
  have none : isZero l = true ↔ l = 0 := by
    change (decide (l ≤ zero) && decide (zero ≤ l)) = true ↔ l = 0
    rw [zero_rat, Bool.and_eq_true, decide_eq_true_eq, decide_eq_true_eq, le_antisymm_iff]
  rw [rsiOf]
  exact if_congr none rfl rfl

theorem rsiOf_between {g l : Rat} (gains : 0 ≤ g) (losses : 0 ≤ l) :
    0 ≤ rsiOf g l ∧ rsiOf g l ≤ 100 := by
  rw [rsiOf_rat]
  split
  · norm_num
  · have ratio : 0 ≤ g / l := div_nonneg gains losses
    have most : 100 / (1 + g / l) ≤ 100 := div_le_self (by norm_num) (by linarith)
    have least : 0 ≤ 100 / (1 + g / l) := by positivity
    constructor <;> linarith

theorem rsiOf_noGain {l : Rat} (losses : 0 < l) : rsiOf 0 l = 0 := by
  rw [rsiOf_rat, if_neg losses.ne', zero_div, add_zero, div_one, sub_self]

theorem rsiOf_mul {c : Rat} (positive : 0 < c) (g l : Rat) : rsiOf (c * g) (c * l) = rsiOf g l := by
  rw [rsiOf_rat, rsiOf_rat, mul_div_mul_left _ _ positive.ne']
  simp only [mul_eq_zero, positive.ne', false_or]

section Places

variable {ds closes : List Rat} {period i : Nat}

/-- The average at a place of what is read off the moves up to it. -/
def averageAt (read : Rat → Rat) (ds : List Rat) (period i : Nat) : Rat :=
  smoothed (fun j => read (ds.getD j 0)) period (i - period)

/-- The index at a place. -/
def strengthAt (ds : List Rat) (period i : Nat) : Rat :=
  rsiOf (averageAt gain ds period i) (averageAt loss ds period i)

theorem averageAt_seed {read : Rat → Rat} (still : read 0 = 0) :
    ((ds.take period).map read).sum / period = averageAt read ds period period := by
  rw [averageAt, Nat.sub_self, smoothed, List.map_take, sum_take]
  congr 1
  refine Finset.sum_congr rfl fun j _ => ?_
  rw [← List.getD_map ds 0 read, still]

theorem averageAt_succ (read : Rat → Rat) (full : period ≤ i) :
    averageAt read ds period (i + 1) =
      (averageAt read ds period i * (period - 1 : Nat) + read (ds.getD i 0)) / period := by
  rw [averageAt, Nat.succ_sub full, smoothed, Nat.add_sub_cancel' full]
  rfl

/-- From some place on, the loop keeps both averages. -/
theorem rsiFrom_eq (rest : List Rat) : ∀ i, period ≤ i → ds.drop i = rest →
    rsiFrom period (averageAt gain ds period i) (averageAt loss ds period i) rest =
      (List.range' (i + 1) rest.length).map (strengthAt ds period) := by
  induction rest with
  | nil => exact fun _ _ _ => rfl
  | cons d rest ih =>
    intro i full here
    have later := ih (i + 1) (by omega) (drop_succ_of_cons here)
    rw [averageAt_succ gain full, averageAt_succ loss full, getD_of_drop here] at later
    rw [List.length_cons, List.range'_succ, List.map_cons, ← later, strengthAt,
      averageAt_succ gain full, averageAt_succ loss full, getD_of_drop here]
    rfl

theorem rsiSeries_eq (within : period < closes.length) :
    rsiSeries closes period =
      .ofPlaces period (closes.length - period) (strengthAt (deltas closes) period) := by
  have count : closes.length - period = ((deltas closes).drop period).length + 1 := by
    rw [List.length_drop, deltas_length]
    omega
  have still : gain (0 : Rat) = 0 ∧ loss (0 : Rat) = 0 := by
    rw [gain_rat, loss_rat, neg_zero, max_self]
    exact ⟨rfl, rfl⟩
  have values := rsiFrom_eq ((deltas closes).drop period) period (Nat.le_refl _) rfl
  rw [← averageAt_seed still.1, ← averageAt_seed still.2] at values
  rw [rsiSeries, Series.ofPlaces, count, List.range'_succ, sum_rat, sum_rat]
  congr 2
  rw [List.map_cons, ← values, strengthAt, ← averageAt_seed still.1, ← averageAt_seed still.2]
  rfl

theorem rsi_long (positive : 1 ≤ period) (long : period + 1 ≤ closes.length) :
    rsi closes period =
      .ok (.ofPlaces period (closes.length - period) (strengthAt (deltas closes) period)) := by
  rw [← rsiSeries_eq long]
  exact map_ok.mpr ⟨period, requireHistory_long positive long, rfl⟩

theorem averageAt_mul {read : Rat → Rat} {c : Rat} (scales : ∀ d, read (c * d) = c * read d) :
    averageAt read (ds.map (c * ·)) period i = c * averageAt read ds period i := by
  have parts : (fun j => read ((ds.map (c * ·)).getD j 0)) = fun j => c * read (ds.getD j 0) := by
    funext j
    rw [← scales, ← List.getD_map ds 0 (c * ·), mul_zero]
  rw [averageAt, averageAt, parts, smoothed_mul]

theorem strengthAt_mul {c : Rat} (positive : 0 < c) :
    strengthAt (ds.map (c * ·)) period i = strengthAt ds period i := by
  rw [strengthAt, averageAt_mul (gain_mul positive), averageAt_mul (loss_mul positive),
    rsiOf_mul positive, strengthAt]

theorem strengthAt_between : 0 ≤ strengthAt ds period i ∧ strengthAt ds period i ≤ 100 :=
  rsiOf_between (smoothed_nonneg fun _ => gain_nonneg _) (smoothed_nonneg fun _ => loss_nonneg _)

/-- Where nothing was lost up to a place, the index is at its upper end. -/
theorem strengthAt_noLoss (full : period ≤ i) (rises : ∀ j < i, 0 ≤ ds.getD j 0) :
    strengthAt ds period i = 100 := by
  have losses : averageAt loss ds period i = 0 := smoothed_eq_zero fun j before => by
    rw [Nat.add_sub_cancel' full] at before
    rw [loss_rat, max_eq_right (neg_nonpos.mpr (rises j before))]
  rw [strengthAt, losses, rsiOf_rat, if_pos rfl]

/-- Where something was lost and nothing gained, the index is at its lower end. -/
theorem strengthAt_noGain (full : period ≤ i) (two : 2 ≤ period) (moves : ∃ j < i, ds.getD j 0 ≠ 0)
    (falls : ∀ j < i, ds.getD j 0 ≤ 0) : strengthAt ds period i = 0 := by
  have gains : averageAt gain ds period i = 0 := smoothed_eq_zero fun j before => by
    rw [Nat.add_sub_cancel' full] at before
    rw [gain_rat, max_eq_right (falls j before)]
  have losses : 0 < averageAt loss ds period i := by
    obtain ⟨j, before, moved⟩ := moves
    refine smoothed_pos two (fun _ => loss_nonneg _) ⟨j, by omega, ?_⟩
    rw [loss_rat]
    exact lt_max_of_lt_left (neg_pos.mpr (lt_of_le_of_ne (falls j before) moved))
  rw [strengthAt, gains, rsiOf_noGain losses]

end Places

/-- **The index measures gains against losses.** In exact arithmetic an index over enough closes
has a number for each close past the period, from 0 to 100: 100 where no close up to there was
lower than the one before, and 0 where, with a period of two or more, some close differed and none
was higher. Moving all closes by the same amount, or scaling them, gives the same series. -/
theorem rsi_measures {closes : List Rat} {period : Nat} (positive : 1 ≤ period)
    (long : period + 1 ≤ closes.length) :
    ∃ series, rsi closes period = .ok series ∧ series.length = closes.length ∧
      (∀ i, period ≤ i → i < closes.length → ∃ strength, series[i]? = some (some strength)) ∧
      (∀ i strength, series[i]? = some (some strength) →
        0 ≤ strength ∧ strength ≤ 100 ∧
        ((∀ j < i, closes.getD j 0 ≤ closes.getD (j + 1) 0) → strength = 100) ∧
        (2 ≤ period → (∃ j < i, closes.getD (j + 1) 0 ≠ closes.getD j 0) →
          (∀ j < i, closes.getD (j + 1) 0 ≤ closes.getD j 0) → strength = 0)) ∧
      (∀ c, rsi (closes.map (· + c)) period = .ok series) ∧
      ∀ c, 0 < c → rsi (closes.map (c * ·)) period = .ok series := by
  have entry {i : Nat} (full : period ≤ i) (known : i < closes.length) :
      (Series.ofPlaces period (closes.length - period) (strengthAt (deltas closes) period))[i]? =
        some (some (strengthAt (deltas closes) period i)) :=
    Series.getElem?_ofPlaces full (by omega)
  refine ⟨_, rsi_long positive long, ?_, fun i full known => ⟨_, entry full known⟩, ?_, ?_, ?_⟩
  · rw [Series.length_ofPlaces]
    omega
  · intro i strength written
    obtain ⟨full, within⟩ := Series.ofPlaces_defined written
    have known : i < closes.length := by omega
    cases written.symm.trans (entry full known)
    have moved {j : Nat} (before : j < i) :
        (deltas closes).getD j 0 = closes.getD (j + 1) 0 - closes.getD j 0 :=
      getD_deltas (by omega)
    refine ⟨strengthAt_between.1, strengthAt_between.2, fun rises => ?_, fun two moves falls => ?_⟩
    · refine strengthAt_noLoss full fun j before => ?_
      rw [moved before]
      exact sub_nonneg.mpr (rises j before)
    · obtain ⟨j, before, differs⟩ := moves
      refine strengthAt_noGain full two ⟨j, before, ?_⟩ fun j before => ?_
      · rw [moved before]
        exact sub_ne_zero.mpr differs
      · rw [moved before]
        exact sub_nonpos.mpr (falls j before)
  · intro c
    rw [rsi_long positive (by rwa [List.length_map]), deltas_add, List.length_map]
  · intro c above
    have same : strengthAt ((deltas closes).map (c * ·)) period = strengthAt (deltas closes) period :=
      funext fun i => strengthAt_mul above
    rw [rsi_long positive (by rwa [List.length_map]), deltas_mul, same, List.length_map]

/-- Three falling closes, and the same ones in another unit. -/
theorem sample_rsi :
    ∃ series, rsi ([9, 6, 5] : List Rat) 2 = .ok series ∧ series[2]? = some (some 0) ∧
      rsi (([9, 6, 5] : List Rat).map (100 * ·)) 2 = .ok series := by
  have long : 2 + 1 ≤ ([9, 6, 5] : List Rat).length := by decide
  obtain ⟨series, run, -, defined, bounds, -, scaled⟩ := rsi_measures (by decide) long
  obtain ⟨strength, entry⟩ := defined 2 (by decide) (by decide)
  obtain ⟨-, -, -, lowest⟩ := bounds 2 strength entry
  obtain rfl : strength = 0 := lowest (by decide) ⟨0, by decide, by decide⟩ (by decide)
  exact ⟨series, run, entry, scaled 100 (by decide)⟩

end SignalDesk.Indicator
