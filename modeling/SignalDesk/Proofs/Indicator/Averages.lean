import Mathlib.Algebra.BigOperators.Ring.Finset
import Mathlib.Algebra.Order.BigOperators.Group.List
import Mathlib.Algebra.Order.Field.Basic
import Mathlib.Tactic.Linarith
import Mathlib.Tactic.Ring
import SignalDesk.Proofs.Indicator.Lengths

namespace SignalDesk.Indicator

variable {closes : List Rat} {period i : Nat}

/-- The sum of the closes that fill a period up to a place. -/
def windowSum (closes : List Rat) (period i : Nat) : Rat :=
  ∑ j ∈ Finset.Icc (i + 1 - period) i, closes.getD j 0

/-- A window that moves on takes in the next close and gives up the one that is a period older. -/
theorem windowSum_succ (positive : 0 < period) (full : period ≤ i + 1) :
    windowSum closes period (i + 1) =
      windowSum closes period i + (closes.getD (i + 1) 0 - closes.getD (i + 1 - period) 0) := by
  have next : i + 1 + 1 - period = i + 1 - period + 1 := by omega
  have inside : i + 1 - period ≤ i := by omega
  have older := Finset.sum_Ioc_add_eq_sum_Icc (f := fun j => closes.getD j 0) inside
  rw [windowSum, windowSum, next, Finset.sum_Icc_succ_top (by omega), ← older,
    ← Finset.Icc_add_one_left_eq_Ioc]
  ring

/-- From some place on, the loop keeps the sums of the windows. -/
theorem slide_eq (positive : 0 < period) (new : List Rat) : ∀ (old : List Rat) (i : Nat),
    period ≤ i + 1 → closes.drop (i + 1) = new → closes.drop (i + 1 - period) = old →
      slide (windowSum closes period i) new old =
        (List.range' (i + 1) new.length).map (windowSum closes period) := by
  induction new with
  | nil => exact fun _ _ _ _ _ => rfl
  | cons c new ih =>
    intro old i full here back
    cases old with
    | nil =>
      have short := congrArg List.length here
      have beyond := congrArg List.length back
      simp only [List.length_drop, List.length_cons, List.length_nil] at short beyond
      omega
    | cons o old =>
      have moved : windowSum closes period i + (c - o) = windowSum closes period (i + 1) := by
        rw [windowSum_succ positive full, getD_of_drop here, getD_of_drop back]
      have next : i + 1 + 1 - period = i + 1 - period + 1 := by omega
      have rest := ih old (i + 1) (by omega) (drop_succ_of_cons here)
        (by rw [next, drop_succ_of_cons back])
      rw [List.length_cons, List.range'_succ, List.map_cons, ← rest, ← moved]
      rfl

theorem smaSeries_eq (positive : 0 < period) (within : period < closes.length) :
    smaSeries closes period = .ofPlaces (period - 1) (closes.length + 1 - period)
      fun i => windowSum closes period i / period := by
  have first : Arithmetic.sum (closes.take period) = windowSum closes period (period - 1) := by
    have start : period - 1 + 1 - period = 0 := by omega
    rw [sum_rat, sum_take, windowSum, start, ← Nat.range_eq_Icc_zero_sub_one _ positive.ne']
  have place : period - 1 + 1 = period := Nat.sub_add_cancel positive
  have rest := slide_eq positive (closes.drop period) closes (period - 1) place.ge
    (by rw [place]) (by rw [place, Nat.sub_self, List.drop_zero])
  have count : closes.length + 1 - period = (closes.drop period).length + 1 := by
    rw [List.length_drop]
    omega
  rw [smaSeries, Series.ofPlaces, count, List.range'_succ, place, first, rest.trans (by rw [place])]
  simp only [List.map_cons, List.map_map]
  rfl

theorem sma_ok {series : Series Rat} (run : sma closes period = .ok series) :
    series.length = closes.length ∧ ∀ i, period - 1 ≤ i → i < closes.length →
      series[i]? = some (some (windowSum closes period i / period)) := by
  obtain ⟨n, enough, rfl⟩ := map_ok.mp run
  obtain ⟨count, positive, within⟩ := requireHistory_ok enough
  obtain rfl : n = period := count
  rw [smaSeries_eq positive within]
  refine ⟨?_, fun i full known => Series.getElem?_ofPlaces full (by omega)⟩
  rw [Series.length_ofPlaces]
  omega

/-- **A simple average is a mean.** In exact arithmetic an average over enough closes has an entry
for each, and from where the period is full an entry is the mean of the last closes: the same on
any list that agrees with this one on these. -/
theorem sma_means (positive : 1 ≤ period) (long : period + 1 ≤ closes.length) :
    ∃ series, sma closes period = .ok series ∧ series.length = closes.length ∧
      ∀ i, period - 1 ≤ i → i < closes.length →
        ∃ mean, series[i]? = some (some mean) ∧
          mean = (∑ j ∈ Finset.Icc (i + 1 - period) i, closes.getD j 0) / period ∧
          ∀ others series', sma others period = .ok series' →
            (∀ j ∈ Finset.Icc (i + 1 - period) i, others[j]? = closes[j]?) →
            series'[i]? = some (some mean) := by
  obtain ⟨series, run⟩ : ∃ series, sma closes period = .ok series :=
    ⟨_, map_ok.mpr ⟨period, requireHistory_long positive long, rfl⟩⟩
  obtain ⟨length, means⟩ := sma_ok run
  refine ⟨series, run, length, fun i full known => ⟨_, means i full known, rfl, ?_⟩⟩
  intro others series' run' same
  have reached : i < others.length := by
    have last := same i (Finset.mem_Icc.mpr ⟨by omega, Nat.le_refl i⟩)
    rw [List.getElem?_eq_getElem known] at last
    exact (List.getElem?_eq_some_iff.mp last).1
  have alike : windowSum others period i = windowSum closes period i :=
    Finset.sum_congr rfl fun j member => by simp only [List.getD_eq_getElem?_getD, same j member]
  rw [(sma_ok run').2 i full reached, alike]

/-- A window of two closes at the third place of four. -/
theorem sample_sma :
    ∃ series, sma ([1, 2, 4, 8] : List Rat) 2 = .ok series ∧ series[2]? = some (some 3) := by
  have long : 2 + 1 ≤ ([1, 2, 4, 8] : List Rat).length := by decide
  obtain ⟨series, run, -, means⟩ := sma_means (by decide) long
  obtain ⟨mean, entry, rfl, -⟩ := means 2 (by decide) (by decide)
  refine ⟨series, run, entry.trans ?_⟩
  decide +kernel

/-- An exponential average by the weights of what it has seen, where `k` is the weight of the close
that comes in: each step leaves `1 - k` parts of the weight of the seed and the older closes. -/
def weighted (k seed : Rat) (closes : List Rat) (period i : Nat) : Rat :=
  (1 - k) ^ (i + 1 - period) * seed +
    ∑ j ∈ Finset.Icc period i, k * (1 - k) ^ (i - j) * closes.getD j 0

theorem weighted_seed (k seed : Rat) (positive : 0 < period) :
    weighted k seed closes period (period - 1) = seed := by
  have none : Finset.Icc period (period - 1) = ∅ := Finset.Icc_eq_empty (by omega)
  have fresh : period - 1 + 1 - period = 0 := by omega
  rw [weighted, none, fresh, Finset.sum_empty, pow_zero, one_mul, add_zero]

theorem weighted_succ (k seed : Rat) (full : period ≤ i + 1) :
    weighted k seed closes period (i + 1) =
      closes.getD (i + 1) 0 * k + weighted k seed closes period i * (1 - k) := by
  have older : ∑ j ∈ Finset.Icc period i, k * (1 - k) ^ (i + 1 - j) * closes.getD j 0 =
      (∑ j ∈ Finset.Icc period i, k * (1 - k) ^ (i - j) * closes.getD j 0) * (1 - k) := by
    rw [Finset.sum_mul]
    refine Finset.sum_congr rfl fun j member => ?_
    rw [Nat.succ_sub (Finset.mem_Icc.mp member).2, pow_succ]
    ring
  rw [weighted, weighted, Finset.sum_Icc_succ_top full, older, Nat.succ_sub full, pow_succ,
    Nat.sub_self, pow_zero]
  ring

/-- From some place on, the loop keeps the weighted closes. -/
theorem smooth_eq (k seed : Rat) (rest : List Rat) : ∀ i, period ≤ i + 1 →
    closes.drop (i + 1) = rest →
      smooth k (weighted k seed closes period i) rest =
        (List.range' (i + 1) rest.length).map (weighted k seed closes period) := by
  induction rest with
  | nil => exact fun _ _ _ => rfl
  | cons c rest ih =>
    intro i full here
    have moved : c * k + weighted k seed closes period i * (1 - k) =
        weighted k seed closes period (i + 1) := by
      rw [weighted_succ k seed full, getD_of_drop here]
    have later := ih (i + 1) (by omega) (drop_succ_of_cons here)
    rw [List.length_cons, List.range'_succ, List.map_cons, ← later, ← moved]
    rfl

theorem emaSeries_eq (positive : 0 < period) (within : period < closes.length) :
    emaSeries closes period = .ofPlaces (period - 1) (closes.length + 1 - period)
      (weighted (2 / (period + 1)) ((closes.take period).sum / period) closes period) := by
  have weight : (emaWeight period : Rat) = 2 / (period + 1) := by
    change ((2 : Nat) : Rat) / ((period + 1 : Nat) : Rat) = _
    push_cast
    rfl
  have place : period - 1 + 1 = period := Nat.sub_add_cancel positive
  have rest := smooth_eq (2 / (period + 1)) ((closes.take period).sum / period)
    (closes.drop period) (period - 1) place.ge (by rw [place])
  have count : closes.length + 1 - period = (closes.drop period).length + 1 := by
    rw [List.length_drop]
    omega
  have values : (closes.take period).sum / period :: smooth (2 / (period + 1))
      ((closes.take period).sum / period) (closes.drop period) =
        (List.range' (period - 1) (closes.length + 1 - period)).map
          (weighted (2 / (period + 1)) ((closes.take period).sum / period) closes period) := by
    rw [weighted_seed _ _ positive, place] at rest
    rw [count, List.range'_succ, place, List.map_cons, weighted_seed _ _ positive, rest]
  rw [emaSeries, Series.ofPlaces, ← values, sum_rat, weight]
  rfl

/-- Between two values stays every average of them. -/
theorem smoothed_between {k low high last c : Rat} (least : 0 ≤ k) (most : k ≤ 1)
    (before : low ≤ last ∧ last ≤ high) (next : low ≤ c ∧ c ≤ high) :
    low ≤ c * k + last * (1 - k) ∧ c * k + last * (1 - k) ≤ high := by
  have rest : 0 ≤ 1 - k := sub_nonneg.mpr most
  constructor
  · calc low = low * k + low * (1 - k) := by ring
      _ ≤ c * k + last * (1 - k) := add_le_add (mul_le_mul_of_nonneg_right next.1 least)
          (mul_le_mul_of_nonneg_right before.1 rest)
  · calc c * k + last * (1 - k) ≤ high * k + high * (1 - k) :=
          add_le_add (mul_le_mul_of_nonneg_right next.2 least)
            (mul_le_mul_of_nonneg_right before.2 rest)
      _ = high := by ring

theorem mean_between {xs : List Rat} {low high : Rat} (some : 0 < xs.length)
    (inside : ∀ x ∈ xs, low ≤ x ∧ x ≤ high) :
    low ≤ xs.sum / xs.length ∧ xs.sum / xs.length ≤ high := by
  have count : (0 : Rat) < xs.length := Nat.cast_pos.mpr some
  have least := List.card_nsmul_le_sum xs low fun x member => (inside x member).1
  have most := List.sum_le_card_nsmul xs high fun x member => (inside x member).2
  rw [nsmul_eq_mul] at least most
  rw [le_div_iff₀ count, div_le_iff₀ count, mul_comm low, mul_comm high]
  exact ⟨least, most⟩

theorem weighted_between {k seed low high : Rat} (least : 0 ≤ k) (most : k ≤ 1)
    (positive : 0 < period) (full : period - 1 ≤ i) (start : low ≤ seed ∧ seed ≤ high)
    (inside : ∀ j, period ≤ j → j ≤ i → low ≤ closes.getD j 0 ∧ closes.getD j 0 ≤ high) :
    low ≤ weighted k seed closes period i ∧ weighted k seed closes period i ≤ high := by
  induction i, full using Nat.le_induction with
  | base => rwa [weighted_seed k seed positive]
  | succ i full ih =>
    rw [weighted_succ k seed (by omega)]
    exact smoothed_between least most
      (ih fun j reached within => inside j reached (Nat.le_succ_of_le within))
      (inside (i + 1) (by omega) (Nat.le_refl _))

theorem weight_between (positive : 1 ≤ period) :
    (0 : Rat) ≤ 2 / (period + 1) ∧ (2 : Rat) / (period + 1) ≤ 1 := by
  have one : (1 : Rat) ≤ period := Nat.one_le_cast.mpr positive
  exact ⟨by positivity, (div_le_one (by linarith)).mpr (by linarith)⟩

theorem exists_extremes {xs : List Rat} (nonempty : xs ≠ []) :
    ∃ low high, xs.min? = some low ∧ xs.max? = some high ∧ ∀ x ∈ xs, low ≤ x ∧ x ≤ high := by
  obtain ⟨low, lowest⟩ := Option.isSome_iff_exists.mp (List.isSome_min?_of_ne_nil nonempty)
  obtain ⟨high, highest⟩ := Option.isSome_iff_exists.mp (List.isSome_max?_of_ne_nil nonempty)
  exact ⟨low, high, lowest, highest, fun x member =>
    ⟨(List.min?_eq_some_iff.mp lowest).2 x member, (List.max?_eq_some_iff.mp highest).2 x member⟩⟩

theorem getD_mem_take {j n : Nat} (before : j < n) (known : j < closes.length) :
    closes.getD j 0 ∈ closes.take n := by
  rw [List.getD_eq_getElem?_getD, List.getElem?_eq_getElem known, Option.getD_some]
  exact List.mem_take_iff_getElem.mpr ⟨j, Nat.lt_min.mpr ⟨before, known⟩, rfl⟩

/-- **An exponential average weighs its closes.** In exact arithmetic an entry is the mean of the
first closes and the later closes, each with the weight that the steps since have left it, and so
it stays between the smallest and the largest close that there has been. -/
theorem ema_weighs (positive : 1 ≤ period) (long : period + 1 ≤ closes.length) :
    ∃ series, ema closes period = .ok series ∧ series.length = closes.length ∧
      ∀ i, period - 1 ≤ i → i < closes.length →
        ∃ average low high, series[i]? = some (some average) ∧
          (closes.take (i + 1)).min? = some low ∧ (closes.take (i + 1)).max? = some high ∧
          low ≤ average ∧ average ≤ high ∧
          ∀ k : Rat, k = 2 / (period + 1) →
            average = (1 - k) ^ (i + 1 - period) * ((closes.take period).sum / period) +
              ∑ j ∈ Finset.Icc period i, k * (1 - k) ^ (i - j) * closes.getD j 0 := by
  refine ⟨emaSeries closes period, map_ok.mpr ⟨period, requireHistory_long positive long, rfl⟩,
    ?_, ?_⟩
  · rw [emaSeries_eq positive long, Series.length_ofPlaces]
    omega
  intro i full known
  have seen : closes.take (i + 1) ≠ [] := by
    refine List.ne_nil_of_length_pos ?_
    rw [List.length_take]
    omega
  obtain ⟨low, high, lowest, highest, inside⟩ := exists_extremes seen
  have first : (closes.take period).length = period := by
    rw [List.length_take]
    omega
  have seed := mean_between (by omega) fun c member =>
    inside c (List.take_subset_take_left closes (by omega : period ≤ i + 1) member)
  rw [first] at seed
  obtain ⟨weak, strong⟩ := weight_between positive
  obtain ⟨least, most⟩ := weighted_between weak strong positive full seed fun j _ within =>
    inside _ (getD_mem_take (Nat.lt_succ_of_le within) (Nat.lt_of_le_of_lt within known))
  refine ⟨_, low, high, ?_, lowest, highest, least, most, ?_⟩
  · rw [emaSeries_eq positive long]
    exact Series.getElem?_ofPlaces full (by omega)
  · rintro k rfl
    rfl

/-- A seed of one and three, from which the average moves two thirds of the way to five. -/
theorem sample_ema :
    ∃ series, ema ([1, 3, 5] : List Rat) 2 = .ok series ∧ series[2]? = some (some 4) := by
  have long : 2 + 1 ≤ ([1, 3, 5] : List Rat).length := by decide
  obtain ⟨series, run, -, averages⟩ := ema_weighs (by decide) long
  obtain ⟨average, _, _, entry, -, -, -, -, weighs⟩ := averages 2 (by decide) (by decide)
  refine ⟨series, run, entry.trans ?_⟩
  rw [weighs _ rfl]
  decide +kernel

end SignalDesk.Indicator
