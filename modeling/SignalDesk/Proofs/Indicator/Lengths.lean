import Mathlib.Algebra.BigOperators.Intervals
import Mathlib.Algebra.Order.Ring.Rat
import SignalDesk.Indicator.Basic
import SignalDesk.Proofs.Results

namespace SignalDesk

theorem exists_last_two {β : Type} (xs : List β) (h : 2 ≤ xs.length) :
    ∃ rest a b, xs = rest ++ [a, b] := by
  obtain ⟨front, b, rfl⟩ := List.eq_nil_or_concat xs |>.resolve_left (by rintro rfl; simp at h)
  rw [List.concat_eq_append, List.length_append] at h
  obtain ⟨rest, a, rfl⟩ := List.eq_nil_or_concat front |>.resolve_left (by rintro rfl; simp at h)
  exact ⟨rest, a, b, by simp⟩

/-- What follows a list's entry at a place. -/
theorem drop_succ_of_cons {β : Type} {xs rest : List β} {x : β} {place : Nat}
    (h : xs.drop place = x :: rest) : xs.drop (place + 1) = rest := by
  rw [← List.drop_drop, h, List.drop_one, List.tail_cons]

namespace Indicator

variable {α : Type} {closes : List α}

/-- With enough history the period is one or more, and there is one close more than it. -/
theorem requireHistory_ok {period : Int} {name : String} {n : Nat}
    (h : requireHistory closes period name = .ok n) :
    n = period.toNat ∧ 0 < n ∧ n < closes.length := by
  simp only [requireHistory] at h
  split at h
  · cases h
  split at h
  · cases h
  · cases h
    omega

/-- Whether an error is that the history is too short. -/
def TooShort (e : HistoryError) : Prop := ∃ required available what, e = .tooShort required available what

theorem requireHistory_long {period : Nat} {name : String} (positive : 1 ≤ period)
    (long : period + 1 ≤ closes.length) : requireHistory closes period name = .ok period := by
  have low : ¬(period : Int) < 1 := by omega
  have enough : ¬(closes.length : Int) < period + 1 := by omega
  rw [requireHistory, if_neg low, if_neg enough, Int.toNat_natCast]

/-- Without enough history the error tells how many closes there are, of how many more. -/
theorem requireHistory_short {period : Int} {name : String} {e : HistoryError}
    (positive : 1 ≤ period) (h : requireHistory closes period name = .error e) :
    (∃ what, e = .tooShort (period + 1) closes.length what) ∧
      (closes.length : Int) < period + 1 := by
  simp only [requireHistory] at h
  split at h
  · rename_i none
    exact absurd none (Int.not_lt.mpr positive)
  split at h
  · rename_i short
    cases h
    exact ⟨⟨_, rfl⟩, short⟩
  · cases h

/-- A series that ends in two numbers or more. -/
theorem last_two_numbers {n : Nat} {values : List α} (two : 2 ≤ values.length) :
    ∃ rest prev last,
      List.replicate n none ++ values.map some = rest ++ [some prev, some last] := by
  obtain ⟨rest, prev, last, rfl⟩ := exists_last_two values two
  refine ⟨List.replicate n none ++ rest.map some, prev, last, ?_⟩
  rw [List.map_append, ← List.append_assoc]
  rfl

variable [Arithmetic α]

theorem slide_length (new : List α) : ∀ (old : List α) (sum : α), new.length ≤ old.length →
    (slide sum new old).length = new.length := by
  induction new with
  | nil => exact fun _ _ _ => rfl
  | cons c new ih =>
    intro old sum long
    cases old with
    | nil => exact absurd long (Nat.not_succ_le_zero _)
    | cons o old => exact congrArg (· + 1) (ih old _ (Nat.le_of_succ_le_succ long))

theorem smooth_length (k last : α) (closes : List α) :
    (smooth k last closes).length = closes.length := by
  induction closes generalizing last with
  | nil => rfl
  | cons c closes ih => exact congrArg (· + 1) (ih _)

theorem rsiFrom_length (period : Nat) (ds : List α) (avgGain avgLoss : α) :
    (rsiFrom period avgGain avgLoss ds).length = ds.length := by
  induction ds generalizing avgGain avgLoss with
  | nil => rfl
  | cons d ds ih => exact congrArg (· + 1) (ih _ _)

theorem deltas_length (closes : List α) : (deltas closes).length = closes.length - 1 := by
  induction closes using deltas.induct with
  | case1 => rfl
  | case2 => rfl
  | case3 a b rest ih => simpa [deltas] using ih

theorem movingAverage_short {average : Average} {period : Int} {e : HistoryError}
    (positive : 1 ≤ period) (h : movingAverage average closes period = .error e) :
    (∃ what, e = .tooShort (period + 1) closes.length what) ∧
      (closes.length : Int) < period + 1 := by
  cases average with
  | sma => exact requireHistory_short positive (map_error.mp h)
  | ema => exact requireHistory_short positive (map_error.mp h)

theorem movingAverage_error {average : Average} {period : Int} {e : HistoryError}
    (positive : 1 ≤ period) (h : movingAverage average closes period = .error e) : TooShort e := by
  obtain ⟨⟨what, rfl⟩, -⟩ := movingAverage_short positive h
  exact ⟨_, _, what, rfl⟩

/-- The numbers of an average: one for each close from where the period is full. -/
theorem smaSeries_values {n : Nat} (within : n < closes.length) :
    ∃ values : List α, smaSeries closes n = List.replicate (n - 1) none ++ values.map some ∧
      values.length + n = closes.length + 1 := by
  have long : (closes.drop n).length ≤ closes.length := by simp
  let first := Arithmetic.sum (closes.take n)
  refine ⟨(first :: slide first (closes.drop n) closes).map (· / Arithmetic.ofNat n), ?_, ?_⟩
  · rw [List.map_map]
    rfl
  · rw [List.length_map, List.length_cons, slide_length _ _ _ long, List.length_drop]
    omega

theorem emaSeries_values {n : Nat} (within : n < closes.length) :
    ∃ values : List α, emaSeries closes n = List.replicate (n - 1) none ++ values.map some ∧
      values.length + n = closes.length + 1 := by
  refine ⟨_, rfl, ?_⟩
  rw [List.length_cons, smooth_length, List.length_drop]
  omega

theorem movingAverage_values {average : Average} {period : Int} {series : Series α}
    (h : movingAverage average closes period = .ok series) :
    ∃ n : Nat, n = period ∧ 0 < n ∧ n < closes.length ∧
      ∃ values : List α, series = List.replicate (n - 1) none ++ values.map some ∧
        values.length + n = closes.length + 1 := by
  cases average with
  | sma =>
    obtain ⟨n, enough, rfl⟩ := map_ok.mp h
    obtain ⟨count, positive, within⟩ := requireHistory_ok enough
    exact ⟨n, by omega, positive, within, smaSeries_values within⟩
  | ema =>
    obtain ⟨n, enough, rfl⟩ := map_ok.mp h
    obtain ⟨count, positive, within⟩ := requireHistory_ok enough
    exact ⟨n, by omega, positive, within, emaSeries_values within⟩

/-- An average has an entry for each close, and there are two at least. -/
theorem movingAverage_length {average : Average} {period : Int} {series : Series α}
    (h : movingAverage average closes period = .ok series) :
    series.length = closes.length ∧ 2 ≤ closes.length := by
  obtain ⟨n, -, positive, within, values, rfl, length⟩ := movingAverage_values h
  rw [List.length_append, List.length_replicate, List.length_map]
  omega

/-- The last two entries of an average are numbers. -/
theorem movingAverage_last_two {average : Average} {period : Int} {series : Series α}
    (h : movingAverage average closes period = .ok series) :
    ∃ rest prev last, series = rest ++ [some prev, some last] := by
  obtain ⟨n, -, -, within, values, rfl, length⟩ := movingAverage_values h
  exact last_two_numbers (by omega)

/-- The numbers of an index: one for each close past the period. -/
theorem rsiSeries_values {n : Nat} (within : n < closes.length) :
    ∃ values : List α, rsiSeries closes n = List.replicate n none ++ values.map some ∧
      values.length = closes.length - n := by
  refine ⟨_, rfl, ?_⟩
  rw [List.length_cons, rsiFrom_length, List.length_drop, deltas_length]
  omega

/-- With two closes more than the period the last two entries of the index are numbers. -/
theorem rsi_last_two {period : Int} {series : Series α} (h : rsi closes period = .ok series)
    (long : period + 2 ≤ closes.length) :
    ∃ rest prev last, series = rest ++ [some prev, some last] := by
  obtain ⟨n, enough, rfl⟩ := map_ok.mp h
  obtain ⟨count, positive, within⟩ := requireHistory_ok enough
  obtain ⟨values, written, length⟩ := rsiSeries_values within
  rw [written]
  exact last_two_numbers (by omega)

end Indicator

/-- The series of a function of the place, defined at `count` places from `first` on. -/
def Series.ofPlaces {α : Type} (first count : Nat) (f : Nat → α) : Series α :=
  List.replicate first none ++ ((List.range' first count).map f).map some

namespace Series

variable {α : Type} {first count i : Nat} {f : Nat → α}

theorem length_ofPlaces : (ofPlaces first count f).length = first + count := by
  simp [ofPlaces]

theorem getElem?_ofPlaces (reached : first ≤ i) (within : i < first + count) :
    (ofPlaces first count f)[i]? = some (some (f i)) := by
  have place : i - first < count := by omega
  have same : first + 1 * (i - first) = i := by omega
  rw [ofPlaces, List.getElem?_append_right (by simpa using reached), List.length_replicate,
    List.getElem?_map, List.getElem?_map, List.getElem?_range' place, same]
  rfl

/-- A place that holds a number is one of those where the series is defined. -/
theorem ofPlaces_defined {v : α} (h : (ofPlaces first count f)[i]? = some (some v)) :
    first ≤ i ∧ i < first + count := by
  have within := (List.getElem?_eq_some_iff.mp h).1
  rw [length_ofPlaces] at within
  refine ⟨Nat.not_lt.mp fun early => ?_, within⟩
  rw [ofPlaces, List.getElem?_append_left (by simpa using early),
    List.getElem?_replicate_of_lt early] at h
  cases h

end Series

namespace Indicator

theorem getD_of_drop {xs rest : List Rat} {x : Rat} {i : Nat} (h : xs.drop i = x :: rest) :
    xs.getD i 0 = x := by
  rw [List.getD_eq_getElem?_getD, ← List.head?_drop, h]
  rfl

theorem sum_rat (xs : List Rat) : Arithmetic.sum xs = xs.sum := List.sum_eq_foldl.symm

theorem sum_take (xs : List Rat) (n : Nat) :
    (xs.take n).sum = ∑ j ∈ Finset.range n, xs.getD j 0 := by
  induction n with
  | zero => simp
  | succ n ih =>
    rw [List.take_add_one, List.sum_append, ih, Finset.sum_range_succ]
    congr 1
    cases entry : xs[n]? <;> simp [List.getD, entry]

end Indicator
end SignalDesk
