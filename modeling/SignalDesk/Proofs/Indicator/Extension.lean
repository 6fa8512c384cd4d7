import SignalDesk.Proofs.Indicator.Lengths

namespace SignalDesk
namespace Indicator

variable {α : Type} {closes : List α}

theorem requireHistory_append {period : Int} {name : String} {n : Nat}
    (h : requireHistory closes period name = .ok n) (more : List α) :
    requireHistory (closes ++ more) period name = .ok n := by
  obtain ⟨rfl, positive, within⟩ := requireHistory_ok h
  have low : ¬period < 1 := by omega
  have long : ¬((closes ++ more).length : Int) < period + 1 := by
    rw [List.length_append]
    omega
  rw [requireHistory, if_neg low, if_neg long]

variable [Arithmetic α]

theorem slide_prefix (more back : List α) (new : List α) : ∀ (old : List α) (sum : α),
    new.length ≤ old.length → slide sum new old <+: slide sum (new ++ more) (old ++ back) := by
  induction new with
  | nil => exact fun old sum _ => List.nil_prefix
  | cons c new ih =>
    intro old sum long
    cases old with
    | nil => exact absurd long (Nat.not_succ_le_zero _)
    | cons o old =>
      exact List.cons_prefix_cons.mpr ⟨rfl, ih old _ (Nat.le_of_succ_le_succ long)⟩

theorem smaSeries_prefix {n : Nat} (within : n ≤ closes.length) (more : List α) :
    smaSeries closes n <+: smaSeries (closes ++ more) n := by
  simp only [smaSeries, List.take_append_of_le_length within, List.drop_append_of_le_length within]
  rw [List.prefix_append_right_inj]
  apply List.IsPrefix.map
  rw [List.cons_prefix_cons]
  exact ⟨rfl, slide_prefix more more _ closes _ (by simp)⟩

theorem smooth_prefix (k last : α) (closes more : List α) :
    smooth k last closes <+: smooth k last (closes ++ more) := by
  induction closes generalizing last with
  | nil => exact List.nil_prefix
  | cons c closes ih => exact List.cons_prefix_cons.mpr ⟨rfl, ih _⟩

theorem emaSeries_prefix {n : Nat} (within : n ≤ closes.length) (more : List α) :
    emaSeries closes n <+: emaSeries (closes ++ more) n := by
  simp only [emaSeries, List.take_append_of_le_length within, List.drop_append_of_le_length within]
  rw [List.prefix_append_right_inj]
  apply List.IsPrefix.map
  rw [List.cons_prefix_cons]
  exact ⟨rfl, smooth_prefix _ _ _ _⟩

theorem deltas_prefix (closes more : List α) : deltas closes <+: deltas (closes ++ more) := by
  induction closes using deltas.induct with
  | case1 => exact List.nil_prefix
  | case2 => exact List.nil_prefix
  | case3 a b rest ih => exact List.cons_prefix_cons.mpr ⟨rfl, ih⟩

theorem rsiFrom_prefix (period : Nat) (ds more : List α) (avgGain avgLoss : α) :
    rsiFrom period avgGain avgLoss ds <+: rsiFrom period avgGain avgLoss (ds ++ more) := by
  induction ds generalizing avgGain avgLoss with
  | nil => exact List.nil_prefix
  | cons d ds ih => exact List.cons_prefix_cons.mpr ⟨rfl, ih _ _⟩

theorem rsiSeries_prefix {n : Nat} (within : n < closes.length) (more : List α) :
    rsiSeries closes n <+: rsiSeries (closes ++ more) n := by
  obtain ⟨later, split⟩ := deltas_prefix closes more
  have enough : n ≤ (deltas closes).length := by
    rw [deltas_length]
    omega
  simp only [rsiSeries, ← split, List.take_append_of_le_length enough,
    List.drop_append_of_le_length enough]
  rw [List.prefix_append_right_inj]
  apply List.IsPrefix.map
  rw [List.cons_prefix_cons]
  exact ⟨rfl, rsiFrom_prefix _ _ _ _ _⟩

/-- An average says the same of the closes that it knows, whatever closes follow. -/
theorem movingAverage_append {average : Average} {period : Int} {series : Series α}
    (h : movingAverage average closes period = .ok series) (more : List α) :
    ∃ longer, movingAverage average (closes ++ more) period = .ok longer ∧ series <+: longer ∧
      longer.length = series.length + more.length := by
  have extended : ∃ longer, movingAverage average (closes ++ more) period = .ok longer ∧
      series <+: longer := by
    cases average with
    | sma =>
      obtain ⟨n, enough, rfl⟩ := map_ok.mp h
      obtain ⟨-, -, within⟩ := requireHistory_ok enough
      exact ⟨_, map_ok.mpr ⟨n, requireHistory_append enough more, rfl⟩,
        smaSeries_prefix (Nat.le_of_lt within) more⟩
    | ema =>
      obtain ⟨n, enough, rfl⟩ := map_ok.mp h
      obtain ⟨-, -, within⟩ := requireHistory_ok enough
      exact ⟨_, map_ok.mpr ⟨n, requireHistory_append enough more, rfl⟩,
        emaSeries_prefix (Nat.le_of_lt within) more⟩
  obtain ⟨longer, run, starts⟩ := extended
  refine ⟨longer, run, starts, ?_⟩
  rw [(movingAverage_length run).1, (movingAverage_length h).1, List.length_append]

theorem rsi_length {period : Int} {series : Series α} (h : rsi closes period = .ok series) :
    series.length = closes.length := by
  obtain ⟨n, enough, rfl⟩ := map_ok.mp h
  obtain ⟨-, -, within⟩ := requireHistory_ok enough
  obtain ⟨values, written, length⟩ := rsiSeries_values within
  rw [written, List.length_append, List.length_replicate, List.length_map, length]
  omega

/-- An index says the same of the closes that it knows, whatever closes follow. -/
theorem rsi_append {period : Int} {series : Series α} (h : rsi closes period = .ok series)
    (more : List α) :
    ∃ longer, rsi (closes ++ more) period = .ok longer ∧ series <+: longer ∧
      longer.length = series.length + more.length := by
  obtain ⟨n, enough, rfl⟩ := map_ok.mp h
  obtain ⟨-, -, within⟩ := requireHistory_ok enough
  have run : rsi (closes ++ more) period = .ok (rsiSeries (closes ++ more) n) :=
    map_ok.mpr ⟨n, requireHistory_append enough more, rfl⟩
  refine ⟨_, run, rsiSeries_prefix within more, ?_⟩
  rw [rsi_length run, rsi_length h, List.length_append]

end Indicator

/-- Whether a series has an entry for each close, and is defined from the place `first` on. -/
structure Series.BeginsAt {α : Type} (series : Series α) (closes : List α) (first : Nat) : Prop where
  length : series.length = closes.length
  undefined : ∀ i : Nat, series[i]? = some none ↔ i < first

theorem Series.beginsAt_of_values {α : Type} {closes values : List α} {first : Nat}
    (length : first + values.length = closes.length) :
    BeginsAt (List.replicate first none ++ values.map some) closes first where
  length := by simpa using length
  undefined i := by
    by_cases early : i < first
    · simp [early, List.getElem?_append_left]
    · have later : first ≤ i := Nat.not_lt.mp early
      rw [List.getElem?_append_right (by simpa using later), List.getElem?_map]
      simp [early]

namespace Indicator

variable {α : Type} [Arithmetic α] {closes : List α}

/-- An average is defined from where its period is full. -/
theorem movingAverage_beginsAt {average : Average} {period : Int} {series : Series α}
    (h : movingAverage average closes period = .ok series) :
    series.BeginsAt closes (period - 1).toNat := by
  obtain ⟨n, rfl, positive, within, values, rfl, length⟩ := movingAverage_values h
  have first : ((n : Int) - 1).toNat = n - 1 := by omega
  rw [first]
  exact Series.beginsAt_of_values (by omega)

/-- An index is defined one place later, as the first close has no delta. -/
theorem rsi_beginsAt {period : Int} {series : Series α} (h : rsi closes period = .ok series) :
    series.BeginsAt closes period.toNat := by
  obtain ⟨n, enough, rfl⟩ := map_ok.mp h
  obtain ⟨rfl, -, within⟩ := requireHistory_ok enough
  obtain ⟨values, written, length⟩ := rsiSeries_values within
  rw [written]
  exact Series.beginsAt_of_values (by omega)

/-- Whether an indicator has a series of a history, defined from the place `first` on, and says the
same of that history when more closes follow. -/
def Extends (indicator : List α → Int → Except HistoryError (Series α)) (period : Int)
    (first : Nat) (closes more : List α) : Prop :=
  ∃ series longer, indicator closes period = .ok series ∧
    indicator (closes ++ more) period = .ok longer ∧ longer.take closes.length = series ∧
      series.BeginsAt closes first ∧ longer.BeginsAt (closes ++ more) first

theorem movingAverage_extends (average : Average) {period : Nat} (positive : 1 ≤ period)
    (long : period + 1 ≤ closes.length) (more : List α) :
    Extends (movingAverage average) period (period - 1) closes more := by
  obtain ⟨series, run⟩ : ∃ series, movingAverage average closes period = .ok series := by
    cases average with
    | sma => exact ⟨_, map_ok.mpr ⟨period, requireHistory_long positive long, rfl⟩⟩
    | ema => exact ⟨_, map_ok.mpr ⟨period, requireHistory_long positive long, rfl⟩⟩
  obtain ⟨longer, run', starts, -⟩ := movingAverage_append run more
  have begins := movingAverage_beginsAt run
  have begins' := movingAverage_beginsAt run'
  rw [show ((period : Int) - 1).toNat = period - 1 by omega] at begins begins'
  refine ⟨series, longer, run, run', ?_, begins, begins'⟩
  rw [← begins.length]
  exact (List.prefix_iff_eq_take.mp starts).symm

theorem rsi_extends {period : Nat} (positive : 1 ≤ period) (long : period + 1 ≤ closes.length)
    (more : List α) : Extends rsi period period closes more := by
  have run : rsi closes period = .ok (rsiSeries closes period) :=
    map_ok.mpr ⟨period, requireHistory_long positive long, rfl⟩
  obtain ⟨longer, run', starts, -⟩ := rsi_append run more
  have begins := rsi_beginsAt run
  refine ⟨_, longer, run, run', ?_, begins, rsi_beginsAt run'⟩
  rw [← begins.length]
  exact (List.prefix_iff_eq_take.mp starts).symm

/-- **Indicators only go on.** Whatever numbers are reckoned with: of a history that is longer than
the period, each indicator has a series with an entry for each close, of which exactly those before
the period is full are not defined, one more for the index; and when more closes follow, the entries
of the history stay as they are. -/
theorem series_extended (closes more : List α) {period : Nat} (positive : 1 ≤ period)
    (long : period + 1 ≤ closes.length) :
    Extends sma period (period - 1) closes more ∧ Extends ema period (period - 1) closes more ∧
      Extends rsi period period closes more :=
  ⟨movingAverage_extends .sma positive long more, movingAverage_extends .ema positive long more,
    rsi_extends positive long more⟩

/-- Three closes and a period of two: the first entry of an average is open, the first two of the
index, and a fourth close changes none of the three. -/
theorem sample_series_extended :
    (1 ≤ 2 ∧ 2 + 1 ≤ ([1, 2, 4] : List Rat).length) ∧
      Extends sma 2 1 ([1, 2, 4] : List Rat) [8] ∧ Extends ema 2 1 ([1, 2, 4] : List Rat) [8] ∧
        Extends rsi 2 2 ([1, 2, 4] : List Rat) [8] :=
  ⟨by decide, series_extended [1, 2, 4] [8] (by decide) (by decide)⟩

end Indicator
end SignalDesk
