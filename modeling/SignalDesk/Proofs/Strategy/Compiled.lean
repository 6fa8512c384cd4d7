import SignalDesk.Proofs.Number.Range
import SignalDesk.Proofs.Results
import SignalDesk.Strategy.Script

namespace SignalDesk

theorem Decimal.toReal64_fits (x : Decimal) : x.toReal64.Fits := by
  unfold toReal64
  split
  · exact ⟨Nat.two_pow_pos 53, by simp⟩
  split
  · trivial
  split
  · exact ⟨Nat.two_pow_pos 53, by simp⟩
  split
  · exact Real64.ofQuotient_fits _ Nat.one_pos
  · exact Real64.ofQuotient_fits _ (Nat.pow_pos (by decide))

theorem Numeral.real?_fits {text : String} {x : Real64} (h : Numeral.real? text = some x) :
    x.Fits := by
  simp only [real?] at h
  split at h
  · cases h
    trivial
  split at h
  · cases h
    trivial
  obtain ⟨decimal, -, rfl⟩ := Option.map_eq_some_iff.mp h
  exact decimal.toReal64_fits

namespace Strategy

variable {α : Type}

/-- Whether a period is one that an average can be taken over. -/
def IsPeriod (n : Int) : Prop := 1 ≤ n ∧ n.natAbs ≤ Real64.maxWhole

/-- Whether a strategy has what its rule needs. -/
structure WellFormed (s : Strategy α) : Prop where
  fast : IsPeriod s.fastPeriod
  slow : IsPeriod s.slowPeriod
  rsi : ∀ n, s.rsiPeriod = some n → IsPeriod n
  index : s.entry = .rsi →
    s.rsiPeriod.isSome = true ∧ s.oversold.isSome = true ∧ s.overbought.isSome = true
  threshold : s.entry.crossesPrice = true → s.threshold.isSome = true
  rule : s.entry = .custom → ∃ rule, s.customRule = some rule ∧ rule.isEmpty = false

theorem WellFormed.map {β : Type} {s : Strategy α} (h : s.WellFormed) (f : α → β) :
    (s.map f).WellFormed where
  fast := h.fast
  slow := h.slow
  rsi := h.rsi
  index entry := by
    simp only [Strategy.map, Option.isSome_map]
    exact h.index entry
  threshold crosses := by
    rw [Strategy.map, Option.isSome_map]
    exact h.threshold crosses
  rule := h.rule

end Strategy

namespace Script

open Strategy

theorem period_isPeriod {field : ScriptField} {raw : String} {n : Int}
    (h : period field raw = .ok n) : IsPeriod n := by
  obtain ⟨x, read, h⟩ := bind_ok.mp h
  have fits : (Real64.finite x).Fits := by
    simp only [finite] at read
    split at read
    · cases read
    · rename_i y number
      cases read
      exact Numeral.real?_fits number
    · cases read
  split at h
  · cases h
  split at h
  · cases h
  · rename_i positive
    cases h
    exact ⟨Int.not_lt.mp positive, Binary64.truncate_le fits⟩

theorem optional_isPeriod {field : ScriptField} {raw : Option String} {given : Option Int}
    (h : optional (period field) raw = .ok given) : ∀ n, given = some n → IsPeriod n := by
  intro n some
  cases raw with
  | none =>
    cases h
    cases some
  | some raw =>
    obtain ⟨m, read, rfl⟩ := map_ok.mp h
    cases some
    exact period_isPeriod read

/-- Every period that a script names is one. -/
structure Values.Periods (v : Values) : Prop where
  fast : ∀ n, v.fast = some n → IsPeriod n
  slow : ∀ n, v.slow = some n → IsPeriod n
  rsi : ∀ n, v.rsiPeriod = some n → IsPeriod n

theorem values_periods {script : List Char} {v : Values} (h : values script = .ok v) :
    v.Periods := by
  obtain ⟨fast, readFast, h⟩ := bind_ok.mp h
  obtain ⟨slow, readSlow, h⟩ := bind_ok.mp h
  obtain ⟨stopLoss, -, h⟩ := bind_ok.mp h
  obtain ⟨takeProfit, -, h⟩ := bind_ok.mp h
  obtain ⟨rsi, readRsi, h⟩ := bind_ok.mp h
  obtain ⟨overbought, -, h⟩ := bind_ok.mp h
  obtain ⟨oversold, -, h⟩ := bind_ok.mp h
  obtain ⟨threshold, -, h⟩ := bind_ok.mp h
  obtain ⟨entry, -, h⟩ := bind_ok.mp h
  obtain ⟨average, -, h⟩ := bind_ok.mp h
  cases h
  exact ⟨optional_isPeriod readFast, optional_isPeriod readSlow, optional_isPeriod readRsi⟩

theorem getD_isPeriod {given : Option Int} {default : Int}
    (h : ∀ n, given = some n → IsPeriod n) (standard : IsPeriod default) :
    IsPeriod (given.getD default) := by
  cases given with
  | none => exact standard
  | some n => exact h n rfl

theorem standard_isPeriod {n : Int} (low : 1 ≤ n) (high : n.natAbs ≤ 2 ^ 53 - 1) : IsPeriod n :=
  ⟨low, Nat.le_trans high (Nat.le_mul_of_pos_right _ (Nat.two_pow_pos _))⟩

theorem strategy_wellFormed {v : Values} {s : Strategy Binary64} (h : strategy v = .ok s)
    (periods : v.Periods) : s.WellFormed := by
  have standardRsi : IsPeriod defaultRsiPeriod := standard_isPeriod (by decide) (by decide)
  unfold strategy at h
  extract_lets fast slow isRsi rsiPeriod bound overbought oversold at h
  split at h
  · cases h
  split at h
  · cases h
  split at h
  · cases h
  rename_i threshold
  split at h
  · cases h
  rename_i rule
  cases h
  constructor
  case fast => exact getD_isPeriod periods.fast (standard_isPeriod (by decide) (by decide))
  case slow => exact getD_isPeriod periods.slow (standard_isPeriod (by decide) (by decide))
  case rsi =>
    intro n given
    change (if isRsi then some _ else v.rsiPeriod) = some n at given
    split at given
    · cases given
      exact getD_isPeriod periods.rsi standardRsi
    · exact periods.rsi n given
  case index =>
    intro entry
    simp only [rsiPeriod, oversold, overbought, bound, isRsi, if_pos entry, Option.isSome_some,
      and_self]
  case threshold =>
    intro crosses
    simp only [Bool.and_eq_true, not_and, Bool.not_eq_true, Option.isNone_eq_false_iff] at threshold
    exact threshold crosses
  case rule =>
    intro custom
    simp only [Bool.and_eq_true, decide_eq_true_eq, not_and, Bool.not_eq_true] at rule
    have some := rule custom
    cases text : v.rule with
    | none =>
      rw [text] at some
      cases some
    | some rule =>
      refine ⟨rule, rfl, Bool.eq_false_iff.mpr fun empty => ?_⟩
      rw [text, String.isEmpty_iff.mp empty] at some
      exact Bool.noConfusion some

/-- What a script compiles to has what its rule needs. -/
theorem parse_wellFormed {text : String} {s : Strategy Binary64} (h : parse text = .ok s) :
    s.WellFormed := by
  simp only [parse] at h
  split at h
  · cases h
  · obtain ⟨v, read, h⟩ := bind_ok.mp h
    exact strategy_wellFormed h (values_periods read)

end Script
end SignalDesk
