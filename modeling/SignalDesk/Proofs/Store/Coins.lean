import SignalDesk.Proofs.Number.Rounding
import SignalDesk.Proofs.Store.Reservation

namespace SignalDesk

namespace Real64

/-- Whether a number is one that a column can hold: not finer than the format, and not a NaN. -/
def IsStored : Real64 → Prop
  | .finite x => -1074 ≤ x.exponent
  | .infinite _ => True
  | .nan => False

theorem ofQuotient_isStored (negative : Bool) (num den : Nat) :
    (ofQuotient negative num den).IsStored := by
  by_cases hn : num = 0
  · unfold ofQuotient
    rw [if_pos hn]
    exact Int.le_refl _
  · rcases ofQuotient_cases negative hn with infinite | ⟨s, e, finite, places, -⟩
    · rw [infinite]
      trivial
    · rw [finite]
      exact places

theorem ofInt_one : ofInt 1 = .finite ⟨false, 2 ^ 52, -52⟩ := by decide

theorem ofInt_neg_one : ofInt (-1) = .finite ⟨true, 2 ^ 52, -52⟩ := by decide

end Real64

theorem Decimal.toReal64_isStored (x : Decimal) : x.toReal64.IsStored := by
  unfold toReal64
  split
  · exact Int.le_refl _
  split
  · trivial
  split
  · exact Int.le_refl _
  split <;> exact Real64.ofQuotient_isStored ..

namespace Amount

/-- Whether an amount is one that a column can hold. -/
def IsStored : Amount → Prop
  | whole n => fitsWord n = true
  | real x => x.IsStored

theorem ofText_isStored (s : String) : (ofText s).IsStored := by
  unfold ofText
  cases Leading.read? s.toList with
  | none => exact (by decide : fitsWord 0 = true)
  | some l =>
    simp only [Option.map_some, Option.getD_some, ofLeading]
    split
    · rename_i plain
      exact (Bool.and_eq_true _ _ ▸ plain).2
    · exact l.decimal.toReal64_isStored

/-- Whether an amount is one coin or more. -/
def hasCoin : Amount → Bool
  | whole n => decide (1 ≤ n)
  | real x => (Real64.ofInt 1).le x

theorem isNegative_zero (negative : Bool) (e : Int) :
    (ofReal (.finite ⟨negative, 0, e⟩)).isNegative = false := by
  have whole : (⟨negative, 0, e⟩ : Binary64).isWhole = true := by
    simp [Binary64.isWhole, Binary64.quotient, apply_ite Prod.fst]
  have none : (⟨negative, 0, e⟩ : Binary64).truncate = 0 := by
    simp [Binary64.truncate, Binary64.quotient, apply_ite Prod.fst]
  simp [ofReal, whole, none, isNegative]

/-- What is left of a number less than one is below zero, however it is rounded. -/
theorem isNegative_add_neg_one {x : Binary64} (h : -1074 ≤ x.exponent) :
    (ofReal ((Real64.finite x).add (.ofInt (-1)))).isNegative =
      !(Real64.ofInt 1).le (.finite x) := by
  have opposite : ∀ e,
      Binary64.over e ⟨true, 2 ^ 52, -52⟩ = -Binary64.over e ⟨false, 2 ^ 52, -52⟩ := fun _ => rfl
  rw [Real64.ofInt_one, Real64.ofInt_neg_one]
  by_cases sum : x.over (min x.exponent (-52)) +
      Binary64.over (min x.exponent (-52)) ⟨true, 2 ^ 52, -52⟩ = 0
  · have reached : (Real64.finite ⟨false, 2 ^ 52, -52⟩).le (.finite x) = true := by
      simp only [Real64.le, Int.min_comm (-52), decide_eq_true_eq]
      rw [opposite] at sum
      omega
    rw [reached]
    simp only [Real64.add, sum, if_true, isNegative_zero, Bool.not_true]
  · have signed := Real64.add_hasSign (y := ⟨true, 2 ^ 52, -52⟩) h (by decide) sum
    rw [isNegative_ofReal signed]
    simp only [Real64.le, Int.min_comm (-52), ← decide_not, opposite]
    apply decide_eq_decide.mpr
    omega

/-- What is left of an amount without a coin is below zero, however it is rounded. -/
theorem plus_neg_one_isNegative {a : Amount} (h : a.IsStored) :
    (a.plus (-1)).isNegative = !a.hasCoin := by
  cases a with
  | whole n =>
    have fits := fitsWord_iff.mp h
    -- the least integer has none before it in 64 bits and goes on as a binary64 number
    by_cases low : n = -2 ^ 63
    · subst low
      have least : Real64.ofInt (-2 ^ 63) = .finite ⟨true, 2 ^ 52, 11⟩ := by decide
      rw [plus, if_neg (by decide), least, isNegative_add_neg_one (by decide)]
      decide
    · have plus : (whole n).plus (-1) = whole (n + -1) :=
        plus_whole (fitsWord_iff.mpr ⟨by omega, by omega⟩)
      rw [plus]
      simp only [isNegative, hasCoin, ← decide_not]
      apply decide_eq_decide.mpr
      omega
  | real x =>
    cases x with
    | finite x => exact isNegative_add_neg_one h
    | infinite b =>
      simp only [plus, hasCoin, Real64.ofInt_one, Real64.ofInt_neg_one]
      cases b <;> rfl
    | nan => exact h.elim

/-- One coin is more than nothing. -/
theorem isPositive_of_hasCoin {a : Amount} (h : a.hasCoin = true) : a.isPositive = true := by
  cases a with
  | whole n =>
    simp only [hasCoin, isPositive, decide_eq_true_eq] at h ⊢
    omega
  | real x =>
    simp only [hasCoin, Real64.ofInt_one] at h
    cases x with
    | finite x =>
      have one : 0 < Binary64.over (min (-52) x.exponent) ⟨false, 2 ^ 52, -52⟩ :=
        Binary64.over_pos_iff.mpr ⟨rfl, by decide⟩
      simp only [Real64.le, decide_eq_true_eq] at h
      have positive := Binary64.over_pos_iff.mp (Int.lt_of_lt_of_le one h)
      simp only [isPositive, Real64.lt, Real64.zero, Binary64.over_zero, Binary64.over_pos_iff,
        positive, and_self, decide_true]
    | infinite b => exact h
    | nan => exact h

end Amount

namespace Figure

/-- Whether a figure is one that a column can hold. -/
def IsStored : Figure → Prop
  | number a => a.IsStored
  | text _ => True

theorem amount_isStored {f : Figure} (h : f.IsStored) : f.amount.IsStored := by
  cases f with
  | number a => exact h
  | text s => exact Amount.ofText_isStored s

/-- Whether a balance is one coin or more, as sums take it. -/
def hasCoin (f : Figure) : Bool := f.amount.hasCoin

/-- A coin can be taken from a balance just when it has one. -/
theorem spendable_iff {f : Figure} (h : f.IsStored) :
    f.isPositive = true ∧ (f.amount.plus (-1)).isNegative = false ↔ f.hasCoin = true := by
  have left := Amount.plus_neg_one_isNegative (amount_isStored h)
  rw [left, hasCoin, Bool.not_eq_false', and_iff_right_iff_imp]
  intro coin
  cases f with
  | number a => exact Amount.isPositive_of_hasCoin coin
  | text s => rfl

end Figure

namespace Store

variable {s s' : Store} {r : Reservation} {now : String} {id : Int} {t : Trade}

/-- A trade is reserved once for a candle, and for a coin. -/
theorem reserve_iff (made : r.trade (nextId (s.trades.map (·.id))) now = .ok t)
    (stored : ∀ p, s.profile? t.user = some p → p.coins.IsStored) :
    (∃ id s', s.reserve r now = .ok (id, s')) ↔
      s.hasTradeFor t.user t.script t.timeframe t.candleTime = false ∧
        ∃ p, s.profile? t.user = some p ∧ p.coins.hasCoin = true := by
  simp only [reserve, made]
  split
  · rename_i twice
    simp [twice]
  rename_i once
  cases profile : s.profile? t.user with
  | none => simp
  | some p =>
    have spendable := Figure.spendable_iff (stored p profile)
    simp only [Bool.not_eq_true] at once
    simp only [once, true_and, Option.some.injEq, exists_eq_left', ← spendable]
    cases p.coins.isPositive <;> cases (p.coins.amount.plus (-1)).isNegative <;> simp

end Store
end SignalDesk
