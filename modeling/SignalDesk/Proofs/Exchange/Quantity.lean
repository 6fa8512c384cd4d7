import Mathlib.Algebra.Order.Field.Power
import Mathlib.Tactic.Linarith
import Mathlib.Tactic.Positivity
import SignalDesk.Proofs.Number.Fixed
import SignalDesk.Proofs.Number.Rounding
import SignalDesk.Proofs.Store.Figures

namespace SignalDesk

namespace Binary64

theorem magnitude_eq_quotient (x : Binary64) :
    x.magnitude = (x.quotient.1 : Rat) / (x.quotient.2 : Rat) := by
  unfold magnitude quotient
  split
  · rename_i high
    obtain ⟨k, exponent⟩ := Int.eq_ofNat_of_zero_le high
    rw [exponent, Int.toNat_natCast, zpow_natCast]
    push_cast
    ring
  · rename_i low
    obtain ⟨k, exponent⟩ := Int.eq_ofNat_of_zero_le (Int.neg_nonneg.mpr (Int.le_of_not_le low))
    have same : x.exponent = -(k : Int) := by omega
    rw [same, Int.neg_neg, Int.toNat_natCast, zpow_neg, zpow_natCast]
    push_cast
    rw [div_eq_mul_inv]

theorem magnitude_nonneg (x : Binary64) : 0 ≤ x.magnitude := by
  unfold magnitude
  positivity

end Binary64

namespace Real64

/-- What is more than half of the last place is not lost. -/
theorem inPlaces_pos_iff (places : Nat) (x : Binary64) :
    0 < inPlaces places x ↔ 1 / (2 * 10 ^ places) < x.magnitude := by
  have positive : (0 : Rat) < x.quotient.2 := by exact_mod_cast Binary64.quotient_pos x
  have places_pos : (0 : Rat) < 2 * 10 ^ places := by positivity
  rw [Binary64.magnitude_eq_quotient, div_lt_div_iff₀ places_pos positive]
  unfold inPlaces
  rw [roundEven_pos_iff (Binary64.quotient_pos x)]
  constructor
  · intro more
    have cast : (x.quotient.2 : Rat) < 2 * (x.quotient.1 * 10 ^ places) := by exact_mod_cast more
    linarith
  · intro more
    have cast : (x.quotient.2 : Rat) < 2 * (x.quotient.1 * 10 ^ places) := by linarith
    exact_mod_cast cast

/-- A number is written as one above zero just where it is above half of the last place. -/
theorem value_inPlaces_pos_iff (places : Nat) (x : Binary64) :
    0 < Decimal.value ⟨x.negative, inPlaces places x, -(places : Int)⟩ ↔
      1 / (2 * 10 ^ places) < x.value := by
  have scale : (0 : Rat) < 10 ^ (-(places : Int)) := by positivity
  have half : (0 : Rat) < 1 / (2 * 10 ^ places) := by positivity
  cases sign : x.negative with
  | true =>
    simp only [Decimal.value, Binary64.value, sign, if_true]
    apply iff_of_false
    · have nonneg : (0 : Rat) ≤ inPlaces places x * 10 ^ (-(places : Int)) := by positivity
      linarith
    · have nonneg := x.magnitude_nonneg
      linarith
  | false =>
    simp only [Decimal.value, Binary64.value, sign, Bool.false_eq_true, if_false]
    rw [mul_pos_iff_of_pos_right scale, Nat.cast_pos, inPlaces_pos_iff]

end Real64

namespace Order

theorem zeros_denote : Numeral.Denotes "0.000000" 0 := by
  have nothing : Decimal.value ⟨false, 0, -6⟩ = 0 := by simp [Decimal.value]
  exact ⟨false, "0.000000".toList, _, by decide +kernel, by decide +kernel, nothing⟩

/-- At a price that is not above zero nothing is ordered. -/
theorem quantityText_worthless {quote price : Real64} (worthless : price.le .zero = true) :
    quantityText quote price = "0.000000" ∧ Numeral.Denotes (quantityText quote price) 0 := by
  rw [quantityText, if_pos worthless]
  exact ⟨rfl, zeros_denote⟩

/-- What is ordered at any other price is a number, and above zero just where the quotient is above
half of the sixth place. -/
theorem quantityText_finite {quote price : Real64} {x : Binary64}
    (worth : price.le .zero = false) (quotient : quote.div price = .finite x) :
    ∃ n, Numeral.Denotes (quantityText quote price) n ∧ (0 < n ↔ 1 / (2 * 10 ^ 6) < x.value) := by
  have text : quantityText quote price = (Real64.finite x).fixedText 6 := by
    rw [quantityText, worth, quotient]
    rfl
  rw [text]
  exact ⟨_, Real64.fixedText_denotes 6 x, Real64.value_inPlaces_pos_iff 6 x⟩

end Order
end SignalDesk
