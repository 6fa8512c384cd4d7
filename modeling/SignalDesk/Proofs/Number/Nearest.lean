import Mathlib.Algebra.Order.Field.Power
import Mathlib.Tactic.FieldSimp
import Mathlib.Tactic.Linarith
import Mathlib.Tactic.Positivity
import Mathlib.Tactic.Ring
import SignalDesk.Proofs.Number.Range

namespace SignalDesk

/-- An integer nearest to a quotient is not further from it than a half. -/
theorem roundEven_near (num : Nat) {den : Nat} (hd : 0 < den) :
    |(roundEven num den : Rat) - num / den| ≤ 1 / 2 := by
  obtain ⟨above, below⟩ := roundEven_bounds num hd
  have positive : (0 : Rat) < den := by exact_mod_cast hd
  have above : 2 * ((den : Rat) * roundEven num den) ≤ 2 * num + den := by exact_mod_cast above
  have below : 2 * (num : Rat) ≤ 2 * (den * roundEven num den) + den := by exact_mod_cast below
  have quotient : (num : Rat) / den * den = num := div_mul_cancel₀ _ (ne_of_gt positive)
  generalize (num : Rat) / den = q at quotient ⊢
  rw [abs_le]
  constructor <;> refine le_of_mul_le_mul_right ?_ positive <;> linarith

namespace Real64

/-- Half of the smallest number above zero. -/
def halfSmallest : Rat := 2 ^ (-1075 : Int)

theorem halfSmallest_pos : 0 < halfSmallest := by
  unfold halfSmallest
  positivity

theorem two_zpow (e : Int) : (2 : Rat) ^ e = 2 ^ e.toNat / 2 ^ (-e).toNat := by
  rw [← zpow_natCast, ← zpow_natCast, ← zpow_sub₀ (by norm_num)]
  congr 1
  omega

/-- A quotient counted in units of a power of two. -/
theorem scaled_quotient (num : Nat) {den : Nat} (hd : 0 < den) (e : Int) :
    ((scaled num den e).1 : Rat) / (scaled num den e).2 = num / den / 2 ^ e := by
  have positive : (den : Rat) ≠ 0 := by exact_mod_cast Nat.ne_of_gt hd
  rw [scaled_eq, two_zpow]
  push_cast
  field_simp

/-- The last place of a quotient is a part in `2 ^ 52` of it, or that of the smallest number. -/
theorem lastPlace_small {num den : Nat} (hn : num ≠ 0) (hd : 0 < den) :
    (2 : Rat) ^ lastPlace num den ≤ num / den / 2 ^ 52 + 2 * halfSmallest := by
  have nonneg : (0 : Rat) ≤ num / den := by positivity
  rcases Int.le_total (significantPlace 53 num den) (-1074) with small | large
  · have smallest : (2 : Rat) ^ (-1074 : Int) = 2 * halfSmallest := by
      rw [halfSmallest, ← zpow_one_add₀ two_ne_zero]
      rfl
    rw [show lastPlace num den = -1074 from Int.max_eq_left small, smallest]
    exact le_add_of_nonneg_left (by positivity)
  · rw [show lastPlace num den = significantPlace 53 num den from Int.max_eq_right large]
    have bits := le_scaled_significantPlace hn den
    have positive : (0 : Rat) < (scaled num den (significantPlace 53 num den)).2 := by
      exact_mod_cast scaled_pos hd
    have bits : (2 : Rat) ^ 52 ≤ num / den / 2 ^ significantPlace 53 num den := by
      rw [← scaled_quotient num hd, le_div_iff₀ positive, mul_comm]
      exact_mod_cast bits
    have unit : (0 : Rat) < 2 ^ significantPlace 53 num den := by positivity
    rw [le_div_iff₀ unit] at bits
    have part : (2 : Rat) ^ significantPlace 53 num den ≤ num / den / 2 ^ 52 := by
      rw [le_div_iff₀ (by positivity), mul_comm]
      exact bits
    have more := halfSmallest_pos
    exact part.trans (le_add_of_nonneg_right (by positivity))

/-- What a quotient is rounded to, if it is finite. -/
theorem ofQuotient_magnitude {negative : Bool} {num den : Nat} {x : Binary64} (hn : num ≠ 0)
    (h : ofQuotient negative num den = .finite x) :
    x.negative = negative ∧ x.magnitude =
      roundEven (scaled num den (lastPlace num den)).1 (scaled num den (lastPlace num den)).2 *
        2 ^ lastPlace num den := by
  unfold ofQuotient at h
  rw [if_neg hn] at h
  -- the place is kept as a variable: the kernel is not to compute it
  extract_lets e at h
  change _ ∧ x.magnitude = roundEven (scaled num den e).1 (scaled num den e).2 * 2 ^ e
  clear_value e
  generalize scaled num den e = quotient at h ⊢
  obtain ⟨n, d⟩ := quotient
  dsimp only at h ⊢
  generalize roundEven n d = s at h ⊢
  split at h
  · rename_i carry
    split at h
    · cases h
    · cases h
      refine ⟨rfl, ?_⟩
      have carried : (s : Rat) = 2 ^ 53 := by exact_mod_cast carry
      have next : (2 : Rat) ^ (e + 1) = 2 ^ e * 2 := zpow_add_one₀ two_ne_zero e
      simp only [Binary64.magnitude, carried, next]
      push_cast
      ring
  · split at h
    · cases h
    · cases h
      exact ⟨rfl, rfl⟩

/-- **How far rounding goes.** -/
theorem ofQuotient_near {negative : Bool} {num den : Nat} {x : Binary64} (hd : 0 < den)
    (h : ofQuotient negative num den = .finite x) :
    x.negative = negative ∧
      |x.magnitude - num / den| ≤ num / den / 2 ^ 53 + halfSmallest := by
  have smallest := halfSmallest_pos
  by_cases hn : num = 0
  · subst hn
    rw [ofQuotient_zero] at h
    cases h
    refine ⟨rfl, ?_⟩
    simp only [Binary64.magnitude, Nat.cast_zero, zero_mul, zero_div, sub_self, abs_zero]
    positivity
  · obtain ⟨sign, magnitude⟩ := ofQuotient_magnitude hn h
    refine ⟨sign, ?_⟩
    have positive : 0 < (scaled num den (lastPlace num den)).2 := scaled_pos hd
    have near := roundEven_near (scaled num den (lastPlace num den)).1 positive
    rw [scaled_quotient num hd] at near
    have small := lastPlace_small hn hd
    have unit : (0 : Rat) < 2 ^ lastPlace num den := by positivity
    rw [magnitude]
    generalize (2 : Rat) ^ lastPlace num den = u at near small unit ⊢
    generalize (roundEven _ _ : Rat) = s at near ⊢
    generalize (num : Rat) / den = q at near small ⊢
    have counted : q = q / u * u := (div_mul_cancel₀ q (ne_of_gt unit)).symm
    calc |s * u - q| = |s - q / u| * u := by
          rw [← abs_of_pos unit, ← abs_mul, sub_mul, abs_of_pos unit, ← counted]
      _ ≤ 1 / 2 * u := mul_le_mul_of_nonneg_right near (le_of_lt unit)
      _ ≤ 1 / 2 * (q / 2 ^ 52 + 2 * halfSmallest) := mul_le_mul_of_nonneg_left small (by norm_num)
      _ = q / 2 ^ 53 + halfSmallest := by ring

theorem ofScaled_eq (negative : Bool) (n : Nat) (e : Int) :
    ofScaled negative n e = ofQuotient negative (n * 2 ^ e.toNat) (2 ^ (-e).toNat) := by
  unfold ofScaled
  split
  · rename_i high
    rw [show (-e).toNat = 0 by omega, Nat.pow_zero]
  · rename_i low
    rw [show e.toNat = 0 by omega, Nat.pow_zero, Nat.mul_one]

/-- What a product is before it is rounded. -/
theorem magnitude_mul (x y : Binary64) :
    x.magnitude * y.magnitude =
      ((x.significand * y.significand * 2 ^ (x.exponent + y.exponent).toNat : Nat) : Rat) /
        (2 ^ (-(x.exponent + y.exponent)).toNat : Nat) := by
  have exponent : (2 : Rat) ^ x.exponent * 2 ^ y.exponent =
      2 ^ (x.exponent + y.exponent).toNat / 2 ^ (-(x.exponent + y.exponent)).toNat := by
    rw [← zpow_add₀ two_ne_zero, two_zpow]
  rw [Binary64.magnitude, Binary64.magnitude, mul_mul_mul_comm, exponent]
  push_cast
  ring

/-- A product is not further from the exact one than half of its last place. -/
theorem mul_near {x y z : Binary64} (h : (finite x).mul (finite y) = .finite z) :
    z.negative = (x.negative != y.negative) ∧
      |z.magnitude - x.magnitude * y.magnitude| ≤
        x.magnitude * y.magnitude / 2 ^ 53 + halfSmallest := by
  simp only [mul, ofScaled_eq] at h
  rw [magnitude_mul]
  exact ofQuotient_near (Nat.two_pow_pos _) h

/-- A product that is not past the largest finite number is finite. -/
theorem mul_isFinite {x y : Binary64} (h : x.magnitude * y.magnitude ≤ maxWhole) :
    ∃ z, (finite x).mul (finite y) = .finite z := by
  rw [magnitude_mul, div_le_iff₀ (by positivity)] at h
  have within : x.significand * y.significand * 2 ^ (x.exponent + y.exponent).toNat ≤
      maxWhole * 2 ^ (-(x.exponent + y.exponent)).toNat := by exact_mod_cast h
  simp only [mul, ofScaled_eq]
  apply ofQuotient_isFinite _ (Nat.two_pow_pos _)
  have unit : 0 < 2 ^ (-(x.exponent + y.exponent)).toNat * 2 ^ (971 : Int).toNat :=
    Nat.mul_pos (Nat.two_pow_pos _) (Nat.two_pow_pos _)
  generalize x.significand * y.significand * 2 ^ (x.exponent + y.exponent).toNat = n at within ⊢
  rw [maxWhole, Nat.mul_assoc, Nat.mul_comm (2 ^ (971 : Int).toNat)] at within
  generalize 2 ^ (-(x.exponent + y.exponent)).toNat * 2 ^ (971 : Int).toNat = u at within unit ⊢
  omega

/-- A number of the format is not past the largest finite one. -/
theorem magnitude_le {x : Binary64} (h : (finite x).Fits) : x.magnitude ≤ maxWhole := by
  obtain ⟨bits, place⟩ := h
  have largest : (maxWhole : Rat) = (2 ^ 53 - 1) * 2 ^ (971 : Int) := by
    have power : (2 : Rat) ^ (971 : Int) = (2 ^ (971 : Int).toNat : Nat) := by
      rw [Nat.cast_pow]
      exact zpow_natCast _ _
    rw [power, maxWhole]
    generalize 2 ^ (971 : Int).toNat = u
    push_cast
    ring
  have bits : (x.significand : Rat) ≤ 2 ^ 53 - 1 := by
    have below : (x.significand : Rat) + 1 ≤ 2 ^ 53 := by exact_mod_cast bits
    linarith
  rw [largest, Binary64.magnitude]
  exact mul_le_mul bits (zpow_le_zpow_right₀ one_le_two place) (by positivity) (by norm_num)

end Real64
end SignalDesk
