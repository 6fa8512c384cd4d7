import Mathlib.Tactic.Ring
import SignalDesk.Store.Figure

namespace SignalDesk

theorem Amount.same_comm (a b : Amount) : a.same b = b.same a := by
  cases a with
  | whole n =>
    cases b with
    | whole m => simp only [same, Bool.beq_comm]
    | real y => cases y <;> rfl
  | real x =>
    cases b with
    | whole m => cases x <;> rfl
    | real y => cases x <;> cases y <;> simp only [same, Real64.same, Bool.and_comm]

theorem Figure.same_comm (a b : Figure) : a.same b = b.same a := by
  cases a <;> cases b
  · exact Amount.same_comm ..
  · rfl
  · rfl
  · simp only [same, Bool.beq_comm]

/-- A quotient that comes out even. -/
theorem mod_div_iff {num den : Nat} {n : Int} (positive : 0 < den) :
    num % den = 0 ∧ (num / den : Nat) = n ↔ (num : Int) = n * den := by
  constructor
  · rintro ⟨exact, rfl⟩
    have whole := Nat.div_add_mod num den
    rw [exact, Nat.add_zero, Nat.mul_comm] at whole
    exact_mod_cast whole.symm
  · intro h
    have nonneg : 0 ≤ n := by
      by_contra negative
      have := Int.mul_neg_of_neg_of_pos (Int.not_le.mp negative) (Int.natCast_pos.mpr positive)
      omega
    obtain ⟨k, rfl⟩ := Int.eq_ofNat_of_zero_le nonneg
    have product : num = k * den := by exact_mod_cast h
    subst product
    exact ⟨Nat.mul_mod_left k den, congrArg _ (Nat.mul_div_cancel k positive)⟩

namespace Binary64

/-- A finite number in units of a smaller power of two. -/
theorem over_scaled (x : Binary64) {e e' : Int} (le : e' ≤ e) (low : e ≤ x.exponent) :
    x.over e' = x.over e * 2 ^ (e - e').toNat := by
  have steps : (x.exponent - e').toNat = (x.exponent - e).toNat + (e - e').toNat := by omega
  simp only [Binary64.over, steps, Nat.pow_add]
  split <;> push_cast <;> ring

theorem quotient_pos (x : Binary64) : 0 < x.quotient.2 := by
  unfold quotient
  split
  · exact Nat.one_pos
  · exact Nat.two_pow_pos _

/-- A finite number is an integer when its numerator is that many denominators. -/
theorem whole_iff_quotient (x : Binary64) (n : Int) :
    (x.isWhole && x.truncate == n) = true ↔
      (if x.negative then -(x.quotient.1 : Int) else x.quotient.1) = n * x.quotient.2 := by
  have positive := x.quotient_pos
  simp only [isWhole, truncate, Bool.and_eq_true, beq_iff_eq]
  cases x.negative with
  | false => exact mod_div_iff positive
  | true =>
    have opposite (a b : Int) : -a = b ↔ a = -b := by omega
    simp only [if_true, opposite]
    rw [mod_div_iff positive, Int.neg_mul]

/-- A finite number is an integer when it is that many units of a small power of two. -/
theorem whole_iff_over (x : Binary64) (n : Int) {e : Int} (low : e ≤ x.exponent) (small : e ≤ 0) :
    (x.isWhole && x.truncate == n) = true ↔ x.over e = n * 2 ^ (-e).toNat := by
  rw [whole_iff_quotient]
  have unit : (2 : Int) ^ (-e).toNat ≠ 0 := pow_ne_zero _ two_ne_zero
  by_cases large : 0 ≤ x.exponent
  · have at_zero : x.over e = x.over 0 * 2 ^ (-e).toNat := by
      rw [x.over_scaled small large, Int.zero_sub]
    rw [at_zero, mul_left_inj' unit]
    simp only [quotient, large, if_true, Binary64.over, Int.sub_zero, Nat.cast_one, Int.mul_one]
  · have steps : (-e).toNat = (-x.exponent).toNat + (x.exponent - e).toNat := by omega
    have at_place := x.over_scaled low (Int.le_refl _)
    have rest : (2 : Int) ^ (x.exponent - e).toNat ≠ 0 := pow_ne_zero _ two_ne_zero
    rw [at_place, steps, pow_add, ← Int.mul_assoc, mul_left_inj' rest]
    simp only [quotient, large, if_false, Binary64.over, Int.sub_self, Int.toNat_zero, Nat.pow_zero,
      Nat.mul_one, Nat.cast_pow, Nat.cast_ofNat]

end Binary64

/-- Equal finite numbers are the same integers. -/
theorem Real64.whole_of_same {x y : Binary64} {n : Int}
    (same : Real64.same (.finite x) (.finite y) = true)
    (whole : (y.isWhole && y.truncate == n) = true) : (x.isWhole && x.truncate == n) = true := by
  simp only [Real64.same, Real64.le, Bool.and_eq_true, decide_eq_true_eq] at same
  rw [Int.min_comm y.exponent] at same
  obtain ⟨below, above⟩ := same
  have equal := Int.le_antisymm below above
  have lowest : min (min x.exponent y.exponent) 0 ≤ min x.exponent y.exponent := by omega
  rw [Binary64.whole_iff_over y n (e := min (min x.exponent y.exponent) 0) (by omega) (by omega),
    y.over_scaled lowest (by omega), ← equal, ← x.over_scaled lowest (by omega)] at whole
  exact (Binary64.whole_iff_over x n (by omega) (by omega)).mpr whole

theorem Amount.same_whole {a b : Amount} {n : Int} (same : a.same b = true)
    (whole : b.same (.whole n) = true) : a.same (.whole n) = true := by
  cases b with
  | whole m =>
    obtain rfl : m = n := by simpa [Amount.same] using whole
    exact same
  | real y =>
    cases y with
    | infinite | nan => cases whole
    | finite y =>
      cases a with
      | whole m =>
        simp only [Amount.same, Bool.and_eq_true, beq_iff_eq] at same whole ⊢
        exact same.2.symm.trans whole.2
      | real x =>
        cases x with
        | finite x => exact Real64.whole_of_same same whole
        | infinite negative => cases negative <;> cases same
        | nan => cases same

theorem Figure.same_whole {f g : Figure} {n : Int} (same : f.same g = true)
    (whole : g.same (.number (.whole n)) = true) : f.same (.number (.whole n)) = true := by
  cases g with
  | text s => cases whole
  | number b =>
    cases f with
    | text s => cases same
    | number a => exact Amount.same_whole same whole

end SignalDesk
