import SignalDesk.Proofs.Number.Range
import SignalDesk.Proofs.Store.Figures

namespace SignalDesk

/-- Whether a finite number is an integer. -/
def Binary64.Is (x : Binary64) (n : Int) : Prop := (x.isWhole && x.truncate == n) = true

namespace Real64

variable {s k : Nat}

theorem roundEven_mul {d : Nat} (positive : 0 < d) (q : Nat) : roundEven (d * q) d = q := by
  have quotient : d * q / d = q := Nat.mul_div_cancel_left q positive
  have rest : d * q % d = 0 := Nat.mul_mod_right d q
  simp only [roundEven, quotient, rest, Nat.mul_zero, if_pos positive]

theorem log2_mul_two_pow (positive : 0 < s) : (s * 2 ^ k).log2 = s.log2 + k := by
  have low : 2 ^ s.log2 ≤ s := Nat.log2_self_le (Nat.ne_of_gt positive)
  have high : s < 2 ^ (s.log2 + 1) := Nat.lt_log2_self
  refine (Nat.log2_eq_iff (Nat.ne_of_gt (Nat.mul_pos positive (Nat.two_pow_pos k)))).mpr ⟨?_, ?_⟩
  · rw [Nat.pow_add]
    exact Nat.mul_le_mul_right _ low
  · rw [Nat.add_right_comm, Nat.pow_add]
    exact Nat.mul_lt_mul_of_pos_right high (Nat.two_pow_pos k)

/-- The leading bit of an integer stands in the 53rd place over the power of its last one. -/
theorem lastPlace_mul_two_pow (positive : 0 < s) (bits : s < 2 ^ 53) :
    lastPlace (s * 2 ^ k) 1 = (k : Int) - (52 - s.log2 : Nat) := by
  have few : s.log2 < 53 := (Nat.log2_lt (Nat.ne_of_gt positive)).mpr bits
  have low : 2 ^ s.log2 ≤ s := Nat.log2_self_le (Nat.ne_of_gt positive)
  have one : Nat.log2 1 = 0 := by decide
  generalize place : (k : Int) - (52 - s.log2 : Nat) = e
  have guess : ((s.log2 + k : Nat) : Int) - (0 : Nat) - (53 - 1 : Nat) = e := by omega
  have full : ¬(scaled (s * 2 ^ k) 1 e).1 < (scaled (s * 2 ^ k) 1 e).2 * 2 ^ (53 - 1) := by
    rw [scaled_eq, Nat.not_lt, Nat.one_mul, ← Nat.pow_add]
    calc 2 ^ (e.toNat + (53 - 1)) = 2 ^ (s.log2 + k + (-e).toNat) := by congr 1; omega
      _ = 2 ^ s.log2 * 2 ^ k * 2 ^ (-e).toNat := by rw [Nat.pow_add, Nat.pow_add]
      _ ≤ s * 2 ^ k * 2 ^ (-e).toNat := Nat.mul_le_mul_right _ (Nat.mul_le_mul_right _ low)
  rw [lastPlace, significantPlace, log2_mul_two_pow positive, one, guess]
  simp only [if_neg full]
  omega

/-- An integer of at most 53 significant bits is not rounded. -/
theorem ofQuotient_mul_two_pow (negative : Bool) (positive : 0 < s) (bits : s < 2 ^ 53)
    (place : k ≤ 971) :
    ofQuotient negative (s * 2 ^ k) 1 =
      .finite ⟨negative, s * 2 ^ (52 - s.log2), (k : Int) - (52 - s.log2 : Nat)⟩ := by
  have few : s.log2 < 53 := (Nat.log2_lt (Nat.ne_of_gt positive)).mpr bits
  have high : s < 2 ^ (s.log2 + 1) := Nat.lt_log2_self
  have last := lastPlace_mul_two_pow (k := k) positive bits
  have sum : s.log2 + 1 + (52 - s.log2) = 53 := by omega
  have below : s * 2 ^ (52 - s.log2) < 2 ^ 53 :=
    calc s * 2 ^ (52 - s.log2) < 2 ^ (s.log2 + 1) * 2 ^ (52 - s.log2) :=
          Nat.mul_lt_mul_of_pos_right high (Nat.two_pow_pos _)
      _ = 2 ^ 53 := by rw [← Nat.pow_add, sum]
  generalize unit : (k : Int) - (52 - s.log2 : Nat) = e at last ⊢
  have exact : s * 2 ^ k * 2 ^ (-e).toNat = 2 ^ e.toNat * (s * 2 ^ (52 - s.log2)) := by
    rw [Nat.mul_assoc, ← Nat.pow_add, Nat.mul_left_comm, ← Nat.pow_add]
    congr 2
    omega
  have rounded : roundEven (scaled (s * 2 ^ k) 1 e).1 (scaled (s * 2 ^ k) 1 e).2 =
      s * 2 ^ (52 - s.log2) := by
    rw [scaled_eq, exact, Nat.one_mul, roundEven_mul (Nat.two_pow_pos _)]
  have apart : s * 2 ^ k ≠ 0 := Nat.ne_of_gt (Nat.mul_pos positive (Nat.two_pow_pos k))
  unfold ofQuotient
  rw [if_neg apart]
  -- the place is kept as a variable: the kernel is not to compute it
  extract_lets e'
  change e' = e at last
  clear_value e'
  subst last
  generalize scaled (s * 2 ^ k) 1 e' = quotient at rounded ⊢
  obtain ⟨n, d⟩ := quotient
  dsimp only at rounded ⊢
  rw [← rounded] at below ⊢
  generalize roundEven n d = t at below ⊢
  rw [if_neg (Nat.ne_of_lt below)]
  exact if_neg (by omega)

theorem is_mul_two_pow (negative : Bool) (s k j : Nat) :
    (⟨negative, s * 2 ^ j, (k : Int) - j⟩ : Binary64).Is
      (if negative then -(s * 2 ^ k : Nat) else (s * 2 ^ k : Nat)) := by
  have parts : (⟨negative, s * 2 ^ j, (k : Int) - j⟩ : Binary64).quotient.1 =
      s * 2 ^ k * (⟨negative, s * 2 ^ j, (k : Int) - j⟩ : Binary64).quotient.2 := by
    simp only [Binary64.quotient]
    split
    · have places : j + ((k : Int) - j).toNat = k := by omega
      rw [Nat.mul_one, Nat.mul_assoc, ← Nat.pow_add, places]
    · have places : k + (-((k : Int) - j)).toNat = j := by omega
      rw [Nat.mul_assoc, ← Nat.pow_add, places]
  rw [Binary64.Is, Binary64.whole_iff_quotient, parts]
  cases negative
  · exact Int.natCast_mul ..
  · rw [if_pos rfl, if_pos rfl, Int.natCast_mul, Int.neg_mul]

/-- An integer of at most 53 significant bits is not rounded. -/
theorem ofInt_whole {n : Int} (bits : s < 2 ^ 53) (place : k ≤ 971)
    (h : n.natAbs = s * 2 ^ k) : ∃ y, ofInt n = .finite y ∧ y.Is n := by
  rcases Nat.eq_zero_or_pos s with none | positive
  · obtain rfl : n = 0 := Int.natAbs_eq_zero.mp (by rw [h, none, Nat.zero_mul])
    refine ⟨_, ofQuotient_zero _ 1, ?_⟩
    rw [Binary64.Is, Binary64.whole_iff_over _ _ (Int.le_refl _) (by decide), Binary64.over_zero,
      Int.zero_mul]
  · have rounded := ofQuotient_mul_two_pow (decide (n < 0)) positive bits place
    refine ⟨_, by rw [ofInt, h, rounded], ?_⟩
    have whole := is_mul_two_pow (decide (n < 0)) s k (52 - s.log2)
    have sign : (if decide (n < 0) = true then -(n.natAbs : Int) else n.natAbs) = n := by
      by_cases negative : n < 0
      · rw [if_pos (decide_eq_true negative)]
        omega
      · rw [if_neg (by simpa using negative)]
        omega
    rwa [← h, sign] at whole

/-- The integer part of a number of the format is not rounded. -/
theorem ofInt_truncate {x : Binary64} (h : (Real64.finite x).Fits) :
    ∃ y, ofInt x.truncate = .finite y ∧ y.Is x.truncate := by
  have part := x.natAbs_truncate
  obtain ⟨bits, place⟩ := h
  by_cases large : 0 ≤ x.exponent
  · have integer : x.quotient.1 / x.quotient.2 = x.significand * 2 ^ x.exponent.toNat := by
      simp only [Binary64.quotient, if_pos large, Nat.div_one]
    exact ofInt_whole bits (by omega) (part.trans integer)
  · have fewer : x.quotient.1 / x.quotient.2 ≤ x.significand := by
      simp only [Binary64.quotient, if_neg large]
      exact Nat.div_le_self _ _
    refine ofInt_whole (k := 0) (Nat.lt_of_le_of_lt fewer bits) (Nat.zero_le _) ?_
    rw [part, Nat.pow_zero, Nat.mul_one]

/-- Whole numbers are in the order of their integers. -/
theorem lt_whole {x y : Binary64} {m n : Int} (hx : x.Is m) (hy : y.Is n) :
    (Real64.finite x).lt (.finite y) = decide (m < n) := by
  have lowest : min (min x.exponent y.exponent) 0 ≤ min x.exponent y.exponent := by omega
  generalize least : min (min x.exponent y.exponent) 0 = e at lowest
  have left := (Binary64.whole_iff_over x m (e := e) (by omega) (by omega)).mp hx
  have right := (Binary64.whole_iff_over y n (e := e) (by omega) (by omega)).mp hy
  rw [x.over_scaled lowest (by omega)] at left
  rw [y.over_scaled lowest (by omega)] at right
  have unit : (0 : Int) < 2 ^ (-e).toNat := Int.pow_pos (by decide)
  have step : (0 : Int) < 2 ^ (min x.exponent y.exponent - e).toNat := Int.pow_pos (by decide)
  simp only [lt]
  rw [decide_eq_decide, ← Int.mul_lt_mul_right step, left, right, Int.mul_lt_mul_right unit]

end Real64
end SignalDesk
