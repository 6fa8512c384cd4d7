import SignalDesk.Store.Amount

namespace SignalDesk

/-- Rounding goes no further than a half. -/
theorem roundEven_bounds (num : Nat) {den : Nat} (hd : 0 < den) :
    2 * (den * roundEven num den) ≤ 2 * num + den ∧
      2 * num ≤ 2 * (den * roundEven num den) + den := by
  have parts := Nat.div_add_mod num den
  have rest := Nat.mod_lt num hd
  have next : den * (num / den + 1) = den * (num / den) + den := Nat.mul_succ ..
  have even : num / den % 2 = 0 ∨ num / den % 2 = 1 := by omega
  simp only [roundEven]
  split
  · omega
  · split
    · omega
    · rcases even with even | odd
      · rw [even, Nat.add_zero]
        omega
      · rw [odd]
        omega

/-- Only what is more than a half is rounded up from nothing. -/
theorem roundEven_pos_iff {num den : Nat} (hd : 0 < den) :
    0 < roundEven num den ↔ den < 2 * num := by
  unfold roundEven
  by_cases small : num < den
  · have none : num / den = 0 := Nat.div_eq_of_lt small
    have rest : num % den = num := Nat.mod_eq_of_lt small
    simp only [none, rest]
    split
    · omega
    split <;> omega
  · have whole : 0 < num / den := Nat.div_pos (Nat.not_lt.mp small) hd
    have more : den < 2 * num := by omega
    simp only [more, iff_true]
    split
    · exact whole
    split <;> omega

namespace Real64

/-- Whether a number has a certain sign and is not zero. -/
def HasSign (negative : Bool) : Real64 → Prop
  | .finite x => x.negative = negative ∧ 0 < x.significand
  | .infinite b => b = negative
  | .nan => False

/-- In a place below the leading one of a quotient there is something to round. -/
theorem le_scaled {num den : Nat} {e : Int} (hn : num ≠ 0)
    (h : e + den.log2 < num.log2) : (scaled num den e).2 ≤ (scaled num den e).1 := by
  have low : 2 ^ num.log2 ≤ num := Nat.log2_self_le hn
  have high : den < 2 ^ (den.log2 + 1) := Nat.lt_log2_self
  simp only [scaled]
  split
  · calc den * 2 ^ e.toNat ≤ 2 ^ (den.log2 + 1) * 2 ^ e.toNat :=
          Nat.mul_le_mul_right _ (Nat.le_of_lt high)
      _ = 2 ^ (den.log2 + 1 + e.toNat) := (Nat.pow_add ..).symm
      _ ≤ 2 ^ num.log2 := Nat.pow_le_pow_right (by decide) (by omega)
      _ ≤ num := low
  · calc den ≤ 2 ^ (den.log2 + 1) := Nat.le_of_lt high
      _ ≤ 2 ^ (num.log2 + (-e).toNat) := Nat.pow_le_pow_right (by decide) (by omega)
      _ = 2 ^ num.log2 * 2 ^ (-e).toNat := Nat.pow_add ..
      _ ≤ num * 2 ^ (-e).toNat := Nat.mul_le_mul_right _ low

theorem significantPlace_le (num den : Nat) :
    significantPlace 53 num den ≤ (num.log2 : Int) - den.log2 - 52 := by
  simp only [significantPlace]
  split <;> omega

/-- A quotient of at least `2 ^ e` has something to round in the place `e`. -/
theorem le_scaled_of_pow {num den k : Nat} {e : Int} (hn : num ≠ 0) (hd : den ≤ 2 ^ k)
    (he : k + e ≤ 0) : (scaled num den e).2 ≤ (scaled num den e).1 := by
  have le : den ≤ num * 2 ^ (-e).toNat :=
    calc den ≤ 2 ^ (-e).toNat := Nat.le_trans hd (Nat.pow_le_pow_right (by decide) (by omega))
      _ = 1 * 2 ^ (-e).toNat := (Nat.one_mul _).symm
      _ ≤ num * 2 ^ (-e).toNat := Nat.mul_le_mul_right _ (Nat.pos_of_ne_zero hn)
  simp only [scaled]
  split
  · rename_i positive
    rw [show (-e).toNat = 0 by omega] at le
    rw [show e.toNat = 0 by omega]
    simpa using le
  · exact le

/-- A quotient not below the smallest number has something to round in its last place. -/
theorem le_scaled_lastPlace {num den k : Nat} (hn : num ≠ 0) (hd : den ≤ 2 ^ k) (hk : k ≤ 1074) :
    (scaled num den (lastPlace num den)).2 ≤ (scaled num den (lastPlace num den)).1 := by
  have place := significantPlace_le num den
  rcases Int.le_total (significantPlace 53 num den) (-1074) with small | large
  · have last : lastPlace num den = -1074 := Int.max_eq_left small
    exact le_scaled_of_pow hn hd (by omega)
  · have last : lastPlace num den = significantPlace 53 num den := Int.max_eq_right large
    exact le_scaled hn (by omega)

theorem scaled_pos {num den : Nat} {e : Int} (hd : 0 < den) : 0 < (scaled num den e).2 := by
  simp only [scaled]
  split
  · exact Nat.mul_pos hd (Nat.two_pow_pos _)
  · exact hd

/-- A quotient that is not zero is rounded to an infinity of its sign, or in its last place. -/
theorem ofQuotient_cases (negative : Bool) {num den : Nat} (hn : num ≠ 0) :
    ofQuotient negative num den = .infinite negative ∨
      ∃ s e, ofQuotient negative num den = .finite ⟨negative, s, e⟩ ∧ -1074 ≤ e ∧
        (0 < roundEven (scaled num den (lastPlace num den)).1
          (scaled num den (lastPlace num den)).2 → 0 < s) := by
  have places : -1074 ≤ lastPlace num den := Int.le_max_left _ _
  unfold ofQuotient
  rw [if_neg hn]
  -- the place is kept as a variable: the kernel is not to compute it
  extract_lets e
  change -1074 ≤ e at places
  change _ ∨ ∃ s e', _ ∧ _ ∧ (0 < roundEven (scaled num den e).1 (scaled num den e).2 → 0 < s)
  clear_value e
  generalize scaled num den e = quotient
  obtain ⟨n, d⟩ := quotient
  dsimp only
  generalize roundEven n d = s
  split
  · split
    · exact .inl rfl
    · exact .inr ⟨_, _, rfl, by omega, fun _ => Nat.two_pow_pos 52⟩
  · split
    · exact .inl rfl
    · exact .inr ⟨_, _, rfl, places, id⟩

/-- A quotient that is not below the smallest number keeps its sign. -/
theorem ofQuotient_hasSign {negative : Bool} {num den k : Nat} (hn : num ≠ 0) (pos : 0 < den)
    (hd : den ≤ 2 ^ k) (hk : k ≤ 1074) : (ofQuotient negative num den).HasSign negative := by
  rcases ofQuotient_cases negative hn with infinite | ⟨s, e, finite, -, rounded⟩
  · rw [infinite]
    rfl
  · have positive : 0 < (scaled num den (lastPlace num den)).2 := scaled_pos pos
    have reached := le_scaled_lastPlace hn hd hk
    have more : (scaled num den (lastPlace num den)).2 <
        2 * (scaled num den (lastPlace num den)).1 := by omega
    rw [finite]
    exact ⟨rfl, rounded ((roundEven_pos_iff positive).mpr more)⟩

theorem ofScaled_hasSign {negative : Bool} {n : Nat} {e : Int} (hn : n ≠ 0) (he : -1074 ≤ e) :
    (ofScaled negative n e).HasSign negative := by
  simp only [ofScaled]
  split
  · exact ofQuotient_hasSign (Nat.mul_ne_zero hn (Nat.ne_of_gt (Nat.two_pow_pos _)))
      (by decide) (k := 0) (by decide) (by decide)
  · exact ofQuotient_hasSign hn (Nat.two_pow_pos _) (Nat.le_refl _) (by omega)

end Real64

namespace Binary64

variable {x : Binary64} {e : Int}

theorem over_zero (negative : Bool) (place : Int) :
    Binary64.over e ⟨negative, 0, place⟩ = 0 := by
  cases negative <;> simp [Binary64.over]

theorem over_of_positive (h : x.negative = false) :
    x.over e = (x.significand * 2 ^ (x.exponent - e).toNat : Nat) := by
  simp only [Binary64.over, h, Bool.false_eq_true, if_false]

theorem over_of_negative (h : x.negative = true) :
    x.over e = -(x.significand * 2 ^ (x.exponent - e).toNat : Nat) := by
  simp only [Binary64.over, h, if_true]

theorem over_neg_iff : x.over e < 0 ↔ x.negative = true ∧ 0 < x.significand := by
  have places : 0 < x.significand * 2 ^ (x.exponent - e).toNat ↔ 0 < x.significand :=
    Nat.mul_pos_iff_of_pos_right (Nat.two_pow_pos _)
  cases sign : x.negative
  · rw [over_of_positive sign]
    generalize x.significand * _ = n at places ⊢
    simp
  · rw [over_of_negative sign]
    generalize x.significand * _ = n at places ⊢
    rw [and_iff_right rfl]
    omega

theorem over_pos_iff : 0 < x.over e ↔ x.negative = false ∧ 0 < x.significand := by
  have places : 0 < x.significand * 2 ^ (x.exponent - e).toNat ↔ 0 < x.significand :=
    Nat.mul_pos_iff_of_pos_right (Nat.two_pow_pos _)
  cases sign : x.negative
  · rw [over_of_positive sign]
    generalize x.significand * _ = n at places ⊢
    rw [and_iff_right rfl]
    omega
  · rw [over_of_negative sign]
    generalize x.significand * _ = n at places ⊢
    simp

/-- A whole number that is not zero has an integer part of its sign. -/
theorem truncate_neg_iff (whole : x.isWhole = true) (h : 0 < x.significand) :
    x.truncate < 0 ↔ x.negative = true := by
  have num : 0 < x.quotient.1 := by
    simp only [quotient]
    split
    · exact Nat.mul_pos h (Nat.two_pow_pos _)
    · exact h
  have divides : x.quotient.2 ∣ x.quotient.1 :=
    Nat.dvd_of_mod_eq_zero (by simpa [isWhole] using whole)
  have integer : 0 < x.quotient.1 / x.quotient.2 :=
    Nat.div_pos (Nat.le_of_dvd num divides) (Nat.pos_of_dvd_of_pos divides num)
  simp only [truncate]
  generalize x.quotient.1 / x.quotient.2 = n at integer ⊢
  cases x.negative
  · simp
  · simpa using integer

end Binary64

namespace Real64

theorem lt_zero {negative : Bool} {x : Real64} (h : x.HasSign negative) : x.lt zero = negative := by
  cases x with
  | finite x =>
    obtain ⟨rfl, significand⟩ := h
    simp only [lt, zero, Binary64.over_zero, Binary64.over_neg_iff, significand, and_true,
      Bool.decide_eq_true]
  | infinite b => exact h
  | nan => exact h.elim

/-- A sum that is not zero has the sign of the exact one. -/
theorem add_hasSign {x y : Binary64} (hx : -1074 ≤ x.exponent) (hy : -1074 ≤ y.exponent)
    (h : x.over (min x.exponent y.exponent) + y.over (min x.exponent y.exponent) ≠ 0) :
    ((Real64.finite x).add (.finite y)).HasSign
      (decide (x.over (min x.exponent y.exponent) + y.over (min x.exponent y.exponent) < 0)) := by
  simp only [add, if_neg h]
  exact ofScaled_hasSign (Int.natAbs_ne_zero.mpr h) (Int.le_min.mpr ⟨hx, hy⟩)

end Real64

theorem Amount.isNegative_ofReal {negative : Bool} {x : Real64} (h : x.HasSign negative) :
    (Amount.ofReal x).isNegative = negative := by
  have sign := Real64.lt_zero h
  cases x with
  | finite x =>
    simp only [ofReal]
    split
    · rename_i within
      simp only [Bool.and_eq_true] at within
      simp only [isNegative, Binary64.truncate_neg_iff within.1.1 h.2, h.1, Bool.decide_eq_true]
    · exact sign
  | infinite b => exact sign
  | nan => exact sign

end SignalDesk
