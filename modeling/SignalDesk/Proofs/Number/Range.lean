import SignalDesk.Proofs.Store.Coins

/-!
# The range of binary64 numbers

Rounding gives numbers of at most 53 significant bits up to the largest place
(`Real64.ofQuotient_fits`). A quotient is not rounded to an infinity before it is half a place past
the largest finite number (`Real64.ofQuotient_isFinite`), nor is a whole number (`ofInt_isFinite`).
What is not below zero stays so under sums, products and quotients, and one more than it is not zero.
-/

namespace SignalDesk
namespace Real64

/-- The largest finite number. -/
def maxWhole : Nat := (2 ^ 53 - 1) * 2 ^ (971 : Int).toNat

/-- Whether a number, if finite, has the bits and places of the format. -/
def Fits : Real64 → Prop
  | .finite x => x.significand < 2 ^ 53 ∧ x.exponent ≤ 971
  | _ => True

theorem scaled_eq (num den : Nat) (e : Int) :
    scaled num den e = (num * 2 ^ (-e).toNat, den * 2 ^ e.toNat) := by
  simp only [scaled]
  split
  · rename_i positive
    rw [show (-e).toNat = 0 by omega, Nat.pow_zero, Nat.mul_one]
  · rename_i negative
    rw [show e.toNat = 0 by omega, Nat.pow_zero, Nat.mul_one]

/-- A quotient takes no more places over a higher power of two. -/
theorem scaled_lt_mono {num den k : Nat} {e e' : Int} (le : e ≤ e')
    (h : (scaled num den e).1 < (scaled num den e).2 * k) :
    (scaled num den e').1 < (scaled num den e').2 * k := by
  simp only [scaled_eq] at h ⊢
  calc num * 2 ^ (-e').toNat ≤ num * 2 ^ (-e).toNat :=
        Nat.mul_le_mul_left _ (Nat.pow_le_pow_right (by decide) (by omega))
    _ < den * 2 ^ e.toNat * k := h
    _ ≤ den * 2 ^ e'.toNat * k :=
        Nat.mul_le_mul_right _ (Nat.mul_le_mul_left _ (Nat.pow_le_pow_right (by decide) (by omega)))

/-- One power lower takes one place more. -/
theorem scaled_lt_pred {num den k : Nat} {e : Int}
    (h : (scaled num den e).1 < (scaled num den e).2 * 2 ^ k) :
    (scaled num den (e - 1)).1 < (scaled num den (e - 1)).2 * 2 ^ (k + 1) := by
  simp only [scaled_eq] at h ⊢
  rcases Int.lt_or_le 0 e with high | low
  · rw [show e.toNat = (e - 1).toNat + 1 by omega, show (-e).toNat = 0 by omega] at h
    rw [show (-(e - 1)).toNat = 0 by omega]
    calc num * 2 ^ 0 < den * 2 ^ ((e - 1).toNat + 1) * 2 ^ k := h
      _ = den * 2 ^ (e - 1).toNat * 2 ^ (k + 1) := by
        simp only [Nat.pow_succ, Nat.mul_assoc, Nat.mul_comm, Nat.mul_left_comm]
  · rw [show (-(e - 1)).toNat = (-e).toNat + 1 by omega, show (e - 1).toNat = e.toNat by omega,
      Nat.pow_succ, Nat.pow_succ, ← Nat.mul_assoc, ← Nat.mul_assoc]
    exact Nat.mul_lt_mul_of_pos_right h Nat.two_pos

/-- A quotient takes 53 places at most over the power of its last one. -/
theorem scaled_lt_lastPlace (num : Nat) {den : Nat} (hd : 0 < den) :
    (scaled num den (lastPlace num den)).1 < (scaled num den (lastPlace num den)).2 * 2 ^ 53 := by
  have guess : (scaled num den ((num.log2 : Int) - den.log2 - 52)).1 <
      (scaled num den ((num.log2 : Int) - den.log2 - 52)).2 * 2 ^ 53 := by
    have low : 2 ^ den.log2 ≤ den := Nat.log2_self_le (Nat.ne_of_gt hd)
    have high : num < 2 ^ (num.log2 + 1) := Nat.lt_log2_self
    generalize places : (num.log2 : Int) - den.log2 - 52 = e
    rw [scaled_eq]
    calc num * 2 ^ (-e).toNat < 2 ^ (num.log2 + 1) * 2 ^ (-e).toNat :=
          Nat.mul_lt_mul_of_pos_right high (Nat.two_pow_pos _)
      _ = 2 ^ (num.log2 + 1 + (-e).toNat) := (Nat.pow_add ..).symm
      _ ≤ 2 ^ (den.log2 + e.toNat + 53) := Nat.pow_le_pow_right (by decide) (by omega)
      _ = 2 ^ den.log2 * 2 ^ e.toNat * 2 ^ 53 := by simp only [Nat.pow_add]
      _ ≤ den * 2 ^ e.toNat * 2 ^ 53 :=
          Nat.mul_le_mul_right _ (Nat.mul_le_mul_right _ low)
  refine scaled_lt_mono (Int.le_max_right _ _) ?_
  simp only [significantPlace]
  split
  · rename_i fewer
    exact scaled_lt_pred fewer
  · exact guess

theorem roundEven_le {num den k : Nat} (h : num < den * k) : roundEven num den ≤ k := by
  have below : num / den < k := Nat.div_lt_of_lt_mul h
  simp only [roundEven]
  split
  · omega
  split <;> omega

/-- Rounding keeps to the bits and places of the format. -/
theorem ofQuotient_fits (negative : Bool) {num den : Nat} (hd : 0 < den) :
    (ofQuotient negative num den).Fits := by
  have rounded := roundEven_le (scaled_lt_lastPlace num hd)
  unfold ofQuotient
  split
  · exact ⟨Nat.two_pow_pos 53, by simp⟩
  -- the place is kept as a variable: the kernel is not to compute it
  extract_lets e
  change roundEven (scaled num den e).1 (scaled num den e).2 ≤ 2 ^ 53 at rounded
  clear_value e
  generalize scaled num den e = quotient at rounded ⊢
  obtain ⟨n, d⟩ := quotient
  dsimp only at rounded ⊢
  generalize roundEven n d = s at rounded ⊢
  split
  · split
    · trivial
    · rename_i within
      exact ⟨by simp, Int.not_lt.mp within⟩
  · rename_i apart
    split
    · trivial
    · rename_i within
      exact ⟨Nat.lt_of_le_of_ne rounded apart, Int.not_lt.mp within⟩

/-- A quotient has its leading bit in the first of its significant places. -/
theorem le_scaled_significantPlace {num : Nat} (hn : num ≠ 0) (den : Nat) :
    (scaled num den (significantPlace 53 num den)).2 * 2 ^ 52 ≤
      (scaled num den (significantPlace 53 num den)).1 := by
  have low : 2 ^ num.log2 ≤ num := Nat.log2_self_le hn
  have high : den < 2 ^ (den.log2 + 1) := Nat.lt_log2_self
  simp only [significantPlace]
  split
  · generalize place : (num.log2 : Int) - den.log2 - (53 - 1 : Nat) - 1 = e
    rw [scaled_eq]
    calc den * 2 ^ e.toNat * 2 ^ 52 ≤ 2 ^ (den.log2 + 1) * 2 ^ e.toNat * 2 ^ 52 :=
          Nat.mul_le_mul_right _ (Nat.mul_le_mul_right _ (Nat.le_of_lt high))
      _ = 2 ^ (den.log2 + 1 + e.toNat + 52) := by simp only [Nat.pow_add]
      _ ≤ 2 ^ (num.log2 + (-e).toNat) := Nat.pow_le_pow_right (by decide) (by omega)
      _ = 2 ^ num.log2 * 2 ^ (-e).toNat := Nat.pow_add ..
      _ ≤ num * 2 ^ (-e).toNat := Nat.mul_le_mul_right _ low
  · rename_i enough
    exact Nat.le_of_not_lt enough

/-- What is nearer to the largest finite number than to the next power is not rounded to an
infinity. -/
theorem ofQuotient_isFinite (negative : Bool) {num den : Nat} (hd : 0 < den)
    (h : 2 * num < (2 ^ 54 - 1) * (den * 2 ^ (971 : Int).toNat)) :
    ∃ x, ofQuotient negative num den = .finite x := by
  by_cases hn : num = 0
  · exact ⟨_, if_pos hn⟩
  have place : lastPlace num den ≤ 971 := by
    refine Int.max_le.mpr ⟨by decide, Int.not_lt.mp fun beyond => ?_⟩
    have bits := le_scaled_significantPlace hn den
    generalize significantPlace 53 num den = e at beyond bits
    rw [scaled_eq, show (-e).toNat = 0 by omega, Nat.pow_zero, Nat.mul_one] at bits
    have unit : 2 * 2 ^ (971 : Int).toNat ≤ 2 ^ e.toNat := by
      rw [← Nat.pow_succ']
      exact Nat.pow_le_pow_right Nat.two_pos (by omega)
    have more := Nat.mul_le_mul_left den unit
    generalize 2 ^ (971 : Int).toNat = u at h more
    rw [Nat.mul_left_comm] at more
    omega
  -- in the highest place there is no carry
  have top : lastPlace num den = 971 →
      roundEven (scaled num den (lastPlace num den)).1
        (scaled num den (lastPlace num den)).2 ≠ 2 ^ 53 := by
    intro last carry
    have positive : 0 < (scaled num den (lastPlace num den)).2 := scaled_pos hd
    obtain ⟨above, -⟩ := roundEven_bounds (scaled num den (lastPlace num den)).1 positive
    rw [carry, last, scaled_eq, show (-(971 : Int)).toNat = 0 from rfl, Nat.pow_zero,
      Nat.mul_one] at above
    generalize den * 2 ^ (971 : Int).toNat = d at h above
    omega
  unfold ofQuotient
  rw [if_neg hn]
  extract_lets e
  change e ≤ 971 at place
  change e = 971 → roundEven (scaled num den e).1 (scaled num den e).2 ≠ 2 ^ 53 at top
  clear_value e
  generalize scaled num den e = quotient at top ⊢
  obtain ⟨n, d⟩ := quotient
  dsimp only at top ⊢
  generalize roundEven n d = s at top ⊢
  split
  · rename_i carry
    rw [if_neg]
    · exact ⟨_, rfl⟩
    · intro beyond
      exact top (by omega) carry
  · rw [if_neg (by omega)]
    exact ⟨_, rfl⟩

/-- A whole number up to one past the largest finite one is not rounded to an infinity. -/
theorem ofInt_isFinite {n : Int} (h : n.natAbs ≤ maxWhole + 1) : ∃ x, ofInt n = .finite x := by
  have two : 2 < 2 ^ (971 : Int).toNat :=
    Nat.lt_of_lt_of_le (by decide : 2 < 2 ^ 2) (Nat.pow_le_pow_right Nat.two_pos (by decide))
  refine ofQuotient_isFinite _ Nat.one_pos ?_
  unfold maxWhole at h
  generalize 2 ^ (971 : Int).toNat = u at h two ⊢
  omega

theorem ofInt_hasSign {n : Nat} (h : 0 < n) : (ofInt n).HasSign false :=
  ofQuotient_hasSign (k := 0) (Nat.ne_of_gt h) Nat.one_pos (by decide) (by decide)

end Real64

theorem Binary64.natAbs_truncate (x : Binary64) :
    x.truncate.natAbs = x.quotient.1 / x.quotient.2 := by
  simp only [truncate]
  generalize x.quotient.1 / x.quotient.2 = n
  cases x.negative <;> simp

/-- The integer part of a number that fits is no larger than the largest finite one. -/
theorem Binary64.truncate_le {x : Binary64} (h : (Real64.finite x).Fits) :
    x.truncate.natAbs ≤ Real64.maxWhole := by
  obtain ⟨bits, place⟩ := h
  have places : x.exponent.toNat ≤ (971 : Int).toNat := Int.toNat_le_toNat place
  have product : x.significand * 2 ^ x.exponent.toNat ≤ Real64.maxWhole := by
    unfold Real64.maxWhole
    exact Nat.mul_le_mul (Nat.le_sub_one_of_lt bits) (Nat.pow_le_pow_right Nat.two_pos places)
  have magnitude : x.quotient.1 / x.quotient.2 ≤ Real64.maxWhole := by
    simp only [quotient]
    split
    · rw [Nat.div_one]
      exact product
    · exact Nat.le_trans (Nat.div_le_self _ _)
        (Nat.le_trans (Nat.le_mul_of_pos_right _ (Nat.two_pow_pos _)) product)
  rw [x.natAbs_truncate]
  exact magnitude

namespace Real64

/-- Whether a number is not below zero. A NaN is below nothing. -/
def NotBelow (x : Real64) : Prop := x.lt zero = false

variable {x y : Real64}

theorem notBelow_finite_iff {x : Binary64} :
    (Real64.finite x).NotBelow ↔ (0 < x.significand → x.negative = false) := by
  simp only [NotBelow, lt, zero, Binary64.over_zero, Binary64.over_neg_iff]
  cases x.negative <;> simp

theorem NotBelow.over {x : Binary64} (h : (Real64.finite x).NotBelow) (e : Int) :
    0 ≤ x.over e := by
  refine Int.not_lt.mp fun below => ?_
  obtain ⟨negative, significand⟩ := Binary64.over_neg_iff.mp below
  rw [notBelow_finite_iff.mp h significand] at negative
  exact Bool.noConfusion negative

theorem zero_notBelow (negative : Bool) (place : Int) :
    (Real64.finite ⟨negative, 0, place⟩).NotBelow :=
  notBelow_finite_iff.mpr fun positive => absurd positive (Nat.lt_irrefl 0)

theorem ofQuotient_notBelow (num den : Nat) : (ofQuotient false num den).NotBelow := by
  by_cases zero : num = 0
  · rw [ofQuotient, if_pos zero]
    exact notBelow_finite_iff.mpr fun _ => rfl
  · rcases ofQuotient_cases false zero with infinite | ⟨s, e, finite, -, -⟩
    · rw [infinite]
      rfl
    · rw [finite]
      exact notBelow_finite_iff.mpr fun _ => rfl

theorem ofQuotient_zero (negative : Bool) (den : Nat) :
    ofQuotient negative 0 den = .finite ⟨negative, 0, -1074⟩ := if_pos rfl

theorem ofScaled_zero (negative : Bool) (e : Int) :
    ofScaled negative 0 e = .finite ⟨negative, 0, -1074⟩ := by
  simp only [ofScaled, Nat.zero_mul, ofQuotient_zero, ite_self]

theorem ofScaled_notBelow (n : Nat) (e : Int) : (ofScaled false n e).NotBelow := by
  simp only [ofScaled]
  split <;> exact ofQuotient_notBelow ..

theorem ofNat_notBelow (n : Nat) : (ofInt n).NotBelow := by
  rw [ofInt, decide_eq_false (by omega)]
  exact ofQuotient_notBelow ..

theorem abs_notBelow : x.abs.NotBelow := by
  cases x with
  | finite x => exact notBelow_finite_iff.mpr fun _ => rfl
  | infinite b => rfl
  | nan => rfl

theorem add_notBelow (hx : x.NotBelow) (hy : y.NotBelow) : (x.add y).NotBelow := by
  cases x with
  | nan => rfl
  | infinite a =>
    cases y with
    | nan => rfl
    | infinite b =>
      obtain rfl : a = false := hx
      obtain rfl : b = false := hy
      rfl
    | finite y => exact hx
  | finite x =>
    cases y with
    | nan => rfl
    | infinite b => exact hy
    | finite y =>
      have left := hx.over (min x.exponent y.exponent)
      have right := hy.over (min x.exponent y.exponent)
      simp only [add]
      split
      · exact zero_notBelow ..
      · rw [decide_eq_false (Int.not_lt.mpr (Int.add_nonneg left right))]
        exact ofScaled_notBelow ..

theorem mul_notBelow (hx : x.NotBelow) (hy : y.NotBelow) : (x.mul y).NotBelow := by
  cases x with
  | nan => rfl
  | infinite a =>
    obtain rfl : a = false := hx
    cases y with
    | nan => rfl
    | infinite b =>
      obtain rfl : b = false := hy
      rfl
    | finite y =>
      simp only [mul]
      split
      · rfl
      · rename_i apart
        rw [notBelow_finite_iff.mp hy (Nat.pos_of_ne_zero apart)]
        rfl
  | finite x =>
    cases y with
    | nan => rfl
    | infinite b =>
      obtain rfl : b = false := hy
      simp only [mul]
      split
      · rfl
      · rename_i apart
        rw [notBelow_finite_iff.mp hx (Nat.pos_of_ne_zero apart)]
        rfl
    | finite y =>
      simp only [mul]
      rcases Nat.eq_zero_or_pos (x.significand * y.significand) with none | some
      · rw [none, ofScaled_zero]
        exact zero_notBelow ..
      · rw [notBelow_finite_iff.mp hx (Nat.pos_of_mul_pos_right some),
          notBelow_finite_iff.mp hy (Nat.pos_of_mul_pos_left some)]
        exact ofScaled_notBelow ..

/-- By a number above zero. -/
theorem div_notBelow (hx : x.NotBelow) (hy : y.HasSign false) : (x.div y).NotBelow := by
  cases y with
  | nan => exact hy.elim
  | infinite b =>
    obtain rfl : b = false := hy
    cases x with
    | nan => rfl
    | infinite a => rfl
    | finite x => exact zero_notBelow ..
  | finite y =>
    obtain ⟨positive, apart⟩ := hy
    cases x with
    | nan => rfl
    | infinite a =>
      obtain rfl : a = false := hx
      simp only [div, positive]
      rfl
    | finite x =>
      simp only [div, if_neg (Nat.ne_of_gt apart)]
      rcases Nat.eq_zero_or_pos x.significand with none | some
      · have nothing : x.quotient.1 = 0 := by
          simp only [Binary64.quotient, none, Nat.zero_mul]
          split <;> rfl
        rw [nothing, Nat.zero_mul, ofQuotient_zero]
        exact zero_notBelow ..
      · rw [notBelow_finite_iff.mp hx some, positive]
        exact ofQuotient_notBelow ..

/-- A quotient is a NaN, or not finer than the format. -/
theorem div_isStored (x y : Real64) : x.div y = .nan ∨ (x.div y).IsStored := by
  cases x with
  | nan => exact .inl rfl
  | infinite a =>
    cases y with
    | nan => exact .inl rfl
    | infinite b => exact .inl rfl
    | finite y => exact .inr trivial
  | finite x =>
    cases y with
    | nan => exact .inl rfl
    | infinite b => exact .inr (Int.le_refl _)
    | finite y =>
      simp only [div]
      split
      · split
        · exact .inl rfl
        · exact .inr trivial
      · exact .inr (ofQuotient_isStored ..)

/-- A number with a sign is not zero. -/
theorem same_zero_of_hasSign {negative : Bool} (h : x.HasSign negative) :
    x.same zero = false := by
  cases x with
  | nan => exact h.elim
  | infinite b => cases b <;> rfl
  | finite x =>
    have below := Binary64.over_neg_iff (x := x) (e := min x.exponent (-1074))
    have above := Binary64.over_pos_iff (x := x) (e := min x.exponent (-1074))
    obtain ⟨sign, apart⟩ := h
    have either : x.over (min x.exponent (-1074)) < 0 ∨ 0 < x.over (min x.exponent (-1074)) := by
      cases negative
      · exact .inr (above.mpr ⟨sign, apart⟩)
      · exact .inl (below.mpr ⟨sign, apart⟩)
    simp only [same, le, zero, Binary64.over_zero, Int.min_comm (-1074), Bool.and_eq_false_iff,
      decide_eq_false_iff_not, Int.not_le]
    exact either.symm

/-- What is not below zero and not zero is above it, or a NaN. -/
theorem NotBelow.nan_or_hasSign (h : x.NotBelow) (apart : x.same zero = false) :
    x = .nan ∨ x.HasSign false := by
  cases x with
  | nan => exact .inl rfl
  | infinite b => exact .inr h
  | finite x =>
    refine .inr ?_
    rcases Nat.eq_zero_or_pos x.significand with none | some
    · refine absurd apart ?_
      have nothing (e : Int) : x.over e = 0 := by
        simp only [Binary64.over, none, Nat.zero_mul, Int.natCast_zero, Int.neg_zero, ite_self]
      simp [same, le, zero, Binary64.over_zero, nothing]
    · exact ⟨notBelow_finite_iff.mp h some, some⟩

/-- One more than a number not below zero is not zero. -/
theorem one_add_same_zero (h : x.NotBelow) (stored : x = .nan ∨ x.IsStored) :
    ((ofInt 1).add x).same zero = false := by
  rw [ofInt_one]
  cases x with
  | nan => rfl
  | infinite b =>
    obtain rfl : b = false := h
    rfl
  | finite x =>
    have place : -1074 ≤ x.exponent := stored.resolve_left Real64.noConfusion
    have one : 0 < Binary64.over (min (-52) x.exponent) ⟨false, 2 ^ 52, -52⟩ :=
      Binary64.over_pos_iff.mpr ⟨rfl, by decide⟩
    have rest := h.over (min (-52) x.exponent)
    have apart := Int.ne_of_gt (Int.add_pos_of_pos_of_nonneg one rest)
    exact same_zero_of_hasSign (add_hasSign (by decide) place apart)

end Real64
end SignalDesk
