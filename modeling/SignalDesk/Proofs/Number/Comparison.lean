import Mathlib.Algebra.Order.Field.Rat
import Mathlib.Algebra.Order.Field.Power
import Mathlib.Order.WithBot
import Mathlib.Tactic.Positivity
import Mathlib.Tactic.Ring
import SignalDesk.Number.Arithmetic

namespace SignalDesk

namespace Binary64

/-- A number from its signed integer over a power of two. -/
theorem value_eq_over {x : Binary64} {e : Int} (h : e ≤ x.exponent) :
    x.value = x.over e * 2 ^ e := by
  obtain ⟨k, above⟩ := Int.le.dest h
  have shift : (x.exponent - e).toNat = k := by omega
  have magnitude : x.magnitude = ((x.significand * 2 ^ k : Nat) : Rat) * 2 ^ e := by
    rw [Binary64.magnitude, ← above, zpow_add₀ (by decide), zpow_natCast]
    push_cast
    ring
  simp only [value, Binary64.over, shift, magnitude]
  split
  · push_cast
    ring
  · push_cast
    rfl

theorem value_lt_iff (x y : Binary64) :
    x.value < y.value ↔
      x.over (min x.exponent y.exponent) < y.over (min x.exponent y.exponent) := by
  have positive : (0 : Rat) < 2 ^ min x.exponent y.exponent := by positivity
  rw [value_eq_over (Int.min_le_left ..), value_eq_over (Int.min_le_right ..),
    mul_lt_mul_iff_left₀ positive, Int.cast_lt]

theorem value_le_iff (x y : Binary64) :
    x.value ≤ y.value ↔
      x.over (min x.exponent y.exponent) ≤ y.over (min x.exponent y.exponent) := by
  have positive : (0 : Rat) < 2 ^ min x.exponent y.exponent := by positivity
  rw [value_eq_over (Int.min_le_left ..), value_eq_over (Int.min_le_right ..),
    mul_le_mul_iff_left₀ positive, Int.cast_le]

end Binary64

namespace Real64

/-- The place of a number in the order; what stands for a NaN means nothing. -/
def place : Real64 → WithBot (WithTop Rat)
  | .finite x => ((x.value : WithTop Rat) : WithBot (WithTop Rat))
  | .infinite true => ⊥
  | .infinite false => ⊤
  | .nan => ⊥

/-- A number is below another when its place is, and a NaN is below nothing. -/
theorem lt_iff_place (x y : Real64) :
    x.lt y = true ↔ x.isNan = false ∧ y.isNan = false ∧ x.place < y.place := by
  cases x with
  | nan => simp [lt, isNan]
  | infinite a =>
    cases y with
    | nan => simp [lt, isNan]
    | infinite b => cases a <;> cases b <;> simp [lt, isNan, place]
    | finite y => cases a <;> simp [lt, isNan, place]
  | finite x =>
    cases y with
    | nan => simp [lt, isNan]
    | infinite b =>
      cases b with
      | true => simp [lt, isNan, place]
      | false =>
        have below : ((x.value : WithTop Rat) : WithBot (WithTop Rat)) < ⊤ :=
          WithBot.coe_lt_coe.mpr (WithTop.coe_lt_top x.value)
        simp [lt, isNan, place, below]
    | finite y => simp [lt, isNan, place, Binary64.value_lt_iff]

theorem le_iff_place (x y : Real64) :
    x.le y = true ↔ x.isNan = false ∧ y.isNan = false ∧ x.place ≤ y.place := by
  cases x with
  | nan => simp [le, isNan]
  | infinite a =>
    cases y with
    | nan => simp [le, isNan]
    | infinite b => cases a <;> cases b <;> simp [le, isNan, place]
    | finite y => cases a <;> simp [le, isNan, place]
  | finite x =>
    cases y with
    | nan => simp [le, isNan]
    | infinite b => cases b <;> simp [le, isNan, place]
    | finite y => simp [le, isNan, place, Binary64.value_le_iff]

theorem le_eq_not_lt {x y : Real64} (hx : x.isNan = false) (hy : y.isNan = false) :
    x.le y = !y.lt x := by
  apply Bool.eq_iff_iff.mpr
  rw [Bool.not_eq_true', ← Bool.not_eq_true, le_iff_place, lt_iff_place]
  simp only [hx, hy, true_and, not_lt]

end Real64

end SignalDesk
