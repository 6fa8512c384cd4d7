import SignalDesk.Number.Arithmetic
import SignalDesk.Number.Shortest

/-!
# Extended precision

Fifteen decimal digits of a binary64 number, one after the other, by arithmetic that keeps 64
significant bits. A half is added to the last digit first; which way a number goes that stands at a
half is left to the roundings of the single steps.
-/

namespace SignalDesk
namespace Extended

/-- The number of 64 significant bits nearest to a positive one, a half to the even neighbour. -/
def round (x : Rat) : Rat :=
  let e := Real64.significantPlace 64 x.num.natAbs x.den
  let (n, d) := Real64.scaled x.num.natAbs x.den e
  roundEven n d * 2 ^ e

/-- A finite binary64 number, which has less than 64 bits. -/
def ofReal : Real64 → Rat
  | .finite x => x.value
  | _ => 0

def hugeStep : Rat := ofReal (.ofQuotient false (10 ^ 100) 1)
def smallBound : Rat := ofReal (.ofQuotient false 1 (10 ^ 8))
def tenth : Rat := ofReal (.ofQuotient false 1 10)

/-- Half a unit of the fifteenth digit of a number from one to ten. -/
def half : Rat := ofReal ((Real64.ofQuotient false 5 (10 ^ 5)).mul (.ofQuotient false 1 (10 ^ 10)))

/-- Multiplies a scale by `10 ^ places`, which is `step`, while it stays at most `x`. -/
def scaleUp (x step : Rat) (places : Int) : (fuel : Nat) → Rat × Int → Rat × Int
  | 0, scale => scale
  | fuel + 1, (scale, k) =>
    let next := round (step * scale)
    if next ≤ x then scaleUp x step places fuel (next, k + places) else (scale, k)

/-- The largest power of ten that a number reaches, and its exponent, not below zero. -/
def scaleOf (x : Rat) : Rat × Int :=
  scaleUp x 10 1 10 (scaleUp x (10 ^ 10 : Nat) 10 10 (scaleUp x hugeStep 100 4 (1, 0)))

/-- Multiplies a number by `10 ^ places`, which is `step`, while it is below `bound`. -/
def raise (bound step : Rat) (places : Int) : (fuel : Nat) → Rat × Int → Rat × Int
  | 0, scaled => scaled
  | fuel + 1, (x, k) =>
    if x < bound then raise bound step places fuel (round (x * step), k - places) else (x, k)

/-- A positive number from one to ten, and the power of ten it is to be multiplied by. -/
def normalized (x : Rat) : Rat × Int :=
  let (scale, k) := scaleOf x
  raise 1 10 1 9 (raise smallBound (10 ^ 8 : Nat) 8 50 (round (x / scale), k))

/-- The next digits of a number below ten. -/
def digitsFrom : (count : Nat) → Rat → List Nat
  | 0, _ => []
  | count + 1, x =>
    let d := x.floor.toNat
    d :: digitsFrom count (round ((x - d) * 10))

/-- The digits of a positive number, without trailing zeros. -/
def digits (x : Binary64) : Digits :=
  let (y, k) := normalized x.magnitude
  let y := round (y + half)
  let (y, k) := if 10 ≤ y then (round (y * tenth), k + 1) else (y, k)
  ⟨Digits.dropTrailingZeros (digitsFrom 15 y), k⟩

end Extended
end SignalDesk
