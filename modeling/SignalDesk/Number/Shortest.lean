import SignalDesk.Number.Binary64

namespace SignalDesk

/-- A positive decimal number: its digits, the first one not zero, and the power of ten of the
first. -/
structure Digits where
  digits : List Nat
  exponent : Int
deriving DecidableEq, Repr

namespace Digits

/-- The `count` digits of `n`. -/
def ofNat (count n : Nat) : List Nat :=
  (List.range count).map fun i => n / 10 ^ (count - 1 - i) % 10

def dropTrailingZeros (ds : List Nat) : List Nat := (ds.reverse.dropWhile (· == 0)).reverse

end Digits

namespace Shortest

/-- Whether `10 ^ k` is at most `num / den`. -/
def powerLe (k : Int) (num den : Nat) : Bool :=
  if 0 ≤ k then decide (den * 10 ^ k.toNat ≤ num) else decide (den ≤ num * 10 ^ (-k).toNat)

/-- The largest `k` with `10 ^ k ≤ num / den`, for a positive quotient. -/
def decimalExponent (num den : Nat) : Int :=
  let guess : Int := ((num.log2 : Int) - den.log2) * 30103 / 100000
  if powerLe (guess + 1) num den then guess + 1
  else if powerLe guess num den then guess
  else guess - 1

/-- The quotient of `num / den` and `10 ^ g`, as two integers. -/
def overPower (num den : Nat) (g : Int) : Nat × Nat :=
  if 0 ≤ g then (num, den * 10 ^ g.toNat) else (num * 10 ^ (-g).toNat, den)

/-- Four times a positive number and four times the ends of the interval of reals that round to it,
over one denominator. -/
structure Interval where
  low : Nat
  point : Nat
  high : Nat
  den : Nat
  closed : Bool

def interval (x : Binary64) : Interval :=
  let s := x.significand
  let below := if s = 2 ^ 52 && decide (-1074 < x.exponent) then 1 else 2
  let e := x.exponent - 2
  let (up, den) := if 0 ≤ e then (2 ^ e.toNat, 1) else (1, 2 ^ (-e).toNat)
  ⟨(4 * s - below) * up, 4 * s * up, (4 * s + 2) * up, den, s % 2 == 0⟩

/-- Whether `c * 10 ^ g` reads back. -/
def Interval.holds (i : Interval) (c : Nat) (g : Int) : Bool :=
  let (lowN, lowD) := overPower i.low i.den g
  let (highN, highD) := overPower i.high i.den g
  if i.closed then decide (lowN ≤ c * lowD) && decide (c * highD ≤ highN)
  else decide (lowN < c * lowD) && decide (c * highD < highN)

/-- The neighbour of the number on the grid of `10 ^ g` that reads back, the nearer of two; a tie
goes to the even one. -/
def Interval.onGrid? (i : Interval) (g : Int) : Option Nat :=
  let (n, d) := overPower i.point i.den g
  let c := n / d
  match i.holds c g, i.holds (c + 1) g with
  | true, true => some (roundEven n d)
  | true, false => some c
  | false, true => some (c + 1)
  | false, false => none

/-- The digits of a positive number. Seventeen always suffice. -/
def digits (x : Binary64) : Digits :=
  let i := interval x
  let k := decimalExponent i.point i.den
  let found := (List.range 17).findSome? fun (n : Nat) =>
    (i.onGrid? (k - (n : Int))).map fun c =>
      if c = 10 ^ (n + 1) then Digits.mk [1] (k + 1)
      else Digits.mk (Digits.dropTrailingZeros (Digits.ofNat (n + 1) c)) k
  found.getD ⟨[0], 0⟩

end Shortest
end SignalDesk
