import SignalDesk.Number.Arithmetic

namespace SignalDesk

class Arithmetic (α : Type) extends Add α, Sub α, Mul α, Div α where
  ofNat : Nat → α
  abs : α → α
  lt : α → α → Bool
  le : α → α → Bool
  /-- Holds of results that are no number. -/
  undefined : α → Bool

namespace Arithmetic

variable {α : Type} [Arithmetic α]

def zero : α := ofNat 0

def isZero (x : α) : Bool := le x zero && le zero x

def sum (xs : List α) : α := xs.foldl (· + ·) zero

end Arithmetic

instance : Arithmetic Real64 where
  add := Real64.add
  sub := Real64.sub
  mul := Real64.mul
  div := Real64.div
  ofNat n := Real64.ofInt n
  abs := Real64.abs
  lt := Real64.lt
  le := Real64.le
  undefined := Real64.isNan

instance : Arithmetic Rat where
  ofNat n := n
  abs x := if x < 0 then -x else x
  lt x y := decide (x < y)
  le x y := decide (x ≤ y)
  undefined _ := false

end SignalDesk
