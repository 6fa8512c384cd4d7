import SignalDesk.Number.Binary64

namespace SignalDesk

/-- The signed integer `± significand * 2 ^ (exponent - e)`, for an `e` not above the exponent. -/
def Binary64.over (e : Int) (x : Binary64) : Int :=
  let n : Int := (x.significand * 2 ^ (x.exponent - e).toNat : Nat)
  if x.negative then -n else n

namespace Real64

/-- The number nearest to `n * 2 ^ e`. -/
def ofScaled (negative : Bool) (n : Nat) (e : Int) : Real64 :=
  if 0 ≤ e then ofQuotient negative (n * 2 ^ e.toNat) 1
  else ofQuotient negative n (2 ^ (-e).toNat)

def neg : Real64 → Real64
  | .finite x => .finite { x with negative := !x.negative }
  | .infinite negative => .infinite (!negative)
  | .nan => .nan

def abs : Real64 → Real64
  | .finite x => .finite { x with negative := false }
  | .infinite _ => .infinite false
  | .nan => .nan

/-- A sum that is exactly zero is negative only when both terms are. -/
def add : Real64 → Real64 → Real64
  | .nan, _ => .nan
  | _, .nan => .nan
  | .infinite a, .infinite b => if a = b then .infinite a else .nan
  | .infinite a, .finite _ => .infinite a
  | .finite _, .infinite b => .infinite b
  | .finite x, .finite y =>
    let e := min x.exponent y.exponent
    let sum := x.over e + y.over e
    if sum = 0 then .finite ⟨x.negative && y.negative, 0, -1074⟩
    else ofScaled (decide (sum < 0)) sum.natAbs e

def sub (x y : Real64) : Real64 := add x (neg y)

def mul : Real64 → Real64 → Real64
  | .nan, _ => .nan
  | _, .nan => .nan
  | .infinite a, .infinite b => .infinite (a != b)
  | .infinite a, .finite y =>
    if y.significand = 0 then .nan else .infinite (a != y.negative)
  | .finite x, .infinite b =>
    if x.significand = 0 then .nan else .infinite (x.negative != b)
  | .finite x, .finite y =>
    ofScaled (x.negative != y.negative) (x.significand * y.significand) (x.exponent + y.exponent)

def div : Real64 → Real64 → Real64
  | .nan, _ => .nan
  | _, .nan => .nan
  | .infinite _, .infinite _ => .nan
  | .infinite a, .finite y => .infinite (a != y.negative)
  | .finite x, .infinite b => .finite ⟨x.negative != b, 0, -1074⟩
  | .finite x, .finite y =>
    if y.significand = 0 then
      if x.significand = 0 then .nan else .infinite (x.negative != y.negative)
    else
      let (a, b) := x.quotient
      let (c, d) := y.quotient
      ofQuotient (x.negative != y.negative) (a * d) (b * c)

def lt : Real64 → Real64 → Bool
  | .nan, _ => false
  | _, .nan => false
  | .infinite a, .infinite b => a && !b
  | .infinite a, .finite _ => a
  | .finite _, .infinite b => !b
  | .finite x, .finite y =>
    let e := min x.exponent y.exponent
    decide (x.over e < y.over e)

def le : Real64 → Real64 → Bool
  | .nan, _ => false
  | _, .nan => false
  | .infinite a, .infinite b => a || !b
  | .infinite a, .finite _ => a
  | .finite _, .infinite b => !b
  | .finite x, .finite y =>
    let e := min x.exponent y.exponent
    decide (x.over e ≤ y.over e)

/-- Equality of numbers: the two zeros are equal and a NaN equals nothing. -/
def same (x y : Real64) : Bool := le x y && le y x

def isNan : Real64 → Bool
  | .nan => true
  | _ => false

/-- Whether a number is missing: zero of either sign. -/
def isZero : Real64 → Bool
  | .finite x => x.significand == 0
  | _ => false

/-- The integer part of a finite number. -/
def truncate? : Real64 → Option Int
  | .finite x => some x.truncate
  | _ => none

end Real64
end SignalDesk
