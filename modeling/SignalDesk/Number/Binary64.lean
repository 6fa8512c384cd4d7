import SignalDesk.Number.Power

namespace SignalDesk

/-- The integer nearest to `num / den`; a half goes to the even neighbour. -/
def roundEven (num den : Nat) : Nat :=
  let q := num / den
  let r := num % den
  if 2 * r < den then q else if den < 2 * r then q + 1 else q + q % 2

/-- A finite number, `significand * 2 ^ exponent`, with a sign that zero has too. -/
structure Binary64 where
  negative : Bool
  significand : Nat
  exponent : Int
deriving DecidableEq, Repr

/-- Any binary64 value. -/
inductive Real64
  | finite (x : Binary64)
  | infinite (negative : Bool)
  | nan
deriving DecidableEq, Repr

namespace Binary64

def magnitude (x : Binary64) : Rat := x.significand * 2 ^ x.exponent

def value (x : Binary64) : Rat := if x.negative then -x.magnitude else x.magnitude

/-- The magnitude as a quotient of integers. -/
def quotient (x : Binary64) : Nat × Nat :=
  if 0 ≤ x.exponent then (x.significand * 2 ^ x.exponent.toNat, 1)
  else (x.significand, 2 ^ (-x.exponent).toNat)

/-- The integer part, toward zero. -/
def truncate (x : Binary64) : Int :=
  let (num, den) := x.quotient
  if x.negative then -(num / den : Nat) else (num / den : Nat)

def isWhole (x : Binary64) : Bool :=
  let (num, den) := x.quotient
  num % den == 0

end Binary64

namespace Real64

def zero : Real64 := .finite ⟨false, 0, -1074⟩

/-- The quotient of `num / den` and `2 ^ e`, as two integers. -/
def scaled (num den : Nat) (e : Int) : Nat × Nat :=
  if 0 ≤ e then (num, den * 2 ^ e.toNat) else (num * 2 ^ (-e).toNat, den)

/-- The power of two of the last of `bits` significant places of `num / den`. -/
def significantPlace (bits num den : Nat) : Int :=
  let guess : Int := (num.log2 : Int) - den.log2 - (bits - 1 : Nat)
  let (n, d) := scaled num den guess
  if n < d * 2 ^ (bits - 1) then guess - 1 else guess

/-- The power of two of the last place of `num / den`. -/
def lastPlace (num den : Nat) : Int := max (-1074) (significantPlace 53 num den)

/-- The binary64 number nearest to `num / den`, a half to the even neighbour; past the largest
finite number it is infinite. -/
def ofQuotient (negative : Bool) (num den : Nat) : Real64 :=
  if num = 0 then .finite ⟨negative, 0, -1074⟩
  else
    let e := lastPlace num den
    let (n, d) := scaled num den e
    let s := roundEven n d
    let (s, e) := if s = 2 ^ 53 then (2 ^ 52, e + 1) else (s, e)
    if 971 < e then .infinite negative else .finite ⟨negative, s, e⟩

def ofInt (n : Int) : Real64 := ofQuotient (decide (n < 0)) n.natAbs 1

def isFinite : Real64 → Bool
  | .finite _ => true
  | _ => false

end Real64
end SignalDesk
