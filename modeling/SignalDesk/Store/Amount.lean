import SignalDesk.Number.Arithmetic
import SignalDesk.Number.Leading

namespace SignalDesk

/-- Whether an integer has 64 bits. -/
def fitsWord (n : Int) : Bool := decide (-2 ^ 63 ≤ n) && decide (n < 2 ^ 63)

inductive Amount
  | whole (n : Int)
  | real (x : Real64)
deriving DecidableEq, Repr

namespace Amount

def toReal : Amount → Real64
  | whole n => .ofInt n
  | real x => x

/-- A number as it is kept: an integer strictly within 64 bits counts as such. -/
def ofReal (x : Real64) : Amount :=
  match x with
  | .finite y =>
    if y.isWhole && decide (-2 ^ 63 < y.truncate) && decide (y.truncate < 2 ^ 63) then
      whole y.truncate
    else real x
  | x => real x

/-- A number at the start of a text, as sums take it. -/
def ofLeading (l : Leading) : Amount :=
  if l.isPlain && fitsWord l.integer then whole l.integer else real l.decimal.toReal64

/-- What a text counts as in a sum: the number it starts with, and nothing without one. -/
def ofText (s : String) : Amount := ((Leading.read? s.toList).map ofLeading).getD (whole 0)

def plus (a : Amount) (delta : Int) : Amount :=
  match a with
  | whole n =>
    if fitsWord (n + delta) then whole (n + delta)
    else ofReal ((Real64.ofInt n).add (.ofInt delta))
  | real x => ofReal (x.add (.ofInt delta))

/-- The sum of an amount and a change; opposite infinities have none. -/
def add? (a : Amount) : Amount → Option Amount
  | whole delta => some (a.plus delta)
  | real x =>
    match a.toReal.add x with
    | .nan => none
    | sum => some (ofReal sum)

/-- Whether an amount can be told to the store: a whole one has to have 64 bits. -/
def isTold : Amount → Bool
  | whole n => fitsWord n
  | real _ => true

def isPositive : Amount → Bool
  | whole n => decide (0 < n)
  | real x => Real64.zero.lt x

def isNegative : Amount → Bool
  | whole n => decide (n < 0)
  | real x => x.lt .zero

/-- The amount, zero when it is negative. -/
def floored (a : Amount) : Amount := if a.isNegative then whole 0 else a

/-- Whether two amounts are the same number. -/
def same : Amount → Amount → Bool
  | whole n, whole m => n == m
  | whole n, real (.finite x) => x.isWhole && x.truncate == n
  | real (.finite x), whole n => x.isWhole && x.truncate == n
  | real x, real y => x.same y
  | _, _ => false

end Amount
end SignalDesk
