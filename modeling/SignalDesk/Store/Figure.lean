import SignalDesk.Json.Label
import SignalDesk.Store.Amount

namespace SignalDesk

inductive Figure
  | number (a : Amount)
  | text (s : String)
deriving DecidableEq, Repr

namespace Figure

instance : Coe Amount Figure := ⟨number⟩

/-- What becomes of a text in a column of integers. -/
def ofText (s : String) : Figure :=
  match (Leading.read? s.toList).filter Leading.isWhole with
  | some l =>
    match Amount.ofLeading l with
    | .real x => number (.ofReal x)
    | a => number a
  | none => text s

/-- What becomes of a value in a column of integers. -/
def ofLabel? : Label → Option Figure
  | .text s => some (ofText s)
  | .bool b => some (number (.whole (if b then 1 else 0)))
  | .int n => some (number (.whole n))
  | .real x => some (number (.ofReal x))
  | .nothing => none

/-- The integer that a figure is. -/
def whole? : Figure → Option Int
  | number (.whole n) => some n
  | _ => none

/-- What a figure counts as in a sum. -/
def amount : Figure → Amount
  | number a => a
  | text s => .ofText s

/-- What a value counts as in a sum. -/
def amountOf? : Label → Option Amount
  | .real x => some (.real x)
  | .text s => some (.ofText s)
  | l => (ofLabel? l).map amount

def isTold : Figure → Bool
  | number a => a.isTold
  | text _ => true

def isPositive : Figure → Bool
  | number a => a.isPositive
  | text _ => true

def isNegative : Figure → Bool
  | number a => a.isNegative
  | text _ => false

/-- Whether two figures are equal: numbers by their value, texts by their characters. -/
def same : Figure → Figure → Bool
  | number a, number b => a.same b
  | text s, text t => s == t
  | _, _ => false

def form : Figure → Json
  | number (.whole n) => .int n
  | number (.real x) => .real x
  | text s => .text s

end Figure
end SignalDesk
