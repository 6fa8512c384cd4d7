import SignalDesk.Json.Value
import SignalDesk.Number.Numeral

namespace SignalDesk

/-- Why a value gives no number. -/
inductive NumberFault
  | wrongType
  | notNumeral
  | nanInteger
  | infiniteInteger
  | tooLarge
deriving DecidableEq, Repr

/-- Whether the fault is one of range; the others are faults of form. -/
def NumberFault.isOverflow : NumberFault → Bool
  | infiniteInteger | tooLarge => true
  | _ => false

def NumberFault.message : NumberFault → String
  | wrongType => "not a number"
  | notNumeral => "not a numeral"
  | nanInteger => "cannot convert float NaN to integer"
  | infiniteInteger => "cannot convert float infinity to integer"
  | tooLarge => "int too large to convert to float"

namespace Json

/-- The nearest binary64 number of an integer, which has to be in range. -/
def realOfInt (n : Int) : Except NumberFault Real64 :=
  match Real64.ofInt n with
  | .finite x => .ok (.finite x)
  | _ => .error .tooLarge

def toReal : Json → Except NumberFault Real64
  | .bool b => .ok (.ofInt (if b then 1 else 0))
  | .int n => realOfInt n
  | .real x => .ok x
  | .text s =>
    match s.string?.bind Numeral.real? with
    | some x => .ok x
    | none => .error .notNumeral
  | _ => .error .wrongType

/-- An integer; a number that is not whole is cut toward zero. -/
def toInteger : Json → Except NumberFault Int
  | .bool b => .ok (if b then 1 else 0)
  | .int n => .ok n
  | .real (.finite x) => .ok x.truncate
  | .real (.infinite _) => .error .infiniteInteger
  | .real .nan => .error .nanInteger
  | .text s =>
    match s.string?.bind Numeral.integer? with
    | some n => .ok n
    | none => .error .notNumeral
  | _ => .error .wrongType

end Json
end SignalDesk
