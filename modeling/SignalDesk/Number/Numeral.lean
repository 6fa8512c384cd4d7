import SignalDesk.Number.Binary64
import SignalDesk.Text.Character

namespace SignalDesk

/-- A decimal number as written, `coefficient * 10 ^ exponent`. -/
structure Decimal where
  negative : Bool
  coefficient : Nat
  exponent : Int
deriving DecidableEq, Repr

/-- The nearest binary64 number. Far outside the range of the format no power is computed. -/
def Decimal.toReal64 (x : Decimal) : Real64 :=
  if x.coefficient = 0 then .finite ⟨x.negative, 0, -1074⟩
  else if 400 < x.exponent then .infinite x.negative
  else if x.exponent + x.coefficient.log2 < -400 then .finite ⟨x.negative, 0, -1074⟩
  else if 0 ≤ x.exponent then
    Real64.ofQuotient x.negative (x.coefficient * 10 ^ x.exponent.toNat) 1
  else Real64.ofQuotient x.negative x.coefficient (10 ^ (-x.exponent).toNat)

namespace Numeral

def asciiDigit (c : Char) : Char :=
  match Text.digitValue? c with
  | some d => Char.ofNat (48 + d)
  | none => c

def plain (cs : List Char) : List Char := (Text.trim Text.isSpace cs).map asciiDigit

def startsWithDigit : List Char → Bool
  | c :: _ => c.isDigit
  | [] => false

/-- The digits at the start, low lines between them skipped, and the rest. -/
def digitRun : (inside : Bool) → List Char → List Nat × List Char
  | _, [] => ([], [])
  | inside, c :: cs =>
    if c.isDigit then
      let (ds, rest) := digitRun true cs
      ((c.toNat - 48) :: ds, rest)
    else if inside && c == '_' && startsWithDigit cs then digitRun false cs
    else ([], c :: cs)

def ofDigits (ds : List Nat) : Nat := ds.foldl (fun n d => 10 * n + d) 0

/-- The sign at the start: whether it is a minus, and the rest. -/
def sign : List Char → Bool × List Char
  | '-' :: cs => (true, cs)
  | '+' :: cs => (false, cs)
  | cs => (false, cs)

/-- An exponent part, or nothing at all. -/
def exponent? : List Char → Option Int
  | [] => some 0
  | c :: cs =>
    if c == 'e' || c == 'E' then
      let (negative, cs) := sign cs
      match digitRun false cs with
      | (d :: ds, []) =>
        let n := ofDigits (d :: ds)
        some (if negative then -(n : Int) else n)
      | _ => none
    else none

/-- An unsigned decimal number: digits on at least one side of an optional point. -/
def decimal? (negative : Bool) (cs : List Char) : Option Decimal :=
  let (whole, rest) := digitRun false cs
  let (fraction, rest) := match rest with
    | '.' :: rest => digitRun false rest
    | rest => ([], rest)
  if whole.isEmpty && fraction.isEmpty then none
  else (exponent? rest).map fun e =>
    ⟨negative, ofDigits (whole ++ fraction), e - fraction.length⟩

/-- A real number: a decimal one, an infinity or a NaN, each with an optional sign. -/
def real? (s : String) : Option Real64 :=
  let (negative, cs) := sign (plain s.toList)
  let word := String.ofList (cs.map Char.toLower)
  if word == "inf" || word == "infinity" then some (.infinite negative)
  else if word == "nan" then some .nan
  else (decimal? negative cs).map Decimal.toReal64

def maxIntegerDigits : Nat := 4300

/-- An integer of at most `maxIntegerDigits` digits. -/
def integer? (s : String) : Option Int :=
  let (negative, cs) := sign (plain s.toList)
  match digitRun false cs with
  | (d :: ds, []) =>
    if maxIntegerDigits < ds.length + 1 then none
    else
      let n := ofDigits (d :: ds)
      some (if negative then -(n : Int) else n)
  | _ => none

end Numeral
end SignalDesk
