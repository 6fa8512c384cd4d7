import SignalDesk.Number.Numeral

namespace SignalDesk

/-- A number at the start of a text, and what follows it. -/
structure Leading where
  decimal : Decimal
  /-- Whether it has neither a point nor an exponent. -/
  isPlain : Bool
  rest : List Char
deriving DecidableEq, Repr

namespace Leading

def isBlank (c : Char) : Bool := " \t\n\x0b\x0c\r".toList.contains c

/-- The value of plain digits. -/
def value (ds : List Char) : Nat := Numeral.ofDigits (ds.map fun c => c.toNat - 48)

/-- An exponent at the start, and the rest; without digits there is none. -/
def exponent? : List Char → Option (Int × List Char)
  | [] => none
  | c :: cs =>
    if c == 'e' || c == 'E' then
      let (negative, cs) := Numeral.sign cs
      let ds := cs.takeWhile Char.isDigit
      if ds.isEmpty then none
      else
        let n : Int := value ds
        some (if negative then -n else n, cs.drop ds.length)
    else none

def read? (text : List Char) : Option Leading :=
  let (negative, cs) := Numeral.sign (text.dropWhile isBlank)
  let digits := cs.takeWhile Char.isDigit
  let afterDigits := cs.drop digits.length
  let (hasPoint, fraction, rest) := match afterDigits with
    | '.' :: cs =>
      let fraction := cs.takeWhile Char.isDigit
      (true, fraction, cs.drop fraction.length)
    | cs => (false, [], cs)
  if digits.isEmpty && fraction.isEmpty then none
  else
    let decimal (e : Int) : Decimal := ⟨negative, value (digits ++ fraction), e - fraction.length⟩
    match exponent? rest with
    | some (e, rest) => some ⟨decimal e, false, rest⟩
    | none => some ⟨decimal 0, !hasPoint, rest⟩

/-- The integer that a number without point and exponent is. -/
def integer (l : Leading) : Int :=
  if l.decimal.negative then -(l.decimal.coefficient : Int) else l.decimal.coefficient

/-- Whether nothing but blanks follows the number. -/
def isWhole (l : Leading) : Bool := l.rest.all isBlank

end Leading
end SignalDesk
