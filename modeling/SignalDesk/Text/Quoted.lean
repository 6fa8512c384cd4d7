import SignalDesk.Text.Basic
import SignalDesk.Text.Printable

namespace SignalDesk.Text

/-- The last `width` hexadecimal digits of `n`, in small letters. -/
def hexDigits : (width : Nat) → (n : Nat) → List Char
  | 0, _ => []
  | width + 1, n => hexDigits width (n / 16) ++ [(Nat.digitChar (n % 16))]

def escaped (quote c : Char) : List Char :=
  if c = quote || c = '\\' then ['\\', c]
  else if c = '\t' then ['\\', 't']
  else if c = '\n' then ['\\', 'n']
  else if c = '\r' then ['\\', 'r']
  else if isPrintable c then [c]
  else if c.toNat < 0x100 then '\\' :: 'x' :: hexDigits 2 c.toNat
  else if c.toNat < 0x10000 then '\\' :: 'u' :: hexDigits 4 c.toNat
  else '\\' :: 'U' :: hexDigits 8 c.toNat

def quoteFor (cs : List Char) : Char :=
  if cs.contains '\'' && !cs.contains '"' then '"' else '\''

def quoted (s : String) : String :=
  let q := quoteFor s.toList
  String.ofList (q :: s.toList.flatMap (escaped q) ++ [q])

/-- A code point between quotes; a half is never printed as it is. -/
def escapedPoint (quote : Char) : Point → List Char
  | .char c => escaped quote c
  | .half n => '\\' :: 'u' :: hexDigits 4 (0xd800 + n)

/-- A text between quotes, torn or not. -/
def shown : Text → String
  | whole s => quoted s
  | torn points _ =>
    let q := quoteFor (points.filterMap Point.char?)
    String.ofList (q :: points.flatMap (escapedPoint q) ++ [q])

/-- Why a torn text has no bytes: its first halves, by themselves or by their places. -/
def byteless (points : List Point) : String :=
  let before := (points.takeWhile (!·.isHalf)).length
  let halves := (points.drop before).takeWhile Point.isHalf
  let what :=
    match halves with
    | [half] =>
      "character '" ++ String.ofList (escapedPoint '\'' half) ++ "' in position " ++ toString before
    | _ =>
      "characters in position " ++ toString before ++ "-" ++
        toString (before + halves.length - 1)
  "'utf-8' codec can't encode " ++ what ++ ": surrogates not allowed"

end SignalDesk.Text
