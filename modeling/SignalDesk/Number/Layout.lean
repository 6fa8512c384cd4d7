import SignalDesk.Number.Extended

namespace SignalDesk

/-- Decisions about a number whose digits are chosen: exponents from `positionalFrom` up to but not
including `scientificFrom` are written positionally, and a whole number may still carry a point. -/
structure Layout where
  positionalFrom : Int
  scientificFrom : Int
  pointWhole : Bool
  pointScientific : Bool
  infinity : String
  nan : String
  signedZero : Bool

namespace Layout

/-- The program's own way to write a number: positional from 0.0001 to below 10^16. -/
def plain : Layout := ⟨-4, 16, true, false, "inf", "nan", true⟩

/-- Six significant digits, for bounds and timeouts in messages. -/
def brief : Layout := ⟨-4, 6, false, false, "inf", "nan", true⟩

/-- Fifteen significant digits, for a number stored in a text column. -/
def stored : Layout := ⟨-4, 15, true, true, "Inf", "NaN", false⟩

def digitChars (ds : List Nat) : String := String.ofList (ds.map Nat.digitChar)

/-- The exponent with its sign and at least two digits. -/
def exponentText (k : Int) : String :=
  let n := toString k.natAbs
  (if k < 0 then "e-" else "e+") ++ (if n.length < 2 then "0" ++ n else n)

/-- The text of a positive number. -/
def magnitude (l : Layout) (d : Digits) : String :=
  let zeros (n : Nat) : String := String.ofList (List.replicate n '0')
  if d.exponent < l.positionalFrom || l.scientificFrom ≤ d.exponent then
    let tail := match d.digits.drop 1 with
      | [] => if l.pointScientific then ".0" else ""
      | ds => "." ++ digitChars ds
    digitChars (d.digits.take 1) ++ tail ++ exponentText d.exponent
  else if d.exponent < 0 then
    "0." ++ zeros ((-d.exponent).toNat - 1) ++ digitChars d.digits
  else
    let count := d.exponent.toNat + 1
    let whole := digitChars (d.digits.take count) ++ zeros (count - d.digits.length)
    match d.digits.drop count with
    | [] => if l.pointWhole then whole ++ ".0" else whole
    | ds => whole ++ "." ++ digitChars ds

def signText (negative : Bool) : String := if negative then "-" else ""

/-- The text of any number, given the digits of positive ones. -/
def write (l : Layout) (digits : Binary64 → Digits) : Real64 → String
  | .finite x =>
    if x.significand = 0 then
      signText (x.negative && l.signedZero) ++ (if l.pointWhole then "0.0" else "0")
    else signText x.negative ++ l.magnitude (digits x)
  | .infinite negative => signText negative ++ l.infinity
  | .nan => l.nan

end Layout

/-- The digits of a positive number rounded to `count` significant ones, a half to the even
neighbour, without trailing zeros. -/
def significantDigits (count : Nat) (x : Binary64) : Digits :=
  let (num, den) := x.quotient
  let k := Shortest.decimalExponent num den
  let (n, d) := Shortest.overPower num den (k - (count - 1 : Nat))
  let c := roundEven n d
  if c = 10 ^ count then ⟨[1], k + 1⟩
  else ⟨Digits.dropTrailingZeros (Digits.ofNat count c), k⟩

namespace Real64

/-- The fewest digits that read back. -/
def text (x : Real64) : String := Layout.plain.write Shortest.digits x

/-- Six significant digits. -/
def briefText (x : Real64) : String := Layout.brief.write (significantDigits 6) x

/-- Fifteen significant digits in extended precision. -/
def storedText (x : Real64) : String := Layout.stored.write Extended.digits x

/-- The magnitude in units of `10 ^ -places`, a half to the even neighbour. -/
def inPlaces (places : Nat) (x : Binary64) : Nat :=
  let (num, den) := x.quotient
  roundEven (num * 10 ^ places) den

/-- The number with `places` digits after the point. -/
def fixedText (places : Nat) : Real64 → String
  | .finite x =>
    let n := inPlaces places x
    let whole := toString (n / 10 ^ places)
    Layout.signText x.negative ++
      (if places = 0 then whole
       else whole ++ "." ++ Layout.digitChars (Digits.ofNat places (n % 10 ^ places)))
  | .infinite negative => Layout.signText negative ++ "inf"
  | .nan => "nan"

/-- The nearest number to `x` rounded to `places` decimal places. -/
def roundPlaces (places : Nat) : Real64 → Real64
  | .finite x => ofQuotient x.negative (inPlaces places x) (10 ^ places)
  | x => x

end Real64

end SignalDesk
