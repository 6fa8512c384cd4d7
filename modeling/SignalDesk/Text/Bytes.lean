import SignalDesk.Text.Basic

namespace SignalDesk.Text

def utf8 (s : String) : List UInt8 := s.toUTF8.toList

def hex (bytes : List UInt8) : String :=
  String.ofList <| bytes.flatMap fun b =>
    [Nat.digitChar (b.toNat / 16), Nat.digitChar (b.toNat % 16)]

def hexUpper (n : Nat) : Char := (Nat.digitChar n).toUpper

def queryByte (b : UInt8) : List Char :=
  let c := Char.ofNat b.toNat
  if c.isAlphanum || c == '_' || c == '.' || c == '-' || c == '~' then [c]
  else if c == ' ' then ['+']
  else ['%', hexUpper (b.toNat / 16), hexUpper (b.toNat % 16)]

def queryText (s : String) : String := String.ofList ((utf8 s).flatMap queryByte)

def queryString (params : List (String × String)) : String :=
  "&".intercalate (params.map fun (name, value) => queryText name ++ "=" ++ queryText value)

/-- How wide the units of a text are, and whether their highest byte comes first. -/
inductive Encoding
  | bytes
  | pairs (highFirst : Bool)
  | quads (highFirst : Bool)
deriving DecidableEq, Repr

namespace Encoding

def ofBytes : List UInt8 → Encoding
  | [a, b] => if a == 0 then pairs true else if b == 0 then pairs false else bytes
  | a :: b :: c :: d :: _ =>
    if a == 0 then (if b == 0 then quads true else pairs true)
    else if b == 0 then (if c == 0 && d == 0 then quads false else pairs false)
    else bytes
  | _ => bytes

end Encoding

/-- A number from its bytes, the highest first. -/
def ofHighFirst (bytes : List UInt8) : Nat := bytes.foldl (fun n b => 256 * n + b.toNat) 0

/-- The character of a surrogate pair, when two units are its halves. -/
def joined? (high low : Nat) : Option Char :=
  if 0xd800 ≤ high && high < 0xdc00 && 0xdc00 ≤ low && low < 0xe000 then
    some (Char.ofNat (0x10000 + (high - 0xd800) * 0x400 + (low - 0xdc00)))
  else none

/-- Units of two bytes; none if a byte is left over. -/
def pairUnits? (highFirst : Bool) : List UInt8 → Option (List Nat)
  | [] => some []
  | a :: b :: rest =>
    (pairUnits? highFirst rest).map (ofHighFirst (if highFirst then [a, b] else [b, a]) :: ·)
  | _ => none

/-- Code points of four bytes; none if bytes are left over or a number is no code point. -/
def quadUnits? (highFirst : Bool) : List UInt8 → Option (List Nat)
  | [] => some []
  | a :: b :: c :: d :: rest =>
    let n := ofHighFirst (if highFirst then [a, b, c, d] else [d, c, b, a])
    if 0x10ffff < n then none else (quadUnits? highFirst rest).map (n :: ·)
  | _ => none

/-- Code points as they stand, and units of two bytes, of which a high half and a low one right after
it are one character. -/
def joinUnits : List (Point ⊕ Nat) → List Point
  | [] => []
  | .inl p :: rest => p :: joinUnits rest
  | .inr n :: .inr m :: rest =>
    match joined? n m with
    | some c => .char c :: joinUnits rest
    | none => .ofNat n :: joinUnits (.inr m :: rest)
  | .inr n :: rest => .ofNat n :: joinUnits rest

/-- The code points that the bytes of `s` stand for as a document. -/
def decoded? (s : String) : Option (List Point) :=
  match Encoding.ofBytes (utf8 s) with
  | .bytes => some (s.toList.map .char)
  | .pairs highFirst => (pairUnits? highFirst (utf8 s)).map fun ns => joinUnits (ns.map .inr)
  | .quads highFirst => (quadUnits? highFirst (utf8 s)).map (·.map Point.ofNat)

end SignalDesk.Text
