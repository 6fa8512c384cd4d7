namespace SignalDesk

/-- A code point as documents may hold it: a character, or one half of a surrogate pair that stands
without the other. Halves are counted from 0xd800. -/
inductive Point
  | char (c : Char)
  | half (n : Fin 0x800)
deriving DecidableEq, Repr

namespace Point

def isHalf : Point → Bool
  | half _ => true
  | char _ => false

def char? : Point → Option Char
  | char c => some c
  | half _ => none

def ofNat (n : Nat) : Point :=
  if h : 0xd800 ≤ n ∧ n < 0xe000 then half ⟨n - 0xd800, by omega⟩ else char (Char.ofNat n)

def toNat : Point → Nat
  | char c => c.toNat
  | half n => 0xd800 + n

end Point

/-- A text from outside. Most are whole; one that a half of a surrogate pair has torn is a text like
any other until it is to be written as bytes. -/
inductive Text
  | whole (s : String)
  | torn (points : List Point) (half : points.any Point.isHalf = true)
deriving DecidableEq, Repr

namespace Text

instance : Coe String Text := ⟨whole⟩

def points : Text → List Point
  | whole s => s.toList.map .char
  | torn points _ => points

def ofPoints (points : List Point) : Text :=
  if half : points.any Point.isHalf = true then torn points half
  else whole (String.ofList (points.filterMap Point.char?))

/-- The text of characters that a whole text is. -/
def string? : Text → Option String
  | whole s => some s
  | torn _ _ => none

@[simp] theorem string?_whole (s : String) : string? s = some s := rfl

def isEmpty : Text → Bool
  | whole s => s.isEmpty
  | torn _ _ => false

/-- The characters of a text. A half, which is none, is shown by the replacement character. -/
def characters : Text → String
  | whole s => s
  | torn points _ => String.ofList (points.map fun p => p.char?.getD '\ufffd')

def append : Text → Text → Text
  | whole s, whole t => whole (s ++ t)
  | s, t => ofPoints (s.points ++ t.points)

instance : Append Text := ⟨append⟩

end Text
end SignalDesk
