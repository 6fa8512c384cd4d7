import SignalDesk.Json.Writer

namespace SignalDesk

inductive Label
  | text (s : String)
  | bool (b : Bool)
  | int (n : Int)
  | real (x : Real64)
  | nothing
deriving DecidableEq, Repr

namespace Label

instance : Coe String Label := ⟨text⟩

/-- The label that a value gives; lists and objects are none. A torn text, which no row has, is like
nothing. -/
def ofJson? : Json → Option Label
  | .text s => some (s.string?.elim nothing text)
  | .bool b => some (bool b)
  | .int n => some (int n)
  | .real x => some (real x)
  | .null => some nothing
  | .list _ | .object _ => none

def form : Label → Json
  | text s => .text s
  | bool b => .bool b
  | int n => .int n
  | real x => .real x
  | nothing => .null

/-- The text that rows keep. -/
def stored : Label → Option String
  | text s => some s
  | bool b => some (if b then "1" else "0")
  | int n => some (toString n)
  | real x => some x.storedText
  | nothing => none

/-- The label in a message. -/
def shown : Label → String
  | text s => s
  | l => l.form.shown

/-- The text of the rows that are wanted, empty if the label leaves that open. -/
def wanted (l : Label) : String := if l.form.isTruthy then l.stored.getD "" else ""

/-- Numbers and truth values that are equal as numbers are one key. -/
def key : Label → Label
  | bool b => int (if b then 1 else 0)
  | real (.finite x) => if x.isWhole then int x.truncate else real (.finite x)
  | l => l

end Label
end SignalDesk
