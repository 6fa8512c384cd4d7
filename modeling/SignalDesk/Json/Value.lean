import SignalDesk.Number.Arithmetic
import SignalDesk.Number.Layout
import SignalDesk.Text.Basic

namespace SignalDesk

inductive Json
  | null
  | bool (b : Bool)
  | int (n : Int)
  | real (x : Real64)
  | text (s : Text)
  | list (items : List Json)
  | object (fields : List (Text × Json))

namespace Json

/-- The value of a field; the fields of an object have different names. -/
def field? (fields : List (Text × Json)) (name : Text) : Option Json := fields.lookup name

/-- The value of a field, `null` when there is none. -/
def fieldOrNull (fields : List (Text × Json)) (name : Text) : Json :=
  (field? fields name).getD .null

/-- Sets a field: in its place when the name is there, else at the end. -/
def setField (name : Text) (v : Json) : List (Text × Json) → List (Text × Json)
  | [] => [(name, v)]
  | (k, w) :: rest => if k = name then (k, v) :: rest else (k, w) :: setField name v rest

/-- Whether a value counts as given: not null, false, zero or empty. -/
def isTruthy : Json → Bool
  | .null => false
  | .bool b => b
  | .int n => n != 0
  | .real x => !x.isZero
  | .text s => !s.isEmpty
  | .list items => !items.isEmpty
  | .object fields => !fields.isEmpty

def ofBinary64 (x : Binary64) : Json := .real (.finite x)

/-- A text or null. -/
def ofText? : Option String → Json
  | some s => .text s
  | none => .null

def ofReal? : Option Real64 → Json
  | some x => .real x
  | none => .null

def ofInt? : Option Int → Json
  | some n => .int n
  | none => .null

/-- The fields that have a value. -/
def given (fields : List (String × Option Json)) : List (Text × Json) :=
  fields.filterMap fun (name, v) => v.map (name, ·)

/-- A truth value as a table shows it, one or zero. -/
def ofFlag (b : Bool) : Json := .int (if b then 1 else 0)

end Json
end SignalDesk
