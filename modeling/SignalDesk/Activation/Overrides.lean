import SignalDesk.Json.Number
import SignalDesk.Json.Reader

namespace SignalDesk

/-- Why a document of overrides cannot be used, not even as one that sets nothing. -/
inductive OverridesFault
  | number (fault : NumberFault)
  | document (fault : ReadFault)
deriving DecidableEq, Repr

def OverridesFault.message : OverridesFault → String
  | number fault => fault.message
  | document fault => fault.message

structure Overrides where
  quoteAmount : Option Real64
  candleLimit : Option Int
  extras : List (Text × Json)

namespace Overrides

def empty : Overrides := ⟨none, none, []⟩

def quoteField : Text := "order_quote_amount"
def limitField : Text := "candle_limit"

def maxCandleLimit : Int := 1000

/-- A number above zero. What is no number or not above zero counts as not set. -/
def positiveReal (v : Json) : Except NumberFault (Option Real64) :=
  match v with
  | .null => .ok none
  | v =>
    match v.toReal with
    | .ok x => .ok (if x.le .zero then none else some x)
    | .error fault => if fault.isOverflow then .error fault else .ok none

/-- The integer part of a number above zero. A truth value counts as not set. -/
def positiveInteger (v : Json) : Except NumberFault (Option Int) :=
  match v with
  | .bool _ => .ok none
  | v =>
    match positiveReal v with
    | .error fault => .error fault
    | .ok none => .ok none
    | .ok (some x) => (Json.real x).toInteger.map some

/-- The overrides in the fields of a document. -/
def ofFields (fields : List (Text × Json)) : Except NumberFault Overrides := do
  let quoteAmount ← positiveReal (Json.fieldOrNull fields quoteField)
  let candleLimit ← positiveInteger (Json.fieldOrNull fields limitField)
  return ⟨quoteAmount, candleLimit.map (min · maxCandleLimit),
    fields.filter fun (name, _) => name != quoteField && name != limitField⟩

/-- The overrides in a text; one that holds no document with fields sets nothing. -/
def ofText (text : Option String) : Except OverridesFault Overrides :=
  match Json.read (text.getD "") with
  | .ok (.object fields) => (ofFields fields).mapError .number
  | .error (.tooDeep inObject) => .error (.document (.tooDeep inObject))
  | _ => .ok empty

/-- The document again: the other fields, and those of the two that are set. -/
def fields (o : Overrides) : List (Text × Json) :=
  let put (name : Text) (v : Option Json) (fields : List (Text × Json)) :=
    match v with
    | some v => Json.setField name v fields
    | none => fields
  put limitField (o.candleLimit.map .int) (put quoteField (o.quoteAmount.map .real) o.extras)

def quoteAmountOr (o : Overrides) (default : Real64) : Real64 := o.quoteAmount.getD default

def candleLimitOr (o : Overrides) (default : Int) : Int := o.candleLimit.getD default

end Overrides
end SignalDesk
