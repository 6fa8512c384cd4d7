import SignalDesk.Store.Rows
import SignalDesk.Store.Trades

namespace SignalDesk

/-- Why a statement has no answer. -/
inductive StatementError
  | unknown
  | wrongArguments
  | notText
  | number (fault : NumberFault)
  | store (e : StoreError)
  | reserve (e : ReserveError)
  | unknownUser (user : Json)
  | overrides (fault : OverridesFault)
  | timeframes (fault : ReadFault)

abbrev Arguments := List (Text × Json)

namespace Arguments

def get (a : Arguments) (name : String) : Json := Json.fieldOrNull a name

/-- An argument that may be left out. -/
def getOr (a : Arguments) (name : String) (default : Json) : Json :=
  (Json.field? a name).getD default

end Arguments

/-- What statements know besides their arguments. -/
structure Scene where
  now : String
  startingCoins : Int

/-- An operation: which arguments it needs, which it also takes, and its answer. -/
structure Operation where
  name : String
  required : List String
  optional : List String
  perform : Scene → Arguments → Store → Except StatementError (Json × Store)

/-- Whether all arguments that are needed are there, and no others than it takes. -/
def Operation.admits (o : Operation) (a : Arguments) : Bool :=
  o.required.all (fun name => (Json.field? a name).isSome) &&
    a.all fun (name, _) => (o.required ++ o.optional).any fun known => name == known

namespace Statement

def ofStore {α : Type} (r : Except StoreError α) : Except StatementError α := r.mapError .store

def written (t : Text) : Except StatementError String := ofStore (Store.written t)

def label (v : Json) : Except StatementError Label := ofStore (Store.bound v)

def text? (v : Json) : Except StatementError (Option String) := ofStore (Store.cell v)

def figure? (v : Json) : Except StatementError (Option Figure) := ofStore (Store.figure? v)

def row? (v : Json) : Except StatementError (Option Int) := ofStore (Store.rowNumber? v)

def limit (v : Json) : Except StatementError Int := ofStore (Store.rowLimit v)

def wanted (v : Json) : Except StatementError String := ofStore (Store.wantedText v)

def need {α : Type} (column : String) (v : Option α) : Except StatementError α :=
  ofStore (Store.require column v)

/-- An integer that a number, a truth value or a numeral gives. -/
def integer (v : Json) : Except StatementError Int := v.toInteger.mapError .number

/-- An integer as the store takes it. -/
def word (n : Int) : Except StatementError Unit := ofStore (Store.requireWord n)

/-- A number, where null stands for none. -/
def real (v : Json) : Except StatementError Real64 :=
  match v with
  | .null => .ok .nan
  | v => v.toReal.mapError .number

def string (v : Json) : Except StatementError Text :=
  match v with
  | .text s => .ok s
  | _ => .error .notText

def formOrNull {α : Type} (form : α → Json) (a : Option α) : Json := (a.map form).getD .null

/-- An operation that only looks. -/
def reading (name : String) (required optional : List String)
    (answer : Arguments → Store → Except StatementError Json) : Operation :=
  ⟨name, required, optional, fun _ a s => (answer a s).map (·, s)⟩

/-- An operation that only changes the store. -/
def writing (name : String) (required optional : List String)
    (change : Scene → Arguments → Store → Except StatementError Store) : Operation :=
  ⟨name, required, optional, fun c a s => (change c a s).map (.null, ·)⟩

end Statement
end SignalDesk
