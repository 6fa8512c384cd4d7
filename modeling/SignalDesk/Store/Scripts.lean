import SignalDesk.Json.Writer
import SignalDesk.Store.Basic
import SignalDesk.Text.Upper

namespace SignalDesk
namespace Store

variable (s : Store)

def script? (id : String) : Option SavedScript := s.scripts.find? (·.id == some id)

def defaultTimeframes : Json := .list [.text "1h"]

/-- The document of a value that may be left out. -/
def documentOr (default v : Json) : String :=
  (if v.isTruthy then v else default).write Json.Spacing.spaced

/-- Saves a script. One that is there keeps its owner and the time it was made; each script without
an id is another one. -/
def saveScript (id : Option String) (owner name content symbol : String) (timeframes : Json)
    (now : String) : Store :=
  let timeframes := documentOr defaultTimeframes timeframes
  let symbol := Text.upper symbol
  { s with
    scripts :=
      upsert (fun r => id.isSome && r.id == id)
        (fun r => { r with name, content, symbol, timeframes, updatedAt := now })
        ⟨id, owner, name, content, symbol, timeframes, now, now⟩ s.scripts }

def isActivation (user script timeframe : String) (a : ActivationRow) : Bool :=
  a.user == user && a.script == script && a.timeframe == timeframe

/-- Activates a script. Each time takes a number, also when the activation is there already. -/
def activate (user script timeframe : String) (overrides : Json) (now : String) : Store :=
  let document := documentOr (.object []) overrides
  let id := nextId (s.activationSerial :: s.activations.map (·.id))
  { s with
    activationSerial := id
    activations :=
      upsert (isActivation user script timeframe)
        (fun a => { a with active := true, overrides := document })
        ⟨id, user, script, timeframe, true, document, now⟩ s.activations }

def deactivate (user script timeframe : String) : Store :=
  { s with activations := s.activations.map fun a =>
      if isActivation user script timeframe a then { a with active := false } else a }

/-- Replaces the document of an activation, which cannot do without one. -/
def replaceOverrides (user script timeframe : String) (document : Option String) :
    Except StoreError Store :=
  match document with
  | some document =>
    .ok { s with activations := s.activations.map fun a =>
        if isActivation user script timeframe a then { a with overrides := document } else a }
  | none =>
    if s.activations.any (isActivation user script timeframe) then
      .error (.notNull "activations.settings_json")
    else .ok s

/-- An activation together with its script. -/
def activationOf (row : ActivationRow) (script : SavedScript) :
    Except OverridesFault Activation :=
  (Overrides.ofText (some row.overrides)).map
    fun overrides =>
      ⟨row.user, row.script, row.timeframe, script.symbol, script.content, overrides⟩

/-- Whether a text is `wanted`; an empty one wants nothing particular. -/
def wants (wanted text : String) : Bool := wanted.isEmpty || text == wanted

/-- The rows of the active activations of a script and a timeframe, with the scripts that exist. -/
def activeRows (script timeframe : String) : List (ActivationRow × SavedScript) :=
  (s.activations.filter fun a => a.active && wants script a.script && wants timeframe a.timeframe)
    |>.filterMap fun a => (s.script? a.script).map (a, ·)

/-- The active activations of a script and a timeframe, oldest first; empty texts stand for any.
One document out of range spoils the list. -/
def activations? (script timeframe : String) : Except OverridesFault (List Activation) :=
  (s.activeRows script timeframe).mapM fun (a, script) => activationOf a script

/-- The active activation of one user. -/
def activation? (user : Label) (script timeframe : String) :
    Except OverridesFault (Option Activation) :=
  (s.activations? script timeframe).map fun rows => rows.find? (·.user == user)

/-- Whether a user owns a script or has ever activated it. -/
def canAccess (user script : String) : Bool :=
  s.scripts.any (fun r => r.id == some script && r.owner == user) ||
    s.activations.any (fun a => a.script == script && a.user == user)

def isGate (user script : String) (g : GateRow) : Bool := g.user == user && g.script == script

def gate? (user script : String) : Option Gate :=
  (s.gates.find? (isGate user script)).map (·.gate)

/-- Turns a gate on with the stamp of `now`, or off with the stamp it has. -/
def setGate (user script : String) (enabled : Bool) (now : String) : Store :=
  let turn (g : Gate) : Gate := if enabled then ⟨true, some now⟩ else { g with enabled := false }
  { s with
    gates :=
      upsert (isGate user script)
        (fun g => { g with gate := turn g.gate, updatedAt := now })
        ⟨user, script, turn ⟨false, none⟩, now⟩ s.gates }

/-- Writes the stamp of a gate anew. -/
def restamp (user script : String) (stamp : Option String) : Store :=
  { s with gates := s.gates.map fun g =>
      if isGate user script g then { g with gate := { g.gate with startedAt := stamp } } else g }

end Store
end SignalDesk
