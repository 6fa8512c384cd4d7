import SignalDesk.Statement.Basic
import SignalDesk.Store.Scripts

namespace SignalDesk

def Overrides.form (o : Overrides) : Json :=
  .object
    [("order_quote_amount", .ofReal? o.quoteAmount), ("candle_limit", .ofInt? o.candleLimit),
      ("extras", .object o.extras)]

def Activation.form (a : Activation) : Json :=
  .object
    [("user_id", a.user.form), ("script_id", a.script.form), ("timeframe", a.timeframe.form),
      ("symbol", .text a.symbol), ("script_content", .text a.content),
      ("settings", a.overrides.form)]

/-- The gate of a user for a script. -/
def Gate.form (user script : String) (g : Gate) : Json :=
  .object
    [("user_id", .text user), ("script_id", .text script), ("enabled", .bool g.enabled),
      ("bot_started_at", .ofText? g.startedAt)]

namespace Statement

def upsertScript : Operation :=
  writing "upsert_script" ["script_id", "owner_id", "name", "script_content", "symbol"]
    ["allowed_timeframes"] fun c a s => do
      let symbol ← string (a.get "symbol")
      let id ← text? (a.get "script_id")
      let owner ← text? (a.get "owner_id")
      let name ← text? (a.get "name")
      let content ← text? (a.get "script_content")
      let symbol ← written symbol
      let owner ← need "scripts.owner_id" owner
      let name ← need "scripts.name" name
      let content ← need "scripts.script_content" content
      return s.saveScript id owner name content symbol (a.get "allowed_timeframes") c.now

def getScript : Operation :=
  reading "get_script" ["script_id"] [] fun a s => do
    match (← text? (a.get "script_id")).bind s.script? with
    | none => return .null
    | some script => script.form.mapError .timeframes

/-- The user, the script and the timeframe of an activation. -/
def tupleOf (a : Arguments) :
    Except StatementError (Option String × Option String × Option String) := do
  return (← text? (a.get "user_id"), ← text? (a.get "script_id"), ← text? (a.get "timeframe"))

def activate : Operation :=
  writing "activate" ["user_id", "script_id", "timeframe"] ["settings"] fun c a s => do
    let (user, script, timeframe) ← tupleOf a
    return s.activate (← need "activations.user_id" user)
      (← need "activations.script_id" script) (← need "activations.timeframe" timeframe)
      (a.get "settings") c.now

def deactivate : Operation :=
  writing "deactivate" ["user_id", "script_id", "timeframe"] [] fun _ a s => do
    match ← tupleOf a with
    | (some user, some script, some timeframe) => return s.deactivate user script timeframe
    | _ => return s

def listActivations : Operation :=
  reading "list_active_activations" [] ["script_id", "timeframe"] fun a s => do
    let script ← wanted (a.get "script_id")
    let timeframe ← wanted (a.get "timeframe")
    return .list ((← (s.activations? script timeframe).mapError .overrides).map Activation.form)

def getActivation : Operation :=
  reading "get_activation" ["user_id", "script_id", "timeframe"] [] fun a s => do
    let script ← wanted (a.get "script_id")
    let timeframe ← wanted (a.get "timeframe")
    let rows ← (s.activations? script timeframe).mapError .overrides
    let user := Label.ofJson? (a.get "user_id")
    return formOrNull Activation.form (rows.find? fun row => some row.user == user)

/-- A user and a script, when both are given. -/
def pair? (user script : Json) : Except StatementError (Option (String × String)) := do
  let user ← text? user
  let script ← text? script
  return do return (← user, ← script)

def canAccess : Operation :=
  reading "can_access" ["user_id", "script_id"] [] fun a s => do
    match ← pair? (a.get "user_id") (a.get "script_id") with
    | some (user, script) => return .bool (s.canAccess user script)
    | none => return .bool false

def gateForm (user script : String) (s : Store) : Json :=
  formOrNull (Gate.form user script) (s.gate? user script)

def getGate : Operation :=
  reading "get_gate" ["user_id", "script_id"] [] fun a s => do
    match ← pair? (a.get "user_id") (a.get "script_id") with
    | some (user, script) => return gateForm user script s
    | none => return .null

def setGate : Operation where
  name := "set_bot_enabled"
  required := ["user_id", "script_id", "enabled"]
  optional := ["now"]
  perform c a s := do
    let user ← text? (a.get "user_id")
    let script ← text? (a.get "script_id")
    let user ← need "bot_gates.user_id" user
    let script ← need "bot_gates.script_id" script
    let now := match a.get "now" with
      | .int ms => Stamp.ofMillis ms
      | _ => c.now
    let s := s.setGate user script (a.get "enabled").isTruthy now
    return (gateForm user script s, s)

def scripts : List Operation :=
  [upsertScript, getScript, activate, deactivate, listActivations, getActivation, canAccess,
    getGate, setGate]

end Statement
end SignalDesk
