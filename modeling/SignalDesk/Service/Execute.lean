import SignalDesk.Service.Basic

namespace SignalDesk
namespace Service

def defaultTimeframe : Json := .text "1h"

def parseScript (body : Body) : Reply :=
  match text (given body "scriptContent" (.text "")) with
  | .error e => .error e
  | .ok content =>
    match Script.parse content.characters with
    | .ok strategy => ok (.object [("strategy", strategy.form)])
    | .error e => deskError (.script e)

/-- A form with a field set. -/
def withField (name : String) (v : Json) : Json → Json
  | .object fields => .object (Json.setField name v fields)
  | w => w

def withDryRun (dryRun : Bool) : Json → Json := withField "dryRun" (.bool dryRun)

def evaluateContent (service : Service) (body : Body) : Program Desk Reply :=
  let content := Json.fieldOrNull body "scriptContent"
  let symbol := Json.fieldOrNull body "symbol"
  if !content.isTruthy || !symbol.isTruthy then
    .done <| error 400 "Missing scriptContent or symbol"
      (some (if content.isTruthy then "symbol" else "scriptContent"))
  else
    (DryRun.content service.config content symbol (given body "timeframe" defaultTimeframe)).map fun
      | .ok e => ok (withDryRun true e.unsavedForm)
      | .error e => deskError e

def indicators (service : Service) (symbol timeframe : Json) : Program Desk Reply :=
  if !symbol.isTruthy then .done (error 400 "symbol is required" (some "symbol"))
  else
    (DryRun.snapshot service.config symbol timeframe).map fun
      | .ok s => ok (s.form 5)
      | .error e => deskError e

/-- The activation that a live evaluation runs: the caller's own, or one with nothing set. -/
def liveActivation (c : Caller) (id : Label) (timeframe : Json) (e : Evaluation)
    (script : SavedScript) (s : Store) : Except DeskError Activation :=
  (DryRun.activationFor? (.text c.user) id.form timeframe s).map fun a =>
    let timeframe := (Label.ofJson? e.timeframe).getD .nothing
    a.getD ⟨c.user, id, timeframe, script.symbol, script.content, .empty⟩

/-- Evaluates a saved script and, unless it is a dry run, runs it for the caller. -/
def evaluateSaved (service : Service) (c : Caller) (id : Label) (timeframe : Json)
    (dryRun : Bool) : Program Desk Reply := do
  match ← DryRun.script service.config id.form timeframe (.text c.user) with
  | .error e => return deskError e
  | .ok (script, evaluation) =>
    let form := withDryRun dryRun (evaluation.savedForm id script)
    if dryRun then return ok form
    else
      match ← Program.read fun d => liveActivation c id timeframe evaluation script d.store with
      | .error e => return .error (.desk e)
      | .ok activation =>
        match ← Run.run service.config activation none none with
        | .error e => return .error (.desk e)
        | .ok result => return ok (withField "execution" result.form form)

/-- Whether a caller may use a script. -/
def mayUse (c : Caller) (script : String) (s : Store) : Bool :=
  c.role = .admin || s.canAccess c.user script

def noAccess : Reply := error 403 "Script not owned or activated by caller" none

def noScript (id : Label) : Reply := error 404 ("Script " ++ id.shown ++ " not found") none

/-- The label of a script that a request names, when there is one and the caller may use it. -/
def scriptFor (c : Caller) (id : Json) (s : Store) : Except Reply Label :=
  match DryRun.savedScript id s with
  | .error (.unknownScript label) => .error (noScript label)
  | .error e => .error (.error (.desk e))
  | .ok (label, _) => if label.stored.any (mayUse c · s) then .ok label else .error noAccess

def evaluateScript (service : Service) (c : Caller) (body : Body) : Program Desk Reply := do
  let id := Json.fieldOrNull body "scriptId"
  if !id.isTruthy then return error 400 "scriptId is required" (some "scriptId")
  else
    match ← Program.read fun d => scriptFor c id d.store with
    | .error reply => return reply
    | .ok id =>
      let dryRun := match Json.field? body "dryRun" with
        | some (.bool false) => false
        | _ => true
      evaluateSaved service c id (given body "timeframe" defaultTimeframe) dryRun

def evaluateAll (service : Service) : Program Desk Reply :=
  (Sweep.sweep service.config).map fun
    | .error e => .error (.desk e)
    | .ok report =>
      ok <| .object
        [("message",
            .text ("Evaluated " ++ toString report.counts.total ++ " activation(s)")),
          ("results", .list (report.results.map Run.form)), ("counts", report.counts.form)]

/-- A value, or the field of a body when the value does not count as given. -/
def orField (v body : Json) (name : String) : Except ServiceError Json :=
  if v.isTruthy then .ok v else (bodyOf body).map (Json.fieldOrNull · name)

/-- The market now for a symbol and a timeframe, which a body may give too. -/
def indicatorsFor (service : Service) (body symbol timeframe : Json) : Program Desk Reply :=
  let given : Except ServiceError (Json × Json) := do
    let symbol ← orField symbol body "symbol"
    let timeframe ← orField timeframe body "timeframe"
    return (symbol, if timeframe.isTruthy then timeframe else defaultTimeframe)
  match given with
  | .error e => .done (.error e)
  | .ok (symbol, timeframe) => indicators service symbol timeframe

/-- Does an action by its name. A body counts only where the action looks at it. -/
def execute (service : Service) (c : Caller) (action body symbol timeframe : Json) :
    Program Desk Reply :=
  let withBody (answer : Body → Program Desk Reply) : Program Desk Reply :=
    match bodyOf body with
    | .error e => .done (.error e)
    | .ok body => answer body
  match action.asText with
  | .whole "parse" => withBody fun body => .done (parseScript body)
  | .whole "evaluate" => withBody service.evaluateContent
  | .whole "indicators" => service.indicatorsFor body symbol timeframe
  | .whole "evaluate-script" => withBody (service.evaluateScript c)
  | .whole "evaluate-all" =>
    match requireAdmin c with
    | .error e => .done (.error e)
    | .ok _ => service.evaluateAll
  | .whole action => .done (error 400 ("Unknown action: " ++ action) none)
  | .torn points _ => .done (.error (.desk (.byteless points)))

end Service
end SignalDesk
