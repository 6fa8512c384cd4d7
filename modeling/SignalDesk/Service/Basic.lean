import SignalDesk.Service.Forms
import SignalDesk.Store.Rows
import SignalDesk.Sweep.Basic

namespace SignalDesk

/-- The service of a desk; one that is not connected has no desk behind it. -/
structure Service where
  config : Config
  connected : Bool

structure Answer where
  status : Int
  body : Json

/-- Why a request is not answered by its handler. -/
inductive ServiceError
  | refused (status : Int) (detail : String)
  | desk (e : DeskError)
  | number (fault : NumberFault)
  | notText

structure Caller where
  user : String
  role : Role
deriving DecidableEq, Repr

namespace Service

abbrev Reply := Except ServiceError Answer

def ok (body : Json) : Reply := .ok ⟨200, body⟩

/-- An answer that tells an error, and perhaps the field at fault. -/
def error (status : Int) (message : String) (field : Option String) : Reply :=
  .ok ⟨status, .object (Json.given [("error", some (.text message)), ("field", field.map .text)])⟩

/-- How an error of the desk is answered: the script's author is told, and so is who asked while the
market gave nothing. -/
def deskError : DeskError → Reply
  | .script e => error 400 e.message (some e.field.name)
  | .fetch .rateLimited => error 429 FetchError.rateLimited.message none
  | .fetch (.unavailable failures) => error 502 (FetchError.unavailable failures).message none
  | e => .error (.desk e)

def bearer : String := "Bearer "

def unauthorized (detail : String) : ServiceError := .refused 401 detail

/-- The token that a request carries. -/
def tokenOf (authorization : Json) : Except ServiceError Text :=
  let missing := unauthorized "Missing bearer token"
  match authorization with
  | .text s =>
    if (bearer.toList.map .char).isPrefixOf s.points then
      .ok (.ofPoints (s.points.drop bearer.length))
    else .error missing
  | v => .error (if v.isTruthy then .notText else missing)

/-- Who sends a request, by the token it carries. A torn token has no digest to look for. -/
def caller (service : Service) (authorization : Json) (s : Store) : Except ServiceError Caller := do
  match ← tokenOf authorization, service.connected with
  | .whole token, true =>
    match s.resolveToken? (Text.strip token) with
    | some (user, role) => return ⟨user, role⟩
    | none => throw (unauthorized "Invalid token")
  | .torn points _, true => throw (.desk (.byteless points))
  | _, false => throw (unauthorized "Invalid token")

/-- Callers that may do what only administrators may. -/
def requireAdmin (c : Caller) : Except ServiceError Unit :=
  if c.role = .admin then .ok () else .error (.refused 403 "Admin only")

abbrev Body := List (Text × Json)

/-- A field that is given, and `default` for one that counts as not given. -/
def given (body : Body) (name : String) (default : Json) : Json :=
  let v := Json.fieldOrNull body name
  if v.isTruthy then v else default

def text (v : Json) : Except ServiceError Text :=
  match v with
  | .text s => .ok s
  | _ => .error .notText

/-- The fields of a body; one that is not given has none. -/
def bodyOf (v : Json) : Except ServiceError Body :=
  match v with
  | .object fields => .ok fields
  | v => if v.isTruthy then .error .notText else .ok []

/-- An atomic request. -/
def atomically (step : Desk → Reply × Desk) : Program Desk Reply := Program.atomically step

def storeError (e : StoreError) : Reply := .error (.desk (.store e))

end Service
end SignalDesk
