import SignalDesk.Service.Account
import SignalDesk.Service.Webhook

namespace SignalDesk

/-- A request to the service, with the arguments of its handler. -/
inductive Route
  | health
  | status
  | execute (action body symbol timeframe : Json)
  | ingestSignal (body : Json)
  | setGate (script : Json) (enabled : Bool)
  | trades (limit status script : Json)
  | closeTrade (id body : Json)
  | keyStatus
  | coins
  | adjustCoins (user body : Json)

namespace Route

/-- Requests that anyone may send. -/
def isOpen : Route → Bool
  | health | status => true
  | _ => false

/-- Requests that only administrators may send. -/
def needsAdmin : Route → Bool
  | ingestSignal _ | adjustCoins _ _ => true
  | _ => false

end Route

namespace Service

/-- The fields of a body that is read field by field. -/
def fieldsOf : Json → Body
  | .object fields => fields
  | _ => []

/-- Answers a request of a known caller. -/
def handle (service : Service) (c : Caller) : Route → Program Desk Reply
  | .health => .done health
  | .status => Program.read service.status
  | .execute action body symbol timeframe => service.execute c action body symbol timeframe
  | .ingestSignal body =>
    match body with
    | .object fields => service.ingestSignal fields
    | _ => .done (.error .notText)
  | .setGate script enabled => atomically (service.setGateFor c script enabled)
  | .trades limit status script => Program.read fun d => trades c limit status script d.store
  | .closeTrade id body => atomically (closeTrade c id (fieldsOf body))
  | .keyStatus => Program.read fun d => keyStatus c d.store
  | .coins => Program.read fun d => coins c d.store
  | .adjustCoins user body => atomically (adjustCoins c user (fieldsOf body))

def anyone : Caller := ⟨"", .user⟩

/-- Who a request is answered for: its sender must be known, unless anyone may send it. -/
def callerFor (service : Service) (authorization : Json) (r : Route) (s : Store) :
    Except ServiceError Caller :=
  if r.isOpen then .ok anyone
  else do
    let c ← service.caller authorization s
    if r.needsAdmin then requireAdmin c
    return c

/-- Answers a request with the authorization it carries. -/
def respond (service : Service) (authorization : Json) (r : Route) : Program Desk Reply := do
  match ← Program.read fun d => service.callerFor authorization r d.store with
  | .error e => return .error e
  | .ok c => service.handle c r

end Service
end SignalDesk
