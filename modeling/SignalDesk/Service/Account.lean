import SignalDesk.Exchange.Refusal
import SignalDesk.Service.Execute

namespace SignalDesk
namespace Service

/-- Turns the caller's gate for a script on or off; turning it on makes sure of a profile. The
script is shown by its label. -/
def setGate (service : Service) (c : Caller) (label : Label) (script : String) (enabled : Bool)
    (d : Desk) : Reply × Desk :=
  if !d.store.canAccess c.user script then (noAccess, d)
  else
    let profiled :=
      if enabled then
        d.store.ensureProfile c.user (Amount.whole service.config.startingCoins) 0 d.now
      else .ok d.store
    match profiled with
    | .error e => (storeError e, d)
    | .ok store =>
      let store := store.setGate c.user script enabled d.now
      let startedAt := (store.gate? c.user script).bind (·.startedAt)
      (ok (.object
          [("scriptId", label.form), ("enabled", .bool enabled),
            ("botStartedAt", .ofText? startedAt)]),
        { d with store := store })

/-- Turns the gate for the script that a request names. -/
def setGateFor (service : Service) (c : Caller) (script : Json) (enabled : Bool) (d : Desk) :
    Reply × Desk :=
  match Store.bound script with
  | .error e => (storeError e, d)
  | .ok label =>
    match label.stored with
    | none => (noAccess, d)
    | some script => service.setGate c label script enabled d

/-- The caller's latest trades. -/
def trades (c : Caller) (limit status script : Json) (s : Store) : Reply :=
  let filter : Except StoreError TradeFilter := do
    return ⟨← Store.wantedText status, c.user, ← Store.wantedText script⟩
  match filter.bind fun f => (Store.rowLimit limit).bind (s.tradesOf f) with
  | .error e => storeError e
  | .ok trades => ok (tradesForm trades)

/-- Closes an open trade of the caller at a price. -/
def closeTrade (c : Caller) (id : Json) (body : Body) (d : Desk) : Reply × Desk :=
  match (Json.fieldOrNull body "exitPrice").toReal with
  | .error fault =>
    (if fault.isOverflow then .error (.number fault)
     else error 400 "exitPrice is required" (some "exitPrice"), d)
  | .ok price =>
    let unknown := error 404 ("No open trade " ++ id.asText.characters) none
    match Store.rowNumber? id with
    | .error e => (storeError e, d)
    | .ok none => (unknown, d)
    | .ok (some id) =>
      match d.store.close id price (some c.user) d.now with
      | (false, _) => (unknown, d)
      | (true, store) =>
        (ok (((store.trade? id).map Trade.form).getD .null), { d with store := store })

/-- How a trade ended, for key warnings. -/
def recordOf (t : Trade) : OrderRecord := ⟨t.status = .failed, .ofText? t.error⟩

def keyWindow : Int := 3

/-- Whether the caller should reconnect the exchange key. -/
def keyStatus (c : Caller) (s : Store) : Reply :=
  match s.tradesOf ⟨"", c.user, ""⟩ keyWindow with
  | .error e => storeError e
  | .ok (trades, _) =>
    let warning := ((OrderRecord.warning? keyWindow (trades.map recordOf)).toOption).join
    ok (.object [("needsReconnect", .bool warning.isSome), ("warning", .ofText? warning)])

def coins (c : Caller) (s : Store) : Reply :=
  match s.ledgerOf c.user 20 with
  | .error e => storeError e
  | .ok entries =>
    ok (.object
      [("coins", (s.balance c.user).form), ("ledger", .list (entries.map LedgerEntry.form))])

/-- Adds coins to the balance of a user, or takes them away. -/
def adjustCoins (admin : Caller) (user : Json) (body : Body) (d : Desk) : Reply × Desk :=
  match (Json.fieldOrNull body "delta").toInteger with
  | .error fault =>
    (if fault.isOverflow then .error (.number fault)
     else error 400 "delta must be an integer" (some "delta"), d)
  | .ok delta =>
    let note : LedgerNote :=
      ⟨.text Store.adminAction, given body "reason" (.text "manual adjustment"), .text admin.user⟩
    let unknown := error 404 ("Unknown user " ++ user.asText.characters) none
    match Store.cell user with
    | .error e => (storeError e, d)
    | .ok none => (unknown, d)
    | .ok (some key) =>
      match d.store.adjust key (.whole delta) note d.now with
      | .error .unknownUser => (unknown, d)
      | .error (.store e) => (storeError e, d)
      | .ok ((before, after), store) =>
        (ok (.object
            [("userId", user), ("coinsBefore", before.form), ("coinsAfter", after.form)]),
          { d with store := store })

/-- The state of the sweep loop and the counts of the last sweep. -/
def status (service : Service) (d : Desk) : Reply :=
  let report (r : Sweep) : Json :=
    .object
      [("startedAt", .text r.startedAt), ("finishedAt", .ofText? r.finishedAt),
        ("counts", r.counts.form)]
  let connected := service.connected
  ok (.object
    [("running", .bool (connected && d.running)),
      ("sweepCount", .int (if connected then d.sweeps else 0)),
      ("lastSweep", ((if connected then d.lastSweep else none).map report).getD .null)])

def health : Reply := ok (.object [("status", .text "ok")])

end Service
end SignalDesk
