import SignalDesk.Json.Reader
import SignalDesk.Json.Writer
import SignalDesk.Store.Rows

namespace SignalDesk
namespace Store

/-- Sorts rows by a key of texts, in the order of code points; rows without a key come first. -/
def sortedBy {α : Type} (key : α → List String) (rows : List α) : List α :=
  rows.mergeSort fun a b => !decide (key b < key a)

/-- The tables by their names. -/
def tables (s : Store) : List (Text × Json) :=
  [("profiles", .list ((sortedBy (fun p => p.user.toList) s.profiles).map Profile.form)),
    ("scripts", .list ((sortedBy (fun r => r.id.toList) s.scripts).map SavedScript.rowForm)),
    ("activations", .list (s.activations.map ActivationRow.form)),
    ("bot_gates", .list ((sortedBy (fun g => [g.user, g.script]) s.gates).map GateRow.form)),
    ("trades", .list (s.trades.map Trade.form)),
    ("signals", .list (s.signals.map StoredSignal.form)),
    ("coin_ledger", .list (s.ledger.map LedgerEntry.form)),
    ("exchange_keys",
      .list ((sortedBy (fun k => [k.user, k.exchange]) s.keys).map ExchangeKeys.form)),
    ("feature_flags", .list ((sortedBy (fun f => f.name.toList) s.flags).map Flag.form)),
    ("api_tokens", .list ((sortedBy (fun t => [t.digest]) s.tokens).map Token.form))]

/-- The document also tells the last number given to an activation. -/
def document (s : Store) : Json := .object (("serial", .int s.activationSerial) :: s.tables)

/-- The fields of a row. -/
abbrev Row := List (Text × Json)

namespace Row

variable (r : Row) (name : String)

def text? : Option String :=
  match Json.field? r name with
  | some (.text (.whole s)) => some s
  | _ => none

/-- A text that may be null. -/
def textOrNull? : Option (Option String) :=
  match Json.field? r name with
  | some .null => some none
  | some (.text (.whole s)) => some (some s)
  | _ => none

def int? : Option Int :=
  match Json.field? r name with
  | some (.int n) => some n
  | _ => none

def intOrNull? : Option (Option Int) :=
  match Json.field? r name with
  | some .null => some none
  | some (.int n) => some (some n)
  | _ => none

def flag? : Option Bool := (int? r name).map (· != 0)

def real? : Option Real64 :=
  match Json.field? r name with
  | some (.real x) => some x
  | _ => none

def realOrNull? : Option (Option Real64) :=
  match Json.field? r name with
  | some .null => some none
  | some (.real x) => some (some x)
  | _ => none

def figure? : Option Figure :=
  match Json.field? r name with
  | some (.int n) => some (Amount.whole n)
  | some (.real x) => some (Amount.real x)
  | some (.text (.whole s)) => some (.text s)
  | _ => none

def side? : Option Side := (text? r name).bind Side.ofName?

def profile? : Option Profile := do
  return ⟨← textOrNull? r "user_id", ← figure? r "coins", ← int? r "subscription_active",
    ← text? r "created_at"⟩

def script? : Option SavedScript := do
  return ⟨← textOrNull? r "id", ← text? r "owner_id", ← text? r "name", ← text? r "script_content",
    ← text? r "symbol", ← text? r "allowed_timeframes", ← text? r "created_at",
    ← text? r "updated_at"⟩

def activation? : Option ActivationRow := do
  return ⟨← int? r "id", ← text? r "user_id", ← text? r "script_id", ← text? r "timeframe",
    ← flag? r "is_active", ← text? r "settings_json", ← text? r "created_at"⟩

def gate? : Option GateRow := do
  return ⟨← text? r "user_id", ← text? r "script_id",
    ⟨← flag? r "enabled", ← textOrNull? r "bot_started_at"⟩, ← text? r "updated_at"⟩

def trade? : Option Trade := do
  return {
    id := ← int? r "id", user := ← text? r "user_id", script := ← text? r "script_id"
    symbol := ← text? r "symbol", timeframe := ← text? r "timeframe"
    side := ← side? r "signal_type", candleTime := ← figure? r "candle_open_time"
    entryPrice := ← real? r "entry_price", exitPrice := ← realOrNull? r "exit_price"
    stopLoss := ← real? r "stop_loss", takeProfit := ← real? r "take_profit"
    quantity := ← textOrNull? r "quantity"
    status := ← (text? r "status").bind TradeStatus.ofName?
    error := ← textOrNull? r "error_message", order := ← textOrNull? r "order_id"
    reason := ← textOrNull? r "reason", createdAt := ← text? r "created_at"
    openedAt := ← textOrNull? r "opened_at", closedAt := ← textOrNull? r "closed_at" }

def signal? : Option StoredSignal := do
  return {
    id := ← int? r "id", script := ← text? r "script_id", side := ← side? r "signal_type"
    symbol := ← text? r "symbol", timeframe := ← text? r "timeframe", price := ← real? r "price"
    stopLoss := ← real? r "stop_loss", takeProfit := ← real? r "take_profit"
    candleTime := ← figure? r "candle_open_time", processed := ← flag? r "processed"
    createdAt := ← text? r "created_at", processedAt := ← textOrNull? r "processed_at" }

def entry? : Option LedgerEntry := do
  return ⟨← int? r "id", ← text? r "user_id", ← figure? r "coins_before",
    ← figure? r "coins_after", ← text? r "action", ← textOrNull? r "reason",
    ← text? r "performed_by", ← intOrNull? r "trade_id", ← text? r "created_at"⟩

def keys? : Option ExchangeKeys := do
  return ⟨← text? r "user_id", ← text? r "exchange", ← text? r "api_key", ← text? r "api_secret",
    ← text? r "created_at"⟩

def namedFlag? : Option Flag := do return ⟨← textOrNull? r "name", ← int? r "enabled"⟩

def token? : Option Token := do
  return ⟨← text? r "token_hash", ← text? r "user_id", ← (text? r "role").bind Role.ofName?,
    ← text? r "created_at"⟩

end Row

/-- The rows of a table in a document. -/
def rows? {α : Type} (fields : Row) (table : String) (row : Row → Option α) : Option (List α) :=
  match Json.field? fields table with
  | some (.list items) => items.mapM fun
    | .object fields => row fields
    | _ => none
  | _ => none

/-- The store in a document. -/
def ofDocument? : Json → Option Store
  | .object f => do
    return {
      profiles := ← rows? f "profiles" Row.profile?
      scripts := ← rows? f "scripts" Row.script?
      activations := ← rows? f "activations" Row.activation?
      activationSerial := ← Row.int? f "serial"
      gates := ← rows? f "bot_gates" Row.gate?
      trades := ← rows? f "trades" Row.trade?
      signals := ← rows? f "signals" Row.signal?
      ledger := ← rows? f "coin_ledger" Row.entry?
      keys := ← rows? f "exchange_keys" Row.keys?
      flags := ← rows? f "feature_flags" Row.namedFlag?
      tokens := ← rows? f "api_tokens" Row.token? }
  | _ => none

end Store
end SignalDesk
