import SignalDesk.Json.Reader
import SignalDesk.Store.Basic

namespace SignalDesk

def Profile.form (p : Profile) : Json :=
  .object
    [("user_id", .ofText? p.user), ("coins", p.coins.form),
      ("subscription_active", .int p.subscription), ("created_at", .text p.createdAt)]

/-- A script with its timeframes shown in some way. -/
def SavedScript.formWith (timeframes : Json) (r : SavedScript) : Json :=
  .object
    [("id", .ofText? r.id), ("owner_id", .text r.owner), ("name", .text r.name),
      ("script_content", .text r.content), ("symbol", .text r.symbol),
      ("allowed_timeframes", timeframes),
      ("created_at", .text r.createdAt), ("updated_at", .text r.updatedAt)]

/-- A script as it is looked up; its timeframes have to read. -/
def SavedScript.form (r : SavedScript) : Except ReadFault Json :=
  (Json.read r.timeframes).map fun timeframes => r.formWith timeframes

/-- The row of a script, in which the timeframes are a document. -/
def SavedScript.rowForm (r : SavedScript) : Json := r.formWith (.text r.timeframes)

def ActivationRow.form (a : ActivationRow) : Json :=
  .object
    [("id", .int a.id), ("user_id", .text a.user), ("script_id", .text a.script),
      ("timeframe", .text a.timeframe), ("is_active", .ofFlag a.active),
      ("settings_json", .text a.overrides), ("created_at", .text a.createdAt)]

def GateRow.form (g : GateRow) : Json :=
  .object
    [("user_id", .text g.user), ("script_id", .text g.script), ("enabled", .ofFlag g.gate.enabled),
      ("bot_started_at", .ofText? g.gate.startedAt), ("updated_at", .text g.updatedAt)]

def Trade.form (t : Trade) : Json :=
  .object
    [("id", .int t.id), ("user_id", .text t.user), ("script_id", .text t.script),
      ("symbol", .text t.symbol), ("timeframe", .text t.timeframe),
      ("signal_type", .text t.side.name), ("candle_open_time", t.candleTime.form),
      ("entry_price", .real t.entryPrice), ("exit_price", .ofReal? t.exitPrice),
      ("stop_loss", .real t.stopLoss), ("take_profit", .real t.takeProfit),
      ("quantity", .ofText? t.quantity), ("status", .text t.status.name),
      ("error_message", .ofText? t.error), ("order_id", .ofText? t.order),
      ("reason", .ofText? t.reason), ("created_at", .text t.createdAt),
      ("opened_at", .ofText? t.openedAt), ("closed_at", .ofText? t.closedAt)]

def StoredSignal.form (r : StoredSignal) : Json :=
  .object
    [("id", .int r.id), ("script_id", .text r.script), ("signal_type", .text r.side.name),
      ("symbol", .text r.symbol), ("timeframe", .text r.timeframe), ("price", .real r.price),
      ("stop_loss", .real r.stopLoss), ("take_profit", .real r.takeProfit),
      ("candle_open_time", r.candleTime.form), ("processed", .ofFlag r.processed),
      ("created_at", .text r.createdAt), ("processed_at", .ofText? r.processedAt)]

def LedgerEntry.form (e : LedgerEntry) : Json :=
  .object
    [("id", .int e.id), ("user_id", .text e.user), ("coins_before", e.before.form),
      ("coins_after", e.after.form), ("action", .text e.action), ("reason", .ofText? e.reason),
      ("performed_by", .text e.performedBy), ("trade_id", .ofInt? e.trade),
      ("created_at", .text e.createdAt)]

def ExchangeKeys.form (k : ExchangeKeys) : Json :=
  .object
    [("user_id", .text k.user), ("exchange", .text k.exchange), ("api_key", .text k.key),
      ("api_secret", .text k.secret), ("created_at", .text k.createdAt)]

/-- Keys without the time they were saved. -/
def ExchangeKeys.credentialsForm (k : ExchangeKeys) : Json :=
  .object
    [("user_id", .text k.user), ("exchange", .text k.exchange), ("api_key", .text k.key),
      ("api_secret", .text k.secret)]

def Flag.form (f : Flag) : Json :=
  .object [("name", .ofText? f.name), ("enabled", .int f.enabled)]

def Token.form (t : Token) : Json :=
  .object
    [("token_hash", .text t.digest), ("user_id", .text t.user), ("role", .text t.role.name),
      ("created_at", .text t.createdAt)]

/-- Trades and how many there are in all. -/
def tradesForm (trades : List Trade × Nat) : Json :=
  .object [("trades", .list (trades.1.map Trade.form)), ("total", .int trades.2)]

end SignalDesk
