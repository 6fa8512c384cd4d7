import SignalDesk.CommandLine
import SignalDesk.Network.Wire
import SignalDesk.Store.Document

/-!
# The command

Runs a desk from the command line. Requests go out on standard output, one JSON line each, and a
carrier answers each on standard input; a line that tells a `clock` sets the desk's. The first line
only does that. When the input has ended, no request reaches its host any more. The store is a file,
written before each request and at the end.
-/

namespace SignalDesk.Command

/-- The settings that the command takes from the environment. -/
def settingNames : List String :=
  [Environment.fileSwitch, "DB_PATH", "LOG_LEVEL", "API_PORT", "MARKET_DATA_HOSTS",
    "EXCHANGE_BASE_URL", "CANDLE_LIMIT", "SWEEP_INTERVAL_SECONDS", "HTTP_TIMEOUT_SECONDS",
    "ORDER_TIMEOUT_SECONDS", "ORDER_QUOTE_AMOUNT", "MAX_CONCURRENT_TUPLES", "STRATEGY_CACHE_SIZE",
    "DEFAULT_USER_COINS"]

def readFile? (path : String) : IO (Option String) := do
  try return some (← IO.FS.readFile path) catch _ => return none

def environment : IO Environment :=
  settingNames.filterMapM fun name => return (← IO.getEnv name).map (name, ·)

def readStore (path : String) : IO Store := do
  return (((← readFile? path).bind Json.read?).bind Store.ofDocument?).getD .empty

def writeStore (path : String) (store : Store) : IO Unit :=
  IO.FS.writeFile path (store.document.write Json.Spacing.spaced)

/-- The fields of the carrier's next line, none after the last. -/
def readLine? : IO (Option (List (Text × Json))) := do
  let line ← (← IO.getStdin).getLine
  if line.isEmpty then return none
  match Json.read? line with
  | some (.object fields) => return some fields
  | _ => return some []

/-- What comes back for a request that nobody carries. -/
def uncarried : Reply := .fault ⟨.connectError, "All connection attempts failed"⟩

def setClock (fields : List (Text × Json)) (d : Desk) : Desk :=
  match Json.field? fields "clock" with
  | some (.int ms) => { d with clock := ms }
  | _ => d

/-- Runs a program with the carrier. -/
def carry {α : Type} (path : String) : Program Desk α → Desk → IO (α × Desk)
  | .done a, d => return (a, d)
  | .ask r k, d => do
    writeStore path d.store
    let out ← IO.getStdout
    out.putStrLn (r.form.write Json.Spacing.compact)
    out.flush
    match ← readLine? with
    | some fields => carry path (k (Reply.ofFields fields)) (setClock fields d)
    | none => carry path (k uncarried) d
  | .pause p, d => do
    IO.sleep 1000
    carry path p d
  | .turn p, d => carry path p d
  | .act f k, d => carry path (k d) (f d)

/-- How many sweeps a command makes at most. -/
def maxSweeps : Nat := 1000000000

def start (config : Config) (mode : Mode) : IO UInt32 := do
  let store ← readStore config.database
  let desk := setClock ((← readLine?).getD []) (.start config store 0)
  let (result, desk) ← carry config.database (CommandLine.activity config maxSweeps mode) desk
  writeStore config.database desk.store
  match result with
  | .ok _ => return 0
  | .error e =>
    IO.eprintln e.message
    return 1

end SignalDesk.Command

open SignalDesk in
def main (arguments : List String) : IO UInt32 := do
  match CommandLine.start arguments (← Command.environment) (← Command.readFile? ".env") with
  | .ok (mode, config) => Command.start config mode
  | .error (.exit e) =>
    IO.eprintln "usage: signaldesk [-h] [--mode serve|sweep|run]"
    return e.code.toNat.toUInt32
  | .error (.config e) =>
    IO.eprintln e.message
    return 1
