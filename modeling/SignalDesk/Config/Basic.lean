import SignalDesk.Config.Environment
import SignalDesk.Number.Numeral
import SignalDesk.Text.Quoted

namespace SignalDesk

structure Config where
  database : String
  logLevel : String
  apiPort : Int
  marketHosts : List String
  exchangeUrl : String
  candleLimit : Int
  sweepInterval : Int
  httpTimeout : Real64
  orderTimeout : Real64
  quoteAmount : Real64
  maxConcurrent : Int
  cacheSize : Int
  startingCoins : Int
deriving DecidableEq, Repr

/-- Why an environment gives no configuration. -/
inductive ConfigError
  | missing (name : String)
  | notInteger (name value : String)
  | notNumber (name value : String)
  | unsettable (name : String)
deriving DecidableEq, Repr

def ConfigError.message : ConfigError → String
  | missing name => "Missing required environment variable(s): " ++ name
  | notInteger name value => name ++ " must be an integer, got " ++ Text.quoted value
  | notNumber name value => name ++ " must be a number, got " ++ Text.quoted value
  | unsettable name => "No environment can hold " ++ Text.quoted name

namespace Config

def defaultHosts : List String :=
  ["https://api.binance.com/api/v3", "https://api.binance.us/api/v3",
    "https://api1.binance.com/api/v3", "https://api2.binance.com/api/v3",
    "https://api3.binance.com/api/v3"]

def defaultExchange : String := "https://api.binance.com"

/-- Drops the slashes at the end. -/
def dropSlashes (cs : List Char) : List Char := (cs.reverse.dropWhile (· == '/')).reverse

/-- Hosts are separated by commas; blank ones do not count. -/
def hosts (value : String) : List String :=
  let parts := (Text.splitOn ',' value.toList).map (Text.trim Text.isBlank)
  let hosts := (parts.filter (!·.isEmpty)).map fun h => String.ofList (dropSlashes h)
  if hosts.isEmpty then defaultHosts else hosts

def integer (env : Environment) (name default : String) : Except ConfigError Int :=
  let value := (env.value? name).getD default
  match Numeral.integer? value with
  | some n => .ok n
  | none => .error (.notInteger name value)

def real (env : Environment) (name default : String) : Except ConfigError Real64 :=
  let value := (env.value? name).getD default
  match Numeral.real? value with
  | some x => .ok x
  | none => .error (.notNumber name value)

/-- The configuration of an environment; the first variable that does not read is reported. -/
def read (env : Environment) : Except ConfigError Config := do
  let database := (env.value? "DB_PATH").getD ""
  if database.isEmpty then .error (.missing "DB_PATH")
  else
    let apiPort ← integer env "API_PORT" "8080"
    let candleLimit ← integer env "CANDLE_LIMIT" "200"
    let sweepInterval ← integer env "SWEEP_INTERVAL_SECONDS" "60"
    let httpTimeout ← real env "HTTP_TIMEOUT_SECONDS" "10"
    let orderTimeout ← real env "ORDER_TIMEOUT_SECONDS" "15"
    let quoteAmount ← real env "ORDER_QUOTE_AMOUNT" "10"
    let maxConcurrent ← integer env "MAX_CONCURRENT_TUPLES" "8"
    let cacheSize ← integer env "STRATEGY_CACHE_SIZE" "256"
    let startingCoins ← integer env "DEFAULT_USER_COINS" "5"
    let exchange := (env.value? "EXCHANGE_BASE_URL").getD defaultExchange
    return {
      database
      logLevel := (env.value? "LOG_LEVEL").getD "INFO"
      apiPort
      marketHosts := hosts ((env.value? "MARKET_DATA_HOSTS").getD "")
      exchangeUrl := String.ofList (dropSlashes exchange.toList)
      candleLimit, sweepInterval, httpTimeout, orderTimeout, quoteAmount, maxConcurrent, cacheSize,
      startingCoins }

/-- The configuration of an environment and of a file with further variables. -/
def readWith (env : Environment) (file : Option String) : Except ConfigError Config :=
  match file.filter fun _ => env.readsFiles with
  | none => read env
  | some text =>
    match env.withFile text with
    | .ok env => read env
    | .error fault => .error (.unsettable fault.name)

end Config
end SignalDesk
