import SignalDesk.Json.Label
import SignalDesk.Json.Writer
import SignalDesk.Market.Candle
import SignalDesk.Market.Payload
import SignalDesk.Network.Program
import SignalDesk.Text.Upper

namespace SignalDesk

/-- Why one host was passed over. -/
inductive HostFault
  | status (n : Int)
  | malformed (fault : PayloadFault)
  | transport (kind : FaultKind)
deriving DecidableEq, Repr

namespace HostFault

def isRateLimit : HostFault → Bool
  | status n => n == 418 || n == 429
  | _ => false

def message : HostFault → String
  | status n => "HTTP " ++ toString n
  | malformed fault => "malformed payload (" ++ fault.message ++ ")"
  | transport kind => "transport error (" ++ kind.name ++ ")"

end HostFault

structure HostFailure where
  host : String
  fault : HostFault
deriving DecidableEq, Repr

def HostFailure.message (f : HostFailure) : String := f.host ++ ": " ++ f.fault.message

/-- Why no host gave an answer. `fault` and `payload` end the search at the host where they
arise. -/
inductive FetchError
  | rateLimited
  | unavailable (failures : List HostFailure)
  | fault (f : Fault)
  | payload (fault : PayloadFault)
deriving DecidableEq, Repr

def FetchError.message : FetchError → String
  | rateLimited => "All market data hosts are rate limiting"
  | unavailable failures =>
    "All market data hosts failed: " ++ "; ".intercalate (failures.map HostFailure.message)
  | fault f => f.message
  | payload f => f.message

namespace Hosts

/-- What to make of one host's reply. -/
inductive Judgement (α : Type)
  | accept (a : α)
  | pass (fault : HostFault)
  | abort (e : FetchError)

/-- A reply counts when its status is 2xx and its payload reads. -/
def judge {α : Type} (parse : Json → Payload.Read α) : Reply → Judgement α
  | .answer status body =>
    if status < 200 || 299 < status then .pass (.status status)
    else
      match (Payload.document body).bind parse with
      | .ok a => .accept a
      | .error fault =>
        if fault.endsSearch then .abort (.payload fault) else .pass (.malformed fault)
  | .fault f => if f.kind.isTransport then .pass (.transport f.kind) else .abort (.fault f)
  | .silence => .pass (.transport .readTimeout)

/-- What to report when every host was passed over: that all asked to wait, or each failure. -/
def exhausted (failures : List HostFailure) : FetchError :=
  if !failures.isEmpty && failures.all (·.fault.isRateLimit) then .rateLimited
  else .unavailable failures

/-- Asks the hosts in order; `failures` are those of the hosts before, the latest first. -/
def askFrom {σ α : Type} (request : String → Request) (parse : Json → Payload.Read α)
    (failures : List HostFailure) : (hosts : List String) → Program σ (Except FetchError α)
  | [] => .done (.error (exhausted failures.reverse))
  | host :: hosts =>
    .ask (request host) fun reply =>
      match judge parse reply with
      | .accept a => .done (.ok a)
      | .abort e => .done (.error e)
      | .pass fault => askFrom request parse (⟨host, fault⟩ :: failures) hosts

end Hosts

/-- The market data service: its hosts, and how long to wait for each. -/
structure Market where
  hosts : List String
  timeout : Real64
deriving DecidableEq, Repr

namespace Market

variable {σ : Type}

def get {α : Type} (m : Market) (path : String) (params : List (String × ParamValue))
    (parse : Json → Payload.Read α) : Program σ (Except FetchError α) :=
  Hosts.askFrom (fun host => ⟨.get, host ++ path, params, m.timeout, none⟩) parse [] m.hosts

/-- The latest candles of a symbol, oldest first. -/
def fetchCandles (m : Market) (symbol : String) (timeframe : Label) (limit : Int) :
    Program σ (Except FetchError (List (Candle Real64))) :=
  m.get "/klines"
    [("symbol", .text (Text.upper symbol)),
      ("interval", .text (Timeframe.interval (timeframe.stored.getD ""))), ("limit", .int limit)]
    Payload.candles

def fetchTicker (m : Market) (symbol : String) : Program σ (Except FetchError Ticker) :=
  m.get "/ticker/24hr" [("symbol", .text (Text.upper symbol))] Payload.ticker

def fetchTickers (m : Market) (symbols : List String) :
    Program σ (Except FetchError (List Ticker)) :=
  let names := Json.list (symbols.map fun s => .text (Text.upper s))
  m.get "/ticker/24hr" [("symbols", .text (names.write Json.Spacing.compact))] Payload.tickers

end Market
end SignalDesk
