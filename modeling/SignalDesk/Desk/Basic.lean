import SignalDesk.Config.Basic
import SignalDesk.Market.Hosts
import SignalDesk.Signal.Rule
import SignalDesk.Store.Signals
import SignalDesk.Store.Scripts
import SignalDesk.Store.Trades
import SignalDesk.Strategy.Cache
import SignalDesk.Sweep.Report

namespace SignalDesk

structure Desk where
  store : Store
  /-- Milliseconds since 1970. -/
  clock : Int
  cache : StrategyCache
  running : Bool
  sweeps : Nat
  lastSweep : Option Sweep

namespace Desk

/-- The desk as it starts on a store. -/
def start (config : Config) (store : Store) (clock : Int) : Desk :=
  ⟨store.initialised, clock, .ofSize config.cacheSize, false, 0, none⟩

/-- The clock's stamp. -/
def now (d : Desk) : String := Stamp.ofMillis d.clock

/-- The loop ends after the sweep that is going on. -/
def stop (d : Desk) : Desk := { d with running := false }

end Desk

/-- Why an activity of the desk gives no result. -/
inductive DeskError
  | script (e : ScriptError)
  | fetch (e : FetchError)
  | rule (e : RuleError)
  | stamp (e : StampError)
  | store (e : StoreError)
  | overrides (fault : OverridesFault)
  | timeframes (fault : ReadFault)
  | unknownScript (id : Label)
  | notInOrder (kind : String)
  | notText (kind : String)
  | unhashable (kind : String)
  | byteless (text : List Point)

def RuleError.message : RuleError → String
  | history e => e.message
  | ruleMissing => ScriptError.ruleMissing.fullMessage
  | thresholdMissing => "the price threshold is missing"

def DeskError.message : DeskError → String
  | script e => e.fullMessage
  | fetch e => e.message
  | rule e => e.message
  | stamp e => e.message
  | store e => e.message
  | overrides f => f.message
  | timeframes f => f.message
  | unknownScript id => id.form.shown
  | notInOrder kind => "'<' not supported between instances of '" ++ kind ++ "' and 'int'"
  | notText kind => "'" ++ kind ++ "' is no text"
  | unhashable kind => "unhashable type: '" ++ kind ++ "'"
  | byteless text => Text.byteless text

def Config.market (c : Config) : Market := ⟨c.marketHosts, c.httpTimeout⟩

def Config.exchange (c : Config) (keys : Keys) : Exchange := ⟨c.exchangeUrl, c.httpTimeout, keys⟩

end SignalDesk
