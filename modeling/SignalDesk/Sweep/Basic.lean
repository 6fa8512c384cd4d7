import SignalDesk.Network.Together
import SignalDesk.Run.Basic

namespace SignalDesk
namespace Sweep

/-- The result of a run that may have broken off. -/
def settle (a : Activation) : Run.Ending → Run
  | .ok r => r
  | .error e => a.result .failed ("ERROR: " ++ e.message) none

/-- Whether a run may start beside others: there is a free slot, where slots are counted, and the
same activation is not running. -/
def admits (slots : Option Int) (running : List (Label × Label × Label))
    (key : Label × Label × Label) : Bool :=
  slots.all (fun n => decide ((running.length : Int) < max 1 n)) && !running.contains key

/-- How often a run stops at most: it gives way three times and may wait for the exchange. -/
def maxStops : Nat := 5

/-- Runs of activations side by side, in the order in which they come. -/
def together {α : Type} (slots : Option Int) (runs : List (Activation × Program Desk α)) :
    Program Desk (List α) :=
  Program.together (admits slots) (maxStops * runs.length) (runs.map fun (a, p) => (a.key, p))

/-- Runs activations side by side. -/
def runAll (config : Config) (slots : Option Int) (signal : Option (Signal Real64))
    (activations : List Activation) : Program Desk (List Run) :=
  together slots (activations.map fun a => (a, (Run.run config a none signal).map (settle a)))

/-- Keeps the report of a sweep that has come to its end. -/
def finish (startedAt : String) (results : List Run) (d : Desk) : Sweep × Desk :=
  let report : Sweep := ⟨startedAt, some d.now, results⟩
  (report, { d with sweeps := d.sweeps + 1, lastSweep := some report })

/-- Runs every active activation once. -/
def sweep (config : Config) : Program Desk (Except DeskError Sweep) := do
  let (startedAt, activations) ← Program.read fun d => (d.now, d.store.activations? "" "")
  match activations with
  | .error fault => return .error (.overrides fault)
  | .ok activations =>
    let results ← runAll config (some config.maxConcurrent) none activations
    return .ok (← Program.atomically (finish startedAt results))

/-- Waits up to a number of seconds, as long as the loop is not stopped. -/
def wait : (seconds : Nat) → Program Desk Unit
  | 0 => .done ()
  | seconds + 1 => .act id fun d => if d.running then .pause (wait seconds) else .done ()

/-- Sweeps again and again: up to `maxCycles` times if that is above zero, and until the loop is
stopped. `none` if `fuel` sweeps did not bring it to its end. -/
def cycles (config : Config) (interval : Nat) (maxCycles : Int) :
    (fuel : Nat) → (cycle : Int) → Program Desk (Option (List Sweep))
  | 0, _ => .done none
  | fuel + 1, cycle => do
    let report ← sweep config
    let rest ←
      if 0 < maxCycles && maxCycles ≤ cycle then pure (some [])
      else do
        wait interval
        if ← Program.read Desk.running then cycles config interval maxCycles fuel (cycle + 1)
        else pure (some [])
    return rest.map fun reports => report.toOption.toList ++ reports

/-- The sweep loop. A sweep that breaks off gives no report. -/
def loop (config : Config) (interval : Option Int) (maxCycles : Int) (fuel : Nat) :
    Program Desk (Option (List Sweep)) := do
  Program.modify fun d => { d with running := true }
  let reports ← cycles config (interval.getD config.sweepInterval).toNat maxCycles fuel 1
  Program.modify Desk.stop
  return reports

/-- A kept signal as runs take it; it was asked for by `id`. -/
def pushedSignal (id : Label) (r : StoredSignal) : Signal Real64 :=
  ⟨some r.side, r.price, r.stopLoss, r.takeProfit, .pushed id, r.candleTime.form⟩

/-- What a kept signal calls for: its number, the signal and the activations to run. -/
structure Targets where
  id : Int
  signal : Signal Real64
  activations : List Activation

/-- The runs that a kept signal calls for; none if it is unknown or was handed on. -/
def targets (id : Json) (s : Store) : Except DeskError (Option Targets) := do
  let label ← (Store.bound id).mapError .store
  match ((Figure.ofLabel? label).bind Figure.whole?).bind s.signal? with
  | none => return none
  | some row =>
    if row.processed then return none
    else
      let activations ← (s.activations? row.script row.timeframe).mapError .overrides
      return some ⟨row.id, pushedSignal label row, activations⟩

/-- Hands a kept signal on to every activation of its script and timeframe, and then marks it. -/
def dispatch (config : Config) (id : Json) : Program Desk (Except DeskError (List Run)) := do
  match ← Program.read fun d => targets id d.store with
  | .error e => return .error e
  | .ok none => return .ok []
  | .ok (some t) =>
    let results ← runAll config none (some t.signal) t.activations
    Program.modify fun d => { d with store := (d.store.markProcessed t.id d.now).2 }
    return .ok results

end Sweep
end SignalDesk
