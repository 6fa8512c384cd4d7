import SignalDesk.Activation.Basic
import SignalDesk.Signal.Basic

namespace SignalDesk

inductive Outcome
  | skippedGated
  | skippedNoSignal
  | skippedNoBudget
  | skippedDuplicate
  | executed
  | executionFailed
  | failed
  | deferred
deriving DecidableEq, Repr

namespace Outcome

def all : List Outcome :=
  [skippedGated, skippedNoSignal, skippedNoBudget, skippedDuplicate, executed, executionFailed,
    failed, deferred]

def name : Outcome → String
  | skippedGated => "SKIPPED_GATED"
  | skippedNoSignal => "SKIPPED_NO_SIGNAL"
  | skippedNoBudget => "SKIPPED_NO_BUDGET"
  | skippedDuplicate => "SKIPPED_DUPLICATE"
  | executed => "EXECUTED"
  | executionFailed => "EXECUTION_FAILED"
  | failed => "FAILED"
  | deferred => "DEFERRED"

def ofName? (s : String) : Option Outcome := all.find? (·.name == s)

def isSkip : Outcome → Bool
  | skippedGated | skippedNoSignal | skippedNoBudget | skippedDuplicate => true
  | _ => false

def isFailure : Outcome → Bool
  | failed | executionFailed => true
  | _ => false

end Outcome

/-- The result of a run, with the names as they were given; `signal` is the one it acted on. -/
structure RunResult (α : Type) where
  user : Label
  script : Label
  timeframe : Label
  outcome : Outcome
  reason : Label
  trade : Option Int
  signal : Option α
deriving DecidableEq, Repr

abbrev Run := RunResult (Signal Real64)

/-- A result of an activation before any order. -/
def Activation.result (a : Activation) (outcome : Outcome) (reason : Label)
    (signal : Option (Signal Real64)) : Run :=
  ⟨a.user, a.script, a.timeframe, outcome, reason, none, signal⟩

end SignalDesk
