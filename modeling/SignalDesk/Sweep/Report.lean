import SignalDesk.Run.Result

namespace SignalDesk

structure SweepReport (α : Type) where
  startedAt : String
  finishedAt : Option String
  results : List (RunResult α)
deriving DecidableEq, Repr

structure Counts where
  total : Nat
  executed : Nat
  failed : Nat
  skipped : Nat
  deferred : Nat
deriving DecidableEq, Repr

def SweepReport.counts {α : Type} (r : SweepReport α) : Counts :=
  let count (p : Outcome → Bool) := r.results.countP fun x => p x.outcome
  { total := r.results.length
    executed := count (· == .executed)
    failed := count Outcome.isFailure
    skipped := count Outcome.isSkip
    deferred := count (· == .deferred) }

abbrev Sweep := SweepReport (Signal Real64)

end SignalDesk
