import SignalDesk.Activation.Overrides
import SignalDesk.Json.Label
import SignalDesk.Time.Stamp

namespace SignalDesk

structure Activation where
  user : Label
  script : Label
  timeframe : Label
  symbol : String
  content : String
  overrides : Overrides

/-- What tells activations apart. -/
def Activation.key (a : Activation) : Label × Label × Label :=
  (a.user.key, a.script.key, a.timeframe.key)

/-- The switch of one user for one script, and the stamp of when it was last turned on. -/
structure Gate where
  enabled : Bool
  startedAt : Option String
deriving DecidableEq, Repr

/-- The stamp in milliseconds; an empty one is none. -/
def Gate.startedMillis (g : Gate) : Except StampError (Option Int) :=
  match g.startedAt with
  | none => .ok none
  | some text =>
    if text.isEmpty then .ok none else ((Stamp.read? text).bind Stamp.millis).map some

/-- The switches that hold for everyone. -/
structure Flags where
  tradingEnabled : Bool
  paidMode : Bool
deriving DecidableEq, Repr

def Flags.default : Flags := ⟨true, false⟩

end SignalDesk
