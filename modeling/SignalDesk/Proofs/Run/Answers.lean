import SignalDesk.Proofs.Network.Order
import SignalDesk.Proofs.Run.Terms
import SignalDesk.Sweep.Basic

namespace SignalDesk

/-- A request without the time and the signature that signing adds. -/
def Request.unsigned (r : Request) : Request :=
  { r with params := r.params.filter fun p => p.1 != "timestamp" && p.1 != "signature" }

namespace Exchange

end Exchange

/-- Whether programs on some terms may send anything, and hear a settled reply to each request,
whenever it was signed. -/
structure Terms.Answered {σ : Type} (t : Terms σ) (replies : Request → Reply) : Prop where
  sends : ∀ r, t.sends r
  hears : ∀ r reply, t.hears r reply → reply = replies r.unsigned

/-- The result of a run without the number of its trade. -/
def RunResult.unnumbered {α : Type} (r : RunResult α) : RunResult α := { r with trade := none }

namespace Exchange

variable (replies : Request → Reply)

end Exchange

namespace Run

variable {config : Config} {replies : Request → Reply} {a : Activation} {signal : Signal Real64}

end Run

/-- The terms of runs at a desk where nobody else is, where each request gets a settled reply,
whenever it was signed. -/
def Terms.answered (replies : Request → Reply) : Terms Desk :=
  ⟨fun r reply => reply = replies r.unsigned, Desk.OnlyTime, fun _ => True, fun _ _ => True⟩

namespace Run

variable {config : Config} {replies : Request → Reply} {a : Activation}
  {found : Except Ending (Signal Real64)} {d : Desk} {gate : Gate} {J : Desk → Prop}
  {Goal : Run → Prop}

end Run
end SignalDesk
