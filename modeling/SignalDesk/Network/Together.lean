import SignalDesk.Network.Program

/-!
# Programs side by side

Programs that share a state and go on by turns. Each goes on until it gives way, meets silence or
ends. One that gives way queues behind the others; one that meets silence goes on when nobody else
can. A program is let in when those that are running admit it, and otherwise waits until one of them
ends.
-/

namespace SignalDesk

/-- Where a program among others stops. -/
inductive Stop (σ α : Type) where
  | ended (a : α)
  | gaveWay (p : Program σ α)
  | silence (p : Program σ α)

namespace Program

/-- Goes on to the next stop. -/
def toStop {σ α : Type} : Program σ α → Program σ (Stop σ α)
  | done a => done (.ended a)
  | turn p => done (.gaveWay p)
  | pause p => pause (toStop p)
  | act f k => act f fun s => toStop (k s)
  | ask r k => ask r fun reply =>
    match reply with
    | .silence => done (.silence (k .silence))
    | reply => toStop (k reply)

end Program

/-- A program among others: the place of its result, and its key. -/
structure Member (κ σ α : Type) where
  place : Nat
  key : κ
  program : Program σ α

/-- Programs side by side: those that can go on, the next one first, those that wait in silence,
those not let in yet, and the results so far. -/
structure Company (κ σ α : Type) where
  ready : List (Member κ σ α)
  silent : List (Member κ σ α)
  outside : List (Member κ σ α)
  results : List (Nat × α)

namespace Company

variable {κ σ α : Type}

def empty : Company κ σ α := ⟨[], [], [], []⟩

def running (c : Company κ σ α) : List κ := (c.ready ++ c.silent).map (·.key)

/-- Takes out the first member that `p` holds of. -/
def takeFirst (p : Member κ σ α → Bool) :
    List (Member κ σ α) → Option (Member κ σ α × List (Member κ σ α))
  | [] => none
  | m :: ms => if p m then some (m, ms) else (takeFirst p ms).map fun (n, rest) => (n, m :: rest)

/-- Lets in the first member outside that may come in. -/
def letIn (admits : List κ → κ → Bool) (c : Company κ σ α) : Company κ σ α :=
  match takeFirst (fun m => admits c.running m.key) c.outside with
  | some (m, outside) => { c with ready := c.ready ++ [m], outside := outside }
  | none => c

/-- The company after a member came to a stop. -/
def after (admits : List κ → κ → Bool) (c : Company κ σ α) (m : Member κ σ α) :
    Stop σ α → Company κ σ α
  | .ended a => letIn admits { c with results := (m.place, a) :: c.results }
  | .gaveWay p => { c with ready := c.ready ++ [{ m with program := p }] }
  | .silence p => { c with silent := c.silent ++ [{ m with program := p }] }

/-- Members come one after the other; each goes to its first stop at once if it is let in. -/
def gather (admits : List κ → κ → Bool) (c : Company κ σ α) :
    List (Member κ σ α) → Program σ (Company κ σ α)
  | [] => .done c
  | m :: ms =>
    if admits c.running m.key then
      m.program.toStop.bind fun stop => gather admits (c.after admits m stop) ms
    else gather admits { c with outside := c.outside ++ [m] } ms

/-- Goes on by turns, for so many stops at most. -/
def goOn (admits : List κ → κ → Bool) : (stops : Nat) → Company κ σ α → Program σ (Company κ σ α)
  | 0, c => .done c
  | stops + 1, c =>
    let step (m : Member κ σ α) (c : Company κ σ α) : Program σ (Company κ σ α) :=
      m.program.toStop.bind fun stop => goOn admits stops (c.after admits m stop)
    match c.ready, c.silent with
    | m :: rest, _ => step m { c with ready := rest }
    | [], m :: rest => step m { c with silent := rest }
    | [], [] => .done c

/-- The results in the order of their places; members that have not ended go on one after the
other. -/
def finish (c : Company κ σ α) : Program σ (List α) :=
  let rest := c.ready ++ c.silent ++ c.outside
  (Program.inTurn (rest.map fun m => m.program.map (m.place, ·))).map fun results =>
    ((c.results ++ results).mergeSort fun a b => decide (a.1 ≤ b.1)).map (·.2)

end Company

/-- Runs programs side by side, by turns for so many stops, and gives their results in order. -/
def Program.together {κ σ α : Type} (admits : List κ → κ → Bool) (stops : Nat)
    (programs : List (κ × Program σ α)) : Program σ (List α) :=
  let members := programs.zipIdx.map fun ((key, program), place) => ⟨place, key, program⟩
  ((Company.empty.gather admits members).bind (Company.goOn admits stops)).bind Company.finish

end SignalDesk
