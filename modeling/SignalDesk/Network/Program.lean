import SignalDesk.Network.Http

/-!
# Resumable programs

An activity over a shared state that stops at each request and goes on with the reply. Between two
stops it acts on the state in single steps; while it waits or gives way, anything may happen to the
state.
-/

namespace SignalDesk

inductive Program (σ α : Type) where
  /-- The end, with a result. -/
  | done (a : α)
  /-- Waits for the reply to a request. -/
  | ask (r : Request) (k : Reply → Program σ α)
  /-- Waits for a second. -/
  | pause (p : Program σ α)
  /-- Gives way to the others that can go on. -/
  | turn (p : Program σ α)
  /-- Changes the state at once and goes on with the state from before the change. -/
  | act (f : σ → σ) (k : σ → Program σ α)

/-- What a program waits for. The surroundings have a state of their own, and may change the shared
state meanwhile. -/
structure Surroundings (σ ν : Type) where
  reply : Request → σ × ν → Reply × (σ × ν)
  second : σ × ν → σ × ν

namespace Program

variable {σ α β : Type}

def bind : Program σ α → (α → Program σ β) → Program σ β
  | done a, g => g a
  | ask r k, g => ask r fun reply => (k reply).bind g
  | pause p, g => pause (p.bind g)
  | turn p, g => turn (p.bind g)
  | act f k, g => act f fun s => (k s).bind g

def map (f : α → β) (p : Program σ α) : Program σ β := p.bind fun a => done (f a)

instance : Monad (Program σ) where
  pure := done
  bind := bind

/-- A step that gives a result and a new state. -/
def atomically (step : σ → α × σ) : Program σ α :=
  act (fun s => (step s).2) fun s => done (step s).1

def read (f : σ → α) : Program σ α := act id fun s => done (f s)

def modify (f : σ → σ) : Program σ Unit := act f fun _ => done ()

def giveWay : Program σ Unit := turn (done ())

/-- Runs programs in turn. -/
def inTurn : List (Program σ α) → Program σ (List α)
  | [] => done []
  | p :: ps => p.bind fun a => (inTurn ps).map (a :: ·)

/-- Runs a program to its end. -/
def run {ν : Type} (around : Surroundings σ ν) : Program σ α → σ × ν → α × (σ × ν)
  | done a, w => (a, w)
  | ask r k, w =>
    let (reply, w) := around.reply r w
    run around (k reply) w
  | pause p, w => run around p (around.second w)
  | turn p, w => run around p w
  | act f k, (s, n) => run around (k s) (f s, n)

/-- Goes on to the next stop or the end. -/
def advance : Program σ α → σ → Program σ α × σ
  | act f k, s => advance (k s) (f s)
  | p, s => (p, s)

end Program
end SignalDesk
