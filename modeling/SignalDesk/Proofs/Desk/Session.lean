import SignalDesk.CommandLine
import SignalDesk.Proofs.Network.Within
import SignalDesk.Run.DryRun
import SignalDesk.Service.Routes
import SignalDesk.Statement.Tables
import SignalDesk.Store.Document

/-!
# Sessions

A desk, a network and the services in use, and what is done with them one thing after another
(`Session.does`). A session shows what comes of each deed: what it tells, the requests that it
sends, and the store that it leaves (`Session.play`). Between the deeds of a plan the services may
be started anew, or the store initialised again.
-/

namespace SignalDesk

/-- What passes while a desk waits: the sweep loop may be stopped, and time goes by. -/
structure Passing where
  stops : Bool
  millis : Int

/-- The desk after what passed. -/
def Passing.on (x : Passing) (d : Desk) : Desk :=
  { d with clock := d.clock + x.millis, running := d.running && !x.stops }

/-- A network with a state of its own, from which it replies. -/
structure Network (ν : Type) where
  reply : Request → ν → Reply × Passing × ν
  second : ν → Passing × ν

def Network.around {ν : Type} (w : Network ν) : Surroundings Desk ν where
  reply r x :=
    let (reply, passing, n) := w.reply r x.2
    (reply, passing.on x.1, n)
  second x :=
    let (passing, n) := w.second x.2
    (passing.on x.1, n)

/-- Which activation to run: the active one of a user, or one that is given. -/
inductive Choice
  | active (user : Label) (script timeframe : String)
  | given (a : Activation)

/-- Why there is no activation to run. -/
inductive ChoiceFault
  | overrides (fault : OverridesFault)
  | missing

def Choice.find (s : Store) : Choice → Except ChoiceFault Activation
  | active user script timeframe =>
    match s.activation? user script timeframe with
    | .error fault => .error (.overrides fault)
    | .ok none => .error .missing
    | .ok (some a) => .ok a
  | given a => .ok a

/-- A run as it is asked for: of which activation, and with which flags and signal if not with those
of the store and of the script. -/
structure RunOrder where
  choice : Choice
  flags : Option Flags
  signal : Option (Signal Real64)

/-- What the services are asked for. -/
inductive Errand
  | statement (part name : String) (arguments : Arguments)
  | restamp (user script : String) (stamp : Option String)
  | rewrite (user script timeframe : String) (document : Option String)
  | rows (table : String)
  | initialise
  | run (x : RunOrder)
  | runs (xs : List RunOrder)
  | evaluateScript (id timeframe user : Json)
  | evaluateContent (text symbol timeframe : Json)
  | snapshot (symbol timeframe : Json)
  | sweep
  | loop (interval : Option Int) (maxCycles : Int) (fuel : Nat)
  | stop
  | dispatch (id : Json)
  | loopState
  | cacheState
  | request (authorization : Json) (route : Route)

/-- What is told when something is done. -/
inductive Told
  | nothing
  | statement (r : Except StatementError Json)
  | written (r : Except StoreError Unit)
  | rows (v : Json)
  | run (r : Except ChoiceFault Run.Ending)
  | runs (r : Except ChoiceFault (List Run.Ending))
  | script (r : Except DeskError (SavedScript × Evaluation))
  | content (r : Except DeskError Evaluation)
  | snapshot (r : Except DeskError DryRun.Snapshot)
  | sweep (r : Except DeskError Sweep)
  | loop (r : Option (List Sweep))
  | dispatch (r : Except DeskError (List Run))
  | loopState (running : Bool) (sweeps : Nat) (last : Option Sweep)
  | cacheState (kept hits misses : Nat)
  | answer (r : Service.Reply)
  | command (r : Except CommandLine.StartError (Except DeskError Unit))

namespace Errand

/-- Does a statement on the store of a desk; one that has no answer changes nothing. -/
def statementOn (config : Config) (part name : String) (arguments : Arguments) (d : Desk) :
    Told × Desk :=
  match Statement.perform part name ⟨d.now, config.startingCoins⟩ arguments d.store with
  | .ok (v, store) => (.statement (.ok v), { d with store })
  | .error e => (.statement (.error e), d)

def restampOn (user script : String) (stamp : Option String) (d : Desk) : Told × Desk :=
  (.written (.ok ()), { d with store := d.store.restamp user script stamp })

def rewriteOn (user script timeframe : String) (document : Option String) (d : Desk) :
    Told × Desk :=
  match d.store.replaceOverrides user script timeframe document with
  | .ok store => (.written (.ok ()), { d with store })
  | .error e => (.written (.error e), d)

def runOne (config : Config) (x : RunOrder) : Program Desk Told := do
  match ← Program.read fun d => x.choice.find d.store with
  | .error fault => return .run (.error fault)
  | .ok a => return .run (.ok (← Run.run config a x.flags x.signal))

/-- Runs side by side; their activations are all looked up before. -/
def runMany (config : Config) (xs : List RunOrder) : Program Desk Told := do
  match ← Program.read fun d => xs.mapM fun x => (x.choice.find d.store).map (·, x) with
  | .error fault => return .runs (.error fault)
  | .ok found =>
    let endings ← Sweep.together none (found.map fun (a, x) =>
      (a, Run.run config a x.flags x.signal))
    return .runs (.ok endings)

/-- The program of an errand, with the services in use. -/
def program (service : Service) : Errand → Program Desk Told
  | statement part name arguments =>
    Program.atomically (statementOn service.config part name arguments)
  | restamp user script stamp => Program.atomically (restampOn user script stamp)
  | rewrite user script timeframe document =>
    Program.atomically (rewriteOn user script timeframe document)
  | rows table => Program.read fun d => .rows (Json.fieldOrNull d.store.tables table)
  | initialise => (Program.modify fun d => { d with store := d.store.initialised }).map fun _ =>
    .nothing
  | run x => runOne service.config x
  | runs xs => runMany service.config xs
  | evaluateScript id timeframe user =>
    (DryRun.script service.config id timeframe user).map .script
  | evaluateContent text symbol timeframe =>
    (DryRun.content service.config text symbol timeframe).map .content
  | snapshot symbol timeframe => (DryRun.snapshot service.config symbol timeframe).map .snapshot
  | sweep => (Sweep.sweep service.config).map .sweep
  | loop interval maxCycles fuel =>
    (Sweep.loop service.config interval maxCycles fuel).map .loop
  | stop => (Program.modify Desk.stop).map fun _ => .nothing
  | dispatch id => (Sweep.dispatch service.config id).map .dispatch
  | loopState => Program.read fun d => .loopState d.running d.sweeps d.lastSweep
  | cacheState => Program.read fun d =>
    .cacheState d.cache.entries.length d.cache.hits d.cache.misses
  | request authorization route => (service.respond authorization route).map .answer

end Errand

/-- What is done in a session: an errand; the clock is set or the network changed; services are
started on the store, unplugged, or started by a command. -/
inductive Deed (ν : Type)
  | errand (e : Errand)
  | clock (ms : Int)
  | network (n : ν)
  | start (config : Config)
  | unplug
  | command (arguments : List String) (env : Environment) (file : Option String) (fuel : Nat)

structure Session (ν : Type) where
  desk : Desk
  net : ν
  service : Service

/-- What happens when a deed is done. -/
structure Happening (ν : Type) where
  told : Told
  sent : List Request
  after : Session ν

namespace Session

variable {ν : Type}

/-- The session in which services are started on an empty store. -/
def opening (config : Config) (clock : Int) (n : ν) : Session ν :=
  ⟨.start config .empty clock, n, ⟨config, true⟩⟩

/-- Services are started anew on the store. -/
def restarted (config : Config) (s : Session ν) : Session ν :=
  { s with desk := .start config s.desk.store s.desk.clock, service := ⟨config, true⟩ }

def perform (w : Network ν) (p : Program Desk Told) (s : Session ν) : Happening ν :=
  let ended := p.run w.around (s.desk, s.net)
  ⟨ended.1, p.requests w.around (s.desk, s.net), { s with desk := ended.2.1, net := ended.2.2 }⟩

def does (w : Network ν) (s : Session ν) : Deed ν → Happening ν
  | .errand e => s.perform w (e.program s.service)
  | .clock ms => ⟨.nothing, [], { s with desk := { s.desk with clock := ms } }⟩
  | .network n => ⟨.nothing, [], { s with net := n }⟩
  | .start config => ⟨.nothing, [], s.restarted config⟩
  | .unplug => ⟨.nothing, [], { s with service := { s.service with connected := false } }⟩
  | .command arguments env file fuel =>
    match CommandLine.start arguments env file with
    | .error e => ⟨.command (.error e), [], s⟩
    | .ok (mode, config) =>
      (s.restarted config).perform w
        ((CommandLine.activity config fuel mode).map fun r => .command (.ok r))

end Session

/-- What may come between the deeds of a session: the services are started anew with their
configuration, or the store is initialised again. -/
inductive Interruption
  | restart
  | initialise
deriving DecidableEq

def Interruption.deed {ν : Type} (s : Session ν) : Interruption → Deed ν
  | restart => .start s.service.config
  | initialise => .errand .initialise

/-- Deeds, and what comes between them. -/
abbrev Plan (ν : Type) := List (Interruption ⊕ Deed ν)

namespace Plan

variable {ν : Type}

/-- The plan with nothing between its deeds. -/
def undisturbed (plan : Plan ν) : Plan ν := plan.filter Sum.isRight

end Plan

/-- What a session shows of a deed. -/
structure Shown (ν : Type) where
  deed : Deed ν
  told : Told
  sent : List Request
  store : Store

namespace Session

variable {ν : Type} (w : Network ν)

/-- What is shown of the deeds of a plan, and the session after it. -/
def play : Plan ν → Session ν → List (Shown ν) × Session ν
  | [], s => ([], s)
  | .inl i :: plan, s => play plan (s.does w (i.deed s)).after
  | .inr x :: plan, s =>
    let done := s.does w x
    let (shown, last) := play plan done.after
    (⟨x, done.told, done.sent, done.after.desk.store⟩ :: shown, last)

/-- Whether services are started anew only where they are plugged in. -/
def RestartsPlugged : Plan ν → Session ν → Prop
  | [], _ => True
  | .inl i :: plan, s => (i = .restart → s.service.connected = true) ∧
    RestartsPlugged plan (s.does w (i.deed s)).after
  | .inr x :: plan, s => RestartsPlugged plan (s.does w x).after

instance decideRestartsPlugged : (plan : Plan ν) → (s : Session ν) →
    Decidable (RestartsPlugged w plan s)
  | [], _ => .isTrue trivial
  | .inl _ :: plan, s =>
    have := decideRestartsPlugged plan
    inferInstanceAs (Decidable ((_ → s.service.connected = true) ∧ _))
  | .inr _ :: plan, _ => decideRestartsPlugged plan _

end Session

/-- The texts of the saved scripts. -/
def Store.texts (s : Store) : List String := s.scripts.map (·.content)

/-- The text of the script that an order brings along. -/
def RunOrder.texts (x : RunOrder) : List String :=
  match x.choice with
  | .active .. => []
  | .given a => [a.content]

/-- The texts of the scripts that a deed brings along. -/
def Deed.texts {ν : Type} : Deed ν → List String
  | .errand (.run x) => x.texts
  | .errand (.runs xs) => xs.flatMap RunOrder.texts
  | _ => []

/-- All script texts that come up in a session: those that are saved at some time, and those that
deeds bring along. -/
def Session.texts {ν : Type} (w : Network ν) : Plan ν → Session ν → List String
  | [], s => s.desk.store.texts
  | .inl i :: plan, s => s.desk.store.texts ++ texts w plan (s.does w (i.deed s)).after
  | .inr x :: plan, s => s.desk.store.texts ++ x.texts ++ texts w plan (s.does w x).after

/-- The fields of an answer that tell the state of the sweep loop. -/
def loopFields : List Text := ["running", "sweepCount", "lastSweep"]

def Answer.besideLoop (a : Answer) : Answer :=
  match a.body with
  | .object fields => { a with body := .object (fields.filter fun x => x.1 ∉ loopFields) }
  | _ => a

namespace Shown

variable {ν : Type}

/-- What is shown, but for the state of the sweep loop. -/
def besideLoop (x : Shown ν) : Shown ν :=
  match x.deed, x.told with
  | .errand .loopState, _ => { x with told := .nothing }
  | .errand (.request _ .status), .answer r => { x with told := .answer (r.map (·.besideLoop)) }
  | _, _ => x

/-- What is shown, but for the state of the sweep loop and the counts of what is kept compiled. -/
def besideMemory (x : Shown ν) : Shown ν :=
  match x.deed with
  | .errand .cacheState => { x with told := .nothing }
  | _ => x.besideLoop

end Shown
end SignalDesk
