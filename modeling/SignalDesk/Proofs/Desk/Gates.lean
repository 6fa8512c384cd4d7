import SignalDesk.Proofs.Desk.Activity
import SignalDesk.Proofs.Desk.Session
import SignalDesk.Proofs.Run.Admission
import SignalDesk.Proofs.Run.Freshness
import SignalDesk.Proofs.Store.Gates
import SignalDesk.Proofs.Store.Listing
import SignalDesk.Proofs.Time.Written

/-!
# Gates in the course of a session

Gates are turned by calls, of statements and of requests (`Deed.gateCall?`), and by nothing else that
is done at a desk. While gates stay as they are, every trade is let in by its gate
(`Desk.allows_heeding`). So after any deeds, in any order and with clocks as they may be, trades are
made only for candles from the last call on that turned their gate on (`trades_follow_calls`).
-/

namespace SignalDesk

/-! ## While gates stay as they are -/

/-- Whether the gates are certain ones. -/
def Desk.HasGates (gates : List GateRow) (d : Desk) : Prop := d.store.gates = gates

section Heeding

variable {s : Store}

theorem Desk.Makes.preserves {P : TradeIdentity → Prop} {gates : List GateRow} {d d' : Desk}
    (h : d.Makes P d') : Preserves (Desk.HasGates gates) (Desk.Makes P) d d' :=
  fun holds => ⟨h.gates.trans holds, h⟩

theorem Desk.allowsMinor_heeding :
    Desk.AllowsMinor (Program.Under (Desk.HasGates s.gates) (Desk.Makes s.LetsIn)) where
  composes := Program.Under.composes _ _
  same h := .of_within h fun _ _ same => (Desk.Makes.of_same same).preserves
  minor h := .atomically fun d holds =>
    ⟨(Desk.Makes.of_same_made (h d).gates (h d).made).preserves holds, trivial⟩

/-- A run makes only trades that the gate that it has read lets in, and while gates stay as they are
that is the gate of the trade. -/
theorem Run.run_heeds (config : Config) (a : Activation) (flags : Option Flags)
    (signal : Option (Signal Real64)) :
    (run config a flags signal).Under (Desk.HasGates s.gates) (Desk.Makes s.LetsIn)
      fun _ => True := by
  rw [run_eq]
  refine Program.Under.bind (Program.Under.read Desk.Makes.refl) fun passed ⟨d, holds, read⟩ => ?_
  cases passed with
  | error r => exact trivial
  | ok gate =>
    refine .of_within (passed_makes config signal read.symm) fun _ _ made => ?_
    exact (made.mono fun t let_in => let_in.of_gate? (by rw [Store.gate?, Store.gate?, holds])).preserves

/-- **While gates stay as they are**, whatever a desk does on its own makes only trades that are let
in by their gates. -/
theorem Desk.allows_heeding :
    Desk.Allows (fun _ => True) (fun _ => True)
      (Program.Under (Desk.HasGates s.gates) (Desk.Makes s.LetsIn)) :=
  Desk.allowsMinor_heeding.allows Run.run_heeds

end Heeding

/-! ## Calls that turn gates -/

/-- The call of a statement that is answered. -/
def Statement.gateCall? (config : Config) (arguments : Arguments) (d : Desk) : Option GateCall :=
  match perform "scripts" "set_bot_enabled" ⟨d.now, config.startingCoins⟩ arguments d.store,
      pair? (arguments.get "user_id") (arguments.get "script_id") with
  | .ok _, .ok (some (user, script)) =>
    let millis := match arguments.get "now" with
      | .int ms => ms
      | _ => d.clock
    some ⟨user, script, (arguments.get "enabled").isTruthy, millis⟩
  | _, _ => none

/-- The call of a request that is answered with success. -/
def Service.gateCall? (service : Service) (authorization script : Json) (enabled : Bool)
    (d : Desk) : Option GateCall :=
  match service.callerFor authorization (.setGate script enabled) d.store with
  | .error _ => none
  | .ok c =>
    match (service.setGateFor c script enabled d).1, Store.bound script with
    | .ok ⟨200, _⟩, .ok label =>
      label.stored.map fun script => ⟨c.user, script, enabled, d.clock⟩
    | _, _ => none

/-- The call of an errand, if it turns a gate. -/
def Errand.gateCall? (service : Service) (d : Desk) : Errand → Option GateCall
  | statement part name arguments =>
    if part = "scripts" ∧ name = "set_bot_enabled" then
      Statement.gateCall? service.config arguments d
    else none
  | request authorization (.setGate script enabled) =>
    service.gateCall? authorization script enabled d
  | _ => none

def Deed.gateCall? {ν : Type} (s : Session ν) : Deed ν → Option GateCall
  | .errand e => e.gateCall? s.service s.desk
  | _ => none

/-- The store after a call, if there is one. -/
def Store.turnedBy (s : Store) (call : Option GateCall) : Store := call.elim s s.turned

/-- Whether a deed writes the stamp of a gate by other means than a call. -/
def Deed.Restamps {ν : Type} : Deed ν → Prop
  | .errand (.restamp ..) => True
  | _ => False

/-- Whether a deed is a statement that makes a trade, without a run. -/
def Deed.Reserves {ν : Type} : Deed ν → Prop
  | .errand (.statement part name _) => part = "trades" ∧ name = "reserve_trade"
  | _ => False

/-! ## What deeds do to gates and trades -/

theorem Service.adjustCoins_makes {P : TradeIdentity → Prop} (admin : Caller) (user : Json)
    (body : Service.Body) (d : Desk) : d.Makes P (adjustCoins admin user body d).2 := by
  rcases adjustCoins_adjusts admin user body d with same | ⟨name, delta, note, figures, adjusted⟩
  · rw [same]
    exact .refl d
  · obtain ⟨e, entry⟩ := Store.adjust_ok adjusted
    exact .of_same_made (Store.adjust_gates adjusted) entry.made

/-- A request to turn a gate turns that of its call, if it is answered with success, makes no trade
and leaves the register alone. -/
theorem Service.setGateFor_turns (service : Service) {authorization script : Json} {enabled : Bool}
    {c : Caller} {d : Desk}
    (known : service.callerFor authorization (.setGate script enabled) d.store = .ok c) :
    (service.setGateFor c script enabled d).2.store.gates =
        (d.store.turnedBy (service.gateCall? authorization script enabled d)).gates ∧
      (service.setGateFor c script enabled d).2.store.made = d.store.made ∧
      d.store.SameRegister (service.setGateFor c script enabled d).2.store := by
  simp only [gateCall?, known, setGateFor]
  cases bound : Store.bound script with
  | error e => exact ⟨rfl, rfl, .refl _⟩
  | ok label =>
    dsimp only
    cases stored : label.stored with
    | none => exact ⟨rfl, rfl, .refl _⟩
    | some script =>
      simp only [setGate]
      split
      · exact ⟨rfl, rfl, .refl _⟩
      split
      · exact ⟨rfl, rfl, .refl _⟩
      · rename_i store profiled
        have kept : store.gates = d.store.gates ∧ store.made = d.store.made ∧
            d.store.SameRegister store := by
          split at profiled
          · exact ⟨Store.ensureProfile_gates profiled,
              congrArg (List.map Trade.identity) (Store.ensureProfile_trades profiled),
              Store.ensureProfile_register profiled⟩
          · cases profiled
            exact ⟨rfl, rfl, .refl _⟩
        simp only [ok, stored, Option.map_some]
        exact ⟨Store.turned_gates ⟨c.user, script, enabled, d.clock⟩ kept.1, kept.2.1,
          kept.2.2.trans ⟨rfl, rfl, rfl⟩⟩

/-- A statement turns the gate of its call, if it has one. -/
theorem Errand.statementOn_gates (config : Config) (part name : String) (arguments : Arguments)
    (d : Desk) :
    (statementOn config part name arguments d).2.store.gates =
      (d.store.turnedBy (if part = "scripts" ∧ name = "set_bot_enabled" then
        Statement.gateCall? config arguments d else none)).gates := by
  simp only [statementOn]
  by_cases turns : part = "scripts" ∧ name = "set_bot_enabled"
  · obtain ⟨rfl, rfl⟩ := turns
    rw [if_pos ⟨rfl, rfl⟩]
    simp only [Statement.gateCall?]
    cases performed : Statement.perform "scripts" "set_bot_enabled" ⟨d.now, config.startingCoins⟩
      arguments d.store with
    | error e => rfl
    | ok answer =>
      obtain ⟨v, store⟩ := answer
      obtain ⟨user, script, named, rfl⟩ := Statement.perform_setGate performed
      simp only [named]
      cases given : arguments.get "now" <;> rfl
  · rw [if_neg turns]
    split
    · rename_i performed
      exact Statement.perform_gates performed fun isPart named => turns ⟨isPart, named⟩
    · rfl

theorem Errand.statementOn_made (config : Config) {part name : String} (arguments : Arguments)
    (d : Desk) (other : ¬(part = "trades" ∧ name = "reserve_trade")) :
    (statementOn config part name arguments d).2.store.made = d.store.made := by
  simp only [statementOn]
  split
  · rename_i performed
    exact Statement.perform_made performed fun isPart named => other ⟨isPart, named⟩
  · rfl

/-- A request of a known caller is handled. -/
theorem Session.does_request {ν : Type} (w : Network ν) (s : Session ν) {authorization : Json}
    {r : Route} {c : Caller}
    (known : s.service.callerFor authorization r s.desk.store = .ok c) :
    (s.does w (.errand (.request authorization r))).after =
      (s.perform w ((s.service.handle c r).map .answer)).after := by
  simp only [does, perform, Errand.program, Service.respond, Program.monad_bind_eq, Program.map,
    Program.run_bind, Program.run_read, known]

/-- What a request to turn a gate leaves. -/
theorem Session.perform_setGate {ν : Type} (w : Network ν) (s : Session ν)
    (authorization script : Json) (enabled : Bool) :
    let after := (s.does w (.errand (.request authorization (.setGate script enabled)))).after
    after.desk.store.gates =
        (s.desk.store.turnedBy (s.service.gateCall? authorization script enabled s.desk)).gates ∧
      after.desk.store.made = s.desk.store.made ∧
      s.desk.store.SameRegister after.desk.store := by
  intro after
  cases known : s.service.callerFor authorization (.setGate script enabled) s.desk.store with
  | error e =>
    have refused : after.desk = s.desk := by
      simp only [after, does, perform, Errand.program, Service.respond, Program.monad_bind_eq,
        Program.map, Program.run_bind, Program.run_read, known]
      rfl
    rw [refused, Service.gateCall?, known]
    exact ⟨rfl, rfl, .refl _⟩
  | ok c =>
    have turned : after.desk = (s.service.setGateFor c script enabled s.desk).2 := by
      rw [show after = _ from s.does_request w known]
      rfl
    rw [turned]
    exact s.service.setGateFor_turns known

/-- Whether an errand is none that turns a gate or writes its stamp, and no statement. -/
def Errand.IsPlain : Errand → Prop
  | statement .. | restamp .. | request _ (.setGate ..) => False
  | _ => True

theorem Errand.gateCall?_of_isPlain {e : Errand} (plain : e.IsPlain) (service : Service)
    (d : Desk) : e.gateCall? service d = none := by
  cases e with
  | statement | restamp => exact plain.elim
  | request authorization route =>
    cases route with
    | setGate => exact plain.elim
    | _ => rfl
  | _ => rfl

/-- The runs that an errand asks for. -/
def Errand.orders : Errand → List RunOrder
  | run x => [x]
  | runs xs => xs
  | _ => []

/-- Whether an activation that is given to be run is such as `A` says. -/
def Choice.Fits (A : Activation → Prop) : Choice → Prop
  | active .. => True
  | given a => A a

section Errands

variable {J : Desk → Prop} {A : Activation → Prop} {C : Program.Property Desk}

theorem Choice.Fits.found {x : Choice} {d : Desk} {a : Activation} (fits : x.Fits A)
    (lists : d.Lists A) (found : x.find d.store = .ok a) : A a := by
  cases x with
  | given b =>
    cases found
    exact fits
  | active user script timeframe =>
    simp only [find] at found
    split at found
    · cases found
    · cases found
    · rename_i listed
      cases found
      obtain ⟨as, rows, first⟩ := map_ok.mp listed
      exact lists _ _ as rows _ (List.mem_of_find?_eq_some first)

variable (allows : Desk.Allows J A C) (config : Config)

include allows

theorem Desk.Allows.runOne {x : RunOrder} (fits : x.choice.Fits A) :
    C (fun _ => True) (Errand.runOne config x) := by
  refine allows.composes.bind (allows.reads _) fun found ⟨d, holds, read⟩ => ?_
  cases found with
  | error fault => exact allows.done _
  | ok a =>
    have fit := fits.found (allows.lists d holds) read.symm
    exact allows.bind (allows.run config a _ _ fit) fun _ => allows.done _

theorem Desk.Allows.runMany {xs : List RunOrder} (fits : ∀ x ∈ xs, x.choice.Fits A) :
    C (fun _ => True) (Errand.runMany config xs) := by
  refine allows.composes.bind (allows.reads _) fun found ⟨d, holds, read⟩ => ?_
  cases found with
  | error fault => exact allows.done _
  | ok found =>
    refine allows.bind (allows.together none (List.forall_mem_map.mpr fun order member => ?_))
      fun _ => allows.done _
    obtain ⟨x, asked, first⟩ := exists_of_forall₂ (mapM_ok read.symm) order member
    obtain ⟨a, looked, rfl⟩ := map_ok.mp first
    exact allows.run config a _ _ ((fits x asked).found (allows.lists d holds) looked)

/-- An errand that is none on the register of gates, if the property holds of what it does to
documents, open trades and coins, and of the runs that it can ask for. -/
theorem Desk.Allows.errand (service : Service) {e : Errand} (plain : e.IsPlain)
    (given : ∀ x ∈ e.orders, x.choice.Fits A)
    (lives : ∀ authorization r, e = .request authorization r → r.IsLive → ∀ d, J d → ∀ c,
      service.callerFor authorization r d.store = .ok c → c.RunsOnly J A)
    (rewrites : ∀ user script timeframe document, e = .rewrite user script timeframe document →
      C (fun _ => True) (Program.atomically (Errand.rewriteOn user script timeframe document)))
    (closings : ∀ c id body,
      C (fun _ => True) (Program.atomically (Service.closeTrade c id body)))
    (coins : ∀ c user body,
      C (fun _ => True) (Program.atomically (Service.adjustCoins c user body))) :
    C (fun _ => True) (e.program service) := by
  cases e with
  | statement | restamp => exact plain.elim
  | rewrite user script timeframe document => exact rewrites _ _ _ _ rfl
  | rows => exact allows.read _
  | initialise =>
    exact allows.map (allows.modify fun _ =>
      ⟨⟨.single .initialise, rfl, rfl, rfl⟩, ⟨rfl, rfl, rfl⟩, .of_eq rfl⟩)
  | run x => exact allows.runOne _ (given x List.mem_cons_self)
  | runs xs => exact allows.runMany _ given
  | evaluateScript => exact allows.map (allows.script _ _ _ _)
  | evaluateContent => exact allows.map (allows.content _ _ _ _)
  | snapshot => exact allows.map (allows.snapshot _ _ _)
  | sweep => exact allows.map (allows.sweep _)
  | loop => exact allows.map (allows.loop _ _ _ _)
  | stop => exact allows.map (allows.modify fun _ => .of_same rfl)
  | dispatch => exact allows.map (allows.dispatch _ _)
  | loopState => exact allows.read _
  | cacheState => exact allows.read _
  | request authorization route =>
    refine allows.map (allows.respond service authorization (lives _ _ rfl) ?_ ?_ ?_)
    · rintro script enabled rfl
      exact plain.elim
    · intro id body _ c
      exact closings c id _
    · intro user body _ c
      exact coins c user _

end Errands

theorem Errand.program_heeds {s : Store} (service : Service) {e : Errand} (plain : e.IsPlain) :
    (e.program service).Under (Desk.HasGates s.gates) (Desk.Makes s.LetsIn) fun _ => True := by
  refine Desk.allows_heeding.errand service plain ?given (fun _ _ _ _ _ _ c _ => .any _ c) ?rewrites
    ?closings fun c user body => Program.Under.atomically fun d holds =>
      ⟨(Service.adjustCoins_makes c user body d).preserves holds, trivial⟩
  case given =>
    intro x _
    cases x.choice <;> trivial
  case rewrites =>
    intro user script timeframe document _
    refine Program.Under.atomically fun d holds => ⟨Desk.Makes.preserves ?_ holds, trivial⟩
    simp only [rewriteOn, Store.replaceOverrides]
    split
    · rename_i replaced
      split at replaced
      · cases replaced
        exact .of_same_made rfl rfl
      · split at replaced <;> cases replaced
        exact .refl d
    · exact .refl d
  case closings =>
    intro c id body
    refine Program.Under.atomically fun d holds => ⟨Desk.Makes.preserves ?_ holds, trivial⟩
    have minor := (Service.closeTrade_minor c id body d).1
    exact .of_same_made minor.gates minor.made

namespace Session

variable {ν : Type} (w : Network ν) (s : Session ν)

/-- What passes at the network leaves the store alone. -/
theorem around_same : w.around.Within Desk.SameStore := ⟨fun _ _ => rfl, fun _ => rfl⟩

/-- What holds of desks by what is in their stores, and stays as services are started. -/
structure Lasts (J : Desk → Prop) : Prop where
  rests : ∀ {d d' : Desk}, d.SameStore d' → J d → J d'
  starts : ∀ {d : Desk} (config : Config) (clock : Int), J d → J (.start config d.store clock)

section Under

variable {J J' : Desk → Prop} {A : Activation → Prop} {P : TradeIdentity → Prop}

theorem perform_under (lasts : Lasts J) (holds : J s.desk) {p : Program Desk Told}
    (h : p.Under J (Desk.Makes P) fun _ => True) :
    J (s.perform w p).after.desk ∧ s.desk.Makes P (s.perform w p).after.desk :=
  have passes : w.around.Within (Preserves J (Desk.Makes P)) :=
    (around_same w).mono fun same holds => ⟨lasts.rests same holds, .of_same same⟩
  h.run Desk.Makes.refl Desk.Makes.trans passes (w := (s.desk, s.net)) holds

/-- A deed does what the programs do that it runs. -/
theorem does_under (lasts : Lasts J) (holds : J s.desk)
    (allows : Desk.Allows J' A (Program.Under J (Desk.Makes P))) {x : Deed ν}
    (errands : ∀ e, x = .errand e → (e.program s.service).Under J (Desk.Makes P) fun _ => True) :
    J (s.does w x).after.desk ∧ s.desk.Makes P (s.does w x).after.desk := by
  cases x with
  | errand e => exact s.perform_under w lasts holds (errands e rfl)
  | clock | network | unplug => exact ⟨lasts.rests (d := s.desk) rfl holds, .of_same rfl⟩
  | start config => exact ⟨lasts.starts config _ holds, .of_same_made rfl rfl⟩
  | command arguments env file fuel =>
    simp only [does]
    split
    · exact ⟨holds, .refl _⟩
    · rename_i mode config _
      have restarted : s.desk.Makes P (s.restarted config).desk := .of_same_made rfl rfl
      have activity : (CommandLine.activity config fuel mode).Under J (Desk.Makes P)
          fun _ => True := by
        cases mode with
        | sweep => exact allows.map (allows.sweep config)
        | run => exact allows.map (allows.loop config _ _ _)
        | serve => exact allows.map (allows.loop config _ _ _)
      obtain ⟨ends, made⟩ := (s.restarted config).perform_under w lasts
        (lasts.starts config _ holds) (allows.map activity)
      exact ⟨ends, restarted.trans made⟩

end Under

/-- Other deeds than errands make no trade but by runs, and turn no gate. -/
theorem does_heeds {x : Deed ν} (plain : ∀ e, x = .errand e → e.IsPlain) :
    s.desk.Makes s.desk.store.LetsIn (s.does w x).after.desk :=
  have lasts : Lasts (Desk.HasGates s.desk.store.gates) :=
    ⟨fun same holds => (congrArg Store.gates same).trans holds, fun _ _ holds => holds⟩
  (s.does_under w lasts rfl Desk.allows_heeding fun e asked =>
    e.program_heeds s.service (plain e asked)).2

/-- **What deeds do to gates.** Gates are as their last calls left them. -/
theorem does_gates {x : Deed ν} (unstamped : ¬x.Restamps) :
    (s.does w x).after.desk.store.gates = (s.desk.store.turnedBy (x.gateCall? s)).gates := by
  by_cases plain : ∀ e, x = .errand e → e.IsPlain
  · have call : x.gateCall? s = none := by
      cases x with
      | errand e => exact e.gateCall?_of_isPlain (plain e rfl) _ _
      | _ => rfl
    rw [call]
    exact (s.does_heeds w plain).gates
  · obtain ⟨e, rfl, special⟩ : ∃ e, x = .errand e ∧ ¬e.IsPlain := by simpa using plain
    cases e with
    | statement part name arguments => exact Errand.statementOn_gates _ part name arguments _
    | restamp => exact absurd trivial unstamped
    | request authorization route =>
      cases route with
      | setGate script enabled => exact (perform_setGate w s authorization script enabled).1
      | _ => exact absurd trivial special
    | _ => exact absurd trivial special

/-- Errands that are not plain make no trade, but for the statement that does. -/
theorem special_made {x : Deed ν} (byRun : ¬x.Reserves)
    (other : ¬∀ e, x = .errand e → e.IsPlain) :
    (s.does w x).after.desk.store.made = s.desk.store.made := by
  obtain ⟨e, rfl, special⟩ : ∃ e, x = .errand e ∧ ¬e.IsPlain := by simpa using other
  cases e with
  | statement part name arguments => exact Errand.statementOn_made _ arguments _ byRun
  | restamp => rfl
  | request authorization route =>
    cases route with
    | setGate script enabled => exact (perform_setGate w s authorization script enabled).2.1
    | _ => exact absurd trivial special
  | _ => exact absurd trivial special

/-- **What deeds make.** Every trade is let in by its gate, but for those that a statement makes. -/
theorem does_made {x : Deed ν} (byRun : ¬x.Reserves) :
    ∃ new, (s.does w x).after.desk.store.made = s.desk.store.made ++ new ∧
      ∀ t ∈ new, s.desk.store.LetsIn t := by
  by_cases plain : ∀ e, x = .errand e → e.IsPlain
  · exact (s.does_heeds w plain).made
  · exact ⟨[], by rw [s.special_made w byRun plain, List.append_nil], by simp⟩

/-! ## Deeds one after another -/

/-- The session after some deeds. -/
def after (w : Network ν) (deeds : List (Deed ν)) (s : Session ν) : Session ν :=
  deeds.foldl (fun s x => (s.does w x).after) s

/-- The calls that turn gates, in the order in which they come. -/
def gateCalls (w : Network ν) : List (Deed ν) → Session ν → List GateCall
  | [], _ => []
  | x :: deeds, s => (x.gateCall? s).toList ++ gateCalls w deeds (s.does w x).after

/-- The trades that a deed makes. -/
def newTrades (w : Network ν) (s : Session ν) (x : Deed ν) : List Trade :=
  (s.does w x).after.desk.store.trades.drop s.desk.store.trades.length

theorem follows_does {calls : List GateCall} {x : Deed ν} (follows : s.desk.store.Follows calls)
    (unstamped : ¬x.Restamps) :
    (s.does w x).after.desk.store.Follows (calls ++ (x.gateCall? s).toList) := by
  have gates := s.does_gates w unstamped
  cases call : x.gateCall? s with
  | none =>
    rw [call] at gates
    rw [Option.toList_none, List.append_nil]
    exact follows.of_gates gates
  | some c =>
    rw [call] at gates
    exact follows.turned.of_gates gates

/-- After any deeds, gates follow the calls that came before. -/
theorem follows_after {calls : List GateCall} {deeds : List (Deed ν)}
    (follows : s.desk.store.Follows calls) (unstamped : ∀ x ∈ deeds, ¬x.Restamps) :
    (after w deeds s).desk.store.Follows (calls ++ gateCalls w deeds s) := by
  induction deeds generalizing s calls with
  | nil =>
    rw [gateCalls, List.append_nil]
    exact follows
  | cons x deeds ih =>
    obtain ⟨first, others⟩ := List.forall_mem_cons.mp unstamped
    have next := ih _ (s.follows_does w follows first) others
    rwa [List.append_assoc] at next

theorem forall_newTrades {x : Deed ν} {P : TradeIdentity → Prop}
    (h : ∃ new, (s.does w x).after.desk.store.made = s.desk.store.made ++ new ∧ ∀ t ∈ new, P t) :
    ∀ t ∈ s.newTrades w x, P t.identity := by
  obtain ⟨added, made, holds⟩ := h
  have made' : (s.does w x).after.desk.store.trades.map Trade.identity =
      s.desk.store.trades.map Trade.identity ++ added := made
  have dropped : (s.newTrades w x).map Trade.identity = added := by
    rw [newTrades, List.map_drop, made', List.drop_left' (List.length_map _)]
  intro t new
  exact holds _ (dropped ▸ List.mem_map_of_mem new)

theorem letsIn_of_newTrades {x : Deed ν} (byRun : ¬x.Reserves) {t : Trade}
    (new : t ∈ s.newTrades w x) : s.desk.store.LetsIn t.identity :=
  s.forall_newTrades w (s.does_made w byRun) t new

/-- **Trades follow the calls that turn gates.** After any deeds at a desk, where stamps are written
by calls only and those that turn a gate on do so at a time of the calendar: the stamp of a gate
that is on can be read; and whatever is done next, a trade that a run makes is for a candle that is
not before the stamp of the last call that turned its gate on. -/
theorem trades_follow_calls (config : Config) (clock : Int) (n : ν) {deeds : List (Deed ν)}
    (unstamped : ∀ x ∈ deeds, ¬x.Restamps)
    (calendar : ∀ c ∈ gateCalls w deeds (opening config clock n), c.enabled = true →
      Stamp.InCalendar c.millis) :
    let s := after w deeds (opening config clock n)
    let calls := gateCalls w deeds (opening config clock n)
    (∀ row ∈ s.desk.store.gates, row.gate.enabled = true →
        ∃ started, row.gate.startedMillis = .ok (some started)) ∧
      ∀ x : Deed ν, ¬x.Reserves → ∀ t ∈ s.newTrades w x, ∃ ms started,
        lastEnabled calls t.user t.script = some ms ∧
          Gate.startedMillis ⟨true, some (Stamp.ofMillis ms)⟩ = .ok (some started) ∧
          t.candleTime.NotBefore started := by
  intro s calls
  have start : (opening config clock n).desk.store.Follows [] := fun row member => nomatch member
  have follows : s.desk.store.Follows calls := follows_after w _ start unstamped
  have dated : ∀ {user script ms}, lastEnabled calls user script = some ms →
      Stamp.InCalendar ms := by
    intro user script ms last
    obtain ⟨c, called, enabled, rfl⟩ := mem_of_lastEnabled last
    exact calendar c called enabled
  constructor
  · intro row member on
    obtain ⟨ms, last, stamp⟩ := follows row member on
    exact Gate.startedMillis_ofMillis stamp (dated last)
  · intro x byRun t new
    obtain ⟨g, found, on, started, read, fresh⟩ := s.letsIn_of_newTrades w byRun new
    obtain ⟨row, member, user, script, rfl⟩ := Store.mem_of_gate? found
    obtain ⟨ms, last, stamp⟩ := follows row member on
    rw [user, script] at last
    have called : Gate.startedMillis ⟨true, some (Stamp.ofMillis ms)⟩ = row.gate.startedMillis := by
      simp only [Gate.startedMillis, stamp]
    obtain ⟨since, readable⟩ := Gate.startedMillis_ofMillis stamp (dated last)
    obtain rfl : some since = started := Except.ok.inj (readable.symm.trans read)
    exact ⟨ms, since, last, called.trans readable, fresh since rfl⟩

namespace Sample

/-- A network in which nothing is answered. -/
def quiet : Network Unit where
  reply _ _ := (.silence, ⟨false, 0⟩, ())
  second _ := (⟨false, 1000⟩, ())

def call (enabled : Bool) (now : Int) : Deed Unit :=
  .errand (.statement "scripts" "set_bot_enabled"
    [("user_id", .text "ada"), ("script_id", .text "cross"), ("enabled", .bool enabled),
      ("now", .int now)])

/-- A user gets ready to trade, and the gate is turned on, off, and on again at an earlier time. -/
def turning : List (Deed Unit) :=
  [.errand (.statement "coins" "ensure_profile" [("user_id", .text "ada")]),
    .errand (.statement "settings" "save_exchange_keys"
      [("user_id", .text "ada"), ("api_key", .text "key"), ("api_secret", .text "secret")]),
    call true 9, call false 7, call true 5]

/-- A signal from outside is acted on. -/
def pushed : Deed Unit :=
  .errand (.run ⟨.given Run.Sample.activation, none, some Run.Sample.signal⟩)

def first : Session Unit := opening .sample 0 ()

end Sample

open Sample in
/-- A trade for the candle of the time at which its gate was turned on again. -/
theorem sample_trade_follows :
    (∀ x ∈ turning, ¬x.Restamps) ∧
      (∀ c ∈ gateCalls quiet turning first, c.enabled = true → Stamp.InCalendar c.millis) ∧
        lastEnabled (gateCalls quiet turning first) "ada" "cross" = some 5 ∧
          ((after quiet turning first).newTrades quiet pushed).map (·.candleTime) =
            [.number (.whole 5)] ∧
          ∀ t ∈ (after quiet turning first).newTrades quiet pushed, ∃ ms started,
            lastEnabled (gateCalls quiet turning first) t.user t.script = some ms ∧
              Gate.startedMillis ⟨true, some (Stamp.ofMillis ms)⟩ = .ok (some started) ∧
              t.candleTime.NotBefore started := by
  have unstamped : ∀ x ∈ turning, ¬x.Restamps := by simp [turning, call, Deed.Restamps]
  have calls : gateCalls quiet turning first =
      [⟨"ada", "cross", true, 9⟩, ⟨"ada", "cross", false, 7⟩, ⟨"ada", "cross", true, 5⟩] := by
    decide +kernel
  have calendar : ∀ c ∈ gateCalls quiet turning first, c.enabled = true →
      Stamp.InCalendar c.millis := by
    rw [calls]
    decide
  have follow := (trades_follow_calls quiet .sample 0 () unstamped calendar).2 pushed id
  exact ⟨unstamped, calendar, by rw [calls]; decide, by decide +kernel, follow⟩

end Session
end SignalDesk
