import SignalDesk.Proofs.Desk.Programs
import SignalDesk.Proofs.Statement.Changes
import SignalDesk.Service.Routes

namespace SignalDesk

/-- What can be asked of a desk. -/
inductive Activity
  | statement (part name : String) (arguments : Arguments)
  | request (connected : Bool) (authorization : Json) (route : Route)
  | run (a : Activation) (flags : Option Flags) (signal : Option (Signal Real64))
  | sweep
  | loop (interval : Option Int) (maxCycles : Int) (fuel : Nat)
  | dispatch (id : Json)
  | evaluateScript (id timeframe user : Json)
  | evaluateContent (text symbol timeframe : Json)
  | snapshot (symbol timeframe : Json)
  | initialise
  | stop

namespace Activity

/-- Does a statement on the store of a desk; one that has no answer changes nothing. -/
def perform (config : Config) (part name : String) (arguments : Arguments) (d : Desk) : Desk :=
  match Statement.perform part name ⟨d.now, config.startingCoins⟩ arguments d.store with
  | .ok (_, store) => { d with store }
  | .error _ => d

/-- The program of an activity, without its result. -/
def program (config : Config) : Activity → Program Desk Unit
  | statement part name arguments => .modify (perform config part name arguments)
  | request connected authorization route =>
    (Service.respond ⟨config, connected⟩ authorization route).map fun _ => ()
  | run a flags signal => (Run.run config a flags signal).map fun _ => ()
  | sweep => (Sweep.sweep config).map fun _ => ()
  | loop interval maxCycles fuel => (Sweep.loop config interval maxCycles fuel).map fun _ => ()
  | dispatch id => (Sweep.dispatch config id).map fun _ => ()
  | evaluateScript id timeframe user => (DryRun.script config id timeframe user).map fun _ => ()
  | evaluateContent text symbol timeframe =>
    (DryRun.content config text symbol timeframe).map fun _ => ()
  | snapshot symbol timeframe => (DryRun.snapshot config symbol timeframe).map fun _ => ()
  | initialise => .modify fun d => { d with store := d.store.initialised }
  | stop => .modify Desk.stop

/-- Whether an activity says how many coins a user is to have. -/
def SetsBalance : Activity → Prop
  | statement part name _ => Statement.SetsBalance part name
  | request _ _ (.adjustCoins _ _) => True
  | _ => False

/-- Whether an activity is a statement on the store. -/
def IsStatement : Activity → Prop
  | statement .. => True
  | _ => False

/-- Whether a step of an activity changes the store only as listed and, unless it is a statement,
works as desks do. One that says how many coins a user is to have is taken to keep balances in
range. -/
def Changes (x : Activity) (d d' : Desk) : Prop :=
  (x.SetsBalance → d'.store.InRange) → Desk.Changes d d' ∧ (¬x.IsStatement → Desk.Works d d')

end Activity

namespace Service

variable (service : Service)

/-- A request for a gate leaves the desk alone, or turns the gate of the caller, who has a profile if
it is turned on. -/
theorem setGateFor_sets (c : Caller) (script : Json) (enabled : Bool) (d : Desk) :
    (service.setGateFor c script enabled d).2 = d ∨ ∃ name s',
      (if enabled then
        d.store.ensureProfile c.user (Amount.whole service.config.startingCoins) 0 d.now
      else .ok d.store) = .ok s' ∧
        (service.setGateFor c script enabled d).2.store =
          s'.setGate c.user name enabled d.now := by
  simp only [setGateFor]
  split
  · exact .inl rfl
  split
  · exact .inl rfl
  rename_i name _
  simp only [setGate]
  split
  · exact .inl rfl
  split
  · exact .inl rfl
  · rename_i s' profiled
    exact .inr ⟨name, s', profiled, rfl⟩

theorem setGateFor_works (c : Caller) (script : Json) (enabled : Bool) (d : Desk) :
    Desk.Works d (service.setGateFor c script enabled d).2 := by
  rcases service.setGateFor_sets c script enabled d with same | ⟨name, s', profiled, sets⟩
  · exact .rests (congrArg Desk.store same)
  split at profiled
  · rename_i on
    subst on
    refine .changes (sets ▸ .enable name profiled) ?_
    rw [sets]
    rcases Store.ensureProfile_ok profiled with rfl | enrolled
    · rfl
    · exact enrolled.made
  · cases profiled
    exact .changes (sets ▸ .setGate ..) (by rw [sets]; rfl)

/-- A closing leaves the store alone, or closes the trade of a number that is read at a price that is
read. -/
theorem closeTrade_closes (c : Caller) (id : Json) (body : Body) (d : Desk) :
    (closeTrade c id body d).2 = d ∨ ∃ n price, Store.rowNumber? id = .ok (some n) ∧
      (Json.fieldOrNull body "exitPrice").toReal = .ok price ∧
        (closeTrade c id body d).2.store = (d.store.close n price (some c.user) d.now).2 := by
  simp only [closeTrade]
  split
  · exact .inl rfl
  rename_i price read
  split
  · exact .inl rfl
  · exact .inl rfl
  rename_i n named
  split
  · exact .inl rfl
  · rename_i store closed
    exact .inr ⟨n, price, named, read, (congrArg Prod.snd closed).symm⟩

theorem closeTrade_minor (c : Caller) (id : Json) (body : Body) (d : Desk) :
    d.store.Minor (closeTrade c id body d).2.store ∧
      d.store.SameRegister (closeTrade c id body d).2.store := by
  rcases closeTrade_closes c id body d with same | ⟨n, price, -, -, closed⟩
  · rw [same]
    exact ⟨.refl _, .refl _⟩
  · rw [closed]
    exact ⟨⟨.single (.close ..), Store.made_changeTrade fun _ => rfl, rfl, rfl⟩, rfl, rfl, rfl⟩

/-- An adjustment leaves the desk alone, or changes a balance. -/
theorem adjustCoins_adjusts (admin : Caller) (user : Json) (body : Body) (d : Desk) :
    (adjustCoins admin user body d).2 = d ∨ ∃ name delta note figures,
      d.store.adjust name delta note d.now =
        .ok (figures, (adjustCoins admin user body d).2.store) := by
  simp only [adjustCoins]
  split
  · exact .inl rfl
  split
  · exact .inl rfl
  · exact .inl rfl
  split
  · exact .inl rfl
  · exact .inl rfl
  · rename_i adjusted
    exact .inr ⟨_, _, _, _, adjusted⟩

theorem adjustCoins_works (admin : Caller) (user : Json) (body : Body) (d : Desk)
    (range : (adjustCoins admin user body d).2.store.InRange) :
    Desk.Works d (adjustCoins admin user body d).2 := by
  rcases adjustCoins_adjusts admin user body d with same | ⟨name, delta, note, figures, adjusted⟩
  · exact .rests (congrArg Desk.store same)
  · obtain ⟨e, entry⟩ := Store.adjust_ok adjusted
    exact .changes (.adjust adjusted fun _ => range) entry.made

theorem keepSignal_minor (offer : SignalOffer) (d : Desk) :
    Desk.Minor d (keepSignal offer d).2 := by
  simp only [keepSignal]
  split
  · exact .of_same rfl
  · rename_i added
    obtain ⟨minor, register⟩ := Store.addSignal_minor added
    exact ⟨minor, register, .of_eq (Store.addSignal_trades added)⟩

theorem fieldsOf_eq {body : Json} {fields : Body} (h : bodyOf body = .ok fields) :
    fieldsOf body = fields := by
  simp only [bodyOf] at h
  split at h
  · cases h
    rfl
  · rename_i other
    split at h <;> cases h
    rw [fieldsOf]
    exact other

end Service

/-- Whether a request asks for a saved script to be run, and not only evaluated. -/
def Route.IsLive : Route → Prop
  | execute action body _ _ =>
    action.asText = "evaluate-script" ∧
      Json.field? (Service.fieldsOf body) "dryRun" = some (.bool false)
  | _ => False

/-- Whether all activations that a caller can have run are such as `A` says, on desks of `J`. -/
def Caller.RunsOnly (J : Desk → Prop) (A : Activation → Prop) (c : Caller) : Prop :=
  ∀ d d', J d → J d' → ∀ id label, Service.scriptFor c id d.store = .ok label →
    ∀ timeframe e script a,
      Service.liveActivation c label timeframe e script d'.store = .ok a → A a

theorem Caller.RunsOnly.any (J : Desk → Prop) (c : Caller) : c.RunsOnly J fun _ => True :=
  fun _ _ _ _ _ _ _ _ _ _ _ _ => trivial

namespace Desk.Allows

variable {J : Desk → Prop} {A : Activation → Prop} {C : Program.Property Desk}
  (allows : Desk.Allows J A C) (service : Service)

include allows

theorem ingestSignal (body : Service.Body) : C (fun _ => True) (service.ingestSignal body) := by
  simp only [Service.ingestSignal]
  split
  · exact allows.done _
  rename_i offer _
  refine allows.bind (allows.minor (Service.keepSignal_minor offer)) fun added => ?_
  split
  · exact allows.done _
  · exact allows.done _
  · refine allows.bind (allows.dispatch _ _) fun results => ?_
    split <;> exact allows.done _

theorem evaluateSaved (c : Caller) (id : Label) (timeframe : Json) {dryRun : Bool}
    (fit : dryRun = false → ∀ d, J d → ∀ e script a,
      Service.liveActivation c id timeframe e script d.store = .ok a → A a) :
    C (fun _ => True) (service.evaluateSaved c id timeframe dryRun) := by
  refine allows.bind (allows.script _ _ _ _) fun evaluated => ?_
  split
  · exact allows.done _
  dsimp only
  split
  · exact allows.done _
  rename_i live
  refine allows.composes.bind (allows.reads _) fun found ⟨d, holds, read⟩ => ?_
  cases found with
  | error e => exact allows.done _
  | ok a =>
    have fit := fit (Bool.eq_false_iff.mpr live) d holds _ _ a read.symm
    refine allows.bind (allows.run _ _ _ _ fit) fun ended => ?_
    split <;> exact allows.done _

theorem evaluateScript (c : Caller) {body : Service.Body}
    (fit : Json.field? body "dryRun" = some (.bool false) → c.RunsOnly J A) :
    C (fun _ => True) (service.evaluateScript c body) := by
  simp only [Service.evaluateScript]
  split
  · exact allows.done _
  refine allows.composes.bind (allows.reads _) fun found ⟨d, holds, read⟩ => ?_
  cases found with
  | error reply => exact allows.done _
  | ok label =>
    refine allows.evaluateSaved service c label _ fun live d' holds' e script a activation => ?_
    split at live
    · rename_i asked
      exact fit asked d d' holds holds' _ label read.symm _ e script a activation
    · cases live

theorem evaluateContent (body : Service.Body) :
    C (fun _ => True) (service.evaluateContent body) := by
  simp only [Service.evaluateContent]
  split
  · exact allows.done _
  · exact allows.map (allows.content ..)

theorem indicatorsFor (body symbol timeframe : Json) :
    C (fun _ => True) (service.indicatorsFor body symbol timeframe) := by
  simp only [Service.indicatorsFor]
  split
  · exact allows.done _
  simp only [Service.indicators]
  split
  · exact allows.done _
  · exact allows.map (allows.snapshot ..)

theorem execute (c : Caller) {action body symbol timeframe : Json}
    (fit : (Route.execute action body symbol timeframe).IsLive → c.RunsOnly J A) :
    C (fun _ => True) (service.execute c action body symbol timeframe) := by
  simp only [Service.execute]
  split
  · split <;> exact allows.done _
  · split
    · exact allows.done _
    · exact allows.evaluateContent service _
  · exact allows.indicatorsFor service ..
  · rename_i named
    split
    · exact allows.done _
    · rename_i fields
      refine allows.evaluateScript service c fun live => fit ⟨named, ?_⟩
      rwa [Service.fieldsOf_eq fields]
  · split
    · exact allows.done _
    · exact allows.map (allows.sweep _)
  · exact allows.done _
  · exact allows.done _

/-- Answering a request, if the property holds of the steps that turn gates, close trades and adjust
coins, and of the runs that the sender can ask for. -/
theorem respond (authorization : Json) {r : Route}
    (lives : r.IsLive → ∀ d, J d → ∀ c, service.callerFor authorization r d.store = .ok c →
      c.RunsOnly J A)
    (gates : ∀ script enabled, r = .setGate script enabled →
      ∀ c, C (fun _ => True) (Program.atomically (service.setGateFor c script enabled)))
    (closings : ∀ id body, r = .closeTrade id body → ∀ c,
      C (fun _ => True) (Program.atomically (Service.closeTrade c id (Service.fieldsOf body))))
    (coins : ∀ user body, r = .adjustCoins user body → ∀ c,
      C (fun _ => True) (Program.atomically (Service.adjustCoins c user (Service.fieldsOf body)))) :
    C (fun _ => True) (service.respond authorization r) := by
  refine allows.composes.bind (allows.reads _) fun found ⟨d, holds, read⟩ => ?_
  cases found with
  | error e => exact allows.done _
  | ok c =>
  cases r with
  | health => exact allows.done _
  | status => exact allows.read _
  | execute => exact allows.execute service c fun live => lives live d holds c read.symm
  | ingestSignal body =>
    cases body with
    | object fields => exact allows.ingestSignal service fields
    | _ => exact allows.done _
  | setGate script enabled => exact gates script enabled rfl c
  | trades => exact allows.read _
  | closeTrade id body => exact closings id body rfl c
  | keyStatus => exact allows.read _
  | coins => exact allows.read _
  | adjustCoins user body => exact coins user body rfl c

/-- An activity, if the property holds of statements, of the steps that turn gates, close trades and
adjust coins, and of the runs that are asked for. -/
theorem activity (config : Config) {x : Activity}
    (given : ∀ a flags signal, x = .run a flags signal → A a)
    (lives : ∀ connected authorization r, x = .request connected authorization r → r.IsLive →
      ∀ d, J d → ∀ c, Service.callerFor ⟨config, connected⟩ authorization r d.store = .ok c →
        c.RunsOnly J A)
    (statements : ∀ part name arguments, x = .statement part name arguments →
      C (fun _ => True) (Program.modify (Activity.perform config part name arguments)))
    (gates : ∀ connected authorization script enabled,
      x = .request connected authorization (.setGate script enabled) → ∀ c, C (fun _ => True)
        (Program.atomically (Service.setGateFor ⟨config, connected⟩ c script enabled)))
    (closings : ∀ connected authorization id body,
      x = .request connected authorization (.closeTrade id body) → ∀ c, C (fun _ => True)
        (Program.atomically (Service.closeTrade c id (Service.fieldsOf body))))
    (coins : ∀ connected authorization user body,
      x = .request connected authorization (.adjustCoins user body) → ∀ c, C (fun _ => True)
        (Program.atomically (Service.adjustCoins c user (Service.fieldsOf body)))) :
    C (fun _ => True) (x.program config) := by
  cases x with
  | statement part name arguments => exact statements part name arguments rfl
  | request connected authorization route =>
    refine allows.map (allows.respond _ authorization (lives _ _ _ rfl) ?_ ?_ ?_)
    · rintro script enabled rfl
      exact gates connected authorization script enabled rfl
    · rintro id body rfl
      exact closings connected authorization id body rfl
    · rintro user body rfl
      exact coins connected authorization user body rfl
  | run a flags signal =>
    exact allows.map (allows.run config a flags signal (given a flags signal rfl))
  | sweep => exact allows.map (allows.sweep config)
  | loop => exact allows.map (allows.loop config _ _ _)
  | dispatch id => exact allows.map (allows.dispatch config id)
  | evaluateScript => exact allows.map (allows.script config _ _ _)
  | evaluateContent => exact allows.map (allows.content config _ _ _)
  | snapshot => exact allows.map (allows.snapshot config _ _)
  | initialise =>
    exact allows.modify fun _ =>
      ⟨⟨.single .initialise, rfl, rfl, rfl⟩, ⟨rfl, rfl, rfl⟩, .of_eq rfl⟩
  | stop => exact allows.modify fun _ => .of_same rfl

end Desk.Allows

namespace Activity

/-- **What activities change.** Whatever it hears, an activity changes the store only as
`Store.Change` lists it, and only statements and commitments make trades. -/
theorem within (config : Config) (x : Activity) :
    (x.program config).Within (fun _ => True) x.Changes fun _ => True := by
  have works : ∀ d d', Desk.Works d d' → x.Changes d d' :=
    fun d d' works _ => ⟨works.changed, fun _ => works⟩
  refine (Desk.allows_within works).activity config (fun _ _ _ _ => trivial)
    (fun _ _ _ _ _ _ _ c _ => .any _ c) ?statements ?gates ?closings ?coins
  case statements =>
    rintro part name arguments rfl
    refine Program.Within.modify fun d range => ⟨?_, fun other => absurd trivial other⟩
    simp only [perform, Desk.Changes] at range ⊢
    split at range
    · rename_i performed
      exact Statement.perform_changes performed range
    · exact .refl
  case gates =>
    rintro connected authorization script enabled rfl c
    exact .atomically fun d => ⟨works d _ (Service.setGateFor_works _ c script enabled d), trivial⟩
  case closings =>
    rintro connected authorization id body rfl c
    have minor := fun d => (Service.closeTrade_minor c id (Service.fieldsOf body) d).1
    exact .atomically fun d => ⟨works d _ (.of_minor (minor d)), trivial⟩
  case coins =>
    rintro connected authorization user body rfl c
    refine .atomically fun d => ⟨fun range => ?_, trivial⟩
    have adjusts := Service.adjustCoins_works c user (Service.fieldsOf body) d (range trivial)
    exact ⟨adjusts.changed, fun _ => adjusts⟩

end Activity
end SignalDesk
