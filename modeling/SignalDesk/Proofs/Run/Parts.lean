import SignalDesk.Proofs.Exchange.Answers
import SignalDesk.Proofs.Network.Within
import SignalDesk.Proofs.Store.Reservation
import SignalDesk.Run.Basic

/-!
# The parts of a run

What each part of a run asks and changes: evaluating a script sends no order and leaves the store
alone, the market order is one request, and everything after it sends protective legs only. A run
leaves the state of the sweep loop as it is, and its result is in the names of its activation
(`Run.run_footprint`).
-/

namespace SignalDesk

/-! ## Orders among the requests -/

namespace Request

/-- The type of the order that a request places, if it places one. -/
def orderType? (q : Request) : Option ParamValue :=
  if q.method = .post then q.params.lookup "type" else none

def IsMarket (q : Request) : Prop := q.method = .post ∧ q.orderType? = some (.text "MARKET")

/-- Whether a request places a leg that protects a filled order. -/
def IsProtective (q : Request) : Prop :=
  q.method = .post ∧ (q.orderType? = some (.text "STOP_LOSS_LIMIT") ∨
    q.orderType? = some (.text "TAKE_PROFIT_LIMIT"))

instance (q : Request) : Decidable q.IsMarket := inferInstanceAs (Decidable (_ ∧ _))

end Request

theorem Params.lookup_set {name other : String} (h : other ≠ name) (value : String)
    (params : Params) : (params.set name value).lookup other = params.lookup other := by
  induction params with
  | nil =>
    have differs : (other == name) = false := by simpa using h
    simp only [set, List.lookup_cons, List.lookup_nil, differs]
  | cons p params ih =>
    obtain ⟨n, v⟩ := p
    simp only [set]
    split
    · rename_i same
      subst same
      have differs : (other == n) = false := by simpa using h
      simp only [List.lookup_cons, differs]
    · simp only [List.lookup_cons, ih]

theorem Params.lookup_signed {name : String} (time : name ≠ "timestamp")
    (signature : name ≠ "signature") (params : Params) (secret : String) (ms : Int) :
    (params.signed secret ms).lookup name = params.lookup name := by
  rw [signed, lookup_set signature, lookup_set time]

namespace Exchange

variable (x : Exchange)

theorem lookup_texts (name : String) (params : Params) :
    (params.map fun (n, v) => (n, ParamValue.text v)).lookup name =
      (params.lookup name).map .text := by
  induction params with
  | nil => rfl
  | cons p params ih =>
    obtain ⟨n, v⟩ := p
    simp only [List.map_cons, List.lookup_cons, ih]
    cases name == n <;> rfl

/-- Signing leaves the other parameters of an order alone. -/
theorem lookup_request {name : String} (time : name ≠ "timestamp") (signature : name ≠ "signature")
    (params : Params) (clock : Int) :
    (x.request params clock).params.lookup name = (params.lookup name).map .text := by
  simp only [request, lookup_texts]
  rw [Params.lookup_signed time signature]

theorem orderType?_request (params : Params) (clock : Int) :
    (x.request params clock).orderType? = (params.lookup "type").map .text :=
  (if_pos rfl).trans (x.lookup_request (by decide) (by decide) params clock)

theorem isMarket_request (o : Order) (clock : Int) : (x.request o.market clock).IsMarket :=
  ⟨rfl, x.orderType?_request o.market clock⟩

theorem isProtective_request {o : Order} {leg : String × Params} (h : leg ∈ o.legs) (clock : Int) :
    (x.request leg.2 clock).IsProtective := by
  refine ⟨rfl, ?_⟩
  rw [orderType?_request]
  simp only [Order.legs, List.mem_append, Option.mem_toList, Option.map_eq_some_iff] at h
  rcases h with ⟨_, -, rfl⟩ | ⟨_, -, rfl⟩
  · exact .inl rfl
  · exact .inr rfl

end Exchange

/-! ## Asking the market -/

/-- Whether the store stays as it is. -/
def Desk.SameStore (d d' : Desk) : Prop := d'.store = d.store

/-- A program that leaves the store alone does so in surroundings that do. -/
theorem Program.Within.sameStore {α ν : Type} {P : Request → Prop} {Q : α → Prop}
    {p : Program Desk α} (h : p.Within P Desk.SameStore Q) {around : Surroundings Desk ν}
    (leaves : around.Within Desk.SameStore) (w : Desk × ν) :
    Q (p.run around w).1 ∧ (p.run around w).2.1.store = w.1.store ∧
      ∀ r ∈ p.requests around w, P r :=
  h.run (fun _ => rfl) (fun first second => second.trans first) leaves w

theorem Hosts.askFrom_within {σ α : Type} {request : String → Request}
    {parse : Json → Payload.Read α} {P : Request → Prop} {R : σ → σ → Prop}
    {failures : List HostFailure} {hosts : List String} (h : ∀ host, P (request host)) :
    (askFrom request parse failures hosts : Program σ (Except FetchError α)).Within P R
      fun _ => True := by
  induction hosts generalizing failures with
  | nil => exact trivial
  | cons host hosts ih =>
    refine ⟨h host, fun reply => ?_⟩
    dsimp only
    split
    · exact trivial
    · exact trivial
    · exact ih

theorem Market.get_within {σ α : Type} {R : σ → σ → Prop} (m : Market) (path : String)
    (params : List (String × ParamValue)) (parse : Json → Payload.Read α) :
    (m.get path params parse : Program σ _).Within (·.method = .get) R fun _ => True :=
  Hosts.askFrom_within fun _ => rfl

namespace Run

theorem compile_within (script : Label) (content : String) :
    (Program.atomically (compile script content)).Within (·.method = .get) Desk.SameStore
      fun _ => True :=
  .atomically fun _ => ⟨rfl, trivial⟩

/-- The number of the trade that a run made, if it made one. -/
def tradeOf : Ending → Option Int
  | .ok r => r.trade
  | .error _ => none

/-- Whether a run can go on, or ends without a trade. -/
def NoTrade {α : Type} (r : Except Ending α) : Prop :=
  ∀ ending, r = .error ending → tradeOf ending = none

/-- Whether a run of an activation that ends so has placed no order: it went wrong, or its result
names no trade and is not executed. -/
inductive Unplaced (a : Activation) : Ending → Prop where
  | fault (e : DeskError) : Unplaced a (.error e)
  | result {outcome : Outcome} (other : outcome ≠ .executed) (reason : Label)
      (signal : Option (Signal Real64)) : Unplaced a (.ok (a.result outcome reason signal))

theorem Unplaced.noTrade {a : Activation} {ending : Ending} (h : Unplaced a ending) :
    tradeOf ending = none := by
  cases h <;> rfl

theorem invalidScript_unplaced (a : Activation) (e : ScriptError) :
    Unplaced a (invalidScript a e) :=
  .result (by decide) _ _

theorem withoutCandles_unplaced (a : Activation) (e : FetchError) :
    Unplaced a (withoutCandles a e) := by
  cases e with
  | rateLimited => exact .result (by decide) _ _
  | unavailable => exact .result (by decide) _ _
  | _ => exact .fault _

theorem signalOf_unplaced {a : Activation} {s : Strategy Real64} {candles : List (Candle Real64)}
    {ending : Ending} (h : signalOf a s candles = .error ending) : Unplaced a ending := by
  simp only [signalOf] at h
  split at h
  · cases h
  · exact Except.error.inj h ▸ .result (by decide) _ _
  · exact Except.error.inj h ▸ invalidScript_unplaced ..
  · exact Except.error.inj h ▸ .fault _

/-- Evaluating a script sends no order and leaves the store alone. -/
theorem evaluate_within (config : Config) (a : Activation) :
    (evaluate config a).Within (·.method = .get) Desk.SameStore
      fun result => ∀ ending, result = .error ending → Unplaced a ending := by
  apply (compile_within a.script a.content).bind
  intro strategy _
  cases strategy with
  | error e =>
    rintro ending ⟨⟩
    exact invalidScript_unplaced a e
  | ok strategy =>
    apply (Market.get_within ..).bind
    intro candles _
    cases candles with
    | error e =>
      rintro ending ⟨⟩
      exact withoutCandles_unplaced a e
    | ok candles => exact fun _ found => signalOf_unplaced found

/-! ## From the gate to the order -/

/-- The signal that a run acts on: the one from outside, or that of its script. -/
def signalFor (config : Config) (a : Activation) :
    Option (Signal Real64) → Program Desk (Except Ending (Signal Real64))
  | some signal => .done (.ok signal)
  | none => evaluate config a

/-- What a run does once it has a signal, or none. -/
def follow (config : Config) (a : Activation) (gate : Gate) :
    Except Ending (Signal Real64) → Program Desk Ending
  | .error ending => .done ending
  | .ok signal =>
    (Program.atomically (commitOn config a gate signal)).bind fun
      | .error ending => .done ending
      | .ok reserved => place config a signal reserved

theorem commitOn_error {config : Config} {a : Activation} {gate : Gate} {signal : Signal Real64}
    {d : Desk} {ending : Ending}
    (h : commit config a gate signal d.now d.store = .error ending) :
    commitOn config a gate signal d = (.error ending, d) := by
  simp only [commitOn, h]

theorem commitOn_ok {config : Config} {a : Activation} {gate : Gate} {signal : Signal Real64}
    {d : Desk} {r : Reserved} {s : Store}
    (h : commit config a gate signal d.now d.store = .ok (r, s)) :
    commitOn config a gate signal d = (.ok r, { d with store := s }) := by
  simp only [commitOn, h]

theorem run_eq (config : Config) (a : Activation) (flags : Option Flags)
    (signal : Option (Signal Real64)) :
    run config a flags signal =
      (Program.read fun d => passGates a flags d.store).bind fun
        | .error r => .done (.ok r)
        | .ok gate => (signalFor config a signal).bind (follow config a gate) := by
  simp only [run]
  refine congrArg _ (funext fun gates => ?_)
  cases gates with
  | error r => rfl
  | ok gate => cases signal <;> rfl

theorem signalFor_within (config : Config) (a : Activation) (signal : Option (Signal Real64)) :
    (signalFor config a signal).Within (·.method = .get) Desk.SameStore
      fun result => ∀ ending, result = .error ending → Unplaced a ending := by
  cases signal with
  | none => exact evaluate_within config a
  | some signal => rintro ending ⟨⟩

/-- In surroundings that leave the store alone, so does the search for a signal. -/
theorem signalFor_leaves {ν : Type} {config : Config} {a : Activation}
    {given : Option (Signal Real64)} {around : Surroundings Desk ν}
    (leaves : around.Within Desk.SameStore) {w v : Desk × ν}
    {result : Except Ending (Signal Real64)}
    (found : (signalFor config a given).run around w = (result, v)) :
    NoTrade result ∧ v.1.store = w.1.store ∧
      ∀ q ∈ (signalFor config a given).requests around w, q.method = .get := by
  obtain ⟨unplaced, bounds⟩ := (signalFor_within config a given).sameStore leaves w
  rw [found] at unplaced bounds
  exact ⟨fun ending ended => (unplaced ending ended).noTrade, bounds⟩

/-- How a run can end, where it leaves the desk and what it has sent: held back at a gate, without a
signal, without room for its trade, or after placing the order of one. -/
inductive Ends {ν : Type} (config : Config) (a : Activation) (flags : Option Flags)
    (given : Option (Signal Real64)) (around : Surroundings Desk ν) (w : Desk × ν) :
    Ending × Desk × ν → List Request → Prop where
  | gated {r : Run} (gates : passGates a flags w.1.store = .error r) :
      Ends config a flags given around w (.ok r, w) []
  | unsignalled {gate : Gate} {ending : Ending} {v : Desk × ν}
      (gates : passGates a flags w.1.store = .ok gate)
      (found : (signalFor config a given).run around w = (.error ending, v)) :
      Ends config a flags given around w (ending, v) ((signalFor config a given).requests around w)
  | uncommitted {gate : Gate} {signal : Signal Real64} {ending : Ending} {v : Desk × ν}
      (gates : passGates a flags w.1.store = .ok gate)
      (found : (signalFor config a given).run around w = (.ok signal, v))
      (committed : commit config a gate signal v.1.now v.1.store = .error ending) :
      Ends config a flags given around w (ending, v) ((signalFor config a given).requests around w)
  | placed {gate : Gate} {signal : Signal Real64} {r : Reserved} {s : Store} {v : Desk × ν}
      {ended : Ending × Desk × ν} {sent : List Request}
      (gates : passGates a flags w.1.store = .ok gate)
      (found : (signalFor config a given).run around w = (.ok signal, v))
      (committed : commit config a gate signal v.1.now v.1.store = .ok (r, s))
      (ran : (place config a signal r).run around ({ v.1 with store := s }, v.2) = ended)
      (asked : (place config a signal r).requests around ({ v.1 with store := s }, v.2) = sent) :
      Ends config a flags given around w ended
        ((signalFor config a given).requests around w ++ sent)

theorem run_ends {ν : Type} (config : Config) (a : Activation) (flags : Option Flags)
    (given : Option (Signal Real64)) (around : Surroundings Desk ν) (w : Desk × ν) :
    Ends config a flags given around w ((run config a flags given).run around w)
      ((run config a flags given).requests around w) := by
  simp only [run_eq, Program.run_bind, Program.requests_bind, Program.run_read]
  change Ends _ _ _ _ _ _ _ ([] ++ _)
  rw [List.nil_append]
  cases gates : passGates a flags w.1.store with
  | error r => exact .gated gates
  | ok gate =>
    simp only [Program.run_bind, Program.requests_bind]
    cases found : (signalFor config a given).run around w with
    | mk result v =>
    cases result with
    | error ending =>
      simp only [follow, Program.run, Program.requests, List.append_nil]
      exact .unsignalled gates found
    | ok signal =>
      simp only [follow, Program.run_bind, Program.requests_bind, Program.run_atomically, commitOn]
      change Ends _ _ _ _ _ _ _ (_ ++ ([] ++ _))
      rw [List.nil_append]
      cases committed : commit config a gate signal v.1.now v.1.store with
      | error ending =>
        simp only [Program.run, Program.requests, List.append_nil]
        exact .uncommitted gates found committed
      | ok reserved =>
        exact .placed gates found committed rfl rfl

theorem passGates_unplaced {a : Activation} {flags : Option Flags} {s : Store} {r : Run}
    (h : passGates a flags s = .error r) : Unplaced a (.ok r) := by
  have gated : ∀ reason, Unplaced a (.ok (a.result .skippedGated reason none)) :=
    fun _ => .result (by decide) _ _
  simp only [passGates] at h
  split at h
  · exact Except.error.inj h ▸ gated _
  split at h
  · exact Except.error.inj h ▸ gated _
  split at h
  · exact Except.error.inj h ▸ gated _
  split at h
  · cases h
  · exact Except.error.inj h ▸ gated _

theorem passGates_noTrade {a : Activation} {flags : Option Flags} {s : Store} {r : Run}
    (h : passGates a flags s = .error r) : r.trade = none :=
  (passGates_unplaced h).noTrade

theorem commit_unplaced {config : Config} {a : Activation} {gate : Gate} {signal : Signal Real64}
    {now : String} {s : Store} {ending : Ending}
    (h : commit config a gate signal now s = .error ending) : Unplaced a ending := by
  simp only [commit] at h
  split at h
  · exact Except.error.inj h ▸ .result (by decide) _ _
  split at h
  · exact Except.error.inj h ▸ .fault _
  · exact Except.error.inj h ▸ .result (by decide) _ _
  split at h
  · exact Except.error.inj h ▸ .result (by decide) _ _
  split at h
  · exact Except.error.inj h ▸ .result (by decide) _ _
  split at h
  · exact Except.error.inj h ▸ .result (by decide) _ _
  split at h
  · cases h
  · exact Except.error.inj h ▸ .result (by decide) _ _
  · exact Except.error.inj h ▸ .result (by decide) _ _
  · exact Except.error.inj h ▸ .fault _

theorem commit_noTrade (config : Config) (a : Activation) (gate : Gate) (signal : Signal Real64)
    (now : String) (s : Store) : NoTrade (commit config a gate signal now s) :=
  fun _ ended => (commit_unplaced ended).noTrade

/-- A run that goes on from its gate and signal has reserved a trade. -/
theorem commit_ok {config : Config} {a : Activation} {gate : Gate} {signal : Signal Real64}
    {now : String} {s s' : Store} {r : Reserved}
    (h : commit config a gate signal now s = .ok (r, s')) :
    ∃ quantity, s.reserve (reservation a signal quantity) now = .ok (r.trade, s') := by
  simp only [commit] at h
  split at h
  · cases h
  split at h
  · cases h
  · cases h
  split at h
  · cases h
  split at h
  · cases h
  split at h
  · cases h
  split at h
  · rename_i reserved
    cases h
    exact ⟨_, reserved⟩
  all_goals cases h

/-! ## Placing orders -/

/-- All that is sent for a market order is the request that asks for it, at some time. -/
theorem placeMarket_asks {R : Desk → Desk → Prop} (refl : ∀ d, R d d) (config : Config)
    (r : Reserved) :
    (placeMarket config r).Within
      (fun q => ∃ clock, q = (config.exchange r.keys).request r.order.market clock) R
      fun _ => True := by
  simp only [placeMarket]
  apply Program.Within.giveWay.bind
  intro _ _
  split
  · trivial
  · exact fun d => ⟨refl d, ⟨_, rfl⟩, fun _ => trivial⟩

theorem placeMarket_looks {R : Desk → Desk → Prop} (refl : ∀ d, R d d) (config : Config)
    (r : Reserved) : (placeMarket config r).Within (·.IsMarket) R fun _ => True := by
  apply (placeMarket_asks refl config r).mono _ (fun _ _ h => h) fun _ h => h
  rintro q ⟨clock, rfl⟩
  exact Exchange.isMarket_request ..

theorem placeMarket_within (config : Config) (r : Reserved) :
    (placeMarket config r).Within (·.IsMarket) Desk.SameStore fun _ => True :=
  placeMarket_looks (R := Desk.SameStore) (fun _ => rfl) config r

/-- The market order is sent once, or not at all. -/
theorem placeMarket_requests {ν : Type} (config : Config) (r : Reserved)
    (around : Surroundings Desk ν) (w : Desk × ν) :
    ((placeMarket config r).requests around w).length ≤ 1 := by
  simp only [placeMarket, Program.giveWay, Program.monad_bind_eq, Program.bind, Program.requests]
  split <;> simp [Exchange.placeMarket, Program.requests, Program.bind]

theorem placeProtective_looks {R : Desk → Desk → Prop} (refl : ∀ d, R d d) (x : Exchange)
    (o : Order) :
    (x.placeProtective Desk.clock o).Within (·.IsProtective) R fun _ => True := by
  have legs : ∀ legs : List (String × Params),
      (∀ leg ∈ legs, ∀ clock, (x.request leg.2 clock).IsProtective) →
      (x.placeLegs Desk.clock legs).Within (·.IsProtective) R fun _ => True := by
    intro legs h
    induction legs with
    | nil => exact trivial
    | cons leg legs ih =>
      obtain ⟨hleg, hlegs⟩ := List.forall_mem_cons.mp h
      exact fun d => ⟨refl d, hleg _, fun _ => (ih hlegs).bind fun _ _ => trivial⟩
  exact legs _ fun leg hleg clock => x.isProtective_request hleg clock

theorem placeProtective_within (x : Exchange) (o : Order) :
    (x.placeProtective Desk.clock o).Within (·.IsProtective) Desk.SameStore fun _ => True :=
  placeProtective_looks (R := Desk.SameStore) (fun _ => rfl) x o

theorem markFor_refused {answer : Except OrderError Acknowledgement} {e : OrderError}
    {message : String} :
    markFor answer = .ok (.refused e message) ↔ answer = .error e ∧ e.message = .whole message := by
  cases answer with
  | error e' =>
    cases said : e'.message <;> simp only [markFor, said, Store.written, Except.map] <;> aesop
  | ok a => cases said : a.order <;> simp [markFor, said, Store.written, Except.map]

theorem markFor_filled {answer : Except OrderError Acknowledgement} {order : String}
    {price : Real64} :
    markFor answer = .ok (.filled order price) ↔
      ∃ a, answer = .ok a ∧ a.order = .whole order ∧ a.price = price := by
  cases answer with
  | error e => cases said : e.message <;> simp [markFor, said, Store.written, Except.map]
  | ok a => cases said : a.order <;> simp [markFor, said, Store.written, Except.map]

/-- There is no mark only for want of the bytes of a text. -/
theorem markFor_error {answer : Except OrderError Acknowledgement} {fault : StoreError} :
    markFor answer = .error fault ↔
      ∃ points half, Exchange.noted answer = .torn points half ∧ fault = .byteless points := by
  have unwritten : ∀ {t : Text} {make : String → Mark}, (Store.written t).map make = .error fault ↔
      ∃ points half, t = .torn points half ∧ fault = .byteless points := by
    intro t make
    cases t with
    | whole s => exact iff_of_false nofun fun ⟨_, _, torn, _⟩ => nomatch torn
    | torn points half =>
      constructor
      · rintro ⟨⟩
        exact ⟨points, half, rfl, rfl⟩
      · rintro ⟨_, _, ⟨⟩, rfl⟩
        rfl
  cases answer with
  | error e => exact unwritten
  | ok a => exact unwritten

/-- Whether a run broke off at a torn text. -/
def Broken (ending : Ending) : Prop := ∃ points, ending = .error (.store (.byteless points))

section

variable {config : Config} {a : Activation} {signal : Signal Real64} {r : Reserved}
  {R : Desk → Desk → Prop} {Q : Ending → Prop}

/-- A run that is concluded marks its trade at most, and sends no order but legs that protect it. -/
theorem conclude_looks {mark : Except StoreError Mark} (refl : ∀ d, R d d)
    (refuses : ∀ e message d, R d (markRefused r.trade e message d))
    (fills : ∀ order price d, R d (markFilled r order price d))
    (breaks : ∀ e, mark = .error e → Q (.error (.store e)))
    (trades : ∀ outcome reason, Q (.ok (tradedResult a signal r outcome reason))) :
    (conclude config a signal r mark).Within (·.IsProtective) R Q := by
  cases mark with
  | error e => exact breaks e rfl
  | ok mark =>
    cases mark with
    | refused e message =>
      exact (Program.Within.modify (refuses e message)).bind fun _ _ => trades ..
    | filled order price =>
      apply (Program.Within.modify (fills order price)).bind
      intro _ _
      exact (placeProtective_looks refl ..).bind fun _ _ => trades ..

theorem place_looks (refl : ∀ d, R d d)
    (refuses : ∀ e message d, R d (markRefused r.trade e message d))
    (fills : ∀ order price d, R d (markFilled r order price d))
    (breaks : ∀ points, Q (.error (.store (.byteless points))))
    (trades : ∀ outcome reason, Q (.ok (tradedResult a signal r outcome reason))) :
    (place config a signal r).Within (fun q => q.IsMarket ∨ q.IsProtective) R Q := by
  apply ((placeMarket_looks refl config r).mono (fun _ => .inl) (fun _ _ h => h)
    fun _ h => h).bind
  intro answer _
  refine (conclude_looks refl refuses fills ?_ trades).mono (fun _ => .inr) (fun _ _ h => h)
    fun _ h => h
  intro e unmarked
  obtain ⟨points, -, -, rfl⟩ := markFor_error.mp unmarked
  exact breaks points

end

end Run

/-! ## What runs leave alone -/

/-- Whether the state of the sweep loop stays as it is. -/
structure Desk.SameLoop (d d' : Desk) : Prop where
  running : d'.running = d.running
  sweeps : d'.sweeps = d.sweeps
  lastSweep : d'.lastSweep = d.lastSweep

namespace Desk.SameLoop

theorem refl (d : Desk) : d.SameLoop d := ⟨rfl, rfl, rfl⟩

end Desk.SameLoop

namespace Run

/-- Whether a result is in the names of an activation. -/
structure Names (a : Activation) (r : Run) : Prop where
  user : r.user = a.user
  script : r.script = a.script
  timeframe : r.timeframe = a.timeframe

/-- Whether the result of a run that ends so is in the names of an activation, if there is one. -/
def EndsFor (a : Activation) (ending : Ending) : Prop := ∀ r, ending = .ok r → r.Names a

variable {a : Activation}

theorem result_names (a : Activation) (outcome : Outcome) (reason : Label)
    (signal : Option (Signal Real64)) : (a.result outcome reason signal).Names a :=
  ⟨rfl, rfl, rfl⟩

theorem Unplaced.endsFor {ending : Ending} (h : Unplaced a ending) : EndsFor a ending := by
  cases h with
  | fault e =>
    intro r same
    cases same
  | result other reason signal =>
    rintro r ⟨⟩
    exact result_names ..

theorem evaluate_footprint (config : Config) (a : Activation) :
    (evaluate config a).Within (fun _ => True) Desk.SameLoop fun found =>
      ∀ ending, found = .error ending → EndsFor a ending := by
  have compiled : (Program.atomically (compile a.script a.content)).Within (fun _ => True)
      Desk.SameLoop fun _ => True :=
    .atomically fun _ => ⟨⟨rfl, rfl, rfl⟩, trivial⟩
  apply compiled.bind
  intro strategy _
  cases strategy with
  | error e =>
    rintro ending ⟨⟩
    exact (invalidScript_unplaced a e).endsFor
  | ok strategy =>
    have asked : (config.market.fetchCandles a.symbol a.timeframe
        (a.overrides.candleLimitOr config.candleLimit)).Within (fun _ => True) Desk.SameLoop
          fun _ => True :=
      (Market.get_within ..).changes fun _ _ same => same
    apply asked.bind
    intro candles _
    cases candles with
    | error e =>
      rintro ending ⟨⟩
      exact (withoutCandles_unplaced a e).endsFor
    | ok candles => exact fun _ found => (signalOf_unplaced found).endsFor

theorem place_footprint (config : Config) (a : Activation) (signal : Signal Real64)
    (r : Reserved) :
    (place config a signal r).Within (fun _ => True) Desk.SameLoop (EndsFor a) := by
  refine (place_looks Desk.SameLoop.refl ?refuses ?fills ?breaks ?trades).mono
    (fun _ _ => trivial) (fun _ _ same => same) fun _ ends => ends
  case refuses => exact fun e _ _ => by cases e <;> exact ⟨rfl, rfl, rfl⟩
  case fills => exact fun _ _ _ => ⟨rfl, rfl, rfl⟩
  case breaks => exact fun _ => (Unplaced.fault _).endsFor
  case trades =>
    rintro outcome reason _ ⟨⟩
    exact ⟨rfl, rfl, rfl⟩

theorem commitOn_footprint (config : Config) (a : Activation) (gate : Gate)
    (signal : Signal Real64) (d : Desk) :
    d.SameLoop (commitOn config a gate signal d).2 ∧
      ∀ ending, (commitOn config a gate signal d).1 = .error ending → EndsFor a ending := by
  cases committed : commit config a gate signal d.now d.store with
  | error ending =>
    rw [commitOn_error committed]
    refine ⟨.refl d, ?_⟩
    rintro ending ⟨⟩
    exact (commit_unplaced committed).endsFor
  | ok made =>
    obtain ⟨r, s⟩ := made
    rw [commitOn_ok committed]
    refine ⟨⟨rfl, rfl, rfl⟩, ?_⟩
    intro ending same
    cases same

/-- **What runs leave alone.** Whatever a run hears, it leaves the state of the sweep loop as it is,
and ends with a result in the names of its activation, if with any. -/
theorem run_footprint (config : Config) (a : Activation) (flags : Option Flags)
    (given : Option (Signal Real64)) :
    (run config a flags given).Within (fun _ => True) Desk.SameLoop (EndsFor a) := by
  rw [run_eq]
  intro d
  refine ⟨.refl d, ?_⟩
  dsimp only
  cases gates : passGates a flags d.store with
  | error r => exact (passGates_unplaced gates).endsFor
  | ok gate =>
    have searched : (signalFor config a given).Within (fun _ => True) Desk.SameLoop fun found =>
        ∀ ending, found = .error ending → EndsFor a ending := by
      cases given with
      | none => exact evaluate_footprint config a
      | some signal =>
        intro ending same
        cases same
    apply searched.bind
    intro found ends
    cases found with
    | error ending => exact ends ending rfl
    | ok signal =>
      have commits : (Program.atomically (commitOn config a gate signal)).Within (fun _ => True)
          Desk.SameLoop fun made => ∀ ending, made = .error ending → EndsFor a ending :=
        .atomically (commitOn_footprint config a gate signal)
      apply commits.bind
      intro made ends
      cases made with
      | error ending => exact ends ending rfl
      | ok reserved => exact place_footprint config a signal reserved

end Run

/-- A configuration for examples. Its patience has no end. -/
def Config.sample : Config :=
  ⟨"desk.db", "INFO", 8080, ["https://market.test"], "https://exchange.test", 200, 60,
    .infinite false, .infinite false, .ofInt 10, 4, 16, 5⟩

namespace Run.Sample

def activation : Activation := ⟨"ada", "cross", "1h", "BTCUSDT", "", .empty⟩

def signal : Signal Real64 :=
  ⟨some .buy, .finite ⟨false, 100, 0⟩, .finite ⟨false, 98, 0⟩, .finite ⟨false, 104, 0⟩, .noJudge,
    .int 5⟩

def store : Store :=
  { Store.empty with
    profiles := [⟨some "ada", .number (.whole 3), 0, ""⟩]
    gates := [⟨"ada", "cross", ⟨true, none⟩, ""⟩]
    keys := [⟨"ada", Store.defaultExchange, "key", "secret", ""⟩] }

def desk : Desk := ⟨store, 0, .ofSize 1, false, 0, none⟩

def silent : Surroundings Desk Unit := ⟨fun _ w => (.silence, w), id⟩

theorem silent_within : silent.Within Desk.SameStore := ⟨fun _ _ => rfl, fun _ => rfl⟩

end Run.Sample
end SignalDesk
