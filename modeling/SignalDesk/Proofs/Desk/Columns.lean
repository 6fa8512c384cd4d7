import SignalDesk.Proofs.Desk.Chronicle

namespace SignalDesk

namespace Activity

/-- Whether an activity is a statement on trades. -/
def CallsTrades : Activity → Prop
  | statement part _ _ => part = "trades"
  | _ => False

/-- Whether an activity is a request to close the trade `n` at a NaN. -/
def ClosesAtNaN (n : Int) : Activity → Prop
  | request _ _ (.closeTrade id body) => Store.rowNumber? id = .ok (some n) ∧
      (Json.fieldOrNull (Service.fieldsOf body) "exitPrice").toReal = .ok .nan
  | _ => False

/-- Whether a step of an activity keeps the columns of trades in order, where `P` holds of the
trades that the activity closes at a NaN. -/
def Tallies (P : Int → Prop) (x : Activity) (d d' : Desk) : Prop :=
  ¬x.CallsTrades → (∀ n, x.ClosesAtNaN n → P n) → d.store.Tallied P → d'.store.Tallied P

end Activity

theorem Run.commitOn_tallied {P : Int → Prop} {d : Desk} (h : d.store.Tallied P) (config : Config)
    (a : Activation) (gate : Gate) (signal : Signal Real64) :
    (commitOn config a gate signal d).2.store.Tallied P := by
  simp only [commitOn]
  split
  · exact h
  · rename_i committed
    obtain ⟨_, reserved⟩ := commit_ok committed
    exact h.reserve reserved

namespace Service

theorem setGateFor_trades (service : Service) (c : Caller) (script : Json) (enabled : Bool)
    (d : Desk) : (service.setGateFor c script enabled d).2.store.trades = d.store.trades := by
  rcases service.setGateFor_sets c script enabled d with same | ⟨name, s', profiled, sets⟩
  · rw [same]
  rw [sets]
  change s'.trades = d.store.trades
  split at profiled
  · exact Store.ensureProfile_trades profiled
  · cases profiled
    rfl

theorem adjustCoins_trades (admin : Caller) (user : Json) (body : Body) (d : Desk) :
    (adjustCoins admin user body d).2.store.trades = d.store.trades := by
  rcases adjustCoins_adjusts admin user body d with same | ⟨name, delta, note, figures, adjusted⟩
  · rw [same]
  · exact Store.adjust_trades adjusted

end Service

/-- **What activities write into trades.** -/
theorem Activity.tallies (P : Int → Prop) (config : Config) (x : Activity) :
    (x.program config).Within (fun _ => True) (x.Tallies P) fun _ => True := by
  have minor : Desk.AllowsMinor (Program.Within (fun _ => True) (x.Tallies P)) :=
    { composes := Program.Within.composes _ _
      same := fun h => h.mono (fun _ h => h)
        (fun _ _ same _ _ tallied => .of_eq tallied (congrArg Store.trades same)) fun _ h => h
      minor := fun h => .atomically fun d =>
        ⟨fun _ _ tallied => tallied.answers (h d).answers, trivial⟩ }
  have allows := minor.allows fun config a flags signal =>
    minor.run config a flags signal fun gate signal => .atomically fun d =>
      ⟨fun _ _ tallied => Run.commitOn_tallied tallied config a gate signal, trivial⟩
  refine allows.activity config (fun _ _ _ _ => trivial)
    (fun _ _ _ _ _ _ _ c _ => .any _ c) ?statements ?gates ?closings ?coins
  case statements =>
    rintro part name arguments rfl
    refine Program.Within.modify fun d other _ tallied => ?_
    simp only [perform]
    split
    · rename_i performed
      exact tallied.of_eq (Statement.perform_trades performed other)
    · exact tallied
  case gates =>
    intro connected _ script enabled _ c
    exact .atomically fun d =>
      ⟨fun _ _ tallied => tallied.of_eq (Service.setGateFor_trades _ c script enabled d), trivial⟩
  case closings =>
    rintro connected authorization id body rfl c
    refine .atomically fun d => ⟨fun _ closed tallied => ?_, trivial⟩
    rcases Service.closeTrade_closes c id (Service.fieldsOf body) d with
      same | ⟨n, price, named, read, closes⟩
    · rw [same]
      exact tallied
    · rw [closes]
      exact tallied.close (fun nan => closed n ⟨named, nan ▸ read⟩) _ _
  case coins =>
    intro _ _ user body _ c
    exact .atomically fun d =>
      ⟨fun _ _ tallied => tallied.of_eq (Service.adjustCoins_trades c user _ d), trivial⟩

namespace World

variable {worlds : List World}

/-- Whether a request to close the trade `n` at a NaN goes on in one of the worlds. -/
def ClosedAtNaN (worlds : List World) (n : Int) : Prop :=
  ∃ w ∈ worlds, ∃ task ∈ w.busy, task.activity.ClosesAtNaN n

theorem Changed.tallied {P : Int → Prop} {w w' : World} (h : Changed (Activity.Tallies P) w w')
    (calls : ∀ task ∈ w.busy, ¬task.activity.CallsTrades)
    (closed : ∀ task ∈ w.busy, ∀ n, task.activity.ClosesAtNaN n → P n)
    (tallied : w.desk.store.Tallied P) : w'.desk.store.Tallied P := by
  cases h with
  | rests same => exact tallied.of_eq (congrArg Store.trades same)
  | opens again => exact tallied.of_eq (by rw [again]; rfl)
  | goes busy change => exact change (calls _ busy) (closed _ busy) tallied

theorem Chronicle.tallied (h : Chronicle worlds) {P : Int → Prop}
    (calls : ∀ w ∈ worlds, ∀ task ∈ w.busy, ¬task.activity.CallsTrades)
    (closed : ∀ w ∈ worlds, ∀ task ∈ w.busy, ∀ n, task.activity.ClosesAtNaN n → P n)
    (opened : ∀ w ∈ worlds.getLast?, w.desk.store.Tallied P) :
    ∀ w ∈ worlds, w.desk.store.Tallied P := by
  have chain := h.changes (R := Activity.Tallies P) (fun _ _ _ _ tallied => tallied)
    (Activity.tallies P)
  induction h with
  | start config store clock => simpa using opened
  | @happens w w' earlier h happens ih =>
    obtain ⟨change, chain⟩ := List.isChain_cons_cons.mp chain
    have before := ih (fun v old => calls v (.tail _ old)) (fun v old => closed v (.tail _ old))
      (by simpa using opened) chain
    have now : w ∈ w' :: w :: earlier := .tail _ (.head _)
    refine List.forall_mem_cons.mpr ⟨?_, before⟩
    exact change.tallied (calls w now) (closed w now) (before w (.head _))

end World

/-- **Trades have the columns of their status.** Whatever runs, sweeps, dispatches and requests go on
at a desk, side by side and in any order, and whatever statements on other parts of its store: in
every world an order number and a time of opening are there just for trades that are open or closed,
a time of closing just for closed ones, a message just for failed and cancelled ones, and an exit
price for closed ones only. A closed trade without one was closed by a request at a NaN. -/
theorem trades_tally {worlds : List World} (h : World.Chronicle worlds)
    (calls : ∀ w ∈ worlds, ∀ task ∈ w.busy, ¬task.activity.CallsTrades)
    (opened : ∀ w ∈ worlds.getLast?, ∀ t ∈ w.desk.store.trades, t.Tallies ∧ ¬t.LacksExit) :
    ∀ w ∈ worlds, ∀ t ∈ w.desk.store.trades,
      t.Tallies ∧ (t.LacksExit → World.ClosedAtNaN worlds t.id) :=
  h.tallied calls (fun w member task busy _ closes => ⟨w, member, task, busy, closes⟩)
    fun w first t member => ⟨(opened w first t member).1,
      fun lacks => absurd lacks (opened w first t member).2⟩

namespace World

/-- A request that one step answers is answered in two moves. -/
theorem Chronicle.asks {w : World} {earlier : List World} (h : Chronicle (w :: earlier))
    (service : Service) {authorization : Json} {route : Route} {c : Caller}
    (known : service.callerFor authorization route w.desk.store = .ok c)
    {step : Desk → Service.Reply × Desk} (handles : service.handle c route = .atomically step) :
    let x := Activity.request service.connected authorization route
    Chronicle
      (⟨(step w.desk).2, ⟨x, .done ()⟩ :: w.busy⟩ ::
        ⟨w.desk, ⟨x, (Program.atomically step).map fun _ => ()⟩ :: w.busy⟩ ::
          ⟨w.desk, ⟨x, x.program service.config⟩ :: w.busy⟩ :: w :: earlier) := by
  intro x
  have begins : Happens w ⟨w.desk, ⟨x, x.program service.config⟩ :: w.busy⟩ :=
    .step (.begin w service.config x)
  have reads : ∃ rest, Program.Move (x.program service.config, w.desk) (rest, w.desk) ∧
      rest = (Program.atomically step).map fun _ => () := by
    refine ⟨_, .act _ _ w.desk, ?_⟩
    simp only [known]
    exact congrArg (Program.map _) handles
  obtain ⟨_, reads, rfl⟩ := reads
  have acts : Program.Move ((Program.atomically step).map fun _ => (), w.desk)
      (.done (), (step w.desk).2) := .act _ _ w.desk
  refine ((h.happens begins).happens ?_).happens ?_
  · exact @Happens.go _ [] w.busy ⟨x, x.program service.config⟩ _ _ rfl reads
  · exact @Happens.go ⟨w.desk, ⟨x, (Program.atomically step).map fun _ => ()⟩ :: w.busy⟩ []
      w.busy ⟨x, _⟩ _ _ rfl acts

namespace Sample

def service : Service := ⟨.sample, true⟩

def ada : Caller := ⟨"ada", .user⟩

/-- A store with the open trade, on which a token speaks for its user. -/
def kept : Store :=
  (Activity.perform .sample "settings" "create_api_token"
    [("token", .text "t"), ("user_id", .text "ada")] filled).store

def reopened : World := .opening .sample kept 0

/-- The desk after the trade is closed at a price. -/
def quit (price : Json) : Desk :=
  (Service.closeTrade ada (.int 1) [("exitPrice", price)] reopened.desk).2

/-- The request to close it. -/
def quitting (price : Json) : Activity :=
  .request true (.text "Bearer t") (.closeTrade (.int 1) (.object [("exitPrice", price)]))

/-- The worlds of the request, the latest first. -/
def exits (price : Json) : List World :=
  [⟨quit price, [⟨quitting price, .done ()⟩]⟩,
    ⟨reopened.desk, [⟨quitting price, (Program.atomically
      (Service.closeTrade ada (.int 1) [("exitPrice", price)])).map fun _ => ()⟩]⟩,
    ⟨reopened.desk, [⟨quitting price, (quitting price).program .sample⟩]⟩,
    reopened]

theorem ada_known (price : Json) :
    service.callerFor (.text "Bearer t") (.closeTrade (.int 1) (.object [("exitPrice", price)]))
      reopened.desk.store = .ok ada := by
  have token : Service.tokenOf (.text "Bearer t") = .ok (.whole "t") := rfl
  have stripped : Text.strip "t" = "t" := rfl
  obtain ⟨stamp, tokens⟩ : ∃ stamp,
      reopened.desk.store.tokens = [⟨Sha256.hexDigest "t", "ada", .user, stamp⟩] := ⟨_, rfl⟩
  have resolved : reopened.desk.store.resolveToken? "t" = some ("ada", .user) := by
    simp [Store.resolveToken?, tokens]
  simp only [Service.callerFor, Route.isOpen, Route.needsAdmin, Service.caller, token, ok_bind,
    service, stripped, resolved]
  rfl

theorem exits_chronicle (price : Json) : Chronicle (exits price) :=
  (Chronicle.start .sample kept 0).asks service (ada_known price) rfl

theorem exits_calls (price : Json) :
    ∀ w ∈ exits price, ∀ task ∈ w.busy, ¬task.activity.CallsTrades := by
  simp [exits, quitting, reopened, opening, Activity.CallsTrades]

theorem exits_opened (price : Json) :
    ∀ w ∈ (exits price).getLast?, ∀ t ∈ w.desk.store.trades, t.Tallies ∧ ¬t.LacksExit := by
  have tally : ∀ t ∈ reopened.desk.store.trades, t.Tallies ∧ ¬t.LacksExit := by decide +kernel
  rintro w ⟨⟩
  exact tally

end Sample
end World

open World.Sample in
theorem sample_trade_tallies :
    (∀ w ∈ exits level, ∀ task ∈ w.busy, ¬task.activity.CallsTrades) ∧
      (∀ w ∈ (exits level).getLast?, ∀ t ∈ w.desk.store.trades, t.Tallies ∧ ¬t.LacksExit) ∧
        (quit level).store.trades.map (·.status) = [.closed] ∧
          ∀ t ∈ (quit level).store.trades,
            t.Tallies ∧ (t.LacksExit → World.ClosedAtNaN (exits level) t.id) :=
  ⟨exits_calls level, exits_opened level, by decide +kernel,
    trades_tally (exits_chronicle level) (exits_calls level) (exits_opened level) _
      (List.mem_cons_self ..)⟩

open World.Sample in
/-- A NaN is not stored, and the trade is closed all the same. -/
theorem sample_exit_left_out :
    World.Chronicle (exits (.text "nan")) ∧
      (∀ w ∈ exits (.text "nan"), ∀ task ∈ w.busy, ¬task.activity.CallsTrades) ∧
        (∀ w ∈ (exits (.text "nan")).getLast?, ∀ t ∈ w.desk.store.trades,
          t.Tallies ∧ ¬t.LacksExit) ∧
          ∃ w ∈ exits (.text "nan"), ∃ t ∈ w.desk.store.trades,
            t.status = .closed ∧ t.exitPrice = none := by
  have lacks : ∃ t ∈ (quit (.text "nan")).store.trades, t.LacksExit := by decide +kernel
  exact ⟨exits_chronicle _, exits_calls _, exits_opened _, _, List.mem_cons_self .., lacks⟩

end SignalDesk
