import SignalDesk.Proofs.Run.Terms
import SignalDesk.Service.Execute

namespace SignalDesk

variable {ν : Type} {replies : Request → Reply} {around : Surroundings Desk ν}

theorem Desk.OnlyTime.refl (d : Desk) : d.OnlyTime d := ⟨d.clock, rfl⟩

/-- Where nobody else is at the desk, a request to the market gets one answer whenever it is
sent. -/
theorem Market.get_run {α : Type} (m : Market) (settled : around.Settled replies) (path : String)
    (params : List (String × ParamValue)) (parse : Json → Payload.Read α) :
    ∃ found, ∀ w : Desk × ν, ((m.get path params parse).run around w).1 = found := by
  obtain ⟨found, keeps⟩ := m.get_settled (σ := Desk) replies path params parse
  have asks : (Terms.market replies (·.method = .get) Desk.OnlyTime).Asks replies :=
    Terms.market_asks fun _ get => get
  exact ⟨found, fun w => ((keeps _ asks w.1).run Desk.OnlyTime.refl (settled.follows id)).1⟩

namespace Run

/-- What comes of a script, compiled or not, with the candles that the market has or has not. -/
def signalFrom (a : Activation) (compiled : Except ScriptError (Strategy Binary64))
    (candles : Except FetchError (List (Candle Real64))) : Except Ending (Signal Real64) :=
  match compiled, candles with
  | .error e, _ => .error (invalidScript a e)
  | .ok _, .error e => .error (withoutCandles a e)
  | .ok strategy, .ok candles => signalOf a (strategy.map .finite) candles

/-- What the evaluation of a run comes to, and that it leaves the store alone. -/
theorem evaluate_run {config : Config} {a : Activation}
    {candles : Except FetchError (List (Candle Real64))} (settled : around.Settled replies)
    (heard : ∀ w : Desk × ν, ((config.market.fetchCandles a.symbol a.timeframe
      (a.overrides.candleLimitOr config.candleLimit)).run around w).1 = candles) (w : Desk × ν) :
    ((evaluate config a).run around w).1 =
        signalFrom a (compile a.script a.content w.1).1 candles ∧
      ((evaluate config a).run around w).2.1.store = w.1.store := by
  have leaves : around.Within Desk.SameStore := settled.alone.mono fun later => later.rests.1
  refine ⟨?_, ((evaluate_within config a).sameStore leaves w).2.1⟩
  simp only [evaluate, Program.monad_bind_eq, Program.run_bind, Program.run_atomically]
  cases compiled : (compile a.script a.content w.1).1 with
  | error e => rfl
  | ok strategy =>
    simp only [Program.run_bind, heard]
    cases candles <;> rfl

end Run

namespace DryRun

/-- The current price when the market answers so. -/
def priceFrom (candles : List (Candle Real64)) : Except FetchError Ticker → Except DeskError Real64
  | .ok ticker => .ok ticker.last
  | .error .rateLimited => .ok (((candles.getLast?).map (·.close)).getD .zero)
  | .error (.unavailable _) => .ok (((candles.getLast?).map (·.close)).getD .zero)
  | .error e => .error (.fetch e)

/-- What a dry run comes to, with the answers that the market gives. -/
def evaluationFrom (symbol : String) (timeframe : Json)
    (compiled : Except ScriptError (Strategy Binary64))
    (candles : Except FetchError (List (Candle Real64))) (ticker : Except FetchError Ticker) :
    Except DeskError Evaluation :=
  match compiled, candles with
  | .error e, _ => .error (.script e)
  | .ok _, .error e => .error (.fetch e)
  | .ok strategy, .ok candles =>
    match Rule.evaluateQuietly none (strategy.map .finite) candles with
    | .error e => .error (.rule e)
    | .ok signal => (priceFrom candles ticker).map fun price =>
        ⟨symbol, timeframe, strategy, signal, price, candles⟩

theorem evaluationFrom_timeframe {symbol : String} {timeframe : Json}
    {compiled : Except ScriptError (Strategy Binary64)}
    {candles : Except FetchError (List (Candle Real64))} {ticker : Except FetchError Ticker}
    {e : Evaluation} (h : evaluationFrom symbol timeframe compiled candles ticker = .ok e) :
    e.timeframe = timeframe := by
  cases compiled with
  | error fault => cases h
  | ok strategy =>
    cases candles with
    | error fault => cases h
    | ok candles =>
      simp only [evaluationFrom] at h
      split at h
      · cases h
      · obtain ⟨price, -, rfl⟩ := map_ok.mp h
        rfl

/-- The activation of a user for a script and a timeframe, or one with nothing set. -/
def liveFor (user id timeframe : String) (script : SavedScript) (s : Store) :
    Except DeskError Activation :=
  (activationFor? (.text user) (.text id) (.text timeframe) s).map fun a =>
    a.getD ⟨user, id, timeframe, script.symbol, script.content, .empty⟩

section Live

variable {user id timeframe : String} {script : SavedScript} {s : Store} {config : Config}

/-- Whether an activation is for a script and a timeframe, and has the script's text and symbol. -/
structure IsFor (a : Activation) (id timeframe : String) (script : SavedScript) : Prop where
  named : a.script = .text id
  timed : a.timeframe = .text timeframe
  symbol : a.symbol = script.symbol
  content : a.content = script.content

theorem wantedText_text {text : String} (h : text ≠ "") :
    Store.wantedText (.text text) = .ok text := by
  have given : (Json.text text).isTruthy = true := by simp [Json.isTruthy, Text.isEmpty, h]
  rw [Store.wantedText, given]
  rfl

theorem activations?_isFor {as : List Activation} (saved : s.script? id = some script)
    (named : id ≠ "") (timed : timeframe ≠ "") (listed : s.activations? id timeframe = .ok as) :
    ∀ a ∈ as, IsFor a id timeframe script := by
  intro a member
  obtain ⟨⟨row, found⟩, active, made⟩ :=
    exists_of_forall₂ (Store.activations?_rows listed) a member
  obtain ⟨row', wanted, known⟩ := List.mem_filterMap.mp active
  obtain ⟨found', saved', same⟩ := Option.map_eq_some_iff.mp known
  obtain ⟨rfl, rfl⟩ := Prod.mk.inj same
  have wants := (List.mem_filter.mp wanted).2
  simp only [Store.wants, Bool.and_eq_true, Bool.or_eq_true, String.isEmpty_iff, named, timed,
    false_or, beq_iff_eq] at wants
  obtain ⟨⟨-, script⟩, timeframe⟩ := wants
  rw [script, saved] at saved'
  cases saved'
  obtain ⟨overrides, -, rfl⟩ := map_ok.mp made
  exact ⟨congrArg Label.text script, congrArg Label.text timeframe, rfl, rfl⟩

theorem liveFor_ok {a : Activation} (saved : s.script? id = some script) (named : id ≠ "")
    (timed : timeframe ≠ "") (h : liveFor user id timeframe script s = .ok a) :
    IsFor a id timeframe script ∧ a.user = .text user ∧
      candleLimit config (.text user) (.text id) (.text timeframe) s =
        .ok (a.overrides.candleLimitOr config.candleLimit) := by
  obtain ⟨own, found, rfl⟩ := map_ok.mp h
  have limit : candleLimit config (.text user) (.text id) (.text timeframe) s =
      .ok ((own.map fun a => a.overrides.candleLimitOr config.candleLimit).getD
        config.candleLimit) := by
    rw [candleLimit, found]
    · cases own <;> rfl
    · exact Json.noConfusion
  rw [activationFor?, wantedText_text named, wantedText_text timed] at found
  obtain ⟨id, ⟨⟩, found⟩ := bind_ok.mp found
  obtain ⟨timeframe, ⟨⟩, found⟩ := bind_ok.mp found
  obtain ⟨as, listed, found⟩ := bind_ok.mp found
  have listed := mapError_ok.mp listed
  cases own with
  | none => exact ⟨⟨rfl, rfl, rfl, rfl⟩, rfl, limit⟩
  | some a =>
    have found := pure_ok.mp found
    have member := List.mem_of_find?_eq_some found
    have owned := List.find?_some found
    refine ⟨activations?_isFor saved named timed listed a member, ?_, limit⟩
    simpa [Label.ofJson?] using owned

theorem currentPrice_run {symbol : String} {ticker : Except FetchError Ticker}
    (quoted : ∀ w : Desk × ν, ((config.market.fetchTicker symbol).run around w).1 = ticker)
    (candles : List (Candle Real64)) (w : Desk × ν) :
    ((currentPrice config symbol candles).run around w).1 = priceFrom candles ticker := by
  simp only [currentPrice, Program.monad_bind_eq, Program.run_bind, quoted]
  cases ticker with
  | ok ticker => rfl
  | error e => cases e <;> rfl

theorem evaluate_run {symbol : String} {limit : Int}
    {candles : Except FetchError (List (Candle Real64))} {ticker : Except FetchError Ticker}
    (heard : ∀ w : Desk × ν,
      ((config.market.fetchCandles symbol (.text timeframe) limit).run around w).1 = candles)
    (quoted : ∀ w : Desk × ν, ((config.market.fetchTicker symbol).run around w).1 = ticker)
    (strategy : Strategy Binary64) (w : Desk × ν) :
    ((evaluate config strategy symbol (.text timeframe) limit).run around w).1 =
      evaluationFrom symbol (.text timeframe) (.ok strategy) candles ticker := by
  have asked : subject config symbol (.text timeframe) = .ok (symbol, .text timeframe) := rfl
  simp only [evaluate, asked, Program.run_bind, Program.monad_bind_eq, heard]
  cases candles with
  | error e => rfl
  | ok candles =>
    simp only [evaluationFrom]
    cases Rule.evaluateQuietly none (strategy.map .finite) candles with
    | error e => rfl
    | ok signal =>
      simp only [Program.run_bind, currentPrice_run quoted]
      cases priceFrom candles ticker <;> rfl

/-- A saved script is had where its timeframes read. -/
theorem savedScript_saved (saved : s.script? id = some script) :
    savedScript (.text id) s =
      ((Json.read script.timeframes).mapError .timeframes).map fun _ => (.text id, script) := by
  have bound : Store.bound (.text id) = .ok (.text id) := rfl
  simp only [savedScript, bound, Label.stored, Option.bind_some, saved]

theorem savedScript_read {timeframes : Json} (saved : s.script? id = some script)
    (read : Json.read script.timeframes = .ok timeframes) :
    savedScript (.text id) s = .ok (.text id, script) := by
  rw [savedScript_saved saved, read]
  rfl

theorem script_run {limit : Int} {candles : Except FetchError (List (Candle Real64))}
    {ticker : Except FetchError Ticker} {timeframes : Json} {w : Desk × ν}
    (saved : w.1.store.script? id = some script)
    (read : Json.read script.timeframes = .ok timeframes) (limited : candleLimit config (.text user) (.text id) (.text timeframe) w.1.store = .ok limit)
    (heard : ∀ w : Desk × ν,
      ((config.market.fetchCandles script.symbol (.text timeframe) limit).run around w).1 = candles)
    (quoted : ∀ w : Desk × ν,
      ((config.market.fetchTicker script.symbol).run around w).1 = ticker) :
    ((DryRun.script config (.text id) (.text timeframe) (.text user)).run around w).1 =
      (evaluationFrom script.symbol (.text timeframe)
        (Run.compile (.text id) script.content w.1).1 candles ticker).map (script, ·) := by
  simp only [DryRun.script, Program.monad_bind_eq, Program.run_bind, Program.run_read,
    savedScript_read saved read, limited, ok_bind, pure, Except.pure, Program.run_atomically]
  cases compiled : (Run.compile (.text id) script.content w.1).1 with
  | error e => rfl
  | ok strategy =>
    simp only [Program.run_bind, evaluate_run heard quoted]
    rfl

/-- Where the activation of a user cannot be read, the dry run fails as well. -/
theorem script_error {e : DeskError} {timeframes : Json} {w : Desk × ν}
    (saved : w.1.store.script? id = some script)
    (read : Json.read script.timeframes = .ok timeframes)
    (unread : liveFor user id timeframe script w.1.store = .error e) :
    ((DryRun.script config (.text id) (.text timeframe) (.text user)).run around w).1 =
      .error e := by
  have limit : candleLimit config (.text user) (.text id) (.text timeframe) w.1.store =
      .error e := by
    rw [candleLimit, map_error.mp unread]
    · rfl
    · exact Json.noConfusion
  simp only [DryRun.script, Program.monad_bind_eq, Program.run_bind, Program.run_read,
    savedScript_read saved read, limit, ok_bind]
  rfl

/-- Where the timeframes of the script do not read, nothing is evaluated. -/
theorem script_unread {fault : ReadFault} {w : Desk × ν}
    (saved : w.1.store.script? id = some script)
    (unread : Json.read script.timeframes = .error fault) (config : Config)
    (timeframe user : Json) :
    ((DryRun.script config (.text id) timeframe user).run around w).1 =
      .error (.timeframes fault) := by
  simp only [DryRun.script, Program.monad_bind_eq, Program.run_bind, Program.run_read,
    savedScript_saved saved, unread]
  rfl

end Live

end DryRun

end SignalDesk
