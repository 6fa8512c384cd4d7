import SignalDesk.Proofs.Run.DryRun
import SignalDesk.Proofs.Sweep.Repetition

namespace SignalDesk

variable {ν : Type} {replies : Request → Reply} {around : Surroundings Desk ν}

/-- The error of a script that an error reports. -/
def DeskError.scriptError? : DeskError → Option ScriptError
  | script e => some e
  | rule .ruleMissing => some .ruleMissing
  | _ => none

namespace Run

/-- Whether the evaluation of a live run and a dry run come to the same, where the market answers
for the ticker as told. -/
inductive Tallies (a : Activation) (ticker : Except FetchError Ticker) :
    Except Ending (Signal Real64) → Except DeskError Evaluation → Prop where
  | signal (e : Evaluation) : Tallies a ticker (.ok e.signal) (.ok e)
  | short {fault : HistoryError} {e : Evaluation} (side : e.signal.side = none)
      (reason : e.signal.reason = .shortHistory fault) :
      Tallies a ticker (.error (.ok (a.result .skippedNoSignal fault.message none))) (.ok e)
  | invalid {e : DeskError} {fault : ScriptError} (reported : e.scriptError? = some fault) :
      Tallies a ticker (.error (invalidScript a fault)) (.error e)
  | unfetched (e : FetchError) : Tallies a ticker (.error (withoutCandles a e)) (.error (.fetch e))
  | raised {e : DeskError} (other : e.scriptError? = none) (fetched : ∀ f, e ≠ .fetch f) :
      Tallies a ticker (.error (.error e)) (.error e)
  /-- Only the dry run asks for the ticker. -/
  | unquoted {found : Except Ending (Signal Real64)} {e : FetchError}
      (skips : ∀ ending, found = .error ending →
        ∃ fault : HistoryError,
          ending = .ok (a.result .skippedNoSignal fault.message none))
      (answered : ticker = .error e) (limited : e ≠ .rateLimited)
      (failed : ∀ failures, e ≠ .unavailable failures) :
      Tallies a ticker found (.error (.fetch e))

/-- There is a price, or the ticker's answer is one that neither run expects. -/
theorem priceFrom_cases (candles : List (Candle Real64)) (ticker : Except FetchError Ticker) :
    (∃ price, DryRun.priceFrom candles ticker = .ok price) ∨
      ∃ e, DryRun.priceFrom candles ticker = .error (.fetch e) ∧ ticker = .error e ∧
        e ≠ .rateLimited ∧ ∀ failures, e ≠ .unavailable failures := by
  cases ticker with
  | ok ticker => exact .inl ⟨_, rfl⟩
  | error e =>
    cases e with
    | rateLimited => exact .inl ⟨_, rfl⟩
    | unavailable failures => exact .inl ⟨_, rfl⟩
    | fault f => exact .inr ⟨_, rfl, rfl, nofun, nofun⟩
    | payload f => exact .inr ⟨_, rfl, rfl, nofun, nofun⟩

/-- Where an evaluation gives a signal, so does the quiet one, and where it finds the history too
short, the quiet one stays out and says so. -/
inductive Hushed : Except RuleError (Signal Real64) → Except RuleError (Signal Real64) → Prop where
  | signal (signal : Signal Real64) : Hushed (.ok signal) (.ok signal)
  | short {required : Int} {available : Nat} {what : String} {signal : Signal Real64}
      (side : signal.side = none)
      (reason : signal.reason = .shortHistory (.tooShort required available what)) :
      Hushed (.error (.history (.tooShort required available what))) (.ok signal)
  | raised {e : RuleError} (other : ∀ required available what,
      e ≠ .history (.tooShort required available what)) : Hushed (.error e) (.error e)

theorem evaluateQuietly_hushed (s : Strategy Real64) (candles : List (Candle Real64)) :
    Hushed (Rule.evaluate none s candles) (Rule.evaluateQuietly none s candles) := by
  rw [Rule.evaluateQuietly]
  generalize Rule.evaluate none s candles = evaluated
  cases evaluated with
  | ok signal => exact .signal signal
  | error e =>
    cases e with
    | ruleMissing => exact .raised nofun
    | thresholdMissing => exact .raised nofun
    | history fault =>
      cases fault with
      | periodNotPositive indicator period => exact .raised nofun
      | tooShort required available what =>
        dsimp only
        split
        · exact .short rfl rfl
        · exact .short rfl rfl

theorem tallies (a : Activation) (symbol : String) (timeframe : Json)
    (compiled : Except ScriptError (Strategy Binary64))
    (candles : Except FetchError (List (Candle Real64))) (ticker : Except FetchError Ticker) :
    Tallies a ticker (signalFrom a compiled candles)
      (DryRun.evaluationFrom symbol timeframe compiled candles ticker) := by
  cases compiled with
  | error e => exact .invalid rfl
  | ok strategy =>
    cases candles with
    | error e => exact .unfetched e
    | ok candles =>
      have hushed := evaluateQuietly_hushed (strategy.map .finite) candles
      have priced := priceFrom_cases candles ticker
      simp only [signalFrom, DryRun.evaluationFrom, signalOf]
      generalize Rule.evaluate none (strategy.map .finite) candles = evaluated at hushed ⊢
      generalize Rule.evaluateQuietly none (strategy.map .finite) candles = quiet at hushed ⊢
      generalize DryRun.priceFrom candles ticker = price at priced ⊢
      cases hushed with
      | signal signal =>
        rcases priced with ⟨price, rfl⟩ | ⟨e, rfl, answered, limited, failed⟩
        · exact .signal ⟨symbol, timeframe, strategy, signal, price, candles⟩
        · dsimp only
          refine .unquoted (fun ending ended => ?_) answered limited failed
          cases ended
      | @short required available what signal side reason =>
        rcases priced with ⟨price, rfl⟩ | ⟨e, rfl, answered, limited, failed⟩
        · exact .short (e := ⟨symbol, timeframe, strategy, signal, price, candles⟩) side reason
        · refine .unquoted (fun ending ended => ?_) answered limited failed
          obtain rfl := Except.error.inj ended
          exact ⟨_, rfl⟩
      | @raised e other =>
        cases e with
        | ruleMissing => exact .invalid rfl
        | thresholdMissing => exact .raised rfl (by rintro _ ⟨⟩)
        | history fault =>
          cases fault with
          | periodNotPositive indicator period => exact .raised rfl (by rintro _ ⟨⟩)
          | tooShort required available what => exact absurd rfl (other required available what)

section Acting

variable {config : Config} {a : Activation} {flags : Option Flags} {gate : Gate}
  {signal : Signal Real64}

/-- Past its gate, a run follows what it evaluates or is given. -/
theorem run_follows {given : Option (Signal Real64)} {w : Desk × ν}
    (gates : passGates a flags w.1.store = .ok gate) :
    (run config a flags given).run around w =
      (follow config a gate ((signalFor config a given).run around w).1).run around
        ((signalFor config a given).run around w).2 := by
  simp only [run_eq, Program.run_bind, Program.run_read, gates]

/-- A result of a run that acts on a signal with a side. -/
structure Acted (signal : Signal Real64) (r : Run) : Prop where
  signal : r.signal = some signal
  failed : r.outcome = .failed → r.reason = .text "No exchange API key configured"
  deferred : r.outcome = .deferred → r.trade.isSome = true

theorem Acted.of_other {r : Run} (same : r.signal = some signal) (failed : r.outcome ≠ .failed)
    (deferred : r.outcome ≠ .deferred) : Acted signal r :=
  ⟨same, fun h => absurd h failed, fun h => absurd h deferred⟩

theorem commit_acted {now : String} {s : Store} {r : Run} (side : signal.side.isSome = true)
    (h : commit config a gate signal now s = .error (.ok r)) : Acted signal r := by
  have decided : signal.side.isNone = false := by simpa using side
  simp only [commit, decided, Bool.false_eq_true, if_false] at h
  split at h
  · cases h
  · cases h
    exact .of_other rfl (by rintro ⟨⟩) (by rintro ⟨⟩)
  split at h
  · cases h
    exact .of_other rfl (by rintro ⟨⟩) (by rintro ⟨⟩)
  split at h
  · cases h
    exact .of_other rfl (by rintro ⟨⟩) (by rintro ⟨⟩)
  split at h
  · cases h
    exact ⟨rfl, fun _ => rfl, by rintro ⟨⟩⟩
  split at h <;> cases h <;> exact .of_other rfl (by rintro ⟨⟩) (by rintro ⟨⟩)

theorem place_acted (r : Reserved) :
    (place config a signal r).Within (fun _ => True) (fun _ _ => True)
      fun ending => ∀ x, ending = .ok x → Acted signal x := by
  refine ((placeMarket_within config r).mono (fun _ _ => trivial) (fun _ _ _ => trivial)
    fun _ => id).bind fun answer _ => ?_
  rcases markFor answer with e | ⟨e, message⟩ | ⟨order, price⟩
  · exact fun x ended => nomatch ended
  · refine (Program.Within.modify fun _ => trivial).bind fun _ _ => ?_
    rintro x ⟨⟩
    refine ⟨rfl, fun failed => ?_, fun _ => rfl⟩
    cases e <;> cases failed
  · refine (Program.Within.modify fun _ => trivial).bind fun _ _ => ?_
    refine ((placeProtective_within _ r.order).mono (fun _ _ => trivial) (fun _ _ _ => trivial)
      fun _ => id).bind fun placed _ => ?_
    rintro x ⟨⟩
    exact ⟨rfl, nofun, nofun⟩

theorem follow_acted (side : signal.side.isSome = true) :
    (follow config a gate (.ok signal)).Within (fun _ => True) (fun _ _ => True)
      fun ending => ∀ r, ending = .ok r → Acted signal r := by
  refine fun d => ⟨trivial, ?_⟩
  cases committed : commit config a gate signal d.now d.store with
  | error ending =>
    simp only [commitOn_error committed]
    intro r ended
    exact commit_acted side (ended ▸ committed)
  | ok made =>
    simp only [commitOn_ok (r := made.1) (s := made.2) committed]
    exact place_acted made.1

theorem acted_of_follow (side : signal.side.isSome = true) {w : Desk × ν} {r : Run}
    (ended : ((follow config a gate (.ok signal)).run around w).1 = .ok r) : Acted signal r := by
  obtain ⟨acts, -⟩ := (follow_acted side).ends_asks around w
  exact acts r ended

/-- A signal without a side leads to nothing. -/
theorem follow_stays (side : signal.side = none) (w : Desk × ν) :
    (follow config a gate (.ok signal)).run around w =
      (.ok (a.result .skippedNoSignal signal.reason.label none), w) := by
  have ended : commit config a gate signal w.1.now w.1.store =
      .error (.ok (a.result .skippedNoSignal signal.reason.label none)) := by
    simp only [commit, side, Option.isNone_none, if_true]
  simp only [follow, Program.run_bind, Program.run_atomically, commitOn_error ended]
  rfl

/-- Whether a run failed for a reason, before any order. -/
def FailsFor (reason : String) (ending : Ending) : Prop :=
  ∃ r, ending = .ok r ∧ r.outcome = .failed ∧ r.reason = .text reason

/-- Whether a run was put off before any order. -/
def IsPutOff (ending : Ending) : Prop :=
  ∃ r, ending = .ok r ∧ r.outcome = .deferred ∧ r.trade = none

/-- A run that acts on a signal, or stays out because of it, neither fails for a script nor is put
off before its order. -/
theorem follow_apart (config : Config) (a : Activation) (gate : Gate) (signal : Signal Real64)
    (around : Surroundings Desk ν) (w : Desk × ν) :
    (∀ text, ¬FailsFor ("Invalid script: " ++ text)
      ((follow config a gate (.ok signal)).run around w).1) ∧
      ¬IsPutOff ((follow config a gate (.ok signal)).run around w).1 := by
  cases side : signal.side with
  | none =>
    rw [follow_stays side]
    constructor
    · rintro text ⟨r, ⟨⟩, failed, -⟩
      cases failed
    · rintro ⟨r, ⟨⟩, deferred, -⟩
      cases deferred
  | some decided =>
    have decided : signal.side.isSome = true := by rw [side]; rfl
    constructor
    · rintro text ⟨r, ended, failed, reason⟩
      have missing := (acted_of_follow decided ended).failed failed
      rw [reason, Label.text.injEq] at missing
      have initial := congrArg (fun s : String => s.toList.head?) missing
      simp at initial
    · rintro ⟨r, ended, deferred, untraded⟩
      have traded := (acted_of_follow decided ended).deferred deferred
      rw [untraded] at traded
      cases traded

/-- Without candles a run does not fail for its script. -/
theorem withoutCandles_valid (a : Activation) (e : FetchError) (text : String) :
    ¬FailsFor ("Invalid script: " ++ text) (withoutCandles a e) := by
  rintro ⟨r, ended, failed, reason⟩
  cases e with
  | rateLimited =>
    cases ended
    cases failed
  | unavailable failures =>
    cases ended
    have same : "All market data hosts failed: " ++
        "; ".intercalate (failures.map HostFailure.message) = "Invalid script: " ++ text :=
      Label.text.inj reason
    generalize "; ".intercalate (failures.map HostFailure.message) = hosts at same
    have initial := congrArg (fun s : String => s.toList.head?) same
    simp at initial
  | fault f => cases ended
  | payload f => cases ended

/-- Without candles a run is put off only when all hosts ask to wait. -/
theorem withoutCandles_putOff {e : FetchError} (late : IsPutOff (withoutCandles a e)) :
    e = .rateLimited := by
  obtain ⟨r, ended, deferred, -⟩ := late
  cases e with
  | rateLimited => rfl
  | unavailable failures =>
    cases ended
    cases deferred
  | fault f => cases ended
  | payload f => cases ended

end Acting

end Run

/-- Whether a dry run says what comes of a live run that passes its gates. -/
structure Rehearses (config : Config) (a : Activation) (flags : Option Flags)
    (around : Surroundings Desk ν) (w : Desk × ν)
    (dry : Except DeskError (SavedScript × Evaluation)) : Prop where
  /-- The live run is the one that is handed the signal of the dry run. -/
  acts : ∀ script e, dry = .ok (script, e) → (Run.run config a flags none).run around w =
    (Run.run config a flags (some e.signal)).run around ((Run.evaluate config a).run around w).2
  /-- With a side it tells of that very signal. -/
  tells : ∀ script e r, dry = .ok (script, e) → e.signal.side.isSome = true →
    ((Run.run config a flags none).run around w).1 = .ok r → r.signal = some e.signal
  /-- Without a side it stays out for the reason of the dry run. -/
  stays : ∀ script e, dry = .ok (script, e) → e.signal.side = none →
    ((Run.run config a flags none).run around w).1 =
      .ok (a.result .skippedNoSignal e.signal.reason.label none)
  invalid : ∀ text, Run.FailsFor ("Invalid script: " ++ text)
      ((Run.run config a flags none).run around w).1 ↔
    ∃ e fault, dry = .error e ∧ e.scriptError? = some fault ∧ fault.fullMessage = text
  putOff : Run.IsPutOff ((Run.run config a flags none).run around w).1 ↔
    dry = .error (.fetch .rateLimited)
  unavailable : ∀ failures, dry = .error (.fetch (.unavailable failures)) →
    Run.FailsFor (FetchError.unavailable failures).message
      ((Run.run config a flags none).run around w).1
  /-- Any other error is that of the live run too, or one of the ticker's answer. -/
  raised : ∀ e, dry = .error e → e.scriptError? = none → e ≠ .fetch .rateLimited →
    (∀ failures, e ≠ .fetch (.unavailable failures)) →
    ((Run.run config a flags none).run around w).1 = .error e ∨
      ∃ f, e = .fetch f ∧
        ∀ w : Desk × ν, ((config.market.fetchTicker a.symbol).run around w).1 = .error f

section Rehearsals

variable {config : Config} {a : Activation} {flags : Option Flags} {w : Desk × ν}

/-- A run that is handed a signal, on a store that lets it pass, follows the signal. -/
theorem Run.run_signal (config : Config) {gate : Gate} (gates : passGates a flags w.1.store = .ok gate)
    {v : Desk × ν} (kept : v.1.store = w.1.store) (signal : Signal Real64) :
    (run config a flags (some signal)).run around v =
      (follow config a gate (.ok signal)).run around v := by
  rw [run_follows (kept ▸ gates)]
  rfl

/-- A dry run with the signal that the live run follows. -/
theorem Rehearses.of_signal {gate : Gate} {script : SavedScript} {e : Evaluation}
    (gates : Run.passGates a flags w.1.store = .ok gate)
    (kept : ((Run.evaluate config a).run around w).2.1.store = w.1.store)
    (live : (Run.run config a flags none).run around w =
      (Run.follow config a gate (.ok e.signal)).run around
        ((Run.evaluate config a).run around w).2) :
    Rehearses config a flags around w (.ok (script, e)) := by
  have reported (e' : DeskError) : Except.ok (script, e) ≠ .error e' := fun same => by cases same
  obtain ⟨valid, present⟩ := Run.follow_apart config a gate e.signal around
    ((Run.evaluate config a).run around w).2
  rw [← live] at valid present
  constructor
  case acts =>
    intro script e same
    cases same
    exact live.trans (Run.run_signal config gates kept e.signal).symm
  case tells =>
    intro script e r same side ended
    cases same
    rw [live] at ended
    exact (Run.acted_of_follow side ended).signal
  case stays =>
    intro script e same side
    cases same
    rw [live, Run.follow_stays side]
  case invalid =>
    exact fun text => ⟨fun fails => (valid text fails).elim,
      fun ⟨e', _, same, _⟩ => (reported e' same).elim⟩
  case putOff => exact ⟨fun late => (present late).elim, fun same => (reported _ same).elim⟩
  case unavailable => exact fun failures same => (reported _ same).elim
  case raised => exact fun e' same => (reported e' same).elim

/-- A dry run with an error. -/
theorem Rehearses.of_error {e : DeskError}
    (invalid : ∀ text, Run.FailsFor ("Invalid script: " ++ text)
        ((Run.run config a flags none).run around w).1 ↔
      ∃ fault, e.scriptError? = some fault ∧ fault.fullMessage = text)
    (putOff : Run.IsPutOff ((Run.run config a flags none).run around w).1 ↔
      e = .fetch .rateLimited)
    (unavailable : ∀ failures, e = .fetch (.unavailable failures) →
      Run.FailsFor (FetchError.unavailable failures).message
        ((Run.run config a flags none).run around w).1)
    (raised : e.scriptError? = none → e ≠ .fetch .rateLimited →
      (∀ failures, e ≠ .fetch (.unavailable failures)) →
      ((Run.run config a flags none).run around w).1 = .error e ∨
        ∃ f, e = .fetch f ∧
          ∀ w : Desk × ν, ((config.market.fetchTicker a.symbol).run around w).1 = .error f) :
    Rehearses config a flags around w (.error e) := by
  have failed (script : SavedScript) (e' : Evaluation) : Except.error e ≠ .ok (script, e') :=
    fun same => by cases same
  constructor
  case acts => exact fun script e' same => (failed script e' same).elim
  case tells => exact fun script e' _ same => (failed script e' same).elim
  case stays => exact fun script e' same => (failed script e' same).elim
  case invalid =>
    intro text
    rw [invalid text]
    constructor
    · rintro ⟨fault, found, told⟩
      exact ⟨e, fault, rfl, found, told⟩
    · rintro ⟨e', fault, same, found, told⟩
      cases same
      exact ⟨fault, found, told⟩
  case putOff =>
    rw [putOff]
    exact ⟨congrArg Except.error, Except.error.inj⟩
  case unavailable => exact fun failures same => unavailable failures (Except.error.inj same)
  case raised =>
    intro e' same
    cases same
    exact raised

/-- A dry run with an error that is not one of the script. -/
theorem Rehearses.of_unscripted {e : DeskError} (scriptless : e.scriptError? = none)
    (valid : ∀ text, ¬Run.FailsFor ("Invalid script: " ++ text)
      ((Run.run config a flags none).run around w).1)
    (putOff : Run.IsPutOff ((Run.run config a flags none).run around w).1 ↔
      e = .fetch .rateLimited)
    (unavailable : ∀ failures, e = .fetch (.unavailable failures) →
      Run.FailsFor (FetchError.unavailable failures).message
        ((Run.run config a flags none).run around w).1)
    (raised : e ≠ .fetch .rateLimited → (∀ failures, e ≠ .fetch (.unavailable failures)) →
      ((Run.run config a flags none).run around w).1 = .error e ∨
        ∃ f, e = .fetch f ∧
          ∀ w : Desk × ν, ((config.market.fetchTicker a.symbol).run around w).1 = .error f) :
    Rehearses config a flags around w (.error e) := by
  refine .of_error (fun text => ⟨fun fails => (valid text fails).elim, ?_⟩) putOff unavailable
    fun _ => raised
  rintro ⟨fault, found, -⟩
  rw [scriptless] at found
  cases found

/-- A live run that fails for its script. -/
theorem Rehearses.of_invalid {e : DeskError} {fault : ScriptError}
    (reported : e.scriptError? = some fault)
    (ended : ((Run.run config a flags none).run around w).1 = Run.invalidScript a fault) :
    Rehearses config a flags around w (.error e) := by
  have unfetched (f : FetchError) : e ≠ .fetch f := by
    rintro rfl
    cases reported
  refine .of_error (fun text => ?invalid) ?putOff (fun failures same => (unfetched _ same).elim)
    ?raised
  case invalid =>
    rw [ended]
    constructor
    · rintro ⟨r, ⟨⟩, -, reason⟩
      exact ⟨fault, reported, (String.append_right_inj _).mp (Label.text.inj reason)⟩
    · rintro ⟨fault', reported', rfl⟩
      obtain rfl := Option.some.inj (reported.symm.trans reported')
      exact ⟨_, rfl, rfl, rfl⟩
  case putOff =>
    rw [ended]
    constructor
    · rintro ⟨r, ⟨⟩, deferred, -⟩
      cases deferred
    · exact fun same => (unfetched _ same).elim
  case raised =>
    intro none
    rw [reported] at none
    cases none

/-- A live run without candles. -/
theorem Rehearses.of_unfetched {e : FetchError}
    (ended : ((Run.run config a flags none).run around w).1 = Run.withoutCandles a e) :
    Rehearses config a flags around w (.error (.fetch e)) := by
  refine .of_unscripted rfl (fun text => ?valid) ?putOff (fun failures same => ?unavailable)
    fun busy down => ?raised
  case valid =>
    rw [ended]
    exact Run.withoutCandles_valid a e text
  case putOff =>
    rw [ended]
    constructor
    · exact fun late => congrArg _ (Run.withoutCandles_putOff late)
    · intro same
      cases same
      exact ⟨_, rfl, rfl, rfl⟩
  case unavailable =>
    cases same
    rw [ended]
    exact ⟨_, rfl, rfl, rfl⟩
  case raised =>
    rw [ended]
    cases e with
    | rateLimited => exact absurd rfl busy
    | unavailable failures => exact absurd rfl (down failures)
    | fault f => exact .inl rfl
    | payload f => exact .inl rfl

/-- A live run that raises what the dry run does. -/
theorem Rehearses.of_raised {e : DeskError} (other : e.scriptError? = none)
    (fetched : ∀ f, e ≠ .fetch f)
    (ended : ((Run.run config a flags none).run around w).1 = .error e) :
    Rehearses config a flags around w (.error e) := by
  refine .of_unscripted other ?valid ?putOff (fun failures same => (fetched _ same).elim)
    fun _ _ => .inl ended
  case valid =>
    rw [ended]
    rintro text ⟨r, ⟨⟩, -, -⟩
  case putOff =>
    rw [ended]
    exact ⟨fun ⟨r, same, _⟩ => (by cases same), fun same => (fetched _ same).elim⟩

/-- A dry run that breaks off at the ticker's answer, where the live run follows a signal or stays
out for want of history. -/
theorem Rehearses.of_unquoted {gate : Gate} {found : Except Run.Ending (Signal Real64)}
    {e : FetchError} {v : Desk × ν}
    (live : (Run.run config a flags none).run around w =
      (Run.follow config a gate found).run around v)
    (skips : ∀ ending, found = .error ending → ∃ fault : HistoryError,
      ending = .ok (a.result .skippedNoSignal fault.message none))
    (answered : ∀ w : Desk × ν, ((config.market.fetchTicker a.symbol).run around w).1 = .error e)
    (limited : e ≠ .rateLimited) (failed : ∀ failures, e ≠ .unavailable failures) :
    Rehearses config a flags around w (.error (.fetch e)) := by
  have apart : (∀ text, ¬Run.FailsFor ("Invalid script: " ++ text)
      ((Run.run config a flags none).run around w).1) ∧
      ¬Run.IsPutOff ((Run.run config a flags none).run around w).1 := by
    rw [live]
    cases found with
    | ok signal => exact Run.follow_apart ..
    | error ending =>
      obtain ⟨fault, rfl⟩ := skips ending rfl
      constructor
      · rintro text ⟨r, ⟨⟩, skipped, -⟩
        cases skipped
      · rintro ⟨r, ⟨⟩, skipped, -⟩
        cases skipped
  refine .of_unscripted rfl apart.1 ?putOff (fun failures same => ?unavailable)
    fun _ _ => .inr ⟨e, rfl, answered⟩
  case putOff =>
    exact ⟨fun late => (apart.2 late).elim, fun same => (limited (by simpa using same)).elim⟩
  case unavailable => exact (failed failures (by simpa using same)).elim

theorem Run.Tallies.rehearses {gate : Gate} {ticker : Except FetchError Ticker}
    {outcome : Except DeskError Evaluation} (script : SavedScript)
    (tallied : Tallies a ticker ((evaluate config a).run around w).1 outcome)
    (gates : passGates a flags w.1.store = .ok gate)
    (kept : ((evaluate config a).run around w).2.1.store = w.1.store)
    (quoted : ∀ w : Desk × ν, ((config.market.fetchTicker a.symbol).run around w).1 = ticker) :
    Rehearses config a flags around w (outcome.map (script, ·)) := by
  have live : (run config a flags none).run around w =
      (follow config a gate ((evaluate config a).run around w).1).run around
        ((evaluate config a).run around w).2 := run_follows gates
  generalize ((evaluate config a).run around w).1 = found at tallied live
  cases tallied with
  | signal e => exact .of_signal gates kept live
  | short side reason =>
    refine .of_signal gates kept (live.trans ?_)
    rw [follow_stays side, reason]
    rfl
  | invalid reported => exact .of_invalid reported (congrArg Prod.fst live)
  | unfetched e => exact .of_unfetched (congrArg Prod.fst live)
  | raised other fetched => exact .of_raised other fetched (congrArg Prod.fst live)
  | unquoted skips answered limited failed =>
    exact .of_unquoted live skips (fun w => (quoted w).trans answered) limited failed

end Rehearsals

/-- **Dry runs rehearse live runs.** On a market that replies to each request as it did before, with
nobody else at the desk, a dry run of a saved script for a user and the live run of that user's
activation, or of one with nothing set, start from the same state. Past its gates the live run does
with the signal of the dry run what it does with one handed in; it fails for the script, or for want
of the market, when the dry run does, and is put off when the dry run is asked to wait. Where the
activation cannot be read, there is no dry run either, and there is none where the timeframes that
stand with the script do not read, which a live run does not look at. -/
theorem dry_run_rehearses (config : Config) (settled : around.Settled replies) (w : Desk × ν)
    (user : String) {id timeframe : String} {script : SavedScript}
    (saved : w.1.store.script? id = some script) (named : id ≠ "") (timed : timeframe ≠ "")
    (flags : Option Flags) :
    let dry := ((DryRun.script config (.text id) (.text timeframe) (.text user)).run around w).1
    let live := DryRun.liveFor user id timeframe script w.1.store
    (∀ fault, Json.read script.timeframes = .error fault → dry = .error (.timeframes fault)) ∧
      ∀ timeframes, Json.read script.timeframes = .ok timeframes →
        (∀ e, live = .error e → dry = .error e) ∧
          ∀ a, live = .ok a →
            (∀ (c : Caller) (script' : SavedScript) (e : Evaluation), c.user = user →
              dry = .ok (script', e) → script' = script ∧
                Service.liveActivation c (.text id) (.text timeframe) e script w.1.store = .ok a) ∧
            ∀ gate, Run.passGates a flags w.1.store = .ok gate →
              Rehearses config a flags around w dry := by
  intro dry live
  refine ⟨fun fault unread => DryRun.script_unread saved unread config _ _, fun timeframes read =>
    ⟨fun e unread => DryRun.script_error saved read unread, fun a own => ?_⟩⟩
  obtain ⟨isFor, -, limited⟩ := DryRun.liveFor_ok saved named timed own
  obtain ⟨candles, heard⟩ : ∃ candles, ∀ w : Desk × ν, ((config.market.fetchCandles script.symbol
      (.text timeframe) (a.overrides.candleLimitOr config.candleLimit)).run around w).1 = candles :=
    config.market.get_run settled _ _ _
  obtain ⟨ticker, quoted⟩ : ∃ ticker, ∀ w : Desk × ν,
      ((config.market.fetchTicker script.symbol).run around w).1 = ticker :=
    config.market.get_run settled _ _ _
  have ran : dry = (DryRun.evaluationFrom script.symbol (.text timeframe)
      (Run.compile (.text id) script.content w.1).1 candles ticker).map (script, ·) :=
    DryRun.script_run saved read limited heard quoted
  constructor
  · rintro c script' e rfl reported
    rw [ran] at reported
    obtain ⟨e', evaluated, same⟩ := map_ok.mp reported
    obtain ⟨rfl, rfl⟩ := Prod.mk.inj same
    refine ⟨rfl, ?_⟩
    rw [Service.liveActivation, DryRun.evaluationFrom_timeframe evaluated]
    exact own
  · intro gate gates
    have heard' : ∀ w : Desk × ν, ((config.market.fetchCandles a.symbol a.timeframe
        (a.overrides.candleLimitOr config.candleLimit)).run around w).1 = candles := by
      rw [isFor.symbol, isFor.timed]
      exact heard
    obtain ⟨evaluated, kept⟩ := Run.evaluate_run settled heard' w
    rw [isFor.named, isFor.content] at evaluated
    have tallied := Run.tallies a script.symbol (.text timeframe)
      (Run.compile (.text id) script.content w.1).1 candles ticker
    rw [← evaluated] at tallied
    rw [ran]
    exact tallied.rehearses script gates kept (by rw [isFor.symbol]; exact quoted)

namespace Sweep.Sample

/-- A market whose answer about the ticker cannot be decoded. -/
def unquoted : Surroundings Desk Unit :=
  ⟨fun r w => (if r.method = .get ∧ r.params.lookup "interval" = none then
      .fault ⟨.decodingError, "incorrect header check"⟩
    else Sweep.Sample.replies r, w), id⟩

end Sweep.Sample

open Sweep.Sample in
/-- A rising price that a dry run tells of and a live run buys at. -/
theorem sample_dry_run :
    let dry := ((DryRun.script .sample (.text "cross") (.text "1h") (.text "ada")).run market
      (desk, ())).1
    dry.isOk = true ∧ ∃ script a gate, desk.store.script? "cross" = some script ∧
      DryRun.liveFor "ada" "cross" "1h" script desk.store = .ok a ∧
        Run.passGates a none desk.store = .ok gate ∧
          Rehearses .sample a none market (desk, ()) dry := by
  intro dry
  let a : Activation := ⟨"ada", "cross", "1h", script.symbol, script.content, .empty⟩
  have saved : desk.store.script? "cross" = some script := rfl
  have read : Json.read script.timeframes = .ok (.list [.text "1h"]) := by rfl
  have own : DryRun.liveFor "ada" "cross" "1h" script desk.store = .ok a := rfl
  have gates : Run.passGates a none desk.store = .ok ⟨true, none⟩ := rfl
  have named : "cross" ≠ "" := by decide
  have timed : "1h" ≠ "" := by decide
  obtain ⟨-, readable⟩ :=
    dry_run_rehearses .sample market_settled (desk, ()) "ada" saved named timed none
  obtain ⟨-, live⟩ := readable _ read
  exact ⟨by decide +kernel, script, a, _, saved, own, gates, (live a own).2 _ gates⟩

open Sweep.Sample in
/-- An answer that cannot be decoded breaks a dry run off, where the live run buys. -/
theorem sample_dry_run_unquoted :
    let dry := ((DryRun.script .sample (.text "cross") (.text "1h") (.text "ada")).run
      unquoted (desk, ())).1
    (dry.map fun _ => ()).mapError DeskError.message = .error "incorrect header check" ∧
      ∃ a, DryRun.liveFor "ada" "cross" "1h" script desk.store = .ok a ∧
        ((Run.run .sample a none none).run unquoted
          (desk, ())).2.1.store.trades.length = 1 :=
  ⟨by decide +kernel, ⟨"ada", "cross", "1h", script.symbol, script.content, .empty⟩, rfl,
    by decide +kernel⟩

end SignalDesk
