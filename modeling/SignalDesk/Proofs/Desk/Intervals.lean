import SignalDesk.Proofs.Desk.Chronicle
import SignalDesk.Proofs.Run.Commitment
import SignalDesk.Proofs.Sweep.Repetition

/-!
# Candles and intervals

Trades are kept apart by the timeframe of their candle, and candles are asked for by its interval.
An interval other than hours has one timeframe, so each of its candles is traded once by a user and
script; of hours there is a trade for each timeframe that is taken for hours
(`intervals_traded_once`).
-/

namespace SignalDesk

/-- An interval other than hours has itself as its only timeframe. -/
theorem Timeframe.eq_of_interval {timeframe timeframe' : String}
    (same : interval timeframe = interval timeframe')
    (other : interval timeframe ≠ defaultInterval) : timeframe = timeframe' := by
  have own : ∀ {t : String}, interval t ≠ defaultInterval → interval t = t := by
    intro t other
    simp only [interval] at other ⊢
    split
    · rfl
    · rename_i unknown
      exact absurd (if_neg unknown) other
  rw [← own other, same, own (same ▸ other)]

namespace TradeIdentity

/-- Whether two trades of a user and script are for the same time. -/
def Meets (k l : TradeIdentity) : Prop :=
  k.user = l.user ∧ k.script = l.script ∧ k.candleTime.same l.candleTime = true

/-- The interval of the timeframe of a trade. -/
def interval (k : TradeIdentity) : String := Timeframe.interval k.timeframe

variable {k l : TradeIdentity}

theorem Meets.timeframe_ne (meets : k.Meets l) (apart : k.sameCandle l = false) :
    k.timeframe ≠ l.timeframe := by
  obtain ⟨user, script, time⟩ := meets
  intro same
  simp [sameCandle, user, script, same, time] at apart

/-- Trades of one interval for the same time are for hours. -/
theorem Meets.interval_eq (meets : k.Meets l) (apart : k.sameCandle l = false)
    (same : k.interval = l.interval) : k.interval = Timeframe.defaultInterval := by
  by_contra other
  exact meets.timeframe_ne apart (Timeframe.eq_of_interval same other)

end TradeIdentity

namespace Store

/-- Whether no two trades are for the same candle. -/
def CandlesApart (s : Store) : Prop := s.made.Pairwise fun k l => k.sameCandle l = false

/-- Whether no trade is made, or one for a candle that had none. -/
def MakesOne (s s' : Store) : Prop :=
  s'.made = s.made ∨ ∃ k, s'.made = s.made ++ [k] ∧ ∀ l ∈ s.made, l.sameCandle k = false

variable {s s' : Store}

theorem MakesOne.of_trades (same : s'.trades = s.trades) : s.MakesOne s' :=
  .inl (congrArg (List.map Trade.identity) same)

theorem MakesOne.candlesApart (h : s.MakesOne s') (apart : s.CandlesApart) : s'.CandlesApart := by
  rcases h with same | ⟨k, made, fresh⟩
  · rwa [CandlesApart, same]
  · rw [CandlesApart, made]
    refine List.pairwise_append.mpr ⟨apart, List.pairwise_singleton _ _, fun l hl k' hk => ?_⟩
    rw [List.mem_singleton.mp hk]
    exact fresh l hl

theorem MakesOne.of_reserve {r : Reservation} {now : String} {id : Int}
    (h : s.reserve r now = .ok (id, s')) : s.MakesOne s' := by
  obtain ⟨t, p, reserves, -, rfl⟩ := reserve_ok h
  refine .inr ⟨t.identity, by simp [made, charged, setCoins, record], fun l hl => ?_⟩
  have only := reserves.only
  rw [hasTradeFor_eq] at only
  simpa [TradeIdentity.sameCandle, Trade.identity] using List.any_eq_false.mp only l hl

theorem Change.makesOne (h : Change s s') : s.MakesOne s' := by
  cases h with
  | enroll h => exact .of_trades (ensureProfile_trades h)
  | enable script h =>
    have same := ensureProfile_trades h
    exact .of_trades same
  | adjust h =>
    obtain ⟨e, adjusted⟩ := adjust_ok h
    exact .inl adjusted.made
  | reserve h => exact .of_reserve h
  | markOpen | markFailed | markCancelled | close => exact .inl (made_changeTrade fun _ => rfl)
  | addSignal h => exact .inl (addSignal_minor h).1.made
  | createToken h =>
    simp only [Store.createToken] at h
    split at h <;> cases h
    exact .of_trades rfl
  | initialise | subscribe | markProcessed | saveScript | activate | deactivate | setGate | setFlag
  | saveKeys => exact .of_trades rfl

theorem Alterations.makesOne (h : s.Alterations s') : s.MakesOne s' := by
  cases h with
  | refl => exact .inl rfl
  | single h =>
    cases h with
    | change h => exact h.makesOne
    | enroll h => exact .of_trades (ensureProfile_trades h)
    | adjust h =>
      obtain ⟨e, adjusted⟩ := adjust_ok h
      exact .inl adjusted.made

end Store

/-- The interval of the timeframe of an activation. -/
def Activation.interval (a : Activation) : String :=
  Timeframe.interval (a.timeframe.stored.getD "")

/-- Whether a request that is no order is for candles of an interval. -/
def Request.AsksFor (interval : String) (q : Request) : Prop :=
  q.method = .get → q.params.lookup "interval" = some (.text interval)

/-- Whether the trades that are new are of an interval. -/
def Desk.TradesAt (interval : String) (d d' : Desk) : Prop :=
  ∀ k ∈ d'.store.made, k ∈ d.store.made ∨ k.interval = interval

theorem Desk.TradesAt.of_made {interval : String} {d d' : Desk}
    (same : d'.store.made = d.store.made) : d.TradesAt interval d' :=
  fun _ hk => .inl (same ▸ hk)

theorem Desk.Marks.tradesAt {interval : String} {d d' : Desk} (h : d.Marks d') :
    d.TradesAt interval d' := by
  obtain ⟨trades, made, rfl⟩ := h
  exact .of_made made

namespace Run

variable (config : Config) (a : Activation)

theorem evaluate_asks :
    (evaluate config a).Within (Request.AsksFor a.interval) Desk.SameStore fun _ => True := by
  have compiles : (Program.atomically (compile a.script a.content)).Within
      (Request.AsksFor a.interval) Desk.SameStore fun _ => True :=
    .atomically fun _ => ⟨rfl, trivial⟩
  refine compiles.bind fun strategy _ => ?_
  cases strategy with
  | error e => trivial
  | ok strategy =>
    refine (Hosts.askFrom_within fun host _ => rfl).bind fun candles _ => ?_
    cases candles <;> trivial

theorem commitOn_tradesAt (gate : Gate) (signal : Signal Real64) (d : Desk) :
    d.TradesAt a.interval (commitOn config a gate signal d).2 := by
  simp only [commitOn]
  split
  · exact .of_made rfl
  · rename_i reserved store committed
    obtain ⟨quantity, reserves⟩ := commit_ok committed
    obtain ⟨t, admitted, -, trades⟩ := Store.reserve_trades reserves
    have timeframe : a.timeframe.stored = some t.timeframe :=
      (Reservation.trade_ok admitted).2.2.2.2.1
    intro k hk
    simp only [Store.made, trades, List.map_append, List.mem_append, List.map_cons, List.map_nil,
      List.mem_singleton] at hk
    refine hk.imp id fun new => ?_
    rw [new, TradeIdentity.interval, Activation.interval, timeframe]
    rfl

/-- A run that evaluates asks for candles of one interval, and what it trades is of that interval. -/
theorem run_keeps_interval (flags : Option Flags) :
    (run config a flags none).Within (Request.AsksFor a.interval) (Desk.TradesAt a.interval)
      fun _ => True := by
  rw [run_eq]
  refine fun d => ⟨.of_made rfl, ?_⟩
  dsimp only
  cases passGates a flags d.store with
  | error r => trivial
  | ok gate =>
    have search : (signalFor config a none).Within (Request.AsksFor a.interval)
        (Desk.TradesAt a.interval) fun _ => True :=
      (evaluate_asks config a).mono (fun _ h => h)
        (fun _ _ same => .of_made (congrArg Store.made same)) fun _ h => h
    refine search.bind fun found _ => ?_
    cases found with
    | error ending => trivial
    | ok signal =>
      refine fun d => ⟨commitOn_tradesAt config a gate signal d, ?_⟩
      dsimp only
      cases (commitOn config a gate signal d).1 with
      | error ending => trivial
      | ok reserved =>
        have places : (place config a signal reserved).Within (Request.AsksFor a.interval)
            (Desk.TradesAt a.interval) fun _ => True :=
          (place_orders config a signal reserved).mono
            (fun q post get => nomatch post.symm.trans get) (fun d d' marks => marks.tradesAt)
            fun _ _ => trivial
        exact places

end Run

/-- **Candles are traded once per interval.** Whatever goes on at a desk, on a store that holds its
candles apart and in any order: two trades of a user and script for the same time are of different
timeframes, and of one interval only if that is hours. Which interval a trade is of says what it was
evaluated from, since a run that evaluates asks for candles of one interval only, and trades at no
other. -/
theorem intervals_traded_once {worlds : List World} (h : World.Chronicle worlds)
    (begun : ∀ w ∈ worlds.getLast?, w.desk.store.CandlesApart) :
    (∀ w ∈ worlds, w.desk.store.made.Pairwise fun k l => k.Meets l →
        k.timeframe ≠ l.timeframe ∧
          (k.interval = l.interval → k.interval = Timeframe.defaultInterval)) ∧
      ∀ (config : Config) (a : Activation) (flags : Option Flags),
        (Run.run config a flags none).Within (Request.AsksFor a.interval)
          (Desk.TradesAt a.interval) fun _ => True := by
  have apart : ∀ w ∈ worlds, w.desk.store.CandlesApart :=
    h.alterations.backwards_induction _ worlds
      (fun _ _ change early => change.makesOne.candlesApart early)
      fun some => begun _ (List.getLast_mem_getLast? some)
  refine ⟨fun w hw => (apart w hw).imp fun apart meets => ?_, Run.run_keeps_interval⟩
  exact ⟨meets.timeframe_ne apart, meets.interval_eq apart⟩

namespace World.Sample

/-- The arguments of the trade, for candles of four hours. -/
def slower : Arguments :=
  trade.map fun (name, v) => (name, if name = "timeframe" then .text "4h" else v)

def reserving : Activity := .statement "trades" "reserve_trade" slower

/-- The desk with the trades of both timeframes. -/
def twice : Desk := Activity.perform .sample "trades" "reserve_trade" slower traded

/-- The worlds with these trades, the latest first. -/
def slowly : List World :=
  [⟨twice, ⟨reserving, .done ()⟩ :: last.busy⟩,
    { last with busy := ⟨reserving, reserving.program .sample⟩ :: last.busy }]

theorem slowly_chronicle : Chronicle (slowly ++ last :: earlier) :=
  (history.perform .sample "trades" "reserve_trade" slower fun sets =>
    absurd sets.1 (by decide)).chronicle

end World.Sample

open World.Sample in
/-- Trades for the same time, in two timeframes. -/
theorem sample_intervals_apart :
    ∃ k l, twice.store.made = [k, l] ∧ k.Meets l ∧ k.timeframe ≠ l.timeframe ∧
      (k.interval = l.interval → k.interval = Timeframe.defaultInterval) := by
  obtain ⟨apart, -⟩ := intervals_traded_once slowly_chronicle fun w begun => by
    cases begun
    exact .nil
  have both : twice.store.made =
      [⟨1, "ada", "cross", "1h", .number (.whole 5)⟩,
        ⟨2, "ada", "cross", "4h", .number (.whole 5)⟩] := by decide +kernel
  have pair : twice.store.made.Pairwise _ := apart _ List.mem_cons_self
  rw [both, List.pairwise_pair] at pair
  have meets : TradeIdentity.Meets ⟨1, "ada", "cross", "1h", .number (.whole 5)⟩
      ⟨2, "ada", "cross", "4h", .number (.whole 5)⟩ := ⟨rfl, rfl, rfl⟩
  exact ⟨_, _, both, meets, pair meets⟩

namespace Run.Sample

/-- A script that says to buy while the price is above a threshold. -/
def rising (timeframe : Label) : Activation :=
  ⟨"ada", "cross", timeframe, "BTCUSDT", "entryType=price_above threshold=2", .empty⟩

def first : Ending × Desk × Unit :=
  (run .sample (rising "1h") none none).run Sweep.Sample.market (desk, ())

/-- The desk that is started anew on the store of the first run. -/
def reopened : Desk := .start .sample first.2.1.store 0

def second : Ending × Desk × Unit :=
  (run .sample (rising "2h") none none).run Sweep.Sample.market (reopened, ())

end Run.Sample

open Run.Sample in
/-- The candle of an hour is traded twice, by runs that ask for candles of an hour. -/
theorem sample_hour_traded_twice :
    desk.store.made = [] ∧
      (∀ q ∈ (Run.run .sample (rising "1h") none none).requests Sweep.Sample.market (desk, ()),
        q.AsksFor "1h") ∧
      (∀ q ∈ (Run.run .sample (rising "2h") none none).requests Sweep.Sample.market (reopened, ()),
        q.AsksFor "1h") ∧
      ∃ k l, second.2.1.store.made = [k, l] ∧ k.Meets l ∧ k.interval = "1h" ∧
        l.interval = "1h" := by
  have hours : (rising "1h").interval = "1h" ∧ (rising "2h").interval = "1h" := by decide
  have asks : ∀ timeframe w, ∀ q ∈ (Run.run .sample (rising timeframe) none none).requests
      Sweep.Sample.market w, q.AsksFor (rising timeframe).interval := by
    intro timeframe w
    have within : (Run.run .sample (rising timeframe) none none).Within
        (Request.AsksFor (rising timeframe).interval) (fun _ _ => True) fun _ => True :=
      (Run.run_keeps_interval .sample (rising timeframe) none).mono (fun _ asks => asks)
        (fun _ _ _ => trivial) fun _ h => h
    exact (within.run (fun _ => trivial) (fun _ _ => trivial)
      ⟨fun _ _ => trivial, fun _ => trivial⟩ w).2.2
  refine ⟨rfl, hours.1 ▸ asks "1h" _, hours.2 ▸ asks "2h" _,
    ⟨1, "ada", "cross", "1h", .number (.whole 2)⟩, ⟨2, "ada", "cross", "2h", .number (.whole 2)⟩,
    by decide +kernel, ⟨rfl, rfl, rfl⟩, ?_, ?_⟩ <;> decide

end SignalDesk
