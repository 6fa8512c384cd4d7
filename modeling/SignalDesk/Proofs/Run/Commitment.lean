import SignalDesk.Proofs.Run.Admission
import SignalDesk.Proofs.Store.Spending

namespace SignalDesk
namespace Run

variable {config : Config} {a : Activation} {gate : Gate} {signal : Signal Real64}
  {now : String} {s s' : Store} {r : Reserved} {candle : Option Figure}

/-- The text of the quantity that an activation orders. -/
def quantityOf (config : Config) (a : Activation) (signal : Signal Real64) : String :=
  Order.quantityText (quoteOf config a) signal.price

/-- What holds when a run goes on to the order of a reserved trade. -/
structure Commits (config : Config) (a : Activation) (gate : Gate) (signal : Signal Real64)
    (now : String) (s : Store) (candle : Option Figure) (r : Reserved) (s' : Store) : Prop where
  side : signal.side.isNone = false
  time : timeOf gate signal = .ok (some candle)
  untraded : hasTrade a candle s = false
  unprocessed : isHandedOn a candle s = false
  keys : a.user.stored.bind s.orderKeys? = some r.keys
  reserve : s.reserve (reservation a signal (quantityOf config a signal)) now = .ok (r.trade, s')
  order : r.order = order a signal (quantityOf config a signal)

theorem Commits.commit_eq (h : Commits config a gate signal now s candle r s') :
    commit config a gate signal now s = .ok (r, s') := by
  obtain ⟨trade, placed, keys⟩ := r
  have order : placed = Run.order a signal (quantityOf config a signal) := h.order
  simp only [commit, h.side, h.time, h.keys, Bool.false_eq_true, if_false]
  rw [h.untraded, h.unprocessed, ← quantityOf, h.reserve, order]
  rfl

theorem commit_commits (h : commit config a gate signal now s = .ok (r, s')) :
    ∃ candle, Commits config a gate signal now s candle r s' := by
  simp only [commit] at h
  split at h
  · cases h
  rename_i side
  split at h
  · cases h
  · cases h
  rename_i candle time
  split at h
  · cases h
  rename_i untraded
  split at h
  · cases h
  rename_i unprocessed
  split at h
  · cases h
  rename_i keys found
  split at h
  · rename_i reserved
    cases h
    exact ⟨candle, Bool.eq_false_iff.mpr side, time, by simpa using untraded,
      by simpa using unprocessed, found, reserved, rfl⟩
  all_goals cases h

theorem timeOf_figure (h : timeOf gate signal = .ok (some candle)) :
    Store.figure? signal.candleTime = .ok candle := by
  simp only [timeOf, bind_ok, mapError_ok] at h
  obtain ⟨started, -, stale, -, h⟩ := h
  split at h
  · cases h
  · obtain ⟨found, figure, same⟩ := bind_ok.mp h
    cases same
    exact mapError_ok.mp figure

theorem hasTrade_iff : hasTrade a candle s = true ↔
    ∃ user script timeframe time, a.user.stored = some user ∧ a.script.stored = some script ∧
      a.timeframe.stored = some timeframe ∧ candle = some time ∧
      s.hasTradeFor user script timeframe time = true := by
  constructor
  · intro h
    rw [hasTrade] at h
    cases hu : a.user.stored with
    | none => rw [hu] at h; cases h
    | some user =>
    cases hs : a.script.stored with
    | none => rw [hu, hs] at h; cases h
    | some script =>
    cases ht : a.timeframe.stored with
    | none => rw [hu, hs, ht] at h; cases h
    | some timeframe =>
    cases candle with
    | none => rw [hu, hs, ht] at h; cases h
    | some time =>
      rw [hu, hs, ht] at h
      exact ⟨user, script, timeframe, time, rfl, rfl, rfl, rfl, (isSome_guard _).symm.trans h⟩
  · rintro ⟨user, script, timeframe, time, hu, hs, ht, rfl, traded⟩
    rw [hasTrade, hu, hs, ht]
    exact (isSome_guard _).trans traded

/-- The trade of a commitment is for the candle of its signal. -/
theorem Commits.trade (h : Commits config a gate signal now s candle r s') :
    ∃ t p, s.Reserves (reservation a signal (quantityOf config a signal)) now t p ∧
      s' = s.charged t (p.coins.amount.plus (-1))
        (reservation a signal (quantityOf config a signal)).ledgerReason now ∧
      a.Names t.user t.script t.timeframe ∧ candle = some t.candleTime := by
  obtain ⟨t, p, reserves, -, charged⟩ := Store.reserve_ok h.reserve
  obtain ⟨-, -, user, script, timeframe, figure, -⟩ := Reservation.trade_ok reserves.made
  have time := timeOf_figure h.time
  replace figure : Store.figure? signal.candleTime = .ok (some t.candleTime) := figure
  rw [figure] at time
  exact ⟨t, p, reserves, charged, ⟨user, script, timeframe⟩, (Except.ok.inj time).symm⟩

theorem hasTrade_of_spent (spent : s.Spent s') (h : hasTrade a candle s = true) :
    hasTrade a candle s' = true := by
  obtain ⟨user, script, timeframe, time, hu, hs, ht, hc, traded⟩ := hasTrade_iff.mp h
  exact hasTrade_iff.mpr
    ⟨user, script, timeframe, time, hu, hs, ht, hc, spent.trades _ _ _ _ traded⟩

theorem isHandedOn_of_spent (spent : s.Spent s') :
    isHandedOn a candle s' = isHandedOn a candle s := by
  have same : s'.isProcessed = s.isProcessed := by
    funext script timeframe time
    simp only [Store.isProcessed, spent.signals]
  rw [isHandedOn, isHandedOn, same]

theorem orderKeys?_of_spent (spent : s.Spent s') : s'.orderKeys? = s.orderKeys? := by
  funext user
  simp only [Store.orderKeys?, Store.keys?, spent.keys]

theorem passGates_of_spent (spent : s.Spent s') (flags : Option Flags) :
    passGates a flags s' = passGates a flags s := by
  have flagged : s'.currentFlags = s.currentFlags := by
    simp only [Store.currentFlags, Store.flags?, spent.flags]
  have gated : gateOf a s' = gateOf a s := by
    simp only [gateOf, Store.gate?, spent.gates]
  have subscribed : (a.user.stored.bind s'.profile?).any (·.subscription != 0) =
      (a.user.stored.bind s.profile?).any (·.subscription != 0) := by
    cases a.user.stored with
    | none => rfl
    | some user =>
      simp only [Option.bind_some]
      have related := spent.profiles user
      generalize s.profile? user = p, s'.profile? user = p' at related ⊢
      cases related with
      | none => rfl
      | some h => simp only [Option.any_some, h.1]
  simp only [passGates, flagged, gated, subscribed]

/-- Who can commit after trades were made and coins spent could have before. -/
theorem commit_of_spent (spent : s.Spent s') {s'' : Store} {now' : String}
    (h : commit config a gate signal now' s' = .ok (r, s'')) (now : String) :
    ∃ r t, commit config a gate signal now s = .ok (r, t) := by
  obtain ⟨candle, commits⟩ := commit_commits h
  obtain ⟨t, p', reserves, -, -⟩ := Store.reserve_ok commits.reserve
  have untraded : hasTrade a candle s = false := by
    refine Bool.eq_false_iff.mpr fun traded => ?_
    have later := hasTrade_of_spent spent traded
    rw [commits.untraded] at later
    cases later
  have only : s.hasTradeFor t.user t.script t.timeframe t.candleTime = false := by
    refine Bool.eq_false_iff.mpr fun traded => ?_
    have later := spent.trades _ _ _ _ traded
    rw [reserves.only] at later
    cases later
  have found := spent.profiles t.user
  rw [reserves.profile] at found
  generalize profile : s.profile? t.user = old at found
  cases found with
  | @some p _ related =>
    have made := Reservation.trade_renumber (reservation a signal (quantityOf config a signal))
      (Store.nextId (s'.trades.map (·.id))) (Store.nextId (s.trades.map (·.id))) now' now
    rw [reserves.made] at made
    have again : s.Reserves (reservation a signal (quantityOf config a signal)) now
        { t with id := Store.nextId (s.trades.map (·.id)), createdAt := now } p :=
      ⟨made, only, profile, related.2 reserves.spendable⟩
    refine ⟨⟨_, r.order, r.keys⟩, _, Commits.commit_eq ⟨commits.side, commits.time, untraded, ?_,
      ?_, again.reserve_eq, commits.order⟩⟩
    · rw [← isHandedOn_of_spent spent]
      exact commits.unprocessed
    · rw [← orderKeys?_of_spent spent]
      exact commits.keys

/-- Who has committed for a candle does not commit for it again. -/
theorem Commits.once (commits : Commits config a gate signal now s candle r s') {n : Int}
    (opened : signal.candleTime = .int n) {s'' t : Store} (spent : s'.Spent s'') {gate' : Gate}
    {now' : String} {r' : Reserved} : commit config a gate' signal now' s'' ≠ .ok (r', t) := by
  intro again
  obtain ⟨candle', commits'⟩ := commit_commits again
  have same : candle' = candle := by
    have first := timeOf_figure commits.time
    rw [timeOf_figure commits'.time] at first
    exact Except.ok.inj first
  subst same
  obtain ⟨t, p, reserves, rfl, names, known⟩ := commits.trade
  have whole : t.candleTime = .number (.whole n) := by
    have figure := timeOf_figure commits.time
    simp only [opened, known, Store.figure?, Store.bound] at figure
    split at figure
    · exact (Option.some.inj (Except.ok.inj figure)).symm
    · cases figure
  have traded : hasTrade a candle' (s.charged t (p.coins.amount.plus (-1))
      (reservation a signal (quantityOf config a signal)).ledgerReason now) = true := by
    rw [known, hasTrade_eq names, Store.hasTradeFor_charged]
    simp [Store.isTradeFor, whole, Figure.same, Amount.same]
  have later := hasTrade_of_spent spent traded
  rw [commits'.untraded] at later
  cases later

end Run

/-- Whether nothing becomes of a desk but that its trades go on, the same that were made. -/
def Desk.Marks (d d' : Desk) : Prop :=
  ∃ trades : List Trade, trades.map Trade.identity = d.store.made ∧
    d' = { d with store := { d.store with trades } }

namespace Desk.Marks

theorem refl (d : Desk) : d.Marks d := ⟨d.store.trades, rfl, rfl⟩

theorem trans {d d' d'' : Desk} (h : d.Marks d') (h' : d'.Marks d'') : d.Marks d'' := by
  obtain ⟨trades, made, rfl⟩ := h
  obtain ⟨trades', made', rfl⟩ := h'
  exact ⟨trades', made'.trans made, rfl⟩

theorem spent {d d' : Desk} (h : d.Marks d') : d.store.Spent d'.store := by
  obtain ⟨trades, made, rfl⟩ := h
  exact .of_made ⟨trades, rfl⟩ made

theorem of_changeTrade (d : Desk) {id : Int} {p : Trade → Bool} {change : Trade → Trade}
    (h : ∀ t, (change t).identity = t.identity) :
    d.Marks { d with store := d.store.changeTrade id p change } :=
  ⟨_, Store.made_changeTrade h, rfl⟩

end Desk.Marks

/-- The values of a trade whose candle has a time are written as they are. -/
theorem Reservation.trade_written {r : Reservation} {id : Int} {now : String} {candle : Option Figure}
    (time : Store.figure? r.candleTime = .ok candle) {points : List Point} :
    r.trade id now ≠ .error (.byteless points) := by
  have required : ∀ {α : Type} (column : String) (v : Option α),
      Store.require column v ≠ .error (.byteless points) := by
    intro α column v
    cases v <;> exact nofun
  intro wrong
  simp only [trade, bind_error, time, required, false_or, reduceCtorEq] at wrong
  obtain ⟨_, -, _, -, _, -, _, -, _, -, _, -, _, -, _, -, _, -, wrong⟩ := wrong
  split at wrong <;> cases wrong

/-- A run whose signal has a time does not break off before it makes its trade. -/
theorem Run.commit_unbroken {config : Config} {a : Activation} {gate : Gate}
    {signal : Signal Real64} {now : String} {s : Store} {candle : Option Figure} {ending : Ending}
    (time : timeOf gate signal = .ok (some candle))
    (h : commit config a gate signal now s = .error ending) : ¬Broken ending := by
  rintro ⟨points, rfl⟩
  simp only [commit, time] at h
  split at h
  · cases h
  split at h
  · cases h
  split at h
  · cases h
  split at h
  · cases h
  split at h
  · cases h
  · cases h
  · cases h
  rename_i e reserved
  cases h
  simp only [Store.reserve] at reserved
  split at reserved
  · rename_i e unmade
    cases reserved
    exact Reservation.trade_written (timeOf_figure time) unmade
  split at reserved
  · cases reserved
  split at reserved
  · cases reserved
  split at reserved
  · cases reserved
  split at reserved <;> cases reserved

/-- Whether a run that ends so tells of the trade that it made; one that broke off at a torn text
tells of none. -/
def Run.EndsWith (id : Int) (ending : Ending) : Prop := tradeOf ending = some id ∨ Broken ending

/-- What becomes of an order asks for nothing but orders and changes nothing but trades that were
made. -/
theorem Run.place_orders (config : Config) (a : Activation) (signal : Signal Real64)
    (r : Reserved) :
    (place config a signal r).Within (·.method = .post) Desk.Marks (EndsWith r.trade) := by
  refine (place_looks Desk.Marks.refl ?refuses ?fills ?breaks ?trades).mono ?orders
    (fun _ _ marks => marks) fun _ ends => ends
  case refuses => exact fun e _ d => by cases e <;> exact .of_changeTrade d fun _ => rfl
  case fills => exact fun _ _ d => .of_changeTrade d fun _ => rfl
  case breaks => exact fun points => .inr ⟨points, rfl⟩
  case trades => exact fun _ _ => .inl rfl
  case orders => exact fun q order => order.elim (·.1) (·.1)

theorem Run.place_marks (config : Config) (a : Activation) (signal : Signal Real64) (r : Reserved) :
    (place config a signal r).Within (fun _ => True) Desk.Marks (EndsWith r.trade) :=
  (place_orders config a signal r).mono (fun _ _ => trivial) (fun _ _ h => h) fun _ h => h

/-- What a run that has passed its gate changes: it commits itself, and what it made goes on. -/
theorem Run.passed_within {R : Desk → Desk → Prop} (config : Config) (a : Activation) (gate : Gate)
    (given : Option (Signal Real64)) (rests : ∀ d d', d.SameStore d' → R d d')
    (marks : ∀ d d', d.Marks d' → R d d')
    (commits : ∀ signal d, R d (commitOn config a gate signal d).2) :
    ((signalFor config a given).bind (follow config a gate)).Within (fun _ => True) R
      fun _ => True := by
  refine ((signalFor_within config a given).changes rests).bind fun found _ => ?_
  cases found with
  | error ending => exact trivial
  | ok signal =>
    have committed : (Program.atomically (commitOn config a gate signal)).Within (fun _ => True) R
        fun _ => True :=
      .atomically fun d => ⟨commits signal d, trivial⟩
    refine committed.bind fun made _ => ?_
    cases made with
    | error ending => exact trivial
    | ok reserved => exact (place_marks config a signal reserved).changes marks

end SignalDesk
