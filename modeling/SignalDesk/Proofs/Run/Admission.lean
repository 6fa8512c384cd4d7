import SignalDesk.Proofs.Run.Parts
import SignalDesk.Proofs.Store.Coins
import SignalDesk.Proofs.Store.Spending

namespace SignalDesk

/-- The names that rows have for an activation. -/
structure Activation.Names (a : Activation) (user script timeframe : String) : Prop where
  user : a.user.stored = some user
  script : a.script.stored = some script
  timeframe : a.timeframe.stored = some timeframe

/-- A signal to buy or sell, with levels that are numbers, for the candle of a time. -/
structure Signal.Tradable (signal : Signal Real64) (time : Int) : Prop where
  side : signal.side.isSome = true
  price : signal.price ≠ .nan
  stopLoss : signal.stopLoss ≠ .nan
  takeProfit : signal.takeProfit ≠ .nan
  candleTime : signal.candleTime = .int time
  fits : fitsWord time = true

theorem Signal.Tradable.figure {signal : Signal Real64} {time : Int} (h : signal.Tradable time) :
    Store.figure? signal.candleTime = .ok (some (.number (.whole time))) := by
  simp only [h.candleTime, Store.figure?, Store.bound, h.fits, if_true]
  rfl

/-- Whether a gate lets the signals of a time pass: those from before its stamp it does not, and a
stamp that is no time stops all of them. -/
def Gate.LetsPass (g : Gate) (time : Int) : Prop :=
  ∃ started, g.startedMillis = .ok started ∧ ∀ ms, started = some ms → ms ≤ time

/-- Whether the desk admits a trade of a user for the candle of a time. -/
structure Store.Admits (s : Store) (flags : Option Flags) (user script timeframe : String)
    (time : Int) : Prop where
  trading : (flags.getD s.currentFlags).tradingEnabled = true
  subscribed : (flags.getD s.currentFlags).paidMode = true →
    ∃ p, s.profile? user = some p ∧ p.subscription ≠ 0
  gate : ∃ g, s.gate? user script = some g ∧ g.enabled = true ∧ g.LetsPass time
  untraded : s.hasTradeFor user script timeframe (.number (.whole time)) = false
  unprocessed : s.isProcessed script timeframe (.number (.whole time)) = false
  keys : (s.orderKeys? user).isSome = true
  coin : ∃ p, s.profile? user = some p ∧ p.coins.hasCoin = true

namespace Run

variable {config : Config} {a : Activation} {flags : Option Flags} {s : Store} {gate : Gate}
  {signal : Signal Real64} {user script timeframe : String} {time : Int} {now : String}

theorem passGates_iff (names : a.Names user script timeframe) :
    passGates a flags s = .ok gate ↔
      (flags.getD s.currentFlags).tradingEnabled = true ∧
        ((flags.getD s.currentFlags).paidMode = true →
          ∃ p, s.profile? user = some p ∧ p.subscription ≠ 0) ∧
        s.gate? user script = some gate ∧ gate.enabled = true := by
  have gates : gateOf a s = s.gate? user script := by
    simp only [gateOf, names.user, names.script]
    rfl
  have subscribed : (s.profile? user).any (·.subscription != 0) = true ↔
      ∃ p, s.profile? user = some p ∧ p.subscription ≠ 0 := by
    cases s.profile? user <;> simp
  simp only [passGates, names.user, gates, Option.bind_some, ← subscribed]
  generalize (s.profile? user).any (·.subscription != 0) = active
  obtain ⟨trading, paid⟩ := flags.getD s.currentFlags
  cases s.gate? user script with
  | none => cases trading <;> cases paid <;> cases active <;> simp
  | some g =>
    have same : (if g.enabled then .ok g
        else .error (a.result .skippedGated "Bot is disabled" none)) = Except.ok gate ↔
        g = gate ∧ gate.enabled = true := by
      split
      · rename_i enabled
        rw [Except.ok.injEq, and_iff_left_of_imp]
        rintro rfl
        exact enabled
      · rename_i disabled
        constructor
        · rintro ⟨⟩
        · rintro ⟨rfl, enabled⟩
          exact absurd enabled disabled
    cases trading <;> cases paid <;> cases active <;> simp [same]

theorem isStale_eq (tradable : signal.Tradable time) (started : Option Int) :
    isStale signal started = .ok (started.any fun ms => decide (time < ms)) := by
  cases started with
  | none => rfl
  | some ms => simp only [isStale, isBefore, tradable.candleTime, Option.any_some]

/-- A time is in order unless it is before the gate's stamp. -/
theorem timeOf_iff (tradable : signal.Tradable time) {found : Option Figure} :
    timeOf gate signal = .ok (some found) ↔
      found = some (.number (.whole time)) ∧ gate.LetsPass time := by
  have fresh : ∀ started : Option Int, (started.any fun ms => decide (time < ms)) = false ↔
      ∀ ms, started = some ms → ms ≤ time := by
    intro started
    cases started <;> simp
  simp only [timeOf, bind_ok, mapError_ok, isStale_eq tradable, tradable.figure, Gate.LetsPass,
    ← fresh, Except.ok.injEq, exists_eq_left']
  constructor
  · rintro ⟨started, stamp, h⟩
    split at h
    · cases h
    · rename_i past
      cases h
      exact ⟨rfl, started, stamp, Bool.eq_false_iff.mpr past⟩
  · rintro ⟨rfl, started, stamp, past⟩
    refine ⟨started, stamp, ?_⟩
    rw [if_neg (Bool.eq_false_iff.mp past)]
    rfl

theorem reservation_trade (names : a.Names user script timeframe)
    (tradable : signal.Tradable time) (quantity now : String) (id : Int) :
    ∃ t, (reservation a signal quantity).trade id now = .ok t ∧ t.user = user ∧
      t.script = script ∧ t.timeframe = timeframe ∧ t.candleTime = .number (.whole time) := by
  obtain ⟨side, hside⟩ := Option.isSome_iff_exists.mp tradable.side
  refine Reservation.trade_exists names.user names.script rfl names.timeframe ?_ tradable.price
    tradable.stopLoss tradable.takeProfit hside
  exact tradable.figure

theorem isSome_guard (b : Bool) : (guard (b = true) : Option Unit).isSome = b := by
  cases b <;> rfl

theorem hasTrade_eq (names : a.Names user script timeframe) (candle : Figure) :
    hasTrade a (some candle) s = s.hasTradeFor user script timeframe candle := by
  rw [hasTrade, names.user, names.script, names.timeframe]
  exact isSome_guard _

theorem isHandedOn_eq (names : a.Names user script timeframe) (candle : Figure) :
    isHandedOn a (some candle) s = s.isProcessed script timeframe candle := by
  rw [isHandedOn, names.script, names.timeframe]
  exact isSome_guard _

/-- A run with a signal to trade goes on to its order just when the desk has room for its trade. -/
theorem commit_iff (config : Config) (gate : Gate) (now : String)
    (names : a.Names user script timeframe) (tradable : signal.Tradable time)
    (stored : ∀ p, s.profile? user = some p → p.coins.IsStored) :
    (∃ r s', commit config a gate signal now s = .ok (r, s')) ↔
      gate.LetsPass time ∧
        s.hasTradeFor user script timeframe (.number (.whole time)) = false ∧
        s.isProcessed script timeframe (.number (.whole time)) = false ∧
        (s.orderKeys? user).isSome = true ∧
        ∃ p, s.profile? user = some p ∧ p.coins.hasCoin = true := by
  have buying : signal.side.isNone = false := by simp [← Option.not_isSome, tradable.side]
  simp only [commit, buying, Bool.false_eq_true, if_false]
  by_cases past : gate.LetsPass time
  case neg =>
    simp only [past, false_and, iff_false]
    cases found : timeOf gate signal with
    | error e => simp
    | ok time =>
      cases time with
      | none => simp
      | some time => exact absurd (timeOf_iff tradable |>.mp found).2 past
  rw [timeOf_iff tradable |>.mpr ⟨rfl, past⟩]
  simp only [hasTrade_eq names, isHandedOn_eq names, names.user, Option.bind_some, past, true_and]
  split
  · rename_i traded
    simp [traded]
  rename_i untraded
  split
  · rename_i processed
    simp [processed]
  rename_i unprocessed
  simp only [Bool.not_eq_true] at untraded unprocessed
  cases s.orderKeys? user with
  | none => simp
  | some keys =>
    obtain ⟨t, made, rfl, rfl, rfl, candle⟩ := reservation_trade names tradable
      (Order.quantityText (quoteOf config a) signal.price) now (Store.nextId (s.trades.map (·.id)))
    have reserved := Store.reserve_iff made stored
    rw [candle, untraded] at reserved
    simp only [untraded, unprocessed, Option.isSome_some, true_and] at reserved ⊢
    rw [← reserved]
    cases s.reserve (reservation a signal _) now with
    | ok made =>
      obtain ⟨id, s'⟩ := made
      simp
    | error e => cases e <;> simp

/-- Whether the trades stay the ones that were made. -/
def SameMade (d d' : Desk) : Prop := d'.store.made = d.store.made

theorem same_made {d d' : Desk} (h : d.SameStore d') : SameMade d d' := congrArg Store.made h

/-- What becomes of an order makes no trade. -/
theorem place_sameMade (config : Config) (a : Activation) (signal : Signal Real64) (r : Reserved) :
    (place config a signal r).Within (fun _ => True) SameMade fun _ => True := by
  refine (place_looks (R := SameMade) (Q := fun _ => True) (fun _ => rfl) ?refuses ?fills
    (fun _ => trivial) fun _ _ => trivial).changes fun _ _ same => same
  case refuses => exact fun e _ _ => by cases e <;> exact Store.made_changeTrade fun _ => rfl
  case fills => exact fun _ _ _ => Store.made_changeTrade fun _ => rfl

/-- **A run makes a trade just when the desk admits it.** In surroundings that leave the store
alone, a run with a signal to trade, from outside or from its script, adds a trade if and only if
the desk admitted one for the candle when the run began. -/
theorem run_trades_iff {ν : Type} {around : Surroundings Desk ν} (config : Config) (a : Activation)
    (flags : Option Flags) (given : Option (Signal Real64)) (leaves : around.Within Desk.SameStore)
    (w : Desk × ν) (names : a.Names user script timeframe) (tradable : signal.Tradable time)
    (acts : ((signalFor config a given).run around w).1 = .ok signal)
    (stored : ∀ p, w.1.store.profile? user = some p → p.coins.IsStored) :
    (∃ t ∈ ((run config a flags given).run around w).2.1.store.trades,
      t.id ∉ w.1.store.trades.map (·.id)) ↔
      w.1.store.Admits flags user script timeframe time := by
  -- numbers tell new trades: where the store stays as it is, there is none
  have unchanged : ∀ {s : Store}, s = w.1.store →
      ¬∃ t ∈ s.trades, t.id ∉ w.1.store.trades.map (·.id) := by
    rintro _ rfl ⟨t, made, fresh⟩
    exact fresh (List.mem_map_of_mem made)
  have ends := run_ends config a flags given around w
  generalize (run config a flags given).run around w = ended at ends ⊢
  generalize (run config a flags given).requests around w = sent at ends
  cases ends with
  | gated gates =>
    refine iff_of_false (unchanged rfl) fun admits => ?_
    obtain ⟨gate, found, enabled, -⟩ := admits.gate
    have passed := (passGates_iff names).mpr ⟨admits.trading, admits.subscribed, found, enabled⟩
    rw [gates] at passed
    cases passed
  | unsignalled gates found =>
    rw [found] at acts
    cases acts
  | @uncommitted gate _ ending v gates found committed =>
    obtain ⟨-, kept, -⟩ := signalFor_leaves leaves found
    refine iff_of_false (unchanged kept) fun admits => ?_
    rw [found] at acts
    obtain rfl := Except.ok.inj acts
    obtain ⟨g, same, -, past⟩ := admits.gate
    obtain rfl : gate = g :=
      Option.some.inj (((passGates_iff names).mp gates).2.2.1.symm.trans same)
    obtain ⟨r, s', made⟩ := (commit_iff config gate v.1.now names tradable stored).mpr
      ⟨past, admits.untraded, admits.unprocessed, admits.keys, admits.coin⟩
    rw [← kept, committed] at made
    cases made
  | @placed gate acted r s' v ended orders gates found committed ran =>
    obtain ⟨-, kept, -⟩ := signalFor_leaves leaves found
    rw [found] at acts
    obtain rfl := Except.ok.inj acts
    rw [kept] at committed
    obtain ⟨trading, subscribed, opened, enabled⟩ := (passGates_iff names).mp gates
    obtain ⟨past, untraded, unprocessed, keys, coin⟩ :=
      (commit_iff config gate v.1.now names tradable stored).mp ⟨r, s', committed⟩
    refine iff_of_true ?_
      ⟨trading, subscribed, ⟨gate, opened, enabled, past⟩, untraded, unprocessed, keys, coin⟩
    obtain ⟨quantity, reserved⟩ := commit_ok committed
    obtain ⟨k, fresh, made⟩ := Store.reserve_made reserved
    obtain ⟨-, same, -⟩ := (place_sameMade config a acted r).run (fun _ => rfl)
      (fun first second => second.trans first) (leaves.mono same_made)
      ({ v.1 with store := s' }, v.2)
    rw [ran] at same
    have added : k ∈ ended.2.1.store.made := by
      rw [show ended.2.1.store.made = s'.made from same, made]
      exact List.mem_append_right _ (List.mem_singleton.mpr rfl)
    obtain ⟨t, ht, rfl⟩ := List.mem_map.mp added
    exact ⟨t, ht, fun old => Int.lt_irrefl _ (fresh ▸ Store.lt_nextId old)⟩

theorem Sample.admits : Sample.store.Admits none "ada" "cross" "1h" 5 where
  trading := rfl
  subscribed := nofun
  gate := ⟨⟨true, none⟩, rfl, rfl, none, rfl, nofun⟩
  untraded := rfl
  unprocessed := rfl
  keys := rfl
  coin := ⟨_, rfl, rfl⟩

theorem admitted_run_trades :
    ∃ t ∈ ((run .sample Sample.activation none (some Sample.signal)).run Sample.silent
      (Sample.desk, ())).2.1.store.trades, t.id ∉ Sample.store.trades.map (·.id) := by
  have names : Sample.activation.Names "ada" "cross" "1h" := ⟨rfl, rfl, rfl⟩
  have tradable : Sample.signal.Tradable 5 :=
    ⟨rfl, by decide, by decide, by decide, rfl, by decide⟩
  have stored : ∀ p, Sample.store.profile? "ada" = some p → p.coins.IsStored := by
    rintro p ⟨⟩
    exact (by decide : fitsWord 3 = true)
  exact (run_trades_iff .sample Sample.activation none (some Sample.signal) Sample.silent_within
    (Sample.desk, ()) names tradable rfl stored).mpr Sample.admits

end Run
end SignalDesk
