import SignalDesk.Proofs.Run.Replies

namespace SignalDesk

namespace Exchange

/-- Whether a reply acknowledges an order: it is an answer with a status below 400, and its body
acknowledges the order under a number that is whole. -/
def IsAcknowledged (reply : Reply) : Prop :=
  ∃ (status : Int) (body order : String) (price : Real64), reply = .answer status body ∧
    status < 400 ∧ Acknowledges body (.whole order) price

/-- An order goes through with a reply that acknowledges it, and with no other. -/
theorem heard_filled_iff (patience : Real64) {o : Order} {reply : Reply}
    (numeric : ∃ x, Numeral.real? o.quantity = some x) :
    (∃ order price, Run.markFor (heard patience o reply) = .ok (.filled order price)) ↔
      IsAcknowledged reply := by
  simp only [Run.markFor_filled]
  constructor
  · rintro ⟨order, price, a, told, whole, rfl⟩
    cases reply with
    | silence => cases told
    | fault f =>
      simp only [heard, fields] at told
      cases told
    | answer status body =>
      by_cases accepted : status < 400
      · have acknowledged := (heard_ok_iff patience accepted numeric).mp ⟨a, told, whole, rfl⟩
        exact ⟨status, body, order, a.price, rfl, accepted, acknowledged⟩
      · rw [heard_refusal (Int.not_lt.mp accepted)] at told
        cases told
  · rintro ⟨status, body, order, price, rfl, accepted, acknowledged⟩
    obtain ⟨a, told, whole, same⟩ := (heard_ok_iff patience accepted numeric).mpr acknowledged
    exact ⟨order, price, a, told, whole, same⟩

end Exchange

namespace Run

variable {ν : Type} {around : Surroundings Desk ν} {config : Config} {a : Activation}
  {signal : Signal Real64} {r : Reserved}

/-- Whether a market order was acknowledged in a dialogue. -/
def Acknowledged (talk : List (Request × Reply)) : Prop := Answered Exchange.IsAcknowledged talk

/-- The market order goes through exactly when it is acknowledged. -/
theorem placeMarket_filled_iff (config : Config) (around : Surroundings Desk ν)
    (numeric : ∃ x, Numeral.real? r.order.quantity = some x) (w : Desk × ν) :
    (∃ order price, markFor ((placeMarket config r).run around w).1 = .ok (.filled order price)) ↔
      Acknowledged ((placeMarket config r).dialogue around w) := by
  rcases placeMarket_talk config r around w with
    ⟨talk, answer⟩ | ⟨q, reply, market, talk, answer⟩ <;> rw [talk, answer, Acknowledged]
  · refine iff_of_false ?_ ?_
    · rintro ⟨order, price, filled⟩
      cases filled
    · rintro ⟨q, reply, said, -⟩
      cases said
  · rw [answered_singleton market]
    exact Exchange.heard_filled_iff config.orderTimeout numeric

theorem refusedOutcome_ne (e : OrderError) : refusedOutcome e ≠ .executed := by
  cases e <;> exact nofun

/-- Placing an order ends executed exactly when the order was acknowledged, and only then sends
legs that protect it. -/
theorem place_executed_iff (config : Config) (a : Activation) (signal : Signal Real64)
    (around : Surroundings Desk ν) (numeric : ∃ x, Numeral.real? r.order.quantity = some x)
    (w : Desk × ν) :
    let talk := (place config a signal r).dialogue around w
    ((∃ result, ((place config a signal r).run around w).1 = .ok result ∧
      result.outcome = .executed) ↔ Acknowledged talk) ∧
      ∀ q ∈ (place config a signal r).requests around w, q.IsProtective → Acknowledged talk := by
  have goes := placeMarket_filled_iff config around numeric w
  obtain ⟨-, markets⟩ :=
    (placeMarket_looks (R := fun _ _ => True) (fun _ => trivial) config r).ends_asks around w
  simp only [place, Program.monad_bind_eq, Program.run_bind, Program.dialogue_bind,
    Program.requests_bind, Acknowledged, answered_append]
  generalize (placeMarket config r).run around w = answered at goes ⊢
  obtain ⟨answer, v⟩ := answered
  dsimp only at goes ⊢
  have unheard : (∀ order price, markFor answer ≠ .ok (.filled order price)) →
      ¬Answered Exchange.IsAcknowledged ((placeMarket config r).dialogue around w) := by
    intro unfilled heard
    obtain ⟨order, price, filled⟩ := goes.mpr heard
    exact unfilled order price filled
  cases marked : markFor answer with
  | error fault =>
    have unheard := unheard fun order price filled => by rw [marked] at filled; cases filled
    obtain ⟨ran, asked, said⟩ := conclude_broken config a signal r around v fault
    rw [ran, asked, said, List.append_nil]
    refine ⟨iff_of_false ?_ ?_, fun q sent leg => absurd (markets q sent) leg.not_isMarket⟩
    · rintro ⟨_, ⟨⟩, _⟩
    · exact not_or.mpr ⟨unheard, by rintro ⟨_, _, ⟨⟩, _⟩⟩
  | ok mark =>
    cases mark with
    | refused e message =>
      have unheard := unheard fun order price filled => by rw [marked] at filled; cases filled
      obtain ⟨ran, asked, said⟩ := conclude_refused config a signal r around v e message
      rw [ran, asked, said, List.append_nil]
      refine ⟨iff_of_false ?_ ?_, fun q sent leg => absurd (markets q sent) leg.not_isMarket⟩
      · rintro ⟨_, ⟨⟩, executed⟩
        exact refusedOutcome_ne e executed
      · exact not_or.mpr ⟨unheard, by rintro ⟨_, _, ⟨⟩, _⟩⟩
    | filled order price =>
      have heard := goes.mp ⟨order, price, marked⟩
      rw [Acknowledged] at heard
      simp only [heard, true_or, iff_true, implies_true, and_true]
      obtain ⟨ran, -⟩ := conclude_filled config a signal r around v order price
      exact ⟨_, congrArg Prod.fst ran, rfl⟩

theorem Unplaced.notExecuted {ending : Ending} {result : Run} (h : Unplaced a ending)
    (ended : ending = .ok result) : result.outcome ≠ .executed := by
  cases h with
  | fault e => cases ended
  | result other reason signal => exact Except.ok.inj ended ▸ other

/-- The search for a signal ends a run without an order, and sends none. -/
theorem signalFor_orders_nothing {given : Option (Signal Real64)} {w v : Desk × ν}
    {result : Except Ending (Signal Real64)}
    (found : (signalFor config a given).run around w = (result, v)) :
    (∀ ending, result = .error ending → Unplaced a ending) ∧
      ∀ q ∈ (signalFor config a given).requests around w, q.method = .get := by
  have bounds := (signalFor_within config a given).ends_asks around w
  rwa [found] at bounds

/-- An order is shown as filled in the row of its trade just where the run is reported executed. -/
theorem Shows.opened_iff {t t' : Trade} {result : Run} {mark : Mark} (shows : Shows t t' result mark) :
    t'.status = .opened ↔ result.outcome = .executed := by
  cases mark with
  | refused e message =>
    obtain ⟨rfl, outcome, -⟩ := shows
    apply iff_of_false
    · cases e <;> exact nofun
    · rw [outcome]
      exact refusedOutcome_ne e
  | filled order price =>
    obtain ⟨opened, -, -, executed⟩ := shows
    exact iff_of_true opened executed

/-- A run that is concluded has opened its trade just where it is reported executed. -/
theorem Concluded.opened_iff {id : Int} {t : Trade} {mark : Except StoreError Mark}
    {ending : Ending} {s : Store} (h : Concluded id t mark ending (s.rowsOf id)) :
    (∃ result id t, ending = .ok result ∧ result.trade = some id ∧ s.rowsOf id = [t] ∧
      t.status = .opened) ↔ ∃ result, ending = .ok result ∧ result.outcome = .executed := by
  generalize rows : s.rowsOf id = after at h
  cases h with
  | broken fault =>
    apply iff_of_false
    · rintro ⟨_, _, _, ⟨⟩, -⟩
    · rintro ⟨_, ⟨⟩, -⟩
  | marked number shows =>
    constructor
    · rintro ⟨_, id', t'', ⟨⟩, traded, found, opened⟩
      obtain rfl := Option.some.inj (number.symm.trans traded)
      rw [rows, List.cons.injEq] at found
      exact ⟨_, rfl, shows.opened_iff.mp (found.1 ▸ opened)⟩
    · rintro ⟨_, ⟨⟩, executed⟩
      exact ⟨_, id, _, rfl, number, rows, shows.opened_iff.mpr executed⟩

/-- Whether a run that ended so, and has sent these requests, has opened and protected its trade
just where its order was acknowledged. -/
structure OpensWhen (acknowledged : Prop) (ended : Ending × Desk × ν) (sent : List Request) :
    Prop where
  executed : (∃ result, ended.1 = .ok result ∧ result.outcome = .executed) ↔ acknowledged
  opened : (∃ result id t, ended.1 = .ok result ∧ result.trade = some id ∧
    ended.2.1.store.rowsOf id = [t] ∧ t.status = .opened) ↔ acknowledged
  guarded : ∀ q ∈ sent, q.IsProtective → acknowledged

/-- A run that only asked for candles has opened no trade. -/
theorem opensWhen_idle {acknowledged : Prop} {ended : Ending × Desk × ν} {sent : List Request}
    (unheard : ¬acknowledged) (unplaced : Unplaced a ended.1)
    (gets : ∀ q ∈ sent, q.method = .get) :
    OpensWhen acknowledged ended sent := by
  constructor
  case executed =>
    apply iff_of_false _ unheard
    rintro ⟨result, ok, executed⟩
    exact unplaced.notExecuted ok executed
  case opened =>
    apply iff_of_false _ unheard
    rintro ⟨result, id, t, ok, traded, -⟩
    have untraded := unplaced.noTrade
    rw [ok, tradeOf, traded] at untraded
    cases untraded
  case guarded =>
    intro q asked leg
    exact absurd (gets q asked) leg.ne_get

/-- Placing the order of a reserved trade opens it when the order is acknowledged. -/
theorem place_opensWhen (config : Config) (a : Activation) (signal : Signal Real64)
    (numeric : ∃ x, Numeral.real? r.order.quantity = some x)
    (leaves : around.Within (Desk.SameRows r.trade)) {w : Desk × ν} {t : Trade}
    (row : w.1.store.rowsOf r.trade = [t]) (pending : t.status = .pending) :
    OpensWhen (Acknowledged ((place config a signal r).dialogue around w))
      ((place config a signal r).run around w) ((place config a signal r).requests around w) := by
  obtain ⟨executed, legs⟩ := place_executed_iff config a signal around numeric w
  exact ⟨executed, (place_concludes config a signal leaves row pending rfl).opened_iff.trans
    executed, legs⟩

/-- **Acknowledgements open trades.** Where nobody else touches the rows of trades, a run ends
executed, and its trade is open, exactly when its market order was acknowledged; orders that protect
a trade are sent after an acknowledgement only. -/
theorem run_opens_iff (config : Config) (a : Activation) (flags : Option Flags)
    (given : Option (Signal Real64)) (around : Surroundings Desk ν)
    (leaves : ∀ id, around.Within (Desk.SameRows id)) (w : Desk × ν) :
    OpensWhen (Acknowledged ((run config a flags given).dialogue around w))
      ((run config a flags given).run around w) ((run config a flags given).requests around w) := by
  have unheard : (∀ q ∈ (run config a flags given).requests around w, q.method = .get) →
      ¬Acknowledged ((run config a flags given).dialogue around w) := by
    intro gets
    apply not_answered
    intro q asked market
    exact market.ne_get (gets q asked)
  generalize heard : (run config a flags given).dialogue around w = talk at unheard ⊢
  have ends : Ends config a flags given around w ((run config a flags given).run around w)
    ((run config a flags given).requests around w) := run_ends ..
  generalize (run config a flags given).run around w = ended,
    (run config a flags given).requests around w = sent at ends unheard ⊢
  cases ends with
  | gated gates => exact opensWhen_idle (unheard nofun) (passGates_unplaced gates) nofun
  | unsignalled gates found =>
    obtain ⟨unplaced, gets⟩ := signalFor_orders_nothing found
    exact opensWhen_idle (unheard gets) (unplaced _ rfl) gets
  | uncommitted gates found committed =>
    obtain ⟨-, gets⟩ := signalFor_orders_nothing found
    exact opensWhen_idle (unheard gets) (commit_unplaced committed) gets
  | @placed gate signal r s v ended orders gates found committed ran asked =>
    obtain ⟨-, gets⟩ := signalFor_orders_nothing found
    obtain ⟨candle, commits⟩ := commit_commits committed
    have numeric : ∃ x, Numeral.real? r.order.quantity = some x := by
      rw [commits.order]
      exact Order.quantityText_reads ..
    have searching : ¬Acknowledged ((signalFor config a given).dialogue around w) := by
      apply not_answered
      intro q asked market
      exact market.ne_get (gets q asked)
    obtain ⟨t, row, made⟩ := Store.reserve_row commits.reserve
    have pending := (Reservation.trade_ok made).2.1
    have opens := place_opensWhen config a signal numeric (leaves r.trade)
      (w := ({ v.1 with store := s }, v.2)) row pending
    rw [ran, asked] at opens
    have said : Acknowledged talk ↔ Acknowledged
        ((place config a signal r).dialogue around ({ v.1 with store := s }, v.2)) := by
      rw [← heard, dialogue_placed gates found committed, Acknowledged, answered_append]
      exact or_iff_right searching
    rw [said]
    refine ⟨opens.executed, opens.opened, ?_⟩
    intro q sent leg
    rcases List.mem_append.mp sent with search | placing
    · exact absurd (gets q search) leg.ne_get
    · exact opens.guarded q placing leg

namespace Sample

def filled : String :=
  "\x7b\"orderId\": 7, \"fills\": [\x7b\"price\": \"101.5\"\x7d], \"executedQty\": \"0.1\"\x7d"

end Sample

open Sample in
theorem sample_filled_opens :
    ∃ result id t, (ended 200 filled).1 = .ok result ∧ result.trade = some id ∧
      (ended 200 filled).2.1.store.rowsOf id = [t] ∧ t.status = .opened := by
  have opens := run_opens_iff .sample activation none (some Sample.signal) (replying 200 filled)
    (replying_leaves 200 filled) (desk, ())
  have outcome : (ended 200 filled).1.toOption.map (·.outcome) = some .executed := by
    decide +kernel
  have executed : ∃ result, (ended 200 filled).1 = .ok result ∧ result.outcome = .executed := by
    cases ran : (ended 200 filled).1 with
    | error e =>
      rw [ran] at outcome
      cases outcome
    | ok result =>
      rw [ran] at outcome
      exact ⟨result, rfl, Option.some.inj outcome⟩
  exact opens.opened.mpr (opens.executed.mp executed)

open Sample in
/-- A status that says to look elsewhere opens the trade as well. -/
theorem sample_redirect_opens :
    let sent := (run .sample activation none (some Sample.signal)).requests
      (replying 302 filled) (desk, ())
    (ended 302 filled).1.toOption.map (·.outcome) = some .executed ∧
      ((ended 302 filled).2.1.store.rowsOf 1).map (·.status) = [.opened] ∧
      sent.map (·.orderType?) =
        ["MARKET", "STOP_LOSS_LIMIT", "TAKE_PROFIT_LIMIT"].map fun type => some (.text type) := by
  decide +kernel

end Run
end SignalDesk
