import SignalDesk.Proofs.Exchange.Quantity
import SignalDesk.Proofs.Run.Opening

namespace SignalDesk
namespace Run

variable {ν : Type} {around : Surroundings Desk ν} {config : Config} {a : Activation}
  {signal : Signal Real64} {r : Reserved}

/-- Placing an order sends the market order of the reserved trade and legs that protect it. -/
theorem place_asks (config : Config) (a : Activation) (signal : Signal Real64) (r : Reserved) :
    (place config a signal r).Within
      (fun q => (∃ clock, q = (config.exchange r.keys).request r.order.market clock) ∨
        q.IsProtective)
      (fun _ _ => True) fun _ => True := by
  apply ((placeMarket_asks (fun _ => trivial) config r).mono (fun _ order => .inl order)
    (fun _ _ h => h) fun _ h => h).bind
  intro answer _
  exact (conclude_looks (fun _ => trivial) (fun _ _ _ => trivial) (fun _ _ _ => trivial)
    (fun _ _ => trivial) fun _ _ => trivial).mono (fun _ leg => .inr leg) (fun _ _ h => h)
    fun _ h => h

theorem place_market (a : Activation) (signal : Signal Real64) (w : Desk × ν) {q : Request}
    (asked : q ∈ (place config a signal r).requests around w) (market : q.IsMarket) :
    ∃ clock, q = (config.exchange r.keys).request r.order.market clock := by
  obtain ⟨-, asks⟩ := (place_asks config a signal r).ends_asks around w
  rcases asks q asked with order | leg
  · exact order
  · exact absurd market leg.not_isMarket

/-- What a market order says and costs: the quantity of its run, which the row of its trade has, and
a coin of its user, with an entry of the ledger. -/
structure Buys (config : Config) (a : Activation) (signal : Signal Real64) (r : Reserved)
    (s s' : Store) (q : Request) : Prop where
  quantity : q.params.lookup "quantity" = some (.text (quantityOf config a signal))
  reserved : ∃ t, s'.rowsOf r.trade = [t] ∧ t.quantity = some (quantityOf config a signal)
  spent : ∃ user coins, a.user.stored = some user ∧ s.coins? user = some coins ∧
    s'.coins? user = some (.number (coins.amount.plus (-1)))
  paid : ∃ e, s'.ledger = s.ledger ++ [e] ∧ e.action = "trade_debit" ∧ e.trade = some r.trade

theorem Commits.buys {gate : Gate} {now : String} {s s' : Store} {candle : Option Figure}
    (commits : Commits config a gate signal now s candle r s') (clock : Int) :
    Buys config a signal r s s' ((config.exchange r.keys).request r.order.market clock) := by
  constructor
  case quantity =>
    rw [Exchange.lookup_request _ (by decide) (by decide), commits.order]
    rfl
  case reserved =>
    obtain ⟨t, row, made⟩ := Store.reserve_row commits.reserve
    exact ⟨t, row, Reservation.trade_quantity made⟩
  case spent =>
    obtain ⟨t, p, reserves, -, rfl⟩ := Store.reserve_ok commits.reserve
    obtain ⟨-, -, owner, -⟩ := Reservation.trade_ok reserves.made
    refine ⟨t.user, p.coins, owner, by rw [Store.coins?, reserves.profile]; rfl, ?_⟩
    rw [Store.coins?, Store.profile?_charged, reserves.profile]
    simp
  case paid =>
    obtain ⟨t, p, -, number, rfl⟩ := Store.reserve_ok commits.reserve
    rw [number]
    exact ⟨_, rfl, rfl, rfl⟩

/-- **Market orders buy what their quantity says.** Each market order of a run is for the trade that
the run has reserved and paid for, and has the quantity of this trade: zero at a price that is not
above zero, and else, where the quotient of amount and price is finite, a number. This is above zero
just where the quotient is above half of the sixth place. -/
theorem market_orders_buy (config : Config) (a : Activation) (flags : Option Flags)
    (given : Option (Signal Real64)) (around : Surroundings Desk ν) (w : Desk × ν) {q : Request}
    (asked : q ∈ (run config a flags given).requests around w) (market : q.IsMarket) :
    ∃ gate signal v r s, passGates a flags w.1.store = .ok gate ∧
      (signalFor config a given).run around w = (.ok signal, v) ∧
      commit config a gate signal v.1.now v.1.store = .ok (r, s) ∧
      Buys config a signal r v.1.store s q ∧
      (signal.price.le .zero = true → quantityOf config a signal = "0.000000" ∧
        Numeral.Denotes (quantityOf config a signal) 0) ∧
      (signal.price.le .zero = false → ∀ x, (quoteOf config a).div signal.price = .finite x →
        ∃ n, Numeral.Denotes (quantityOf config a signal) n ∧
          (0 < n ↔ 1 / (2 * 10 ^ 6) < x.value)) := by
  have ends : Ends config a flags given around w ((run config a flags given).run around w)
    ((run config a flags given).requests around w) := run_ends ..
  generalize (run config a flags given).run around w = ended,
    (run config a flags given).requests around w = sent at ends asked
  cases ends with
  | gated => cases asked
  | unsignalled gates found =>
    obtain ⟨-, gets⟩ := signalFor_orders_nothing found
    exact absurd (gets q asked) market.ne_get
  | uncommitted gates found =>
    obtain ⟨-, gets⟩ := signalFor_orders_nothing found
    exact absurd (gets q asked) market.ne_get
  | @placed gate signal r s v placed orders gates found committed ran sent =>
    obtain ⟨-, gets⟩ := signalFor_orders_nothing found
    rcases List.mem_append.mp asked with searching | placing
    · exact absurd (gets q searching) market.ne_get
    rw [← sent] at placing
    obtain ⟨clock, rfl⟩ := place_market a signal _ placing market
    obtain ⟨candle, commits⟩ := commit_commits committed
    exact ⟨gate, signal, v, r, s, gates, found, committed, commits.buys clock,
      Order.quantityText_worthless, fun worth x => Order.quantityText_finite worth⟩

namespace Sample

def worthless : Signal Real64 :=
  { Sample.signal with price := .zero, stopLoss := .zero, takeProfit := .zero }

/-- The requests of a run whose order is filled. -/
def sentFor (signal : Signal Real64) : List Request :=
  (run .sample activation none (some signal)).requests (replying 200 filled) (desk, ())

end Sample

open Sample in
theorem sample_tenth_bought :
    ∃ q ∈ sentFor Sample.signal, q.IsMarket ∧ ∃ text n,
      q.params.lookup "quantity" = some (.text text) ∧ Numeral.Denotes text n ∧ 0 < n := by
  have sends : (sentFor Sample.signal).any (fun q => decide q.IsMarket) = true := by
    decide +kernel
  obtain ⟨q, asked, market⟩ := List.any_eq_true.mp sends
  replace market : q.IsMarket := of_decide_eq_true market
  obtain ⟨gate, signal, v, r, s, -, found, -, buys, -, bought⟩ := market_orders_buy .sample
    activation none (some Sample.signal) (replying 200 filled) (desk, ()) asked market
  cases found
  obtain ⟨x, quotient, more⟩ : ∃ x, (quoteOf .sample activation).div Sample.signal.price =
      .finite x ∧ 1 / (2 * 10 ^ 6) < x.value :=
    ⟨⟨false, 7205759403792794, -56⟩, by decide +kernel, by decide +kernel⟩
  obtain ⟨n, denotes, positive⟩ := bought (by decide +kernel) x quotient
  exact ⟨q, asked, market, _, n, buys.quantity, denotes, positive.mpr more⟩

open Sample in
/-- A signal at no price buys nothing, and the coin is paid all the same. -/
theorem sample_nothing_bought :
    let ended := (run .sample activation none (some worthless)).run (replying 200 filled) (desk, ())
    (sentFor worthless).map (fun q => (q.orderType?, q.params.lookup "quantity")) =
        [(some (.text "MARKET"), some (.text "0.000000"))] ∧
      (∀ n, Numeral.Denotes "0.000000" n → ¬0 < n) ∧
      desk.store.coins? "ada" = some (.number (.whole 3)) ∧
      ended.2.1.store.coins? "ada" = some (.number (.whole 2)) := by
  refine ⟨by decide +kernel, ?_, by decide +kernel, by decide +kernel⟩
  intro n denotes
  rw [denotes.unique Order.zeros_denote]
  decide

end Run
end SignalDesk
