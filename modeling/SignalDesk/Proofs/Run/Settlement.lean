import SignalDesk.Proofs.Exchange.Answers
import SignalDesk.Proofs.Run.Commitment

namespace SignalDesk

/-- What a run with an outcome leaves its trade as; the other outcomes come without a trade. -/
def Outcome.tradeStatus? : Outcome → Option TradeStatus
  | executed => some .opened
  | executionFailed => some .failed
  | deferred => some .cancelled
  | _ => none

namespace Store

variable {s s' : Store} {t : Trade} {coins : Int} {e : LedgerEntry}

theorem Booked.fresh_ne (booked : s.Booked t coins e s') {other : Trade} (h : other ∈ s.trades) :
    other.id ≠ t.id := by
  have below : other.id < nextId (s.trades.map (·.id)) := lt_nextId (List.mem_map_of_mem h)
  rw [booked.fresh]
  exact Int.ne_of_lt below

/-- A change of a trade that was just taken into the books changes no other one. -/
theorem Booked.change (booked : s.Booked t coins e s') {p : Trade → Bool} {change : Trade → Trade}
    (holds : p t = true) (keeps : (change t).identity = t.identity) :
    s.Booked (change t) coins e (s'.changeTrade t.id p change) := by
  simp only [Trade.identity, TradeIdentity.mk.injEq] at keeps
  obtain ⟨id, user, script, timeframe, candleTime⟩ := keeps
  have others : s.trades.map (fun x => if x.id == t.id && p x then change x else x) = s.trades := by
    refine (List.map_congr_left fun x hx => ?_).trans (List.map_id _)
    have ne : (x.id == t.id) = false := by simpa using booked.fresh_ne hx
    simp [ne]
  constructor
  case fresh => rw [id, booked.fresh]
  case only => rw [user, script, timeframe, candleTime, booked.only]
  case balance => rw [user, booked.balance]
  case paid => exact booked.paid
  case next => exact booked.next
  case holder => rw [user, booked.holder]
  case before => exact booked.before
  case after => exact booked.after
  case trade => rw [id, booked.trade]
  case store =>
    rw [booked.store, user]
    simp only [changeTrade, List.map_append, List.map_cons, List.map_nil, others]
    simp [holds]

end Store

namespace Request

variable {q : Request}

theorem IsMarket.ne_get (h : q.IsMarket) : q.method ≠ .get := by
  rw [h.1]
  decide

theorem IsProtective.ne_get (h : q.IsProtective) : q.method ≠ .get := by
  rw [h.1]
  decide

theorem IsProtective.not_isMarket (h : q.IsProtective) : ¬q.IsMarket := by
  rintro ⟨-, market⟩
  rcases h.2 with leg | leg <;> rw [leg] at market <;> simp at market

end Request

namespace Run

variable {ν : Type} {around : Surroundings Desk ν} {s : Store} {t : Trade} {coins : Int}
  {e : LedgerEntry}

theorem markRefused_settles {d : Desk} (booked : s.Booked t coins e d.store)
    (pending : t.status = .pending) (err : OrderError) (message : String) :
    ∃ t', t'.identity = t.identity ∧ s.Booked t' coins e (markRefused t.id err message d).store ∧
      (refusedOutcome err).tradeStatus? = some t'.status := by
  have holds : Store.isPending t = true := by simp [Store.isPending, pending]
  cases err with
  | rateLimited =>
    refine ⟨_, ?_, booked.change holds rfl, rfl⟩
    rfl
  | _ =>
    refine ⟨_, ?_, booked.change holds rfl, rfl⟩
    rfl

theorem markFilled_settles {d : Desk} {r : Reserved} (booked : s.Booked t coins e d.store)
    (pending : t.status = .pending) (same : r.trade = t.id) (order : String) (price : Real64) :
    ∃ t', t'.identity = t.identity ∧ s.Booked t' coins e (markFilled r order price d).store ∧
      t'.status = .opened := by
  have holds : Store.isPending t = true := by simp [Store.isPending, pending]
  simp only [markFilled, same]
  refine ⟨_, ?_, booked.change holds rfl, rfl⟩
  rfl

/-- Whether a market order got a reply of some kind in a dialogue. -/
def Answered (P : Reply → Prop) (talk : List (Request × Reply)) : Prop :=
  ∃ q reply, (q, reply) ∈ talk ∧ q.IsMarket ∧ P reply

section Answered

variable {P : Reply → Prop}

/-- Where no market order was sent, none was answered. -/
theorem not_answered {α : Type} {p : Program Desk α} {w : Desk × ν}
    (others : ∀ q ∈ p.requests around w, ¬q.IsMarket) : ¬Answered P (p.dialogue around w) := by
  rintro ⟨q, reply, said, market, -⟩
  apply others q _ market
  rw [← Program.map_fst_dialogue]
  exact List.mem_map_of_mem (f := (·.1)) said

theorem answered_append {talk more : List (Request × Reply)} :
    Answered P (talk ++ more) ↔ Answered P talk ∨ Answered P more := by
  simp only [Answered, List.mem_append, or_and_right, exists_or]

theorem answered_singleton {q : Request} {reply : Reply} (market : q.IsMarket) :
    Answered P [(q, reply)] ↔ P reply := by
  constructor
  · rintro ⟨q', reply', said, -, holds⟩
    obtain ⟨-, rfl⟩ := Prod.mk.inj (List.mem_singleton.mp said)
    exact holds
  · exact fun holds => ⟨q, reply, List.mem_singleton_self _, market, holds⟩

end Answered

section Placing

variable {config : Config} {a : Activation} {signal : Signal Real64} {r : Reserved}

theorem placeMarket_hears (around : Surroundings Desk ν) (r : Reserved)
    (timely : config.orderTimeout.le .zero = false) (w : Desk × ν) :
    let heard := around.reply ((config.exchange r.keys).request r.order.market w.1.clock) w
    (placeMarket config r).run around w =
      (Exchange.heard config.orderTimeout r.order heard.1, heard.2) := by
  simp only [placeMarket, timely, Bool.false_eq_true, if_false]
  rfl

/-- All that is said of a market order is the order and the reply to it, which says what it comes
to. Without time for it nothing is said. -/
theorem placeMarket_talk (config : Config) (r : Reserved) (around : Surroundings Desk ν)
    (w : Desk × ν) :
    let answer := ((placeMarket config r).run around w).1
    let talk := (placeMarket config r).dialogue around w
    talk = [] ∧ answer = .error (.timedOut config.orderTimeout) ∨
      ∃ q reply, q.IsMarket ∧ talk = [(q, reply)] ∧
        answer = Exchange.heard config.orderTimeout r.order reply := by
  cases late : config.orderTimeout.le .zero with
  | true =>
    left
    simp only [placeMarket, late, if_true]
    exact ⟨rfl, rfl⟩
  | false =>
    right
    let q := (config.exchange r.keys).request r.order.market w.1.clock
    have market : q.IsMarket := Exchange.isMarket_request ..
    refine ⟨q, (around.reply q w).1, market, ?_, ?_⟩
    · simp only [placeMarket, late, Bool.false_eq_true, if_false]
      rfl
    · rw [placeMarket_hears around r late w]

/-- There is no mark for an order exactly when the reply to it has a torn text noted. -/
theorem placeMarket_unmarked_iff (config : Config) (around : Surroundings Desk ν)
    (numeric : ∃ x, Numeral.real? r.order.quantity = some x) (w : Desk × ν)
    (points : List Point) :
    markFor ((placeMarket config r).run around w).1 = .error (.byteless points) ↔
      Answered (Exchange.Tears · points) ((placeMarket config r).dialogue around w) := by
  rcases placeMarket_talk config r around w with
    ⟨talk, answer⟩ | ⟨q, reply, market, talk, answer⟩ <;> rw [talk, answer]
  · refine iff_of_false nofun ?_
    rintro ⟨q, reply, said, -⟩
    cases said
  · rw [answered_singleton market, Exchange.tears_iff config.orderTimeout numeric]
    rw [markFor_error]
    constructor
    · rintro ⟨_, half, torn, ⟨⟩⟩
      exact ⟨half, torn⟩
    · rintro ⟨half, torn⟩
      exact ⟨points, half, torn, rfl⟩

end Placing

/-- How a run that ends so, and has sent these requests, leaves a store: as it was, and it has
ordered nothing; with one more trade, booked for one coin and left as the outcome says, after one
market order at most and legs for a filled one only; or, when a text from the exchange is torn, with
the trade booked and pending, and without a leg for it. -/
inductive Settles (a : Activation) (s : Store) (torn : List Point → Prop) (sent : List Request) :
    Ending → Store → Prop where
  | idle {ending : Ending} (untraded : tradeOf ending = none)
      (unordered : ∀ q ∈ sent, q.method ≠ .post) : Settles a s torn sent ending s
  | traded {result : Run} {t : Trade} {coins : Int} {e : LedgerEntry} {s' : Store}
      (number : result.trade = some t.id) (names : a.Names t.user t.script t.timeframe)
      (booked : s.Booked t coins e s') (status : result.outcome.tradeStatus? = some t.status)
      (once : (sent.filter (·.IsMarket)).length ≤ 1)
      (guarded : ∀ q ∈ sent, q.method = .post →
        q.IsMarket ∨ q.IsProtective ∧ result.outcome = .executed)
      (whole : ∀ points, ¬torn points) : Settles a s torn sent (.ok result) s'
  | broken {points : List Point} {t : Trade} {coins : Int} {e : LedgerEntry} {s' : Store}
      (heard : torn points) (names : a.Names t.user t.script t.timeframe)
      (booked : s.Booked t coins e s') (pending : t.status = .pending)
      (once : (sent.filter (·.IsMarket)).length ≤ 1)
      (bare : ∀ q ∈ sent, q.method = .post → q.IsMarket) :
      Settles a s torn sent (.error (.store (.byteless points))) s'

/-- A run that tells of a trade has booked it, and leaves it as its outcome says. -/
theorem Settles.trade {a : Activation} {torn : List Point → Prop} {sent : List Request}
    {ending : Ending} {s' : Store} {id : Int} (h : Settles a s torn sent ending s')
    (told : tradeOf ending = some id) :
    ∃ result t coins e, ending = .ok result ∧ t.id = id ∧ a.Names t.user t.script t.timeframe ∧
      s.Booked t coins e s' ∧ result.outcome.tradeStatus? = some t.status := by
  cases h with
  | idle untraded => cases untraded.symm.trans told
  | broken => cases told
  | @traded result t coins e _ number names booked status =>
    exact ⟨result, t, coins, e, rfl, Option.some.inj (number.symm.trans told), names, booked,
      status⟩

/-- Requests to the market before the order change nothing of how a run settles. -/
theorem Settles.after_gets {a : Activation} {torn torn' : List Point → Prop}
    {gets sent : List Request} {ending : Ending} {s' : Store}
    (h : Settles a s torn sent ending s') (asked : ∀ q ∈ gets, q.method = .get)
    (same : ∀ points, torn' points ↔ torn points) :
    Settles a s torn' (gets ++ sent) ending s' := by
  have market : (gets ++ sent).filter (·.IsMarket) = sent.filter (·.IsMarket) := by
    rw [List.filter_append, List.filter_eq_nil_iff.mpr, List.nil_append]
    intro q hq
    simp [Request.IsMarket, asked q hq]
  have ordered : ∀ q ∈ gets ++ sent, q.method = .post → q ∈ sent := by
    intro q hq post
    refine (List.mem_append.mp hq).resolve_left fun hq => ?_
    rw [asked q hq] at post
    cases post
  cases h with
  | idle untraded unordered =>
    exact .idle untraded fun q hq post => unordered q (ordered q hq post) post
  | traded number names booked status once guarded whole =>
    exact .traded number names booked status (market ▸ once)
      (fun q hq post => guarded q (ordered q hq post) post)
      fun points torn => whole points ((same points).mp torn)
  | broken heard names booked pending once bare =>
    exact .broken ((same _).mpr heard) names booked pending (market ▸ once)
      fun q hq post => bare q (ordered q hq post) post

section Concluding

variable (config : Config) (a : Activation) (signal : Signal Real64) (r : Reserved)
  (around : Surroundings Desk ν) (w : Desk × ν)

theorem conclude_broken (fault : StoreError) :
    let p := conclude config a signal r (.error fault)
    p.run around w = (.error (.store fault), w) ∧ p.requests around w = [] ∧
      p.dialogue around w = [] :=
  ⟨rfl, rfl, rfl⟩

theorem conclude_refused (err : OrderError) (message : String) :
    let p := conclude config a signal r (.ok (.refused err message))
    p.run around w = (.ok (tradedResult a signal r (refusedOutcome err) message),
        (markRefused r.trade err message w.1, w.2)) ∧
      p.requests around w = [] ∧ p.dialogue around w = [] :=
  ⟨rfl, rfl, rfl⟩

/-- A filled order is marked before anything is asked for its legs. -/
theorem conclude_filled (order : String) (price : Real64) :
    let p := conclude config a signal r (.ok (.filled order price))
    let legs := (config.exchange r.keys).placeProtective Desk.clock r.order
    let v := (markFilled r order price w.1, w.2)
    p.run around w = (.ok (tradedResult a signal r .executed
        (filledReason order (legs.run around v).1)), (legs.run around v).2) ∧
      p.requests around w = legs.requests around v ∧
        p.dialogue around w = legs.dialogue around v := by
  simp only [conclude, Program.modify, Program.monad_bind_eq, Program.pure_eq_done, Program.bind,
    Program.run, Program.requests, Program.dialogue, Program.run_bind, Program.requests_bind,
    Program.dialogue_bind, List.append_nil, and_self]

end Concluding

/-- A run that has sent its order settles its trade with the mark that the answer makes. -/
theorem conclude_settles (config : Config) (a : Activation) (signal : Signal Real64) {r : Reserved}
    (leaves : around.Within Desk.SameStore) {w : Desk × ν} (booked : s.Booked t coins e w.1.store)
    (names : a.Names t.user t.script t.timeframe) (pending : t.status = .pending)
    (same : r.trade = t.id) {sent : List Request} (once : sent.length ≤ 1)
    (markets : ∀ q ∈ sent, q.IsMarket) (answer : Except OrderError Acknowledgement) :
    let p := conclude config a signal r (markFor answer)
    Settles a s
      (fun points => markFor answer = .error (.byteless points) ∨
        Answered (Exchange.Tears · points) (p.dialogue around w))
      (sent ++ p.requests around w) (p.run around w).1 (p.run around w).2.1.store := by
  have one : (sent.filter (·.IsMarket)).length ≤ 1 :=
    Nat.le_trans (List.length_filter_le _ _) once
  have named : ∀ {t' : Trade}, t'.identity = t.identity →
      r.trade = t'.id ∧ a.Names t'.user t'.script t'.timeframe := by
    intro t' identity
    simp only [Trade.identity, TradeIdentity.mk.injEq] at identity
    obtain ⟨id, user, script, timeframe, -⟩ := identity
    rw [id, user, script, timeframe]
    exact ⟨same, names⟩
  dsimp only
  cases marked : markFor answer with
  | error fault =>
    obtain ⟨points, half, -, rfl⟩ := markFor_error.mp marked
    obtain ⟨ran, asked, -⟩ := conclude_broken config a signal r around w (.byteless points)
    rw [ran, asked, List.append_nil]
    exact .broken (.inl rfl) names booked pending one fun q hq _ => markets q hq
  | ok mark =>
    cases mark with
    | refused err message =>
      obtain ⟨t', identity, booked, status⟩ := markRefused_settles booked pending err message
      obtain ⟨number, names⟩ := named identity
      obtain ⟨ran, asked, said⟩ := conclude_refused config a signal r around w err message
      rw [ran, asked, said, List.append_nil]
      refine .traded (congrArg some number) names (same ▸ booked) status one
        (fun q hq _ => .inl (markets q hq)) ?_
      rintro points (⟨⟨⟩⟩ | ⟨_, _, ⟨⟩, -⟩)
    | filled order price =>
      obtain ⟨t', identity, booked, opened⟩ :=
        markFilled_settles booked pending same order price
      obtain ⟨number, names⟩ := named identity
      obtain ⟨-, kept, legs⟩ := (placeProtective_within (config.exchange r.keys) r.order).sameStore
        leaves (markFilled r order price w.1, w.2)
      obtain ⟨ran, asked, said⟩ := conclude_filled config a signal r around w order price
      rw [ran, asked, said]
      rw [← kept] at booked
      refine .traded (congrArg some number) names booked (opened ▸ rfl) ?once ?guarded ?whole
      case once =>
        have others := fun q hq => decide_eq_true_iff.not.mpr (legs q hq).not_isMarket
        rw [List.filter_append, List.filter_eq_nil_iff.mpr others, List.append_nil]
        exact one
      case guarded =>
        intro q hq _
        rcases List.mem_append.mp hq with hq | hq
        · exact .inl (markets q hq)
        · exact .inr ⟨legs q hq, rfl⟩
      case whole =>
        rintro points (⟨⟨⟩⟩ | heard)
        exact not_answered (fun q hq => (legs q hq).not_isMarket) heard

/-- A run with a reserved trade leaves it as its outcome says, sends one market order at most, and
protects only a filled one. -/
theorem place_settles (config : Config) (a : Activation) (signal : Signal Real64) {r : Reserved}
    (numeric : ∃ x, Numeral.real? r.order.quantity = some x)
    (leaves : around.Within Desk.SameStore) (w : Desk × ν) (booked : s.Booked t coins e w.1.store)
    (names : a.Names t.user t.script t.timeframe) (pending : t.status = .pending)
    (same : r.trade = t.id) :
    let ended := (place config a signal r).run around w
    Settles a s
      (fun points => Answered (Exchange.Tears · points) ((place config a signal r).dialogue around w))
      ((place config a signal r).requests around w) ended.1 ended.2.1.store := by
  have once := placeMarket_requests config r around w
  have unmarked := placeMarket_unmarked_iff config around numeric w
  obtain ⟨-, kept, markets⟩ := (placeMarket_within config r).sameStore leaves w
  rw [← kept] at booked
  simp only [place, Program.monad_bind_eq, Program.run_bind, Program.requests_bind,
    Program.dialogue_bind, answered_append, ← unmarked]
  exact conclude_settles config a signal leaves booked names pending same once markets _

/-- What is said in a run that goes on to its order: the search for its signal, then the order. -/
theorem dialogue_placed {config : Config} {a : Activation} {signal : Signal Real64} {r : Reserved}
    {flags : Option Flags} {given : Option (Signal Real64)} {gate : Gate} {s : Store}
    {w v : Desk × ν} (gates : passGates a flags w.1.store = .ok gate)
    (found : (signalFor config a given).run around w = (.ok signal, v))
    (committed : commit config a gate signal v.1.now v.1.store = .ok (r, s)) :
    (run config a flags given).dialogue around w =
      (signalFor config a given).dialogue around w ++
        (place config a signal r).dialogue around ({ v.1 with store := s }, v.2) := by
  simp only [run_eq, Program.dialogue_bind, Program.run_read, gates, found, follow,
    Program.run_atomically, commitOn_ok committed]
  rfl

/-- **A run settles.** In surroundings that leave the store alone, a run that makes no trade changes
nothing in the store and sends no order. One that makes a trade takes just this one and its coin
into the books, leaves it as the outcome says, sends one market order at most, and protects only a
filled one; it breaks off, and leaves its trade pending, exactly when the reply to the order has a
torn text noted. -/
theorem run_settles (config : Config) (a : Activation) (flags : Option Flags)
    (signal : Option (Signal Real64)) (leaves : around.Within Desk.SameStore) (w : Desk × ν)
    (range : w.1.store.InRange) :
    let ended := (run config a flags signal).run around w
    Settles a w.1.store
      (fun points => Answered (Exchange.Tears · points)
        ((run config a flags signal).dialogue around w))
      ((run config a flags signal).requests around w) ended.1 ended.2.1.store := by
  intro ended
  have ends : Ends config a flags signal around w ended
    ((run config a flags signal).requests around w) := run_ends ..
  generalize (run config a flags signal).requests around w = sent at ends ⊢
  clear_value ended
  cases ends with
  | gated gates => exact .idle (passGates_noTrade gates) nofun
  | unsignalled gates found =>
    obtain ⟨none, kept, gets⟩ := signalFor_leaves leaves found
    rw [kept]
    exact .idle (none _ rfl) fun q hq => by simp [gets q hq]
  | uncommitted gates found committed =>
    obtain ⟨-, kept, gets⟩ := signalFor_leaves leaves found
    rw [kept]
    exact .idle (commit_noTrade _ _ _ _ _ _ _ committed) fun q hq => by simp [gets q hq]
  | @placed gate acted r s v ended orders gates found committed ran asked =>
    obtain ⟨-, kept, gets⟩ := signalFor_leaves leaves found
    obtain ⟨candle, commits⟩ := commit_commits committed
    have reserved := commits.reserve
    rw [kept] at reserved
    obtain ⟨t, coins, e, booked, made⟩ := Store.reserve_booked range reserved
    obtain ⟨number, pending, user, script, timeframe, -⟩ := Reservation.trade_ok made
    have numeric : ∃ x, Numeral.real? r.order.quantity = some x := by
      rw [commits.order]
      exact Order.quantityText_reads ..
    have settles := place_settles config a acted numeric leaves
      ({ v.1 with store := s }, v.2) booked ⟨user, script, timeframe⟩ pending number.symm
    simp only [ran, asked] at settles
    refine settles.after_gets gets fun points => ?_
    rw [dialogue_placed gates found committed, answered_append]
    exact or_iff_right (not_answered fun q hq market => market.ne_get (gets q hq))

namespace Sample

theorem store_inRange : store.InRange :=
  Store.inRange_of_profiles fun p hp => ⟨3, by rw [List.mem_singleton.mp hp], by decide⟩

def replying (status : Int) (body : String) : Surroundings Desk Unit :=
  ⟨fun _ w => (.answer status body, w), id⟩

def ended (status : Int) (body : String) : Ending × Desk × Unit :=
  (run .sample activation none (some signal)).run (replying status body) (desk, ())

/-- A refusal whose message is half of a surrogate pair. -/
def tornRefusal : String := "\x7b\"code\": -1000, \"msg\": \"\\ud800\"\x7d"

end Sample

open Sample in
theorem unanswered_run_settles :
    ∃ t e, t.status = .failed ∧ t.id = 1 ∧
      store.Booked t 2 e
        ((run .sample activation none (some signal)).run silent (desk, ())).2.1.store := by
  have settles := run_settles .sample activation none (some signal) silent_within (desk, ())
    store_inRange
  have made : tradeOf ((run .sample activation none (some signal)).run silent (desk, ())).1 =
      some 1 := rfl
  have refused : (((run .sample activation none (some signal)).run silent (desk, ())).1.toOption.map
      (·.outcome)) = some .executionFailed := rfl
  obtain ⟨result, t, coins, e, ended, number, names, booked, status⟩ := settles.trade made
  rw [ended] at refused
  have outcome : result.outcome = .executionFailed := Option.some.inj refused
  have ada : "ada" = t.user := Option.some.inj names.user
  have balance : some (Figure.number (.whole 3)) = some (.number (.whole (coins + 1))) := by
    rw [← booked.balance, ← ada]
    rfl
  obtain rfl : coins = 2 := by
    simp only [Option.some.injEq, Figure.number.injEq, Amount.whole.injEq] at balance
    omega
  refine ⟨t, e, ?_, number, booked⟩
  rw [outcome] at status
  exact (Option.some.inj status).symm

open Sample in
theorem torn_refusal_unsettled :
    (ended 400 tornRefusal).1.toOption.isNone = true ∧
      (ended 400 tornRefusal).2.1.store.trades.map (·.status) = [.pending] ∧
        (ended 400 tornRefusal).2.1.store.balance "ada" = .number (.whole 2) := by
  decide +kernel

end Run
end SignalDesk
