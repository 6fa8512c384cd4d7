import SignalDesk.Proofs.Json.Depth
import SignalDesk.Proofs.Run.Settlement

namespace SignalDesk

namespace Store

variable {s : Store} {id : Int}

/-- The rows of the trade with a number. -/
def rowsOf (s : Store) (id : Int) : List Trade := s.trades.filter (·.id == id)

theorem rowsOf_changeTrade {p : Trade → Bool} {change : Trade → Trade}
    (keeps : ∀ t, (change t).id = t.id) :
    (s.changeTrade id p change).rowsOf id =
      (s.rowsOf id).map fun t => if p t then change t else t := by
  simp only [rowsOf, changeTrade]
  induction s.trades with
  | nil => rfl
  | cons t trades ih =>
    have kept : (if t.id == id && p t then change t else t).id = t.id := by
      split
      · exact keeps t
      · rfl
    rw [List.map_cons, List.filter_cons, List.filter_cons, kept, ih]
    split
    · rename_i named
      simp [named]
    · rfl

/-- A pending trade becomes what its row is changed to. -/
theorem rowsOf_change {t : Trade} {change : Trade → Trade} (row : s.rowsOf id = [t])
    (pending : t.status = .pending) (keeps : ∀ t, (change t).id = t.id) :
    (s.changeTrade id isPending change).rowsOf id = [change t] := by
  rw [rowsOf_changeTrade keeps, row]
  simp [isPending, pending]

end Store

theorem Reservation.trade_price {r : Reservation} {id : Int} {now : String} {t : Trade}
    (h : r.trade id now = .ok t) : Store.stored? r.entryPrice = some t.entryPrice := by
  simp only [trade, bind_ok, Store.require_ok] at h
  obtain ⟨_, -, _, -, _, -, _, -, _, -, _, -, price, hp, _, -, _, -, h⟩ := h
  split at h
  · cases h
  · obtain rfl := pure_ok.mp h
    exact hp

theorem Reservation.trade_quantity {r : Reservation} {id : Int} {now : String} {t : Trade}
    (h : r.trade id now = .ok t) : t.quantity = r.quantity := by
  simp only [trade, bind_ok, Store.require_ok] at h
  obtain ⟨_, -, _, -, _, -, _, -, _, -, _, -, _, -, _, -, _, -, h⟩ := h
  split at h
  · cases h
  · obtain rfl := pure_ok.mp h
    rfl

/-- A reserved trade has one row, the one of its reservation. -/
theorem Store.reserve_row {s s' : Store} {r : Reservation} {now : String} {id : Int}
    (h : s.reserve r now = .ok (id, s')) :
    ∃ t, s'.rowsOf id = [t] ∧ r.trade id now = .ok t := by
  obtain ⟨t, made, rfl, trades⟩ := Store.reserve_trades h
  have number := (Reservation.trade_ok made).1
  have older : s.trades.filter (·.id == t.id) = [] := by
    apply List.filter_eq_nil_iff.mpr
    intro other old
    have below := lt_nextId (List.mem_map_of_mem (f := (·.id)) old)
    simp only [number, beq_iff_eq]
    omega
  refine ⟨t, ?_, number ▸ made⟩
  rw [rowsOf, trades, List.filter_append, older]
  simp

/-- Whether the rows of a trade stay as they are, once there are any. -/
def Desk.SameRows (id : Int) (d d' : Desk) : Prop :=
  d.store.rowsOf id ≠ [] → d'.store.rowsOf id = d.store.rowsOf id

namespace Desk.SameRows

variable {id : Int} {d d' d'' : Desk}

theorem refl (d : Desk) : d.SameRows id d := fun _ => rfl

theorem trans (h : d.SameRows id d') (h' : d'.SameRows id d'') : d.SameRows id d'' := by
  intro present
  have kept := h present
  exact (h' (by rwa [kept])).trans kept

theorem row {t : Trade} (h : d.SameRows id d') (row : d.store.rowsOf id = [t]) :
    d'.store.rowsOf id = [t] :=
  (h (by simp [row])).trans row

end Desk.SameRows

namespace Run

variable {ν : Type} {around : Surroundings Desk ν} {config : Config} {a : Activation}
  {signal : Signal Real64} {r : Reserved}

/-- The row of a trade whose order failed. -/
def refusedRow (e : OrderError) (message : String) (t : Trade) : Trade :=
  match e with
  | .rateLimited _ => { t with status := .cancelled, error := some message }
  | _ => { t with status := .failed, error := some message }

/-- Whether the row of a trade and the result of its run show the mark that it got. -/
def Shows (t t' : Trade) (result : Run) : Mark → Prop
  | .refused e message =>
    t' = refusedRow e message t ∧ result.outcome = refusedOutcome e ∧ result.reason = .text message
  | .filled order price =>
    t'.status = .opened ∧ t'.order = some order ∧
      t'.entryPrice = (((some price).filter (!·.isZero)).bind Store.stored?).getD t.entryPrice ∧
      result.outcome = .executed

/-- How a run ends whose trade gets a mark, or none, and what is then in the rows of the trade. -/
inductive Concluded (id : Int) (t : Trade) : Except StoreError Mark → Ending → List Trade → Prop where
  | broken (fault : StoreError) : Concluded id t (.error fault) (.error (.store fault)) [t]
  | marked {mark : Mark} {result : Run} {t' : Trade} (number : result.trade = some id)
      (shows : Shows t t' result mark) : Concluded id t (.ok mark) (.ok result) [t']

/-- An order that failed with a message that is whole shows so. -/
theorem Concluded.refused {id : Int} {t : Trade} {e : OrderError} {message : String}
    {ending : Ending} {rows : List Trade} (h : Concluded id t (markFor (.error e)) ending rows)
    (whole : e.message = .whole message) :
    ∃ result, ending = .ok result ∧ rows = [refusedRow e message t] ∧
      result.outcome = refusedOutcome e := by
  rw [markFor_refused.mpr ⟨rfl, whole⟩] at h
  cases h with
  | marked number shows =>
    obtain ⟨rfl, outcome, -⟩ := shows
    exact ⟨_, rfl, rfl, outcome⟩

theorem markRefused_row {t : Trade} {d : Desk} (row : d.store.rowsOf r.trade = [t])
    (pending : t.status = .pending) (e : OrderError) (message : String) :
    (markRefused r.trade e message d).store.rowsOf r.trade = [refusedRow e message t] := by
  cases e <;> exact Store.rowsOf_change row pending fun _ => rfl

theorem markFilled_row {t : Trade} {d : Desk} (row : d.store.rowsOf r.trade = [t])
    (pending : t.status = .pending) (order : String) (price : Real64) :
    (markFilled r order price d).store.rowsOf r.trade =
      [{ t with
          status := .opened
          order := some order
          openedAt := some d.now
          entryPrice := (((some price).filter (!·.isZero)).bind Store.stored?).getD t.entryPrice
          quantity := (some r.order.quantity).or t.quantity }] :=
  Store.rowsOf_change row pending fun _ => rfl

/-- The mark of a pending trade, or the lack of one, shows in its row. -/
theorem conclude_concludes (config : Config) (a : Activation) (signal : Signal Real64)
    (leaves : around.Within (Desk.SameRows r.trade)) {w : Desk × ν} {t : Trade}
    (row : w.1.store.rowsOf r.trade = [t]) (pending : t.status = .pending)
    (mark : Except StoreError Mark) :
    let ended := (conclude config a signal r mark).run around w
    Concluded r.trade t mark ended.1 (ended.2.1.store.rowsOf r.trade) := by
  dsimp only
  cases mark with
  | error fault =>
    obtain ⟨ran, -⟩ := conclude_broken config a signal r around w fault
    rw [ran, row]
    exact .broken fault
  | ok mark =>
    cases mark with
    | refused e message =>
      obtain ⟨ran, -⟩ := conclude_refused config a signal r around w e message
      rw [ran, markRefused_row row pending]
      exact .marked rfl ⟨rfl, rfl, rfl⟩
    | filled order price =>
      have looks := placeProtective_looks (R := Desk.SameRows r.trade) .refl
        (config.exchange r.keys) r.order
      obtain ⟨-, same, -⟩ := looks.run .refl .trans leaves (markFilled r order price w.1, w.2)
      have filled := same.row (markFilled_row row pending order price)
      obtain ⟨ran, -⟩ := conclude_filled config a signal r around w order price
      rw [ran, filled]
      exact .marked rfl ⟨rfl, rfl, rfl, rfl⟩

/-- Placing the order of a pending trade shows in its row what became of the order. -/
theorem place_concludes (config : Config) (a : Activation) (signal : Signal Real64)
    (leaves : around.Within (Desk.SameRows r.trade)) {w : Desk × ν} {t : Trade}
    (row : w.1.store.rowsOf r.trade = [t]) (pending : t.status = .pending)
    {answer : Except OrderError Acknowledgement}
    (answered : ((placeMarket config r).run around w).1 = answer) :
    let ended := (place config a signal r).run around w
    Concluded r.trade t (markFor answer) ended.1 (ended.2.1.store.rowsOf r.trade) := by
  have looks := placeMarket_looks (R := Desk.SameRows r.trade) .refl config r
  obtain ⟨-, kept, -⟩ := looks.run .refl .trans leaves w
  simp only [place, Program.monad_bind_eq, Program.run_bind, answered]
  exact conclude_concludes config a signal leaves (kept.row row) pending _

/-- What a run comes to that goes on to its order. -/
theorem run_placed {flags : Option Flags} {given : Option (Signal Real64)} {gate : Gate}
    {s : Store} {w v : Desk × ν} (gates : passGates a flags w.1.store = .ok gate)
    (found : (signalFor config a given).run around w = (.ok signal, v))
    (committed : commit config a gate signal v.1.now v.1.store = .ok (r, s)) :
    (run config a flags given).run around w =
      (place config a signal r).run around ({ v.1 with store := s }, v.2) := by
  simp only [run_eq, Program.run_bind, Program.run_read, gates, found, follow,
    Program.run_atomically, commitOn_ok committed]

/-- What the row of a trade, `t` before its order and `t'` after it, and the result of its run show
of an answer. -/
structure ShowsAnswer (status : Int) (body : String) (t t' : Trade) (result : Run) : Prop where
  refused : 400 ≤ status → Refusal.IsPlain (Json.readBody body) →
    ∃ message, (Refusal.message? (Json.readBody body)).getD (Refusal.defaultMessage status) =
        .whole message ∧ t'.error = some message ∧ result.reason = .text message ∧
      if Refusal.AsksToWait status (Json.readBody body) then
        t'.status = .cancelled ∧ result.outcome = .deferred
      else t'.status = .failed ∧ result.outcome = .executionFailed
  filled : status < 400 → ∀ order price, Exchange.Acknowledges body order price →
    ∃ id, order = .whole id ∧ t'.status = .opened ∧ result.outcome = .executed ∧
      t'.order = some id ∧
      t'.entryPrice = if price.isZero = true ∨ price = .nan then t.entryPrice else price
  failed : status < 400 → (∀ order price, ¬Exchange.Acknowledges body order price) →
    t'.status = .failed ∧ result.outcome = .executionFailed
  deep : ∀ inObject, Json.readBody body = .error (.tooDeep inObject) →
    t'.status = .failed ∧ result.outcome = .executionFailed ∧
      t'.error = some (ReadFault.tooDeep inObject).message

theorem refusedRow_spec (e : OrderError) (message : String) (t : Trade) :
    (refusedRow e message t).error = some message ∧
      (e.AsksToWait →
        (refusedRow e message t).status = .cancelled ∧ refusedOutcome e = .deferred) ∧
      (¬e.AsksToWait →
        (refusedRow e message t).status = .failed ∧ refusedOutcome e = .executionFailed) := by
  cases e with
  | rateLimited => exact ⟨rfl, fun _ => ⟨rfl, rfl⟩, fun fresh => absurd ⟨_, rfl⟩ fresh⟩
  | _ => exact ⟨rfl, fun ⟨_, wrong⟩ => (nomatch wrong), fun _ => ⟨rfl, rfl⟩⟩

theorem filledPrice_eq (price entry : Real64) :
    (((some price).filter (!·.isZero)).bind Store.stored?).getD entry =
      if price.isZero = true ∨ price = .nan then entry else price := by
  cases zero : price.isZero with
  | true => simp [Option.filter, zero]
  | false => cases price <;> simp_all [Option.filter, Store.stored?]

/-- What is shown of an order that failed. -/
theorem Shows.of_refused {t t' : Trade} {result : Run} {mark : Mark} (h : Shows t t' result mark)
    {e : OrderError} (marked : markFor (.error e) = .ok mark) :
    ∃ message, e.message = .whole message ∧ t' = refusedRow e message t ∧
      result.outcome = refusedOutcome e ∧ result.reason = .text message := by
  cases mark with
  | refused e' message =>
    obtain ⟨same, whole⟩ := markFor_refused.mp marked
    obtain rfl := Except.error.inj same
    exact ⟨message, whole, h⟩
  | filled order price =>
    obtain ⟨a, filled, -⟩ := markFor_filled.mp marked
    cases filled

/-- What is shown of an order that was filled. -/
theorem Shows.of_filled {t t' : Trade} {result : Run} {mark : Mark} (h : Shows t t' result mark)
    {a : Acknowledgement} (marked : markFor (.ok a) = .ok mark) :
    ∃ order, a.order = .whole order ∧ t'.status = .opened ∧ result.outcome = .executed ∧
      t'.order = some order ∧
      t'.entryPrice = if a.price.isZero = true ∨ a.price = .nan then t.entryPrice else a.price := by
  cases mark with
  | refused e message =>
    obtain ⟨failed, -⟩ := markFor_refused.mp marked
    cases failed
  | filled order price =>
    obtain ⟨a', same, whole, rfl⟩ := markFor_filled.mp marked
    obtain rfl := Except.ok.inj same
    obtain ⟨opened, number, entry, executed⟩ := h
    exact ⟨order, whole, opened, executed, number, entry.trans (filledPrice_eq ..)⟩

/-- What an order comes to with an answer, the row and the result show of the answer. -/
theorem Shows.answer {t t' : Trade} {result : Run} {patience : Real64} {o : Order} {status : Int}
    {body : String} {mark : Mark} (numeric : ∃ x, Numeral.real? o.quantity = some x)
    (marked : markFor (Exchange.heard patience o (.answer status body)) = .ok mark)
    (h : Shows t t' result mark) : ShowsAnswer status body t t' result := by
  constructor
  case refused =>
    intro refused plain
    rw [Exchange.heard_refusal refused] at marked
    obtain ⟨message, whole, rfl, outcome, reason⟩ := h.of_refused marked
    obtain ⟨said, asks⟩ := Refusal.ofAnswer_plain status plain
    obtain ⟨error, waits, fails⟩ :=
      refusedRow_spec (Refusal.ofAnswer status (Json.readBody body)) message t
    refine ⟨message, said.symm.trans whole, error, reason, ?_⟩
    rw [asks] at waits fails
    split
    · rename_i waiting
      exact ⟨(waits waiting).1, outcome.trans (waits waiting).2⟩
    · rename_i fresh
      exact ⟨(fails fresh).1, outcome.trans (fails fresh).2⟩
  case filled =>
    intro accepted order price acknowledged
    obtain ⟨a, told, rfl, rfl⟩ := (Exchange.heard_ok_iff patience accepted numeric).mpr acknowledged
    rw [told] at marked
    exact h.of_filled marked
  case failed =>
    intro accepted unacknowledged
    cases told : Exchange.heard patience o (.answer status body) with
    | ok a =>
      exact absurd ((Exchange.heard_ok_iff patience accepted numeric).mp ⟨a, told, rfl, rfl⟩)
        (unacknowledged _ _)
    | error e =>
      rw [told] at marked
      obtain ⟨message, -, rfl, outcome, -⟩ := h.of_refused marked
      obtain ⟨-, -, fails⟩ := refusedRow_spec e message t
      obtain ⟨failed, refused⟩ := fails (Exchange.accepted_asksNot accepted told)
      exact ⟨failed, outcome.trans refused⟩
  case deep =>
    intro inObject read
    rw [Exchange.heard_deep read] at marked
    obtain ⟨message, whole, rfl, outcome, -⟩ := h.of_refused marked
    obtain rfl := Text.whole.inj whole
    exact ⟨rfl, outcome, rfl⟩

/-- The row of a reserved trade and the result of its run show what the order came to. -/
theorem run_concludes (config : Config) (a : Activation) (flags : Option Flags)
    (given : Option (Signal Real64)) (around : Surroundings Desk ν) {gate : Gate}
    {signal : Signal Real64} {r : Reserved} {s : Store} {w v : Desk × ν}
    (gates : passGates a flags w.1.store = .ok gate)
    (found : (signalFor config a given).run around w = (.ok signal, v))
    (committed : commit config a gate signal v.1.now v.1.store = .ok (r, s))
    (timely : config.orderTimeout.le .zero = false)
    (leaves : around.Within (Desk.SameRows r.trade)) {reply : Reply}
    (replied : (around.reply ((config.exchange r.keys).request r.order.market v.1.clock)
      ({ v.1 with store := s }, v.2)).1 = reply) :
    let ended := (run config a flags given).run around w
    ∃ t, s.rowsOf r.trade = [t] ∧ t.status = .pending ∧
      Store.stored? signal.price = some t.entryPrice ∧
      Concluded r.trade t (markFor (Exchange.heard config.orderTimeout r.order reply)) ended.1
        (ended.2.1.store.rowsOf r.trade) := by
  obtain ⟨candle, commits⟩ := commit_commits committed
  obtain ⟨t, row, made⟩ := Store.reserve_row commits.reserve
  have pending := (Reservation.trade_ok made).2.1
  refine ⟨t, row, pending, Reservation.trade_price made, ?_⟩
  rw [run_placed gates found committed]
  apply place_concludes config a signal leaves row pending
  rw [placeMarket_hears around r timely _, replied]

/-- **Rows show what the exchange answered.** Where the order of a reserved trade is answered in
time, and nobody else touches the row of the trade, the row and the result of the run show the
answer: a refusal with its own message, put off where it asks to wait, a fill with its price, and
anything else as a failure. What is too deep to be read is a failure whatever the status is, and an
answer that has a torn text noted leaves the trade pending. -/
theorem run_shows_answer (config : Config) (a : Activation) (flags : Option Flags)
    (given : Option (Signal Real64)) (around : Surroundings Desk ν) {gate : Gate}
    {signal : Signal Real64} {r : Reserved} {s : Store} {w v : Desk × ν}
    (gates : passGates a flags w.1.store = .ok gate)
    (found : (signalFor config a given).run around w = (.ok signal, v))
    (committed : commit config a gate signal v.1.now v.1.store = .ok (r, s))
    (timely : config.orderTimeout.le .zero = false)
    (leaves : around.Within (Desk.SameRows r.trade)) {status : Int} {body : String}
    (answered : (around.reply ((config.exchange r.keys).request r.order.market v.1.clock)
      ({ v.1 with store := s }, v.2)).1 = .answer status body) :
    let ended := (run config a flags given).run around w
    ∃ t, s.rowsOf r.trade = [t] ∧ t.status = .pending ∧
      Store.stored? signal.price = some t.entryPrice ∧
      ((∃ points, Exchange.Tears (.answer status body) points ∧
          ended.1 = .error (.store (.byteless points)) ∧
          ended.2.1.store.rowsOf r.trade = [t]) ∨
        (∀ points, ¬Exchange.Tears (.answer status body) points) ∧
          ∃ result t', ended.1 = .ok result ∧ result.trade = some r.trade ∧
            ended.2.1.store.rowsOf r.trade = [t'] ∧ ShowsAnswer status body t t' result) := by
  intro ended
  obtain ⟨candle, commits⟩ := commit_commits committed
  have numeric : ∃ x, Numeral.real? r.order.quantity = some x := by
    rw [commits.order]
    exact Order.quantityText_reads ..
  obtain ⟨t, row, pending, price, concluded⟩ :=
    run_concludes config a flags given around gates found committed timely leaves answered
  refine ⟨t, row, pending, price, ?_⟩
  simp only [Exchange.tears_iff config.orderTimeout numeric]
  generalize marked : markFor (Exchange.heard config.orderTimeout r.order (.answer status body)) =
    mark at concluded
  change Concluded _ _ _ ended.1 (ended.2.1.store.rowsOf r.trade) at concluded
  generalize ended.1 = ending, ended.2.1.store.rowsOf r.trade = rows at concluded ⊢
  cases concluded with
  | broken fault =>
    obtain ⟨points, half, torn, rfl⟩ := markFor_error.mp marked
    exact .inl ⟨points, ⟨half, torn⟩, rfl, rfl⟩
  | marked number shows =>
    refine .inr ⟨?_, _, _, rfl, number, rfl, shows.answer numeric marked⟩
    rintro points ⟨half, torn⟩
    have broken := markFor_error.mpr ⟨points, half, torn, rfl⟩
    rw [marked] at broken
    cases broken

namespace Sample

theorem replying_reply (status : Int) (body : String) (r : Request) (w : Desk × Unit) :
    ((replying status body).reply r w).1 = .answer status body := rfl

theorem replying_leaves (status : Int) (body : String) (id : Int) :
    (replying status body).Within (Desk.SameRows id) :=
  ⟨fun _ w => .refl w.1, fun w => .refl w.1⟩

/-- The run reserves the first trade. -/
theorem commits : ∃ r s, commit .sample activation ⟨true, none⟩ Sample.signal desk.now desk.store =
    .ok (r, s) ∧ r.trade = 1 := by
  have number : (commit .sample activation ⟨true, none⟩ Sample.signal desk.now
      desk.store).toOption.map (·.1.trade) = some 1 := by
    decide +kernel
  cases committed : commit .sample activation ⟨true, none⟩ Sample.signal desk.now desk.store with
  | error ending =>
    rw [committed] at number
    cases number
  | ok made =>
    rw [committed] at number
    exact ⟨made.1, made.2, rfl, Option.some.inj number⟩

def busy : String := "\x7b\"code\": -1003, \"msg\": \"Too many requests.\"\x7d"

/-- Lists that open in each other more often than they may. -/
def nested : String := String.ofList (List.replicate (Json.maxDepth + 1) '[' ++ [])

end Sample

open Sample in
theorem sample_wait_shown :
    ∃ result t', (ended 400 busy).1 = .ok result ∧ (ended 400 busy).2.1.store.rowsOf 1 = [t'] ∧
      t'.status = .cancelled ∧ t'.error = some "Too many requests." ∧
      result.outcome = .deferred := by
  obtain ⟨r, s, committed, number⟩ := commits
  have gates : passGates activation none desk.store = .ok ⟨true, none⟩ := rfl
  have timely : Config.sample.orderTimeout.le .zero = false := by decide +kernel
  obtain ⟨t, -, -, -, concluded⟩ := run_shows_answer .sample activation none
    (some Sample.signal) (replying 400 busy) (w := (desk, ())) (v := (desk, ())) gates rfl committed
    timely (replying_leaves 400 busy r.trade) (replying_reply ..)
  have waited : (ended 400 busy).1.toOption.map (·.outcome) = some .deferred := by decide +kernel
  have plain : Refusal.IsPlain (Json.readBody busy) := by decide +kernel
  have message : Refusal.message? (Json.readBody busy) = some (.whole "Too many requests.") := by
    decide +kernel
  have waits : Refusal.AsksToWait 400 (Json.readBody busy) := by decide +kernel
  rcases concluded with ⟨points, -, broken, -⟩ | ⟨-, result, t', ok, -, row, shows⟩
  · rw [show (ended 400 busy).1 = _ from broken] at waited
    cases waited
  have refused := shows.refused (Int.le_refl 400) plain
  simp only [message, waits, if_true, Option.getD_some, Text.whole.injEq] at refused
  obtain ⟨_, rfl, error, -, waiting⟩ := refused
  rw [number] at row
  exact ⟨result, t', ok, row, waiting.1, error, waiting.2⟩

open Sample in
/-- A body that is too deep to be read makes a failure even where the status asks to wait. -/
theorem sample_wait_lost :
    (∀ fields, Json.readBody nested ≠ .ok (.object fields)) ∧
      ∃ result t', (ended 429 nested).1 = .ok result ∧
        (ended 429 nested).2.1.store.rowsOf 1 = [t'] ∧ t'.status = .failed ∧
        t'.error ≠ some (Refusal.defaultMessage 429) ∧ result.outcome = .executionFailed := by
  have deep : Json.readBody nested = .error (.tooDeep false) :=
    Json.readBody_nested (Nat.lt_succ_self _) []
  refine ⟨fun fields read => ?_, ?_⟩
  · rw [deep] at read
    cases read
  obtain ⟨r, s, committed, number⟩ := commits
  have gates : passGates activation none desk.store = .ok ⟨true, none⟩ := rfl
  have timely : Config.sample.orderTimeout.le .zero = false := by decide +kernel
  obtain ⟨t, -, -, -, concluded⟩ := run_concludes .sample activation none
    (some Sample.signal) (replying 429 nested) (w := (desk, ())) (v := (desk, ())) gates rfl
    committed timely (replying_leaves 429 nested r.trade) (replying_reply ..)
  rw [Exchange.heard_deep deep, number] at concluded
  have said : (OrderError.tooDeep false).message = .whole (ReadFault.tooDeep false).message := rfl
  have other : (ReadFault.tooDeep false).message ≠ Refusal.defaultMessage 429 := by decide +kernel
  obtain ⟨result, ok, row, outcome⟩ := concluded.refused said
  unfold ended
  exact ⟨result, _, ok, row, rfl, fun same => other (Option.some.inj same), outcome⟩

end Run
end SignalDesk
