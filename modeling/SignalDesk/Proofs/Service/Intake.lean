import SignalDesk.Proofs.Service.Webhook
import SignalDesk.Proofs.Sweep.Isolation

namespace SignalDesk

variable {ν : Type}

namespace Sweep

variable {s : Store} {row : StoredSignal} (config : Config) (around : Surroundings Desk ν)
  {w : Desk × ν} {id : Int}

/-- A new signal calls for the activations of its script and timeframe. -/
theorem targets_fresh (fresh : s.Fresh row) (fits : fitsWord row.id = true) :
    targets (.int row.id) { s with signals := s.signals ++ [row] } =
      ((s.activations? row.script row.timeframe).mapError DeskError.overrides).map
        fun activations => some ⟨row.id, pushedSignal (.int row.id) row, activations⟩ := by
  have found : ({ s with signals := s.signals ++ [row] } : Store).signal? row.id = some row := by
    have others : s.signals.find? (·.id == row.id) = none := by
      apply List.find?_eq_none.mpr
      intro q mem
      have below := Store.lt_nextId (List.mem_map_of_mem (f := (·.id)) mem)
      rw [← fresh.next] at below
      simp only [beq_iff_eq]
      omega
    simp [Store.signal?, List.find?_append, others]
  rw [targets_eq fits, found]
  simp only [fresh.new, Bool.false_eq_true, if_false]
  rfl

theorem dispatch_ok {calls : Option Targets} (found : targets (.int id) w.1.store = .ok calls) :
    ∃ results, ((dispatch config (.int id)).run around w).1 = .ok results := by
  simp only [dispatch, Program.monad_bind_eq, Program.run_bind, Program.run_read, found]
  cases calls with
  | none => exact ⟨[], rfl⟩
  | some t =>
    dsimp only
    rw [Program.run_bind, Program.run_bind]
    exact ⟨_, rfl⟩

theorem dispatch_error {e : DeskError} (found : targets (.int id) w.1.store = .error e) :
    (dispatch config (.int id)).run around w = (.error e, w) ∧
      (dispatch config (.int id)).requests around w = [] := by
  simp only [dispatch, Program.monad_bind_eq, Program.read, Program.bind, Program.run,
    Program.requests, found]
  exact ⟨rfl, rfl⟩

end Sweep

namespace Service

variable (service : Service) (around : Surroundings Desk ν) {body : Body} {offer : SignalOffer}
  {k : SignalKey} {row : StoredSignal} {w : Desk × ν}

/-- Whether a post makes a row. -/
def Offers (body : Body) (d : Desk) (row : StoredSignal) : Prop :=
  ∃ offer, readSignal body = .ok offer ∧
    offer.row? (Store.nextId (d.store.signals.map (·.id))) d.now = .ok (some row)

/-- A row for a candle without a signal is kept. -/
theorem Offers.kept {d : Desk} (offers : Offers body d row) (fresh : d.store.Fresh row) :
    ∃ offer, readSignal body = .ok offer ∧
      keepSignal offer d = (.ok (some row.id), withSignal d row) := by
  obtain ⟨offer, read, made⟩ := offers
  refine ⟨offer, read, ?_⟩
  simp only [keepSignal, Store.addSignal, made, Except.map, fresh.only, Bool.false_eq_true,
    if_false, fresh.next, withSignal]

/-- A post for the candle of a key, without a signal so far, makes a row that is new. -/
theorem offers_new (read : readSignal body = .ok offer) (key : HasKey body k)
    (fits : fitsWord k.time = true) {symbol : String}
    (named : Store.cell offer.symbol = .ok (some symbol)) {d : Desk}
    (new : d.store.signals.any (Store.isSignalFor k.script k.timeframe k.candle) = false) :
    ∃ row, row.IsFor k ∧ Offers body d row ∧ d.store.Fresh row := by
  have reads := readSignal_ok read
  obtain ⟨row, made⟩ := reads.row_exists key fits named
    (Store.nextId (d.store.signals.map (·.id))) d.now
  obtain ⟨isFor, -⟩ := reads.row_isFor key made
  obtain ⟨next, unmarked, -⟩ := Store.row_ok made
  have only : d.store.signals.any
      (Store.isSignalFor row.script row.timeframe row.candleTime) = false := by
    rw [isFor.script, isFor.timeframe, isFor.candle]
    exact new
  exact ⟨row, isFor, ⟨offer, read, made⟩, next, only, unmarked⟩

/-- A signal that is kept is handed on when the activations of its script and timeframe can be
listed. -/
theorem ingestSignal_dispatched (offers : Offers body w.1 row) (fresh : w.1.store.Fresh row)
    (room : fitsWord row.id = true) {as : List Activation}
    (listed : w.1.store.activations? row.script row.timeframe = .ok as) :
    ∃ results, ((service.ingestSignal body).run around w).1 =
      ok (dispatchedForm row.id results) := by
  obtain ⟨offer, read, kept⟩ := offers.kept fresh
  have calls := Sweep.targets_fresh fresh room
  rw [listed] at calls
  obtain ⟨results, ran⟩ := Sweep.dispatch_ok (w := (withSignal w.1 row, w.2)) service.config around
    calls
  refine ⟨results.map Run.form, ?_⟩
  rw [(service.ingestSignal_new around read kept (Prod.ext ran rfl)).1]

/-- A signal that is kept stays where it is when those activations cannot be listed. -/
theorem ingestSignal_stopped (offers : Offers body w.1 row) (fresh : w.1.store.Fresh row)
    (room : fitsWord row.id = true) {fault : OverridesFault}
    (spoilt : w.1.store.activations? row.script row.timeframe = .error fault) :
    (service.ingestSignal body).run around w =
        (.error (.desk (.overrides fault)), (withSignal w.1 row, w.2)) ∧
      (service.ingestSignal body).requests around w = [] := by
  obtain ⟨offer, read, kept⟩ := offers.kept fresh
  have calls := Sweep.targets_fresh fresh room
  rw [spoilt] at calls
  obtain ⟨ran, asked⟩ := Sweep.dispatch_error (w := (withSignal w.1 row, w.2)) service.config around
    calls
  obtain ⟨ended, requests⟩ := service.ingestSignal_new around read kept ran
  exact ⟨ended, requests.trans asked⟩

/-- A post that makes no row that is new changes nothing, and its answer tells so. -/
theorem ingestSignal_unchanged (none : ∀ row, Offers body w.1 row → ¬w.1.store.Fresh row) :
    (∀ id results, ((service.ingestSignal body).run around w).1 ≠ ok (dispatchedForm id results)) ∧
      ((service.ingestSignal body).run around w).2 = w ∧
        (service.ingestSignal body).requests around w = [] := by
  cases read : readSignal body with
  | error reply =>
    obtain ⟨ran, asked⟩ := service.ingestSignal_unread around read
    rw [ran]
    exact ⟨fun _ _ => readSignal_error read _, rfl, asked⟩
  | ok offer =>
    rcases keepSignal_cases offer w.1 with ⟨e, refused⟩ | known | ⟨row, made, fresh, -⟩
    · obtain ⟨ran, asked⟩ := service.ingestSignal_refused around read refused
      rw [ran]
      exact ⟨fun _ _ => nofun, rfl, asked⟩
    · obtain ⟨ran, asked⟩ := service.ingestSignal_known around read known
      rw [ran]
      exact ⟨duplicate_ne_dispatched, rfl, asked⟩
    · exact absurd fresh (none row ⟨offer, read, made⟩)

end Service

/-- **Posts that leave nothing behind.** When there is a number for the signal of a post and the
activations that it is for can be listed, the post is handed on if it makes a row for a candle
without one, whatever happens meanwhile, and otherwise changes nothing and asks nothing. -/
theorem posts_dispatch_or_change_nothing (service : Service) (body : Service.Body)
    (around : Surroundings Desk ν) (w : Desk × ν)
    (room : fitsWord (Store.nextId (w.1.store.signals.map (·.id))) = true)
    (lists : ∀ row, Service.Offers body w.1 row →
      ∃ as, w.1.store.activations? row.script row.timeframe = .ok as) :
    let ended := (service.ingestSignal body).run around w
    let dispatched := ∃ id results, ended.1 = Service.ok (Service.dispatchedForm id results)
    (dispatched ↔ ∃ row, Service.Offers body w.1 row ∧ w.1.store.Fresh row) ∧
      (¬dispatched → ended.2 = w ∧ (service.ingestSignal body).requests around w = []) := by
  intro ended dispatched
  by_cases new : ∃ row, Service.Offers body w.1 row ∧ w.1.store.Fresh row
  · obtain ⟨row, offers, fresh⟩ := new
    obtain ⟨as, listed⟩ := lists row offers
    obtain ⟨results, told⟩ := service.ingestSignal_dispatched around offers fresh
      (fresh.next ▸ room) listed
    have answered : dispatched := ⟨row.id, results, told⟩
    exact ⟨iff_of_true answered ⟨row, offers, fresh⟩, fun other => absurd answered other⟩
  · obtain ⟨other, unchanged⟩ := service.ingestSignal_unchanged around
      fun row offers fresh => new ⟨row, offers, fresh⟩
    have unanswered : ¬dispatched := fun ⟨id, results, told⟩ => other id results told
    exact ⟨iff_of_false unanswered new, fun _ => unchanged⟩

namespace Service.Sample

def service : Service := ⟨.sample, true⟩

def candle : SignalKey := ⟨"cross", "1h", 5⟩

def post : Body :=
  [("scriptId", .text "cross"), ("signalType", .text "buy"), ("symbol", .text "btcusdt"),
    ("timeframe", .text "1h"), ("price", .int 100), ("candleOpenTime", .int 5)]

theorem post_key : HasKey post candle := ⟨rfl, rfl, rfl⟩

theorem post_read : ∃ offer, readSignal post = .ok offer ∧
    Store.cell offer.symbol = .ok (some "BTCUSDT") := by
  have offers : ∃ offer, readSignal post = .ok offer := by
    apply exists_of_isOk
    decide +kernel
  obtain ⟨offer, read⟩ := offers
  refine ⟨offer, read, ?_⟩
  rw [(readSignal_ok read).symbol]
  rfl

theorem post_repeated : repeated post = Service.ok duplicateForm := by
  obtain ⟨offer, read, named⟩ := post_read
  simp only [repeated, read, named]

/-- The desk of a script's user, with a signal that is waiting. -/
def waiting : Desk :=
  withSignal Sweep.Sample.desk ⟨1, "cross", .buy, "BTCUSDT", "1h", .zero, .zero, .zero,
    candle.candle, false, "", none⟩

/-- A document whose limit has no end. -/
def endless : String := "\x7b\"candle_limit\": Infinity\x7d"

/-- The desk of that user and another one, who has such a document. -/
def spoilt : Desk := { Sweep.Sample.desk with store := Sweep.Sample.shared endless }

theorem spoilt_list : ∃ fault, spoilt.store.activations? "cross" "1h" = .error fault := by
  have listed : ∃ row ∈ spoilt.store.activeRows "cross" "1h", row.1.overrides = endless :=
    ⟨_, List.mem_cons_of_mem _ (List.mem_singleton_self _), rfl⟩
  obtain ⟨row, wanted, document⟩ := listed
  have illegible : ∃ fault, Overrides.ofText (some endless) = .error fault := by
    apply exists_of_not_isOk
    decide +kernel
  obtain ⟨fault, unread⟩ := illegible
  rw [← document] at unread
  exact Store.activations?_spoilt wanted unread

end Service.Sample

open Service.Sample in
theorem second_post_unchanged :
    ((service.ingestSignal post).run Sweep.Sample.market (waiting, ())).2 = (waiting, ()) := by
  have settled := posts_dispatch_or_change_nothing service post Sweep.Sample.market (waiting, ())
    rfl fun row _ => Sweep.Sample.desk_reports.legible.activations? row.script row.timeframe
  have keeps : waiting.store.KeepsSignal candle 1 :=
    ⟨_, List.mem_singleton_self _, rfl, rfl, rfl, rfl⟩
  have duplicate := (service.ingestSignal_kept Sweep.Sample.market (w := (waiting, ())) post_key rfl
    keeps).1
  rw [post_repeated] at duplicate
  refine (settled.2 ?_).1
  rintro ⟨id, results, told⟩
  rw [duplicate] at told
  exact Service.duplicate_ne_dispatched id results told

open Service.Sample in
/-- The limit of another user keeps a post from being handed on, and its signal is kept all the
same: the next post for its candle is a duplicate. -/
theorem sample_post_lost :
    let lost := (service.ingestSignal post).run Sweep.Sample.market (spoilt, ())
    (∃ fault, lost.1 = .error (.desk (.overrides fault))) ∧
      spoilt.store.signals = [] ∧ lost.2.1.store.signals.map (·.processed) = [false] ∧
      ((service.ingestSignal post).run Sweep.Sample.market lost.2).1 =
        Service.ok Service.duplicateForm := by
  obtain ⟨offer, read, named⟩ := post_read
  obtain ⟨row, isFor, offers, fresh⟩ := Service.offers_new (d := spoilt) read post_key rfl named rfl
  obtain ⟨fault, spoils⟩ := spoilt_list
  rw [← show row.script = "cross" from isFor.script,
    ← show row.timeframe = "1h" from isFor.timeframe] at spoils
  have stopped := (service.ingestSignal_stopped Sweep.Sample.market (w := (spoilt, ())) offers
    fresh (by rw [fresh.next]; rfl) spoils).1
  have keeps : (Service.withSignal spoilt row).store.KeepsSignal candle row.id :=
    ⟨row, List.mem_singleton_self _, rfl, isFor⟩
  have again := (service.ingestSignal_kept Sweep.Sample.market
    (w := (Service.withSignal spoilt row, ())) post_key rfl keeps).1
  rw [post_repeated] at again
  rw [stopped]
  refine ⟨⟨fault, rfl⟩, rfl, ?_, congrArg Prod.fst again⟩
  exact congrArg (fun processed => [processed]) fresh.new

end SignalDesk
