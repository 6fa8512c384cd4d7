import SignalDesk.Proofs.Sweep.Dispatch
import SignalDesk.Service.Webhook

namespace SignalDesk
namespace Service

variable {body : Body} {offer : SignalOffer} {k : SignalKey} {id : Int} {now : String}

/-- An offer as it is read off a body. -/
structure Reads (body : Body) (offer : SignalOffer) : Prop where
  script : offer.script = Json.fieldOrNull body "scriptId"
  timeframe : offer.timeframe = Json.fieldOrNull body "timeframe"
  symbol : offer.symbol = .text (Json.fieldOrNull body "symbol").asText.uppered
  side : offer.side.isNone = false
  price : offer.price.isFinite = true
  stopLoss : offer.stopLoss.isFinite = true
  takeProfit : offer.takeProfit.isFinite = true
  time : ∃ n, (Json.fieldOrNull body "candleOpenTime").toInteger = .ok n ∧
    offer.candleTime = .int n

theorem readSignal_ok (h : readSignal body = .ok offer) : Reads body offer := by
  unfold readSignal at h
  split at h
  · cases h
  simp only [bind_ok, mapError_ok] at h
  obtain ⟨side, -, price, -, stopLoss, -, takeProfit, -, time, opened, h⟩ := h
  split at h
  · cases h
  rename_i finite
  split at h
  · cases h
  rename_i side
  cases h
  simp only [Bool.not_eq_true', Bool.not_eq_false, Bool.and_eq_true] at finite
  exact ⟨rfl, rfl, rfl, Bool.eq_false_iff.mpr side, finite.1.1, finite.1.2, finite.2, time, opened,
    rfl⟩

/-- A number that is not read is answered with a refusal, if at all. -/
theorem invalidNumber_status {fault : NumberFault} {a : Answer}
    (h : invalidNumber fault = .ok a) : a.status = 400 := by
  unfold invalidNumber at h
  split at h
  · cases h
  · cases h
    rfl

/-- A body that offers nothing is answered with a refusal, if at all. -/
theorem readSignal_status {a : Answer} (h : readSignal body = .error (.ok a)) : a.status = 400 := by
  have number {α : Type} {x : Except NumberFault α} (h : x.mapError invalidNumber = .error (.ok a)) :
      a.status = 400 := by
    obtain ⟨fault, -, told⟩ := mapError_error.mp h
    exact invalidNumber_status told
  unfold readSignal at h
  split at h
  · cases h
    rfl
  obtain h | ⟨side, -, h⟩ := bind_error.mp h
  · simp only [readDecision] at h
    split at h
    · cases h
    · cases h
      rfl
  obtain h | ⟨price, -, h⟩ := bind_error.mp h
  · exact number h
  obtain h | ⟨stopLoss, -, h⟩ := bind_error.mp h
  · exact number h
  obtain h | ⟨takeProfit, -, h⟩ := bind_error.mp h
  · exact number h
  obtain h | ⟨time, -, h⟩ := bind_error.mp h
  · exact number h
  split at h
  · cases h
    rfl
  split at h
  · cases h
    rfl
  · cases h

/-- A body that offers nothing is not answered as one that is taken in. -/
theorem readSignal_error {reply : Reply} (h : readSignal body = .error reply) (content : Json) :
    reply ≠ ok content := by
  rintro rfl
  have refused : (200 : Int) = 400 := readSignal_status h
  exact absurd refused (by decide)

/-- Whether a body is for the candle of a key. -/
structure HasKey (body : Body) (k : SignalKey) : Prop where
  script : Json.fieldOrNull body "scriptId" = .text k.script
  timeframe : Json.fieldOrNull body "timeframe" = .text k.timeframe
  time : (Json.fieldOrNull body "candleOpenTime").toInteger = .ok k.time

theorem Reads.candleTime (reads : Reads body offer) (key : HasKey body k) :
    offer.candleTime = .int k.time := by
  obtain ⟨n, opened, time⟩ := reads.time
  rw [key.time] at opened
  cases opened
  exact time

/-- The row of an offer is for the key of its body. -/
theorem Reads.row_isFor (reads : Reads body offer) (key : HasKey body k) {row : StoredSignal}
    (h : offer.row? id now = .ok (some row)) : row.IsFor k ∧ fitsWord k.time = true := by
  obtain ⟨-, -, script, timeframe, time⟩ := Store.row_ok h
  rw [reads.script, key.script] at script
  rw [reads.timeframe, key.timeframe] at timeframe
  rw [reads.candleTime key] at time
  have fits : fitsWord k.time = true := by
    by_contra large
    simp only [Store.figure?, Store.bound, large] at time
    cases time
  simp only [Store.figure?, Store.bound, fits, if_true] at time
  constructor
  · constructor
    · exact (Option.some.inj (Except.ok.inj script)).symm
    · exact (Option.some.inj (Except.ok.inj timeframe)).symm
    · exact (Option.some.inj (Except.ok.inj time)).symm
  · exact fits

theorem stored?_of_isFinite {x : Real64} (h : x.isFinite = true) :
    ∃ y, Store.stored? x = some y := by
  cases x with
  | finite x => exact ⟨_, rfl⟩
  | infinite negative => cases h
  | nan => cases h

/-- The symbol of an offer is kept as it is, unless it is torn. -/
theorem Reads.symbol_cell (reads : Reads body offer) :
    (∃ e, Store.cell offer.symbol = .error e) ∨ ∃ s, Store.cell offer.symbol = .ok (some s) := by
  rw [reads.symbol]
  cases (Json.fieldOrNull body "symbol").asText.uppered with
  | whole s => exact .inr ⟨s, rfl⟩
  | torn points half => exact .inl ⟨_, rfl⟩

/-- An offer for a key makes no row when its symbol cannot be kept. -/
theorem Reads.row_error (reads : Reads body offer) (key : HasKey body k) {e : StoreError}
    (unnamed : Store.cell offer.symbol = .error e) (id : Int) (now : String) :
    offer.row? id now = .error e := by
  have script : Store.cell offer.script = .ok (some k.script) := by
    rw [reads.script, key.script]
    rfl
  simp only [SignalOffer.row?, script, unnamed]
  rfl

/-- An offer for a key makes a row. -/
theorem Reads.row_exists (reads : Reads body offer) (key : HasKey body k)
    (fits : fitsWord k.time = true) {symbol : String}
    (named : Store.cell offer.symbol = .ok (some symbol)) (id : Int) (now : String) :
    ∃ row, offer.row? id now = .ok (some row) := by
  have script : Store.cell offer.script = .ok (some k.script) := by
    rw [reads.script, key.script]
    rfl
  have timeframe : Store.cell offer.timeframe = .ok (some k.timeframe) := by
    rw [reads.timeframe, key.timeframe]
    rfl
  have time : Store.figure? offer.candleTime = .ok (some k.candle) := by
    rw [reads.candleTime key]
    simp only [Store.figure?, Store.bound, fits, if_true]
    rfl
  obtain ⟨side, sided⟩ := Option.isSome_iff_exists.mp (by simpa using reads.side)
  obtain ⟨price, priced⟩ := stored?_of_isFinite reads.price
  obtain ⟨stopLoss, stopped⟩ := stored?_of_isFinite reads.stopLoss
  obtain ⟨takeProfit, taken⟩ := stored?_of_isFinite reads.takeProfit
  simp only [SignalOffer.row?, script, timeframe, named, time, sided, priced, stopped, taken]
  exact ⟨_, rfl⟩

/-- The answer to a post for the candle of a kept signal: a duplicate, if the post offers one and its
symbol can be kept. -/
def repeated (body : Body) : Reply :=
  match readSignal body with
  | .error reply => reply
  | .ok offer =>
    match Store.cell offer.symbol with
    | .error e => storeError e
    | .ok _ => ok duplicateForm

/-- The answer to a post that was handed on. -/
def dispatchedForm (id : Int) (results : List Json) : Json :=
  .object [("status", .text "dispatched"), ("signalId", .int id), ("results", .list results)]

theorem duplicate_ne_dispatched (id : Int) (results : List Json) :
    ok duplicateForm ≠ ok (dispatchedForm id results) := by
  simp [ok, duplicateForm, dispatchedForm]

/-- A desk with one more signal. -/
def withSignal (d : Desk) (row : StoredSignal) : Desk :=
  { d with store := { d.store with signals := d.store.signals ++ [row] } }

/-- What becomes of an offer: it is refused, or there was one for its candle, or it is kept. -/
theorem keepSignal_cases (offer : SignalOffer) (d : Desk) :
    (∃ e, keepSignal offer d = (.error e, d)) ∨ keepSignal offer d = (.ok none, d) ∨
      ∃ row, offer.row? (Store.nextId (d.store.signals.map (·.id))) d.now = .ok (some row) ∧
        d.store.Fresh row ∧ keepSignal offer d = (.ok (some row.id), withSignal d row) := by
  unfold keepSignal
  split
  · exact .inl ⟨_, rfl⟩
  · rename_i added
    rcases Store.addSignal_ok added with ⟨rfl, rfl⟩ | ⟨row, made, fresh, rfl, rfl⟩
    · exact .inr (.inl rfl)
    · exact .inr (.inr ⟨row, made, fresh, rfl⟩)

variable (service : Service)

/-- **Posts that are answered as handed on.** Their signal was, whatever others do meanwhile. -/
theorem ingestSignal_amid (key : HasKey body k) {d : Desk} (apart : d.store.SignalsApart) :
    (service.ingestSignal body).Amid Desk.Reaches
      (fun reply d' => ∀ id results, reply = ok (dispatchedForm id results) →
        d'.store.HandedOn k id ∧ fitsWord id = true ∧ fitsWord k.time = true) d := by
  unfold ingestSignal
  cases read : readSignal body with
  | error reply => exact fun _ _ id results told => absurd told (readSignal_error read _)
  | ok offer =>
    intro d₁ reached₁
    replace apart := reached₁.apart apart
    rcases keepSignal_cases offer d₁ with ⟨e, refused⟩ | known |
      ⟨row, made, fresh, kept⟩
    · simp only [refused]
      intro _ _ _ _ told
      cases told
    · simp only [known]
      exact fun _ _ _ _ told => absurd told (duplicate_ne_dispatched _ _)
    · simp only [kept]
      obtain ⟨isFor, fits⟩ := (readSignal_ok read).row_isFor key made
      have keeps : (withSignal d₁ row).store.KeepsSignal k row.id :=
        ⟨row, List.mem_append_right _ List.mem_cons_self, rfl, isFor⟩
      refine (Sweep.dispatch_amid service.config keeps (apart.keep fresh rfl)).bind .refl
        fun results d₂ handed => ?_
      cases results with
      | error e =>
        intro _ _ _ _ told
        cases told
      | ok results =>
        obtain ⟨handed, number⟩ := handed results rfl
        intro d₃ reached₃ id answered told
        have same : row.id = id ∧ results.map Run.form = answered := by
          simpa [ok, dispatchedForm] using told
        obtain ⟨rfl, -⟩ := same
        exact ⟨reached₃.handedOn handed, number, fits⟩

section Answers

variable {ν : Type} (around : Surroundings Desk ν) {w : Desk × ν}

theorem ingestSignal_unread {reply : Reply} (read : readSignal body = .error reply) :
    (service.ingestSignal body).run around w = (reply, w) ∧
      (service.ingestSignal body).requests around w = [] := by
  simp only [ingestSignal, read]
  exact ⟨rfl, rfl⟩

theorem ingestSignal_refused {e : StoreError} (read : readSignal body = .ok offer)
    (refused : keepSignal offer w.1 = (.error e, w.1)) :
    (service.ingestSignal body).run around w = (storeError e, w) ∧
      (service.ingestSignal body).requests around w = [] := by
  simp only [ingestSignal, read, Program.monad_bind_eq, Program.atomically, Program.bind,
    Program.run, Program.requests, refused]
  exact ⟨rfl, rfl⟩

theorem ingestSignal_known (read : readSignal body = .ok offer)
    (known : keepSignal offer w.1 = (.ok none, w.1)) :
    (service.ingestSignal body).run around w = (ok duplicateForm, w) ∧
      (service.ingestSignal body).requests around w = [] := by
  simp only [ingestSignal, read, Program.monad_bind_eq, Program.atomically, Program.bind,
    Program.run, Program.requests, known]
  exact ⟨rfl, rfl⟩

/-- A signal that is new is handed on, and the answer tells how that went. -/
theorem ingestSignal_new {d : Desk} {outcome : Except DeskError (List Run)} {w' : Desk × ν}
    (read : readSignal body = .ok offer) (kept : keepSignal offer w.1 = (.ok (some id), d))
    (ended : (Sweep.dispatch service.config (.int id)).run around (d, w.2) = (outcome, w')) :
    (service.ingestSignal body).run around w =
        (match outcome with
          | .error e => .error (.desk e)
          | .ok results => ok (dispatchedForm id (results.map Run.form)), w') ∧
      (service.ingestSignal body).requests around w =
        (Sweep.dispatch service.config (.int id)).requests around (d, w.2) := by
  simp only [ingestSignal, read, Program.monad_bind_eq, Program.run_bind, Program.requests_bind,
    Program.run_atomically, kept, ended]
  cases outcome with
  | error e => exact ⟨rfl, List.append_nil _⟩
  | ok results => exact ⟨rfl, List.append_nil _⟩

/-- A post for the candle of a kept signal asks nothing and changes nothing. -/
theorem ingestSignal_kept (key : HasKey body k) (fits : fitsWord k.time = true)
    (kept : w.1.store.KeepsSignal k id) :
    (service.ingestSignal body).run around w = (repeated body, w) ∧
      (service.ingestSignal body).requests around w = [] := by
  cases read : readSignal body with
  | error reply =>
    simp only [repeated, read]
    exact service.ingestSignal_unread around read
  | ok offer =>
    have reads := readSignal_ok read
    rcases reads.symbol_cell with ⟨e, unnamed⟩ | ⟨symbol, named⟩
    · have refused := reads.row_error key unnamed (Store.nextId (w.1.store.signals.map (·.id)))
        w.1.now
      simp only [repeated, read, unnamed]
      apply service.ingestSignal_refused around read
      simp only [keepSignal, Store.addSignal, refused, Except.map]
    · obtain ⟨row, made⟩ := reads.row_exists key fits named
        (Store.nextId (w.1.store.signals.map (·.id))) w.1.now
      have known := kept.addSignal (reads.row_isFor key made).1 made
      simp only [repeated, read, named]
      apply service.ingestSignal_known around read
      simp only [keepSignal, known]

end Answers

end Service
end SignalDesk
