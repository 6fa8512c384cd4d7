import SignalDesk.Proofs.Market.Fallback
import SignalDesk.Proofs.Number.Comparison
import SignalDesk.Proofs.Results

namespace SignalDesk

namespace Real64

variable {a b x : Real64}

/-- What is below the larger of two numbers is below one of them. -/
theorem lt_larger (number : a.isNan = false) :
    x.lt (if a.lt b then b else a) = true ↔ x.lt a = true ∨ x.lt b = true := by
  simp only [lt_iff_place]
  split
  · rename_i above
    obtain ⟨-, other, above⟩ := above
    constructor
    · exact .inr
    · rintro (⟨numeric, -, below⟩ | below)
      · exact ⟨numeric, other, below.trans above⟩
      · exact below
  · rename_i above
    constructor
    · exact .inl
    · rintro (below | ⟨numeric, other, below⟩)
      · exact below
      · refine ⟨numeric, number, ?_⟩
        apply below.trans_le
        apply not_lt.mp
        intro larger
        exact above ⟨number, other, larger⟩

/-- What is above the smaller of two numbers is above one of them. -/
theorem smaller_lt (number : a.isNan = false) :
    (if b.lt a then b else a).lt x = true ↔ a.lt x = true ∨ b.lt x = true := by
  simp only [lt_iff_place]
  split
  · rename_i below
    obtain ⟨other, -, below⟩ := below
    constructor
    · exact .inr
    · rintro (⟨-, numeric, above⟩ | above)
      · exact ⟨other, numeric, below.trans above⟩
      · exact above
  · rename_i below
    constructor
    · exact .inl
    · rintro (above | ⟨other, numeric, above⟩)
      · exact above
      · refine ⟨number, numeric, ?_⟩
        refine lt_of_le_of_lt ?_ above
        apply not_lt.mp
        intro smaller
        exact below ⟨other, number, smaller⟩

end Real64

namespace Candle

variable (c : Candle Real64)

/-- Whether the low is not above, and the high not below, the open and the close. -/
def Brackets : Prop :=
  (c.low.le c.openPrice = true ∧ c.low.le c.close = true) ∧
    c.openPrice.le c.high = true ∧ c.close.le c.high = true

/-- Whether none of the four prices is a NaN. -/
def IsNumeric : Prop :=
  c.openPrice.isNan = false ∧ c.high.isNan = false ∧ c.low.isNan = false ∧ c.close.isNan = false

/-- Whether neither the open nor the close is out of bounds. Where the open is a NaN, it counts as
the larger and the smaller of the two, and is out of no bounds. -/
def KeepsOrder : Prop :=
  c.openPrice.isNan = true ∨
    (c.high.lt c.openPrice = false ∧ c.high.lt c.close = false) ∧
      c.openPrice.lt c.low = false ∧ c.close.lt c.low = false

variable {c}

theorem Brackets.isNumeric (h : c.Brackets) : c.IsNumeric := by
  simp only [Brackets, Real64.le_iff_place] at h
  obtain ⟨⟨⟨low, opened, -⟩, -, closed, -⟩, ⟨-, high, -⟩, -⟩ := h
  exact ⟨opened, high, low, closed⟩

/-- Numbers in order are in their bounds. -/
theorem KeepsOrder.brackets (h : c.KeepsOrder) (numeric : c.IsNumeric) : c.Brackets := by
  obtain ⟨opened, high, low, closed⟩ := numeric
  rcases h with missing | ⟨⟨openHigh, closeHigh⟩, openLow, closeLow⟩
  · rw [opened] at missing
    cases missing
  · constructor
    · rw [Real64.le_eq_not_lt low opened, Real64.le_eq_not_lt low closed, openLow, closeLow]
      exact ⟨rfl, rfl⟩
    · rw [Real64.le_eq_not_lt opened high, Real64.le_eq_not_lt closed high, openHigh, closeHigh]
      exact ⟨rfl, rfl⟩

end Candle

namespace Payload

/-- The check passes what keeps its order. -/
theorem isConsistent_iff (c : Candle Real64) : isConsistent c = true ↔ c.KeepsOrder := by
  have passes : isConsistent c = true ↔
      ¬c.high.lt (if c.openPrice.lt c.close then c.close else c.openPrice) = true ∧
        ¬(if c.close.lt c.openPrice then c.close else c.openPrice).lt c.low = true := by
    simp only [isConsistent, Bool.not_eq_true', Bool.or_eq_false_iff, Bool.not_eq_true]
  rw [passes, Candle.KeepsOrder]
  cases number : c.openPrice.isNan with
  | true =>
    have missing : c.openPrice = .nan := by
      generalize c.openPrice = price at number
      cases price <;> first | rfl | cases number
    simp only [true_or, iff_true, missing]
    constructor <;> cases c.close <;> cases c.high <;> cases c.low <;> simp [Real64.lt]
  | false =>
    rw [Real64.lt_larger number, Real64.smaller_lt number]
    simp only [not_or, Bool.not_eq_true, Bool.false_eq_true, false_or]

/-- Whether the entries of a row tell of a candle, in order or not. -/
structure Tells (row : List Json) (c : Candle Real64) : Prop where
  openTime : (entry row 0).bind integer = .ok c.openTime
  openPrice : (entry row 1).bind real = .ok c.openPrice
  high : (entry row 2).bind real = .ok c.high
  low : (entry row 3).bind real = .ok c.low
  close : (entry row 4).bind real = .ok c.close
  volume : (entry row 5).bind real = .ok c.volume
  closeTime : (match row[6]? with | some v => integer v | none => .ok 0) = .ok c.closeTime

/-- A candle that was read is accepted when it keeps its order. -/
theorem checked_ok {c c' : Candle Real64} :
    (if isConsistent c then .ok c else .error (.inconsistent c.openTime) : Read (Candle Real64)) =
      .ok c' ↔ c.KeepsOrder ∧ c = c' := by
  rw [← isConsistent_iff]
  split
  · rename_i consistent
    simp only [Except.ok.injEq, consistent, true_and]
  · rename_i inconsistent
    simp [inconsistent]

/-- A row is accepted when it tells of a candle that keeps its order. -/
theorem candle_ok {row : Json} {c : Candle Real64} :
    candle row = .ok c ↔ ∃ items, entries row = .ok items ∧ Tells items c ∧ c.KeepsOrder := by
  constructor
  · intro accepted
    obtain ⟨items, opened, accepted⟩ := bind_ok.mp accepted
    obtain ⟨openTime, h0, accepted⟩ := bind_ok.mp accepted
    obtain ⟨openPrice, h1, accepted⟩ := bind_ok.mp accepted
    obtain ⟨high, h2, accepted⟩ := bind_ok.mp accepted
    obtain ⟨low, h3, accepted⟩ := bind_ok.mp accepted
    obtain ⟨close, h4, accepted⟩ := bind_ok.mp accepted
    obtain ⟨volume, h5, accepted⟩ := bind_ok.mp accepted
    cases last : items[6]? with
    | some v =>
      simp only [last] at accepted
      obtain ⟨closeTime, h6, accepted⟩ := bind_ok.mp accepted
      obtain ⟨order, rfl⟩ := checked_ok.mp accepted
      exact ⟨items, opened, ⟨h0, h1, h2, h3, h4, h5, by rwa [last]⟩, order⟩
    | none =>
      simp only [last] at accepted
      obtain ⟨closeTime, h6, accepted⟩ := bind_ok.mp accepted
      obtain ⟨order, rfl⟩ := checked_ok.mp accepted
      exact ⟨items, opened, ⟨h0, h1, h2, h3, h4, h5, by rwa [last]⟩, order⟩
  · rintro ⟨items, opened, tells, order⟩
    have checked := checked_ok.mpr ⟨order, rfl⟩
    have closing := tells.closeTime
    simp only [candle, opened, ok_bind, tells.openTime, tells.openPrice, tells.high, tells.low,
      tells.close, tells.volume]
    cases last : items[6]? with
    | some v =>
      rw [last] at closing
      simp only [closing, ok_bind, checked]
    | none =>
      rw [last] at closing
      have same := Except.ok.inj closing
      simp only [same, checked]

/-- A document is accepted when it is a list of rows that are. -/
theorem candles_ok {doc : Json} {cs : List (Candle Real64)} :
    candles doc = .ok cs ↔
      ∃ rows, doc = .list rows ∧ List.Forall₂ (fun row c => candle row = .ok c) rows cs := by
  constructor
  · intro accepted
    cases doc with
    | list rows => exact ⟨rows, rfl, mapM_ok accepted⟩
    | _ => cases accepted
  · rintro ⟨rows, rfl, each⟩
    exact mapM_of_forall₂ each

end Payload

/-- Candles are read from an answer of a good status whose document is a list of rows that tell of
them, and from nothing else. -/
theorem Reply.readsAs_candles {reply : Reply} {cs : List (Candle Real64)} :
    reply.ReadsAs Payload.candles cs ↔
      ∃ status body rows, reply = .answer status body ∧ 200 ≤ status ∧ status < 300 ∧
        Json.readBody body = .ok (.list rows) ∧
        List.Forall₂ (fun row c => Payload.candle row = .ok c) rows cs := by
  constructor
  · rintro ⟨status, body, rfl, low, high, read⟩
    obtain ⟨doc, opened, accepted⟩ := bind_ok.mp read
    obtain ⟨rows, rfl, each⟩ := Payload.candles_ok.mp accepted
    exact ⟨status, body, rows, rfl, low, high, mapError_ok.mp opened, each⟩
  · rintro ⟨status, body, rows, rfl, low, high, opened, each⟩
    refine ⟨status, body, rfl, low, high, ?_⟩
    apply bind_ok.mpr
    exact ⟨_, mapError_ok.mpr opened, Payload.candles_ok.mpr ⟨rows, rfl, each⟩⟩

namespace Market

variable {σ ν : Type}

/-- Candles that a fetch ends with are those of a reply that was asked for. -/
theorem get_ok {α : Type} (m : Market) (around : Surroundings σ ν) (w : σ × ν) (path : String)
    (params : List (String × ParamValue)) (parse : Json → Payload.Read α) {a : α}
    (ended : ((m.get path params parse).run around w).1 = .ok a) :
    ∃ reply ∈ around.replies (m.hosts.map (m.requestTo path params)) w, reply.ReadsAs parse a := by
  rcases Hosts.askFrom_run (m.requestTo path params) parse around [] m.hosts w with
    ⟨skipped, reply, after, split, -, -, ⟨a', reads, found⟩ | ⟨e, -, broken⟩⟩ |
    ⟨-, failures, -, told, -⟩
  · obtain rfl := Except.ok.inj (found.symm.trans ended)
    exact ⟨reply, by simp [split], reads⟩
  · cases broken.symm.trans ended
  · cases told.symm.trans ended

/-- **Fetched candles are in order.** The candles that a fetch ends with are those that the rows of
an accepted answer tell of. Each of them keeps its order, and its low and its high stand around its
open and its close exactly when none of the four is a NaN. -/
theorem fetched_candles_bracket (m : Market) (around : Surroundings σ ν) (w : σ × ν)
    (symbol : String) (timeframe : Label) (limit : Int) {candles : List (Candle Real64)}
    (fetched : ((m.fetchCandles symbol timeframe limit).run around w).1 = .ok candles) :
    (∀ c ∈ candles, c.KeepsOrder ∧ (c.Brackets ↔ c.IsNumeric)) ∧
      ∃ status body rows, 200 ≤ status ∧ status < 300 ∧
        .answer status body ∈ around.replies (m.candleRequests symbol timeframe limit) w ∧
        Json.readBody body = .ok (.list rows) ∧
        List.Forall₂ (fun row c => ∃ items, Payload.entries row = .ok items ∧ Payload.Tells items c)
          rows candles := by
  obtain ⟨reply, heard, reads⟩ := m.get_ok around w _ _ _ fetched
  obtain ⟨status, body, rows, rfl, low, high, opened, each⟩ := Reply.readsAs_candles.mp reads
  constructor
  · intro c member
    obtain ⟨row, -, told⟩ := exists_of_forall₂ each c member
    obtain ⟨items, -, -, order⟩ := Payload.candle_ok.mp told
    exact ⟨order, Candle.Brackets.isNumeric, order.brackets⟩
  · refine ⟨status, body, rows, low, high, heard, opened, ?_⟩
    apply each.imp
    intro row c told
    obtain ⟨items, opened, tells, -⟩ := Payload.candle_ok.mp told
    exact ⟨items, opened, tells⟩

namespace Sample

def answering (body : String) : Surroundings Unit Unit where
  reply _ w := (.answer 200 body, w)
  second := id

def fetched (body : String) : Except FetchError (List (Candle Real64)) :=
  ((twoHosts.fetchCandles "btc" "1h" 5).run (answering body) ((), ())).1

/-- Which of the four prices of a candle are NaNs. -/
def missing (c : Candle Real64) : Bool × Bool × Bool × Bool :=
  (c.openPrice.isNan, c.high.isNan, c.low.isNan, c.close.isNan)

theorem fetched_one (body : String) (prices : Bool × Bool × Bool × Bool)
    (shown : (fetched body).toOption.map (·.map missing) = some [prices]) :
    ∃ c, fetched body = .ok [c] ∧ missing c = prices := by
  cases read : fetched body with
  | error e =>
    rw [read] at shown
    cases shown
  | ok candles =>
    rw [read] at shown
    obtain ⟨c, rest, rfl, first, none⟩ := List.map_eq_cons_iff.mp (Option.some.inj shown)
    obtain rfl := List.map_eq_nil_iff.mp none
    exact ⟨c, rfl, first⟩

def highless : String := "[[0, 1, NaN, 0.5, 1, 10, 0]]"

end Sample

open Sample in
theorem sample_candle_bracketed : ∃ c, fetched oneCandle = .ok [c] ∧ c.Brackets := by
  obtain ⟨c, read, numbers⟩ := fetched_one oneCandle (false, false, false, false)
    (by decide +kernel)
  obtain ⟨bounds, -⟩ := fetched_candles_bracket twoHosts (answering oneCandle) ((), ()) "btc" "1h" 5
    read
  have numeric : c.IsNumeric := by simpa [missing, Candle.IsNumeric] using numbers
  exact ⟨c, read, (bounds c (List.mem_singleton_self c)).2.mpr numeric⟩

open Sample in
/-- A candle whose high is a NaN is accepted. -/
theorem sample_high_missing :
    ∃ c, fetched highless = .ok [c] ∧ c.high.isNan = true ∧ ¬c.Brackets := by
  obtain ⟨c, read, numbers⟩ := fetched_one highless (false, true, false, false)
    (by decide +kernel)
  have high : c.high.isNan = true := congrArg (·.2.1) numbers
  refine ⟨c, read, high, ?_⟩
  intro bracketed
  have numeric := bracketed.isNumeric.2.1
  rw [high] at numeric
  cases numeric

end Market

end SignalDesk
