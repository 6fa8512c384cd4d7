import SignalDesk.Proofs.Market.Search
import SignalDesk.Proofs.Results

/-!
# Falling back on the next host

A search among hosts tells of the hosts, or of what one of them answered, unless a reply breaks it
off that comes before any answer that reads (`candles_fall_back`). Of the answers with a good
status, those break off that hold a number out of range in a row, or that go too deep
(`Payload.candles_endsSearch`).
-/

namespace SignalDesk

variable {σ ν α β : Type}

namespace Json

/-- Whether a value is an infinite number, which is near no integer. -/
def IsInfinite (v : Json) : Prop := ∃ negative, v = .real (.infinite negative)

/-- Whether a value is an integer so large that no binary64 number is near. -/
def IsTooLarge (v : Json) : Prop := ∃ n, v = .int n ∧ ∀ x, Real64.ofInt n ≠ .finite x

theorem isInfinite_of_toInteger {v : Json} {fault : NumberFault}
    (refused : v.toInteger = .error fault) (range : fault.isOverflow = true) : v.IsInfinite := by
  cases v with
  | real x =>
    cases x with
    | infinite negative => exact ⟨negative, rfl⟩
    | finite | nan => cases refused <;> cases range
  | text s =>
    simp only [toInteger] at refused
    split at refused <;> cases refused
    cases range
  | _ => cases refused <;> cases range

theorem isTooLarge_of_toReal {v : Json} {fault : NumberFault} (refused : v.toReal = .error fault)
    (range : fault.isOverflow = true) : v.IsTooLarge := by
  cases v with
  | int n =>
    simp only [toReal, realOfInt] at refused
    split at refused
    · cases refused
    · rename_i large
      exact ⟨n, rfl, fun x finite => large x finite⟩
  | text s =>
    simp only [toReal] at refused
    split at refused <;> cases refused
    cases range
  | _ => cases refused <;> cases range

end Json

namespace Payload

theorem integer_endsSearch {v : Json} {fault : PayloadFault} (refused : integer v = .error fault)
    (ends : fault.endsSearch = true) : v.IsInfinite := by
  unfold integer at refused
  cases read : v.toInteger with
  | ok n =>
    rw [read] at refused
    cases refused
  | error f =>
    rw [read] at refused
    cases refused
    exact Json.isInfinite_of_toInteger read ends

theorem real_endsSearch {v : Json} {fault : PayloadFault} (refused : real v = .error fault)
    (ends : fault.endsSearch = true) : v.IsTooLarge := by
  unfold real at refused
  cases read : v.toReal with
  | ok x =>
    rw [read] at refused
    cases refused
  | error f =>
    rw [read] at refused
    cases refused
    exact Json.isTooLarge_of_toReal read ends

theorem entry_endsSearch {row : List Json} {i : Nat} {convert : Json → Read α}
    {fault : PayloadFault} (refused : (entry row i).bind convert = .error fault)
    (ends : fault.endsSearch = true) : ∃ v, row[i]? = some v ∧ convert v = .error fault := by
  unfold entry at refused
  split at refused
  · rename_i v found
    exact ⟨v, found, refused⟩
  · cases refused
    cases ends

/-- Whether a row has a time that is infinite, or a price or a volume that is too large. -/
def IsOutOfRange (row : List Json) : Prop :=
  ∃ (i : Nat) (v : Json), row[i]? = some v ∧
    (v.IsInfinite ∧ (i = 0 ∨ i = 6) ∨ v.IsTooLarge ∧ 1 ≤ i ∧ i ≤ 5)

theorem not_isOutOfRange_texts (ps : List Point) :
    ¬IsOutOfRange (ps.map fun p => .text (.ofPoints [p])) := by
  rintro ⟨i, v, found, out⟩
  rw [List.getElem?_map, Option.map_eq_some_iff] at found
  obtain ⟨c, -, rfl⟩ := found
  rcases out with ⟨⟨negative, h⟩, -⟩ | ⟨⟨n, h, -⟩, -⟩ <;> cases h

/-- A row that ends the search has a number out of range. -/
theorem candle_endsSearch {row : Json} {fault : PayloadFault} (refused : candle row = .error fault)
    (ends : fault.endsSearch = true) : ∃ items, row = .list items ∧ IsOutOfRange items := by
  have price {items : List Json} (i : Nat) (low : 1 ≤ i) (high : i ≤ 5)
      (h : (entry items i).bind real = .error fault) : IsOutOfRange items := by
    obtain ⟨v, found, unread⟩ := entry_endsSearch h ends
    exact ⟨i, v, found, .inr ⟨real_endsSearch unread ends, low, high⟩⟩
  have time {items : List Json} {v : Json} (i : Nat) (place : i = 0 ∨ i = 6)
      (found : items[i]? = some v) (h : integer v = .error fault) : IsOutOfRange items :=
    ⟨i, v, found, .inl ⟨integer_endsSearch h ends, place⟩⟩
  obtain unread | ⟨items, opened, refused⟩ := bind_error.mp refused
  · cases row <;> cases unread <;> cases ends
  have out : IsOutOfRange items := by
    obtain h | ⟨_, -, refused⟩ := bind_error.mp refused
    · obtain ⟨v, found, unread⟩ := entry_endsSearch h ends
      exact time 0 (.inl rfl) found unread
    obtain h | ⟨_, -, refused⟩ := bind_error.mp refused
    · exact price 1 (by omega) (by omega) h
    obtain h | ⟨_, -, refused⟩ := bind_error.mp refused
    · exact price 2 (by omega) (by omega) h
    obtain h | ⟨_, -, refused⟩ := bind_error.mp refused
    · exact price 3 (by omega) (by omega) h
    obtain h | ⟨_, -, refused⟩ := bind_error.mp refused
    · exact price 4 (by omega) (by omega) h
    obtain h | ⟨_, -, refused⟩ := bind_error.mp refused
    · exact price 5 (by omega) (by omega) h
    simp only at refused
    split at refused
    · rename_i v found
      obtain h | ⟨_, -, refused⟩ := bind_error.mp refused
      · exact time 6 (.inr rfl) found h
      · split at refused <;> cases refused
        cases ends
    · obtain h | ⟨_, -, refused⟩ := bind_error.mp refused
      · cases h
      · split at refused <;> cases refused
        cases ends
  cases row with
  | list =>
    cases opened
    exact ⟨_, rfl, out⟩
  | text s =>
    cases opened
    exact absurd out (not_isOutOfRange_texts _)
  | _ => cases opened

/-- Candles that end the search are those of a list with a row out of range. -/
theorem candles_endsSearch {doc : Json} {fault : PayloadFault} (refused : candles doc = .error fault)
    (ends : fault.endsSearch = true) :
    ∃ rows, doc = .list rows ∧ ∃ items, .list items ∈ rows ∧ IsOutOfRange items := by
  cases doc with
  | list rows =>
    refine ⟨rows, rfl, ?_⟩
    replace refused : rows.mapM candle = .error fault := refused
    induction rows with
    | nil => cases refused
    | cons row rows ih =>
      rw [List.mapM_cons] at refused
      obtain h | ⟨_, -, refused⟩ := bind_error.mp refused
      · obtain ⟨items, rfl, out⟩ := candle_endsSearch h ends
        exact ⟨items, List.mem_cons_self, out⟩
      obtain h | ⟨_, -, refused⟩ := bind_error.mp refused
      · obtain ⟨items, mem, out⟩ := ih h
        exact ⟨items, List.mem_cons_of_mem _ mem, out⟩
      · cases refused
  | _ =>
    cases refused
    cases ends

end Payload

namespace Hosts

/-- Whether some reply breaks the search off before any of them reads. -/
def BrokenOff (parse : Json → Payload.Read α) (replies : List Reply) : Prop :=
  ∃ before reply after e, replies = before ++ reply :: after ∧
    (∀ r ∈ before, r.Unread parse) ∧ reply.BreaksOff parse e

/-- Whether a search ends with an answer, or with what became of all hosts. -/
def IsAnswered (ended : Except FetchError α) : Prop :=
  (∃ a, ended = .ok a) ∨ ended = .error .rateLimited ∨
    ∃ failures, ended = .error (.unavailable failures)

theorem isAnswered_exhausted (failures : List HostFailure) :
    IsAnswered (.error (exhausted failures) : Except FetchError α) := by
  unfold exhausted
  split
  · exact .inr (.inl rfl)
  · exact .inr (.inr ⟨_, rfl⟩)

end Hosts

theorem Reply.BreaksOff.not_isAnswered {parse : Json → Payload.Read α} {reply : Reply}
    {e : FetchError} (h : reply.BreaksOff parse e) :
    ¬Hosts.IsAnswered (.error e : Except FetchError α) := by
  intro answered
  cases h <;> rcases answered with ⟨_, ended⟩ | ended | ⟨_, ended⟩ <;> cases ended

namespace Hosts

variable {parse : Json → Payload.Read α} {skipped after : List Reply} {last : Reply}

/-- Where the first reply that is not passed over reads, no other breaks the search off. -/
theorem not_brokenOff_of_readsAs {a : α} (first : ∀ r ∈ skipped, r.IsPassedOver parse)
    (reads : last.ReadsAs parse a) : ¬BrokenOff parse (skipped ++ last :: after) := by
  rintro ⟨before, reply, rest, e, split, unread, breaks⟩
  obtain ⟨more, rfl, tail⟩ | ⟨more, rfl, tail⟩ := List.append_eq_append_iff.mp split
  · cases more with
    | nil =>
      cases tail
      exact breaks.unread a reads
    | cons x more =>
      cases tail
      exact unread last (by simp) a reads
  · cases more with
    | nil =>
      cases tail
      exact breaks.unread a reads
    | cons x more =>
      cases tail
      exact (first reply (by simp)).2 e breaks

theorem not_brokenOff_of_passedOver {replies : List Reply}
    (all : ∀ r ∈ replies, r.IsPassedOver parse) : ¬BrokenOff parse replies := by
  rintro ⟨before, reply, rest, e, rfl, -, breaks⟩
  exact (all reply (by simp)).2 e breaks

end Hosts

namespace Market

variable (m : Market) (around : Surroundings σ ν) (w : σ × ν)

theorem get_falls_back (path : String) (params : List (String × ParamValue))
    (parse : Json → Payload.Read α) :
    let replies := around.replies (m.hosts.map (m.requestTo path params)) w
    let ended := ((m.get path params parse).run around w).1
    (Hosts.IsAnswered ended ↔ ¬Hosts.BrokenOff parse replies) ∧
      ((∃ a, ended = .ok a) ↔
        ¬Hosts.BrokenOff parse replies ∧ ∃ reply ∈ replies, ∃ a, reply.ReadsAs parse a) := by
  intro replies ended
  rcases Hosts.askFrom_run (m.requestTo path params) parse around [] m.hosts w with
    ⟨skipped, last, after, split, first, -, ⟨a, reads, found⟩ | ⟨e, breaks, broken⟩⟩ |
    ⟨passedOver, failures, -, told, -⟩
  · have same : replies = skipped ++ last :: after := split
    have ok : ended = .ok a := found
    have whole : ¬Hosts.BrokenOff parse replies := by
      rw [same]
      exact Hosts.not_brokenOff_of_readsAs first reads
    have mem : last ∈ replies := by simp [same]
    constructor
    · exact iff_of_true (.inl ⟨a, ok⟩) whole
    · exact iff_of_true ⟨a, ok⟩ ⟨whole, last, mem, a, reads⟩
  · have failed : ended = .error e := broken
    have off : Hosts.BrokenOff parse replies :=
      ⟨skipped, last, after, e, split, fun r mem => (first r mem).1, breaks⟩
    constructor
    · refine iff_of_false ?_ (not_not_intro off)
      rw [failed]
      exact breaks.not_isAnswered
    · refine iff_of_false ?_ (fun h => h.1 off)
      simp [failed]
  · have failed : ended = .error (Hosts.exhausted failures) := told
    have whole : ¬Hosts.BrokenOff parse replies := Hosts.not_brokenOff_of_passedOver passedOver
    constructor
    · refine iff_of_true ?_ whole
      rw [failed]
      exact Hosts.isAnswered_exhausted failures
    · refine iff_of_false ?_ ?_
      · simp [failed]
      · rintro ⟨-, reply, mem, a, reads⟩
        exact (passedOver reply mem).1 a reads

/-- The requests for the candles of a symbol, to each host. -/
def candleRequests (symbol : String) (timeframe : Label) (limit : Int) : List Request :=
  m.hosts.map (m.requestTo "/klines"
    [("symbol", .text (Text.upper symbol)),
      ("interval", .text (Timeframe.interval (timeframe.stored.getD ""))), ("limit", .int limit)])

end Market

namespace Reply

/-- Whether a reply to a request for candles is a fault that is not of the connection, goes too deep,
or has a number out of range in a row. -/
def IsUnforeseen (reply : Reply) : Prop :=
  (∃ f, reply = .fault f ∧
      f.kind ∈ [.decodingError, .tooManyRedirects, .invalidUrl, .streamError]) ∨
    ∃ status body, reply = .answer status body ∧
      ((∃ inObject, Json.readBody body = .error (.tooDeep inObject)) ∨
        ∃ rows items, Json.readBody body = .ok (.list rows) ∧ .list items ∈ rows ∧
          Payload.IsOutOfRange items)

theorem BreaksOff.isUnforeseen {reply : Reply} {e : FetchError}
    (h : reply.BreaksOff Payload.candles e) : reply.IsUnforeseen := by
  cases h with
  | @fault f other =>
    refine .inl ⟨f, rfl, ?_⟩
    cases kind : f.kind <;> rw [kind] at other <;> first | (cases other; done) | simp
  | @payload status body fault low high refused ends =>
    refine .inr ⟨status, body, rfl, ?_⟩
    obtain unread | ⟨doc, opened, refused⟩ := bind_error.mp refused
    · obtain ⟨f, read, rfl⟩ := mapError_error.mp unread
      cases f with
      | tooDeep text => exact .inl ⟨text, read⟩
      | _ => cases ends
    · have read := mapError_ok.mp opened
      obtain ⟨rows, rfl, items, mem, out⟩ := Payload.candles_endsSearch refused ends
      exact .inr ⟨rows, items, read, mem, out⟩

end Reply

/-- **Candles fall back.** Whatever the hosts do, a fetch of candles ends with candles, or by telling
that all hosts asked to wait or why each of them failed, unless some reply breaks it off before any
host answered with candles. If none does, it ends with candles whenever one of the hosts would. Only
a reply that is unforeseen breaks it off. -/
theorem candles_fall_back (m : Market) (around : Surroundings σ ν) (w : σ × ν) (symbol : String)
    (timeframe : Label) (limit : Int) :
    let replies := around.replies (m.candleRequests symbol timeframe limit) w
    let ended := ((m.fetchCandles symbol timeframe limit).run around w).1
    (((∃ candles, ended = .ok candles) ∨ ended = .error .rateLimited ∨
        ∃ failures, ended = .error (.unavailable failures)) ↔
      ¬Hosts.BrokenOff Payload.candles replies) ∧
      ((∃ candles, ended = .ok candles) ↔ ¬Hosts.BrokenOff Payload.candles replies ∧
        ∃ reply ∈ replies, ∃ candles, reply.ReadsAs Payload.candles candles) ∧
      ∀ reply ∈ replies, ∀ e, reply.BreaksOff Payload.candles e → reply.IsUnforeseen := by
  intro replies ended
  obtain ⟨answered, found⟩ := m.get_falls_back around w "/klines"
    [("symbol", .text (Text.upper symbol)),
      ("interval", .text (Timeframe.interval (timeframe.stored.getD ""))), ("limit", .int limit)]
    Payload.candles
  exact ⟨answered, found, fun _ _ _ breaks => breaks.isUnforeseen⟩

namespace Market.Sample

def twoHosts : Market := ⟨["https://a", "https://b"], .infinite false⟩

def outOfRange : String := "[[Infinity, 1, 2, 0.5, 1, 10, 0]]"

def oneCandle : String := "[[0, 1, 2, 0.5, 1, 10, 0]]"

def infiniteTime : Surroundings Unit Unit where
  reply r w := (.answer 200 (if r.url = "https://a/klines" then outOfRange else oneCandle), w)
  second := id

/-- Why a payload is refused, if it is. -/
def refusal : Payload.Read α → Option PayloadFault
  | .ok _ => none
  | .error fault => some fault

end Market.Sample

open Market.Sample in
/-- Nobody gets the candle that the second host would have sent. -/
theorem infinite_time_breaks_off :
    (∃ reply ∈ infiniteTime.replies (twoHosts.candleRequests "btc" "1h" 5) ((), ()),
      ∃ candles, reply.ReadsAs Payload.candles candles) ∧
    ((twoHosts.fetchCandles "btc" "1h" 5 : Program Unit _).run infiniteTime ((), ())).1 =
      .error (.payload (.number .infiniteInteger)) := by
  have heard : infiniteTime.replies (twoHosts.candleRequests "btc" "1h" 5) ((), ()) =
      [.answer 200 outOfRange, .answer 200 oneCandle] := rfl
  have reads : ((Payload.document oneCandle).bind Payload.candles).isOk = true := by
    decide +kernel
  have refuses : refusal ((Payload.document outOfRange).bind Payload.candles) =
      some (.number .infiniteInteger) := by decide +kernel
  constructor
  · rw [heard]
    cases read : (Payload.document oneCandle).bind Payload.candles with
    | ok candles => exact ⟨_, by simp, candles, 200, oneCandle, rfl, by omega, by omega, read⟩
    | error fault =>
      rw [read] at reads
      cases reads
  · cases read : (Payload.document outOfRange).bind Payload.candles with
    | ok candles =>
      rw [read] at refuses
      cases refuses
    | error fault =>
      rw [read] at refuses
      cases refuses
      have breaks : (Reply.answer 200 outOfRange).BreaksOff Payload.candles
          (.payload (.number .infiniteInteger)) := .payload (by omega) (by omega) read rfl
      simp only [Market.fetchCandles, Market.get, twoHosts, Hosts.askFrom, Program.run_ask,
        infiniteTime]
      rw [if_pos (by decide), Hosts.judge_breaksOff breaks]
      rfl

end SignalDesk
