import SignalDesk.Market.Hosts
import SignalDesk.Proofs.Network.Within

namespace SignalDesk

variable {σ ν α : Type}

/-- What requests get that are sent one after the other. -/
def Surroundings.replies (around : Surroundings σ ν) : List Request → σ × ν → List Reply
  | [], _ => []
  | r :: rs, w => (around.reply r w).1 :: around.replies rs (around.reply r w).2

namespace Reply

variable (parse : Json → Payload.Read α)

/-- Whether a reply is an answer with a status of 2xx and a document that reads as `a`. -/
def ReadsAs (reply : Reply) (a : α) : Prop :=
  ∃ status body, reply = .answer status body ∧ 200 ≤ status ∧ status < 300 ∧
    (Payload.document body).bind parse = .ok a

/-- Whether no answer can be read from a reply. -/
def Unread (reply : Reply) : Prop := ∀ a, ¬reply.ReadsAs parse a

/-- Whether a reply asks the caller to wait. -/
def AsksToWait (reply : Reply) : Prop := ∃ body, reply = .answer 418 body ∨ reply = .answer 429 body

/-- Whether a reply is a fault of the connection or an answer of any status, where the payload of a
good status is refused for nothing but its form. -/
def IsOrdinary : Reply → Prop
  | .answer status body => 200 ≤ status → status < 300 →
      ∀ fault, (Payload.document body).bind parse = .error fault → fault.endsSearch = false
  | .fault f => f.kind.isTransport = true
  | .silence => True

/-- Whether a reply breaks a search off, with what error: a fault that is not of the connection, or
an answer of a good status whose payload is refused for more than its form. -/
inductive BreaksOff : Reply → FetchError → Prop
  | fault {f : Fault} (other : f.kind.isTransport = false) : BreaksOff (.fault f) (.fault f)
  | payload {status : Int} {body : String} {fault : PayloadFault} (low : 200 ≤ status)
      (high : status < 300) (refused : (Payload.document body).bind parse = .error fault)
      (ends : fault.endsSearch = true) : BreaksOff (.answer status body) (.payload fault)

/-- Whether a reply leaves the search to the hosts after. -/
def IsPassedOver (reply : Reply) : Prop := reply.Unread parse ∧ ∀ e, ¬reply.BreaksOff parse e

variable {parse}

theorem IsOrdinary.not_breaksOff {reply : Reply} {e : FetchError}
    (ordinary : reply.IsOrdinary parse) : ¬reply.BreaksOff parse e := by
  intro breaks
  cases breaks with
  | fault other =>
    have transport : _ = true := ordinary
    rw [other] at transport
    cases transport
  | payload low high refused ends =>
    have goesOn := ordinary low high _ refused
    rw [ends] at goesOn
    cases goesOn

theorem isOrdinary_of_not_breaksOff {reply : Reply} (h : ∀ e, ¬reply.BreaksOff parse e) :
    reply.IsOrdinary parse := by
  cases reply with
  | silence => trivial
  | fault f =>
    cases kind : f.kind.isTransport with
    | true => exact kind
    | false => exact absurd (.fault kind) (h _)
  | answer status body =>
    intro low high fault refused
    cases ends : fault.endsSearch with
    | true => exact absurd (.payload low high refused ends) (h _)
    | false => rfl

theorem BreaksOff.unread {reply : Reply} {e : FetchError} (h : reply.BreaksOff parse e) :
    reply.Unread parse := by
  intro a reads
  obtain ⟨status, body, rfl, -, -, read⟩ := reads
  cases h with
  | payload _ _ refused _ =>
    rw [read] at refused
    cases refused

end Reply

namespace Hosts

variable {parse : Json → Payload.Read α}

theorem isRateLimit_iff {status : Int} {body : String} :
    (HostFault.status status).isRateLimit = true ↔ (Reply.answer status body).AsksToWait := by
  simp only [HostFault.isRateLimit, Bool.or_eq_true, beq_iff_eq, Reply.AsksToWait,
    Reply.answer.injEq]
  constructor
  · rintro (rfl | rfl)
    · exact ⟨body, .inl ⟨rfl, rfl⟩⟩
    · exact ⟨body, .inr ⟨rfl, rfl⟩⟩
  · rintro ⟨-, ⟨rfl, -⟩ | ⟨rfl, -⟩⟩
    · exact .inl rfl
    · exact .inr rfl

/-- A reply that reads is accepted. -/
theorem judge_readsAs {reply : Reply} {a : α} (h : reply.ReadsAs parse a) :
    judge parse reply = .accept a := by
  obtain ⟨status, body, rfl, low, high, reads⟩ := h
  have good : (decide (status < 200) || decide (299 < status)) = false := by
    simp only [Bool.or_eq_false_iff, decide_eq_false_iff_not]
    omega
  simp only [judge, good, Bool.false_eq_true, if_false, reads]

/-- A reply that breaks off ends the search with its error. -/
theorem judge_breaksOff {reply : Reply} {e : FetchError} (h : reply.BreaksOff parse e) :
    judge parse reply = .abort e := by
  cases h with
  | fault other => simp only [judge, other, Bool.false_eq_true, if_false]
  | @payload status _ _ low high refused ends =>
    have good : ¬(status < 200 ∨ 299 < status) := by omega
    simp only [judge, Bool.or_eq_true, decide_eq_true_eq, good, if_false, refused, ends, if_true]

/-- An ordinary reply that does not read is passed over. -/
theorem judge_unread {reply : Reply} (ordinary : reply.IsOrdinary parse)
    (unread : reply.Unread parse) :
    ∃ fault, judge parse reply = .pass fault ∧
      (fault.isRateLimit = true ↔ reply.AsksToWait) := by
  cases reply with
  | silence => exact ⟨_, rfl, by simp [HostFault.isRateLimit, Reply.AsksToWait]⟩
  | fault f =>
    have transport : f.kind.isTransport = true := ordinary
    refine ⟨.transport f.kind, ?_, by simp [HostFault.isRateLimit, Reply.AsksToWait]⟩
    simp only [judge, transport, if_true]
  | answer status body =>
    by_cases good : 200 ≤ status ∧ status < 300
    · obtain ⟨low, high⟩ := good
      have within : (decide (status < 200) || decide (299 < status)) = false := by
        simp only [Bool.or_eq_false_iff, decide_eq_false_iff_not]
        omega
      cases read : (Payload.document body).bind parse with
      | ok a => exact absurd ⟨status, body, rfl, low, high, read⟩ (unread a)
      | error fault =>
        have goesOn : fault.endsSearch = false := ordinary low high fault read
        refine ⟨.malformed fault, ?_, ?_⟩
        · simp only [judge, within, Bool.false_eq_true, if_false, read, goesOn]
        · have other : ¬(Reply.answer status body).AsksToWait := by
            rw [← isRateLimit_iff]
            simp only [HostFault.isRateLimit, Bool.or_eq_true, beq_iff_eq]
            omega
          simp [HostFault.isRateLimit, other]
    · refine ⟨.status status, ?_, isRateLimit_iff⟩
      have outside : (decide (status < 200) || decide (299 < status)) = true := by
        simp only [Bool.or_eq_true, decide_eq_true_eq]
        omega
      simp only [judge, outside, if_true]

/-- How a search among hosts ends that reply as told, and how many of them it asks. -/
inductive Ends (parse : Json → Payload.Read α) (hosts : List String) (replies : List Reply) :
    Except FetchError α → Nat → Prop where
  | found {before after : List Reply} {reply : Reply} {a : α}
      (split : replies = before ++ reply :: after) (first : ∀ r ∈ before, r.Unread parse)
      (reads : reply.ReadsAs parse a) : Ends parse hosts replies (.ok a) (before.length + 1)
  | waiting (unread : ∀ r ∈ replies, r.Unread parse) (some : hosts ≠ [])
      (wait : ∀ r ∈ replies, r.AsksToWait) :
      Ends parse hosts replies (.error .rateLimited) hosts.length
  | failed {failures : List HostFailure} (unread : ∀ r ∈ replies, r.Unread parse)
      (other : hosts ≠ [] → ∃ r ∈ replies, ¬r.AsksToWait)
      (told : failures.map (·.host) = hosts)
      (starts : ∀ f ∈ failures, ∃ reason, f.message = f.host ++ ": " ++ reason) :
      Ends parse hosts replies (.error (.unavailable failures)) hosts.length

/-- The failures of hosts that were passed over after these replies. -/
inductive Passed : List String → List Reply → List HostFailure → Prop where
  | nil : Passed [] [] []
  | cons {hosts replies failures} {host : String} {reply : Reply} {fault : HostFault}
      (waits : fault.isRateLimit = true ↔ reply.AsksToWait)
      (rest : Passed hosts replies failures) :
      Passed (host :: hosts) (reply :: replies) (⟨host, fault⟩ :: failures)

variable {hosts : List String} {replies : List Reply} {failures : List HostFailure}

theorem Passed.told (h : Passed hosts replies failures) : failures.map (·.host) = hosts := by
  induction h with
  | nil => rfl
  | cons _ _ ih => rw [List.map_cons, ih]

theorem Passed.all_isRateLimit (h : Passed hosts replies failures) :
    failures.all (·.fault.isRateLimit) = true ↔ ∀ r ∈ replies, r.AsksToWait := by
  induction h with
  | nil => simp
  | cons waits _ ih =>
    rw [List.all_cons, Bool.and_eq_true, ih, waits, List.forall_mem_cons]

/-- What is reported when every host was passed over. -/
theorem Passed.ends (h : Passed hosts replies failures)
    (unread : ∀ r ∈ replies, r.Unread parse) :
    Ends parse hosts replies (.error (exhausted failures)) hosts.length := by
  have same : failures.isEmpty = hosts.isEmpty := by cases h <;> rfl
  unfold exhausted
  split
  · rename_i limited
    rw [Bool.and_eq_true, h.all_isRateLimit, same] at limited
    exact .waiting unread (by simpa using limited.1) limited.2
  · rename_i limited
    rw [Bool.and_eq_true, h.all_isRateLimit, same, not_and] at limited
    refine .failed unread (fun some => ?_) h.told fun f _ => ⟨f.fault.message, rfl⟩
    have other : ¬∀ r ∈ replies, r.AsksToWait := limited (by simpa using some)
    simpa using other

/-- A search ends at the first reply that reads or breaks off, or with the failures of all
hosts. -/
theorem askFrom_run (request : String → Request) (parse : Json → Payload.Read α)
    (around : Surroundings σ ν) (before : List HostFailure) (hosts : List String) (w : σ × ν) :
    let search : Program σ (Except FetchError α) := askFrom request parse before hosts
    let replies := around.replies (hosts.map request) w
    (∃ skipped reply after, replies = skipped ++ reply :: after ∧
        (∀ r ∈ skipped, r.IsPassedOver parse) ∧
        search.requests around w = (hosts.map request).take (skipped.length + 1) ∧
        ((∃ a, reply.ReadsAs parse a ∧ (search.run around w).1 = .ok a) ∨
          ∃ e, reply.BreaksOff parse e ∧ (search.run around w).1 = .error e)) ∨
      ((∀ r ∈ replies, r.IsPassedOver parse) ∧ ∃ failures, Passed hosts replies failures ∧
        (search.run around w).1 = .error (exhausted (before.reverse ++ failures)) ∧
        search.requests around w = hosts.map request) := by
  induction hosts generalizing before w with
  | nil =>
    right
    refine ⟨by simp [Surroundings.replies], [], .nil, ?_, rfl⟩
    rw [List.append_nil]
    rfl
  | cons host hosts ih =>
    simp only [List.map_cons, Surroundings.replies]
    simp only [askFrom, Program.run_ask, Program.requests]
    generalize around.reply (request host) w = heard
    obtain ⟨reply, v⟩ := heard
    by_cases read : ∃ a, reply.ReadsAs parse a
    · obtain ⟨a, reads⟩ := read
      left
      refine ⟨[], reply, _, rfl, by simp, ?_, .inl ⟨a, reads, ?_⟩⟩
      · simp [judge_readsAs reads, Program.requests]
      · simp only [judge_readsAs reads, Program.run]
    by_cases broken : ∃ e, reply.BreaksOff parse e
    · obtain ⟨e, breaks⟩ := broken
      left
      refine ⟨[], reply, _, rfl, by simp, ?_, .inr ⟨e, breaks, ?_⟩⟩
      · simp [judge_breaksOff breaks, Program.requests]
      · simp only [judge_breaksOff breaks, Program.run]
    · have skips : reply.IsPassedOver parse :=
        ⟨fun a reads => read ⟨a, reads⟩, fun e breaks => broken ⟨e, breaks⟩⟩
      obtain ⟨fault, passed, waits⟩ :=
        judge_unread (Reply.isOrdinary_of_not_breaksOff skips.2) skips.1
      simp only [passed]
      rcases ih (⟨host, fault⟩ :: before) v with
        ⟨skipped, last, after, split, first, asked, ended⟩ | ⟨none, failures, told, ended, asked⟩
      · left
        refine ⟨reply :: skipped, last, after, ?_, ?_, ?_, ended⟩
        · rw [split, List.cons_append]
        · exact List.forall_mem_cons.mpr ⟨skips, first⟩
        · rw [asked, List.length_cons, List.take_succ_cons]
      · right
        refine ⟨List.forall_mem_cons.mpr ⟨skips, none⟩, _, .cons waits told, ?_, ?_⟩
        · rw [ended, List.reverse_cons, List.append_assoc]
          rfl
        · rw [asked]

end Hosts

namespace Market

variable (m : Market) (around : Surroundings σ ν) (w : σ × ν)

/-- The request for some path to one host. -/
def requestTo (path : String) (params : List (String × ParamValue)) (host : String) : Request :=
  ⟨.get, host ++ path, params, m.timeout, none⟩

/-- Whether a fetch, when all hosts reply in an ordinary way, asks them in order for the same thing
and ends as `Hosts.Ends` says. -/
def Searches (path : String) (params : List (String × ParamValue)) (parse : Json → Payload.Read α)
    (fetch : Program σ (Except FetchError α)) : Prop :=
  let asked := m.hosts.map (m.requestTo path params)
  let replies := around.replies asked w
  (∀ r ∈ replies, r.IsOrdinary parse) →
    ∃ n, Hosts.Ends parse m.hosts replies (fetch.run around w).1 n ∧
      fetch.requests around w = asked.take n

theorem get_searches (path : String) (params : List (String × ParamValue))
    (parse : Json → Payload.Read α) :
    m.Searches around w path params parse (m.get path params parse) := by
  intro ordinary
  rcases Hosts.askFrom_run (m.requestTo path params) parse around [] m.hosts w with
    ⟨skipped, reply, after, split, first, sent, ⟨a, reads, ended⟩ | ⟨e, breaks, -⟩⟩ |
    ⟨passedOver, failures, passed, ended, sent⟩
  · refine ⟨skipped.length + 1, ?_, sent⟩
    rw [show ((m.get path params parse).run around w).1 = .ok a from ended]
    exact .found split (fun r mem => (first r mem).1) reads
  · have mem : reply ∈ around.replies (m.hosts.map (m.requestTo path params)) w := by
      rw [split]
      simp
    exact absurd breaks (ordinary reply mem).not_breaksOff
  · refine ⟨m.hosts.length, ?_, ?_⟩
    · rw [show ((m.get path params parse).run around w).1 = .error (Hosts.exhausted failures) from
        ended]
      exact passed.ends fun r mem => (passedOver r mem).1
    · rw [List.take_of_length_le (by simp)]
      exact sent

end Market

/-- **Fetches search the hosts in order.** Whatever the hosts do, as long as no payload is refused
for more than its form, candles and tickers come from the first host whose answer reads, after one
request to each host up to it and none to the others. If there is none, every host was asked once,
and the error says whether all of them asked to wait, or tells of each host in order. -/
theorem fetches_search_in_order (m : Market) (around : Surroundings σ ν) (w : σ × ν) :
    (∀ (symbol : String) (timeframe : Label) (limit : Int),
      m.Searches around w "/klines"
        [("symbol", .text (Text.upper symbol)),
          ("interval", .text (Timeframe.interval (timeframe.stored.getD ""))),
          ("limit", .int limit)]
        Payload.candles (m.fetchCandles symbol timeframe limit)) ∧
      (∀ symbol : String,
        m.Searches around w "/ticker/24hr" [("symbol", .text (Text.upper symbol))]
          Payload.ticker (m.fetchTicker symbol)) ∧
      ∀ symbols : List String,
        m.Searches around w "/ticker/24hr"
          [("symbols", .text ((Json.list (symbols.map fun s => .text (Text.upper s))).write
            Json.Spacing.compact))]
          Payload.tickers (m.fetchTickers symbols) :=
  ⟨fun _ _ _ => m.get_searches around w _ _ _, fun _ => m.get_searches around w _ _ _,
    fun _ => m.get_searches around w _ _ _⟩

namespace Market.Sample

def market : Market := ⟨["https://a", "https://b", "https://c"], .infinite false⟩

def hosts : Surroundings Unit Unit where
  reply r w :=
    (if r.url = "https://a/klines" then .answer 429 ""
      else if r.url = "https://b/klines" then .fault ⟨.readError, ""⟩
      else .answer 200 "[]", w)
  second := id

/-- The requests for five candles. -/
def asked : List Request :=
  market.hosts.map (market.requestTo "/klines"
    [("symbol", .text (Text.upper "btc")), ("interval", .text "1h"), ("limit", .int 5)])

def replies : List Reply := [.answer 429 "", .fault ⟨.readError, ""⟩, .answer 200 "[]"]

end Market.Sample

open Market.Sample in
theorem third_host_answers : (∀ r ∈ replies, r.IsOrdinary Payload.candles) ∧
    ∃ n, Hosts.Ends Payload.candles market.hosts replies
        ((market.fetchCandles "btc" "1h" 5 : Program Unit _).run hosts ((), ())).1 n ∧
      (market.fetchCandles "btc" "1h" 5 : Program Unit _).requests hosts ((), ()) =
        asked.take n := by
  have reads : ((Payload.document "[]").bind Payload.candles).isOk = true := by decide +kernel
  have ordinary : ∀ r ∈ replies, r.IsOrdinary Payload.candles := by
    simp only [replies, List.forall_mem_cons, List.not_mem_nil, false_imp_iff, implies_true,
      and_true]
    refine ⟨?wait, rfl, ?good⟩
    case wait =>
      intro _ high
      omega
    case good =>
      intro _ _ fault refused
      rw [refused] at reads
      cases reads
  have heard : hosts.replies asked ((), ()) = replies := rfl
  have searched := (fetches_search_in_order market hosts ((), ())).1 "btc" "1h" 5
  exact ⟨ordinary, heard ▸ searched (heard ▸ ordinary)⟩

end SignalDesk
