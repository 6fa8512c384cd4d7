import SignalDesk.Exchange.Basic
import SignalDesk.Proofs.Exchange.KeyMarkers
import SignalDesk.Proofs.Network.Within
import SignalDesk.Proofs.Results

namespace SignalDesk

/-- Whether an error tells that the exchange was not reached or not understood, that it refused the
order, or that it asked to wait. -/
def OrderError.IsForeseen : OrderError → Prop
  | unreachable _ | unreadable | unexpected _ | fill _ => True
  | rateLimited _ | keyRefused .. | rejected .. => True
  | tooDeep _ | fault _ | shape _ | number _ | timedOut _ => False

instance : DecidablePred OrderError.IsForeseen
  | .unreachable _ | .unreadable | .unexpected _ | .fill _ => isTrue trivial
  | .rateLimited _ | .keyRefused .. | .rejected .. => isTrue trivial
  | .tooDeep _ | .fault _ | .shape _ | .number _ | .timedOut _ => isFalse id

namespace Json

/-- Whether a value is a list or an object. -/
def isNested : Json → Bool
  | .list _ | .object _ => true
  | _ => false

/-- Whether a text can be looked for in a value. -/
def isSearchable : Json → Bool
  | .text _ | .list _ | .object _ => true
  | _ => false

/-- A value that gives no number is of another kind, no numeral, or too large an integer. -/
theorem toReal_error {v : Json} {fault : NumberFault} (h : v.toReal = .error fault) :
    fault = .wrongType ∨ fault = .notNumeral ∨ fault = .tooLarge := by
  cases v with
  | int n =>
    simp only [toReal, realOfInt] at h
    split at h
    · cases h
    · cases h
      exact .inr (.inr rfl)
  | text s =>
    simp only [toReal] at h
    split at h
    · cases h
    · cases h
      exact .inr (.inl rfl)
  | bool | real => cases h
  | null | list | object =>
    cases h
    exact .inl rfl

end Json

namespace Refusal

/-- Whether a refusal cannot be classified: its code is a list or an object, or the code says
nothing and the message is neither missing nor of a kind in which a marker can be looked for. -/
def Unclassifiable (message code : Json) : Prop :=
  code.isNested = true ∨
    hasCode (waitCodes ++ keyCodes) code = .ok false ∧ message.isTruthy = true ∧
      message.isSearchable = false

theorem hasCode_error (codes : List Int) {code : Json} (nested : code.isNested = true) :
    ∃ fault, hasCode codes code = .error fault := by
  cases code with
  | list | object => exact ⟨_, rfl⟩
  | _ => cases nested

theorem hasCode_ok (codes : List Int) {code : Json} (plain : code.isNested = false) :
    ∃ known, hasCode codes code = .ok known := by
  cases code with
  | list | object => cases plain
  | _ => exact ⟨_, rfl⟩

theorem hasCode_append {codes more : List Int} {code : Json} :
    hasCode (codes ++ more) code = .ok false ↔
      hasCode codes code = .ok false ∧ hasCode more code = .ok false := by
  cases code <;> simp [hasCode]

theorem hasMarker_error_iff {message : Json} :
    (∃ fault, hasMarker message = .error fault) ↔
      message.isTruthy = true ∧ message.isSearchable = false := by
  cases message with
  | text | list | object => simp [hasMarker, Json.isSearchable]
  | null | bool | int | real =>
    simp only [hasMarker, Json.isSearchable]
    split <;> simp_all

/-- Every refusal is classified, but for one of an unforeseen shape; and a status that asks to wait
says all. -/
theorem classify_foreseen_iff {status : Int} {message code : Json} :
    (classify status message code).IsForeseen ↔
      ¬(status ≠ 418 ∧ status ≠ 429 ∧ Unclassifiable message code) := by
  unfold classify
  split
  · rename_i waits
    have asked : status = 418 ∨ status = 429 := by simpa using waits
    exact ⟨fun _ fresh => asked.elim fresh.1 fresh.2.1, fun _ => trivial⟩
  rename_i fresh
  have fresh : status ≠ 418 ∧ status ≠ 429 := by simpa using fresh
  simp only [fresh.1, fresh.2, ne_eq, not_false_eq_true, true_and, Unclassifiable, not_or]
  cases nested : code.isNested with
  | true =>
    obtain ⟨fault, unknown⟩ := hasCode_error waitCodes nested
    simp [unknown, OrderError.IsForeseen]
  | false =>
    obtain ⟨waits, told⟩ := hasCode_ok waitCodes nested
    obtain ⟨keys, marked⟩ := hasCode_ok keyCodes nested
    have fault : isKeyFault message code = if keys then .ok true else hasMarker message := by
      rw [isKeyFault, marked]
      cases keys <;> rfl
    have silent :
        hasCode (waitCodes ++ keyCodes) code = .ok false ↔ waits = false ∧ keys = false := by
      rw [hasCode_append, told, marked, Except.ok.injEq, Except.ok.injEq]
    simp only [told, fault, silent, ← hasMarker_error_iff]
    cases waits with
    | true => simp [OrderError.IsForeseen]
    | false =>
      cases keys with
      | true => simp [OrderError.IsForeseen]
      | false => cases hasMarker message with
        | error => simp [OrderError.IsForeseen]
        | ok known => cases known <;> simp [OrderError.IsForeseen]

theorem unclassifiable_getD {message code : Json} (status : Int) :
    Unclassifiable (if message.isTruthy then message else .text (defaultMessage status)) code ↔
      Unclassifiable message code := by
  unfold Unclassifiable
  cases truthy : message.isTruthy <;> simp [truthy, Json.isSearchable]

theorem ofAnswer_foreseen_iff {status : Int} {body : Except ReadFault Json} :
    (ofAnswer status body).IsForeseen ↔
      ¬((∃ inObject, body = .error (.tooDeep inObject)) ∨
        status ≠ 418 ∧ status ≠ 429 ∧ ∃ fields, body = .ok (.object fields) ∧
          Unclassifiable (Json.fieldOrNull fields "msg") (Json.fieldOrNull fields "code")) := by
  have unnamed : ¬Unclassifiable (.text (defaultMessage status)) .null := by
    simp [Unclassifiable, Json.isNested, Json.isSearchable]
  have unnamed : (classify status (.text (defaultMessage status)) .null).IsForeseen :=
    classify_foreseen_iff.mpr fun h => unnamed h.2.2
  unfold ofAnswer
  split
  · simp [OrderError.IsForeseen]
  · simp only [classify_foreseen_iff, unclassifiable_getD]
    simp
  · rename_i deep object
    refine ⟨fun _ h => ?_, fun _ => unnamed⟩
    rcases h with ⟨inObject, rfl⟩ | ⟨-, -, fields, rfl, -⟩
    · exact deep inObject rfl
    · exact object fields rfl

end Refusal

namespace Exchange

theorem fillNumber_ok {v : Json} {x : Real64} : fillNumber v = .ok x ↔ v.toReal = .ok x := by
  unfold fillNumber
  cases v.toReal with
  | ok y => simp
  | error fault => cases fault <;> simp

/-- A value that is no number is a fault of the fill, unless it is too large an integer. -/
theorem fillNumber_error {v : Json} {e : OrderError} (h : fillNumber v = .error e) :
    (∃ fault, e = .fill fault) ∨ e = .number .tooLarge ∧ v.toReal = .error .tooLarge := by
  unfold fillNumber at h
  cases read : v.toReal with
  | ok x =>
    rw [read] at h
    cases h
  | error fault =>
    rw [read] at h
    rcases Json.toReal_error read with rfl | rfl | rfl <;> cases h
    · exact .inl ⟨_, rfl⟩
    · exact .inl ⟨_, rfl⟩
    · exact .inr ⟨rfl, rfl⟩

theorem fillNumber_tooLarge {v : Json} (h : v.toReal = .error .tooLarge) :
    fillNumber v = .error (.number .tooLarge) := by
  rw [fillNumber, h]

/-- Whether the fills in an answer tell a price: that of the first one, and zero when there are
none. Fills that are missing, null, false, zero or empty are none. -/
inductive FillsTell (fields : List (Text × Json)) : Real64 → Prop where
  | none (missing : (Json.fieldOrNull fields "fills").isTruthy = false) : FillsTell fields .zero
  | first {fill : List (Text × Json)} {rest : List Json} {v : Json} {x : Real64}
      (fills : Json.fieldOrNull fields "fills" = .list (.object fill :: rest))
      (price : Json.field? fill "price" = some v) (numeric : v.toReal = .ok x) : FillsTell fields x

theorem fillPrice_ok {fields : List (Text × Json)} {x : Real64} :
    fillPrice fields = .ok x ↔ FillsTell fields x := by
  constructor
  · intro h
    simp only [fillPrice] at h
    split at h
    · rename_i missing
      cases h
      exact .none (by simpa using missing)
    split at h
    · rename_i fill rest fills
      split at h
      · rename_i v price
        exact .first fills price (fillNumber_ok.mp h)
      · cases h
    · cases h
    · cases h
  · intro h
    cases h with
    | none missing => simp [fillPrice, missing]
    | first fills price numeric =>
      simp only [fillPrice, fills, price, fillNumber_ok.mpr numeric]
      rfl

/-- Whether the price of the first fill is an integer that is too large for a number. -/
def FillsOverflow (fields : List (Text × Json)) : Prop :=
  ∃ fill rest v, Json.fieldOrNull fields "fills" = .list (.object fill :: rest) ∧
    Json.field? fill "price" = some v ∧ v.toReal = .error .tooLarge

theorem fillPrice_error {fields : List (Text × Json)} {e : OrderError}
    (h : fillPrice fields = .error e) :
    (∃ fault, e = .fill fault) ∨ e = .number .tooLarge ∧ FillsOverflow fields := by
  simp only [fillPrice] at h
  split at h
  · cases h
  split at h
  · rename_i fill rest fills
    split at h
    · rename_i v price
      rcases fillNumber_error h with fault | ⟨rfl, large⟩
      · exact .inl fault
      · exact .inr ⟨rfl, fill, rest, v, fills, price, large⟩
    · cases h
      exact .inl ⟨_, rfl⟩
  · cases h
    exact .inl ⟨_, rfl⟩
  · cases h
    exact .inl ⟨_, rfl⟩

theorem fillPrice_overflow {fields : List (Text × Json)} (h : FillsOverflow fields) :
    fillPrice fields = .error (.number .tooLarge) := by
  obtain ⟨fill, rest, v, fills, price, large⟩ := h
  simp only [fillPrice, fills, price, fillNumber_tooLarge large]
  rfl

/-- The executed quantity that an answer tells, or the ordered one. -/
def executedOf (o : Order) (fields : List (Text × Json)) : Json :=
  (Json.field? fields "executedQty").getD (.text o.quantity)

theorem acknowledgement_ok {o : Order} {fields : List (Text × Json)} {a : Acknowledgement} :
    acknowledgement o fields = .ok a ↔
      ∃ price executed, FillsTell fields price ∧ (executedOf o fields).toReal = .ok executed ∧
        a = { order := ((Json.field? fields "orderId").getD (.text "")).asText
              symbol := (Json.field? fields "symbol").getD (.text o.symbol)
              side := (Json.field? fields "side").getD (.text o.side)
              executed, price
              status := (Json.field? fields "status").getD (.text "") } := by
  simp only [acknowledgement, bind_ok, fillPrice_ok, fillNumber_ok, pure_ok, executedOf]
  constructor
  · rintro ⟨price, told, executed, quantity, rfl⟩
    exact ⟨price, executed, told, quantity, rfl⟩
  · rintro ⟨price, executed, told, quantity, rfl⟩
    exact ⟨price, told, executed, quantity, rfl⟩

/-- Whether an answer holds an integer that is too large for the price or the quantity it stands
for. -/
def Overflows (o : Order) (fields : List (Text × Json)) : Prop :=
  FillsOverflow fields ∨
    (∃ price, FillsTell fields price) ∧ (executedOf o fields).toReal = .error .tooLarge

theorem acknowledgement_error {o : Order} {fields : List (Text × Json)} {e : OrderError}
    (h : acknowledgement o fields = .error e) :
    (∃ fault, e = .fill fault) ∨ e = .number .tooLarge ∧ Overflows o fields := by
  rcases bind_error.mp h with unpriced | ⟨price, told, h⟩
  · rcases fillPrice_error unpriced with fault | ⟨rfl, large⟩
    · exact .inl fault
    · exact .inr ⟨rfl, .inl large⟩
  rcases bind_error.mp h with uncounted | ⟨executed, -, h⟩
  · rcases fillNumber_error uncounted with fault | ⟨rfl, large⟩
    · exact .inl fault
    · exact .inr ⟨rfl, .inr ⟨⟨price, fillPrice_ok.mp told⟩, large⟩⟩
  · cases h

theorem acknowledgement_overflows {o : Order} {fields : List (Text × Json)}
    (h : Overflows o fields) : acknowledgement o fields = .error (.number .tooLarge) := by
  rcases h with large | ⟨⟨price, told⟩, large⟩
  · exact bind_error.mpr (.inl (fillPrice_overflow large))
  · exact bind_error.mpr (.inr ⟨price, fillPrice_ok.mpr told, bind_error.mpr (.inl
      (fillNumber_tooLarge large))⟩)

end Exchange

namespace Exchange

/-- Whether a reply is an answer, or a failure of the one request. -/
def Comes : Reply → Prop
  | .answer .. => True
  | .fault f => f.kind.isRequest = true
  | .silence => False

/-- Whether a reply to an order holds what nobody has foreseen: values that stand in each other too
deep to be read, a refusal that cannot be classified, or an integer that is too large for a price or
a quantity. -/
inductive Escapes (o : Order) : Reply → Prop where
  | deep {status : Int} {body : String} {inObject : Bool}
      (read : Json.readBody body = .error (.tooDeep inObject)) : Escapes o (.answer status body)
  | refused {status : Int} {body : String} {fields : List (Text × Json)}
      (refused : 400 ≤ status) (fresh : status ≠ 418 ∧ status ≠ 429)
      (read : Json.readBody body = .ok (.object fields))
      (shape : Refusal.Unclassifiable (Json.fieldOrNull fields "msg")
        (Json.fieldOrNull fields "code")) : Escapes o (.answer status body)
  | accepted {status : Int} {body : String} {fields : List (Text × Json)}
      (accepted : status < 400) (read : Json.readBody body = .ok (.object fields))
      (large : Overflows o fields) : Escapes o (.answer status body)

variable {o : Order}

/-- What an order comes to with a reply. -/
def heard (patience : Real64) (o : Order) (reply : Reply) : Except OrderError Acknowledgement :=
  (fields patience reply).bind (acknowledgement o)

theorem escapes_refusal_iff {status : Int} {body : String} (refused : 400 ≤ status) :
    Escapes o (.answer status body) ↔
      ¬(Refusal.ofAnswer status (Json.readBody body)).IsForeseen := by
  rw [Refusal.ofAnswer_foreseen_iff, Classical.not_not]
  constructor
  · intro h
    cases h with
    | deep read => exact .inl ⟨_, read⟩
    | refused _ fresh read shape => exact .inr ⟨fresh.1, fresh.2, _, read, shape⟩
    | accepted accepted => omega
  · rintro (⟨inObject, read⟩ | ⟨ban, wait, fields, read, shape⟩)
    · exact .deep read
    · exact .refused refused ⟨ban, wait⟩ read shape

theorem heard_fault {patience : Real64} {f : Fault} (request : f.kind.isRequest = true) :
    heard patience o (.fault f) = .error (.unreachable f) := by
  simp only [heard, fields, request, if_true]
  rfl

theorem heard_refusal {patience : Real64} {status : Int} {body : String} (refused : 400 ≤ status) :
    heard patience o (.answer status body) =
      .error (Refusal.ofAnswer status (Json.readBody body)) := by
  simp only [heard, fields, refused, if_true]
  rfl

/-- A body that is too deep to be read is an error of its own, whatever the status is. -/
theorem heard_deep {patience : Real64} {status : Int} {body : String} {inObject : Bool}
    (read : Json.readBody body = .error (.tooDeep inObject)) :
    heard patience o (.answer status body) = .error (.tooDeep inObject) := by
  rcases Int.lt_or_le status 400 with accepted | refused
  · simp only [heard, fields, Int.not_le.mpr accepted, if_false, read]
    rfl
  · rw [heard_refusal refused, read]
    rfl

/-- An accepted order takes what it comes to from the fields of an object. -/
theorem heard_object {patience : Real64} {status : Int} {body : String}
    {answer : List (Text × Json)} (accepted : status < 400)
    (read : Json.readBody body = .ok (.object answer)) :
    heard patience o (.answer status body) = acknowledgement o answer := by
  simp only [heard, fields, Int.not_le.mpr accepted, if_false, read]
  rfl

/-- Without an object an accepted order comes to an error that tells so. -/
theorem heard_other (patience : Real64) (o : Order) {status : Int} {body : String}
    (accepted : status < 400)
    (other : ∀ answer, Json.readBody body ≠ .ok (.object answer)) :
    let heard := heard patience o (.answer status body)
    heard = .error .unreadable ∨ (∃ answer, heard = .error (.unexpected answer)) ∨
      ∃ inObject, heard = .error (.tooDeep inObject) ∧
        Json.readBody body = .error (.tooDeep inObject) := by
  simp only [heard, fields, Int.not_le.mpr accepted, if_false]
  split
  · exact .inl rfl
  · rename_i inObject read
    exact .inr (.inr ⟨inObject, rfl, read⟩)
  · rename_i answer read
    exact absurd read (other answer)
  · exact .inr (.inl ⟨_, rfl⟩)

/-- An error of an order with a reply that comes is foreseen, or the reply holds what nobody has
foreseen. -/
theorem heard_error {patience : Real64} {reply : Reply} {e : OrderError} (comes : Comes reply)
    (h : heard patience o reply = .error e) : e.IsForeseen ∨ Escapes o reply := by
  cases reply with
  | silence => exact comes.elim
  | fault f =>
    rw [heard_fault comes, Except.error.injEq] at h
    exact .inl (h ▸ trivial)
  | answer status body =>
    rcases Int.lt_or_le status 400 with accepted | refused
    · by_cases object : ∃ answer, Json.readBody body = .ok (.object answer)
      · obtain ⟨answer, read⟩ := object
        rw [heard_object accepted read] at h
        rcases acknowledgement_error h with ⟨fault, rfl⟩ | ⟨-, large⟩
        · exact .inl trivial
        · exact .inr (.accepted accepted read large)
      · rcases heard_other patience o accepted (not_exists.mp object) with
          told | ⟨answer, told⟩ | ⟨_, -, read⟩
        · rw [told, Except.error.injEq] at h
          exact .inl (h ▸ trivial)
        · rw [told, Except.error.injEq] at h
          exact .inl (h ▸ trivial)
        · exact .inr (.deep read)
    · rw [heard_refusal refused, Except.error.injEq] at h
      rw [escapes_refusal_iff refused, h]
      exact Classical.em _

/-- What nobody has foreseen in a reply makes an error that nobody has foreseen. -/
theorem heard_escapes (patience : Real64) {reply : Reply} (h : Escapes o reply) :
    ∃ e, heard patience o reply = .error e ∧ ¬e.IsForeseen := by
  cases h with
  | deep read => exact ⟨_, heard_deep read, id⟩
  | @refused status body fields refused fresh read shape =>
    have escapes : Escapes o (.answer status body) := .refused refused fresh read shape
    exact ⟨_, heard_refusal refused, (escapes_refusal_iff refused).mp escapes⟩
  | accepted accepted read large =>
    exact ⟨_, (heard_object accepted read).trans (acknowledgement_overflows large), id⟩

/-- With a reply that comes an order ends in the foreseen way, unless the reply holds what nobody
has foreseen. -/
theorem heard_iff (patience : Real64) {reply : Reply} (comes : Comes reply) :
    ((∃ a, heard patience o reply = .ok a) ∨
      ∃ e, heard patience o reply = .error e ∧ e.IsForeseen) ↔ ¬Escapes o reply := by
  constructor
  · intro ends escapes
    obtain ⟨e, h, unforeseen⟩ := heard_escapes patience escapes
    rcases ends with ⟨a, ok⟩ | ⟨e', error, foreseen⟩
    · rw [ok] at h
      cases h
    · rw [error, Except.error.injEq] at h
      exact unforeseen (h ▸ foreseen)
  · intro plain
    cases h : heard patience o reply with
    | ok a => exact .inl ⟨a, rfl⟩
    | error e => exact .inr ⟨e, rfl, (heard_error comes h).resolve_right plain⟩

variable {σ ν : Type}

theorem placeMarket_run (x : Exchange) (clock : σ → Int) (patience : Real64) (o : Order)
    (around : Surroundings σ ν) (w : σ × ν) :
    ((x.placeMarket clock patience o).run around w).1 =
      heard patience o (around.reply (x.request o.market (clock w.1)) w).1 := rfl

/-- **Orders end in the foreseen way.** An order whose request gets a reply, or fails, is
acknowledged or ends with one of the foreseen errors, exactly when the reply holds nothing that
nobody has foreseen. -/
theorem order_ends_iff (x : Exchange) (clock : σ → Int) (patience : Real64) (o : Order)
    (around : Surroundings σ ν) (w : σ × ν)
    (comes : Comes (around.reply (x.request o.market (clock w.1)) w).1) :
    ((∃ a, ((x.placeMarket clock patience o).run around w).1 = .ok a) ∨
      ∃ e, ((x.placeMarket clock patience o).run around w).1 = .error e ∧ e.IsForeseen) ↔
      ¬Escapes o (around.reply (x.request o.market (clock w.1)) w).1 := by
  rw [placeMarket_run]
  exact heard_iff patience comes

namespace Sample

def client : Exchange := ⟨"https://exchange", .ofInt 5, ⟨"key", "secret"⟩⟩

def order : Order := ⟨"BTCUSDT", "BUY", "0.1", none, none⟩

def refusing (body : String) : Surroundings Int Unit where
  reply _ w := (.answer 400 body, w)
  second := id

theorem refusing_reply (body : String) (r : Request) (w : Int × Unit) :
    ((refusing body).reply r w).1 = .answer 400 body := rfl

def plainCode : String := "\x7b\"code\": -2010, \"msg\": \"no\"\x7d"

def listedCode : String := "\x7b\"code\": [], \"msg\": \"no\"\x7d"

/-- What the order comes to with a body. -/
def refused (body : String) : Except OrderError Acknowledgement :=
  ((client.placeMarket id (.ofInt 10) order).run (refusing body) (1700000000000, ())).1

end Sample

open Sample in
theorem sample_refusal_foreseen :
    (∃ a, refused plainCode = .ok a) ∨ ∃ e, refused plainCode = .error e ∧ e.IsForeseen := by
  have foreseen : (Refusal.ofAnswer 400 (Json.readBody plainCode)).IsForeseen := by decide +kernel
  have plain : ¬Escapes order (.answer 400 plainCode) := by
    rw [escapes_refusal_iff (Int.le_refl 400), Classical.not_not]
    exact foreseen
  have comes : Comes (.answer 400 plainCode) := trivial
  refine (order_ends_iff client id (.ofInt 10) order (refusing plainCode) _ ?_).mpr ?_
  · rw [refusing_reply]
    exact comes
  · rw [refusing_reply]
    exact plain

open Sample in
/-- A code that is a list makes an error of another kind. -/
theorem sample_refusal_escapes :
    Comes (.answer 400 listedCode) ∧
      ¬((∃ a, refused listedCode = .ok a) ∨
        ∃ e, refused listedCode = .error e ∧ e.IsForeseen) := by
  have unforeseen : ¬(Refusal.ofAnswer 400 (Json.readBody listedCode)).IsForeseen := by
    decide +kernel
  have escapes : Escapes order (.answer 400 listedCode) :=
    (escapes_refusal_iff (Int.le_refl 400)).mpr unforeseen
  have comes : Comes (.answer 400 listedCode) := trivial
  refine ⟨comes, fun ends => ?_⟩
  rw [refused, placeMarket_run, refusing_reply] at ends
  exact (heard_iff (.ofInt 10) comes).mp ends escapes

end Exchange
end SignalDesk
