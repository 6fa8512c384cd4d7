import SignalDesk.Proofs.Exchange.Errors
import SignalDesk.Proofs.Number.Fixed

namespace SignalDesk

namespace Json

/-- A text that is not empty. -/
def said? : Json → Option Text
  | .text s => if s.isEmpty then none else some s
  | _ => none

/-- An integer. -/
def whole? : Json → Option Int
  | .int n => some n
  | _ => none

/-- Whether a value is a text, or says nothing. -/
def isMessage : Json → Bool
  | .text _ => true
  | v => !v.isTruthy

/-- Whether a value is an integer, or null. -/
def isCode : Json → Bool
  | .int _ | .null => true
  | _ => false

/-- A text that is not empty stands for itself, and what says nothing for the default. -/
theorem said?_getD {v : Json} (message : v.isMessage = true) (default : Text) :
    (if v.isTruthy then v else .text default) = .text (v.said?.getD default) := by
  cases v with
  | text s => cases empty : s.isEmpty <;> simp [isTruthy, said?, empty]
  | _ =>
    simp only [isMessage, Bool.not_eq_true'] at message
    simp [message, said?]

end Json

/-- Whether an error asks to wait. -/
def OrderError.AsksToWait (e : OrderError) : Prop := ∃ message, e = .rateLimited message

namespace Refusal

variable {status : Int} {body : Except ReadFault Json}

/-- The message that a refusal tells, if it is a text that is not empty. -/
def message? : Except ReadFault Json → Option Text
  | .ok (.object fields) => (Json.fieldOrNull fields "msg").said?
  | _ => none

/-- The code that a refusal tells, if it is an integer. -/
def code? : Except ReadFault Json → Option Int
  | .ok (.object fields) => (Json.fieldOrNull fields "code").whole?
  | _ => none

/-- Whether a body is not too deep to be read, and an object in it has a text or nothing as its
message and an integer or nothing as its code. -/
def IsPlain : Except ReadFault Json → Prop
  | .error (.tooDeep _) => False
  | .ok (.object fields) =>
    (Json.fieldOrNull fields "msg").isMessage = true ∧
      (Json.fieldOrNull fields "code").isCode = true
  | _ => True

instance : DecidablePred IsPlain
  | .error (.tooDeep _) => isFalse id
  | .ok (.object _) => inferInstanceAs (Decidable (_ ∧ _))
  | .error .malformed => isTrue trivial
  | .ok .null | .ok (.bool _) | .ok (.int _) | .ok (.real _) => isTrue trivial
  | .ok (.text _) | .ok (.list _) => isTrue trivial

/-- Whether a refusal asks to wait, by its status or by its code. -/
def AsksToWait (status : Int) (body : Except ReadFault Json) : Prop :=
  status = 418 ∨ status = 429 ∨ code? body = some (-1003) ∨ code? body = some (-1015)

instance (status : Int) (body : Except ReadFault Json) : Decidable (AsksToWait status body) :=
  inferInstanceAs (Decidable (_ ∨ _ ∨ _))

/-- An integer, or no code at all, is looked for among the codes that ask to wait. -/
theorem hasCode_wait {code : Json} (plain : code.isCode = true) :
    ∃ waits, hasCode waitCodes code = .ok waits ∧
      (waits = true ↔ code.whole? = some (-1003) ∨ code.whole? = some (-1015)) := by
  cases code with
  | int n => exact ⟨_, rfl, by simp [waitCodes, Json.whole?]⟩
  | null => exact ⟨_, rfl, by simp [Json.whole?]⟩
  | _ => cases plain

theorem isKeyFault_text {code : Json} (text : Text) (plain : code.isCode = true) :
    ∃ refused, isKeyFault (.text text) code = .ok refused := by
  obtain ⟨known, told⟩ : ∃ known, hasCode keyCodes code = .ok known := by
    cases code with
    | int | null => exact ⟨_, rfl⟩
    | _ => cases plain
  rw [isKeyFault, told, ok_bind]
  cases known <;> exact ⟨_, rfl⟩

/-- A text with a plain code is classified, and stays as it is. -/
theorem classify_text (status : Int) (text : Text) (code : Json) (plain : code.isCode = true) :
    (classify status (.text text) code).message = text ∧
      ((classify status (.text text) code).AsksToWait ↔
        status = 418 ∨ status = 429 ∨ code.whole? = some (-1003) ∨ code.whole? = some (-1015)) := by
  obtain ⟨waits, told, known⟩ := hasCode_wait plain
  obtain ⟨refused, marked⟩ := isKeyFault_text text plain
  unfold classify
  rw [told, marked]
  split
  · rename_i asked
    have asked : status = 418 ∨ status = 429 := by simpa using asked
    exact ⟨rfl, fun _ => asked.imp_right .inl, fun _ => ⟨_, rfl⟩⟩
  rename_i fresh
  have fresh : status ≠ 418 ∧ status ≠ 429 := by simpa using fresh
  simp only [fresh.1, fresh.2, false_or, ← known]
  cases waits with
  | true => exact ⟨rfl, fun _ => rfl, fun _ => ⟨_, rfl⟩⟩
  | false => cases refused <;> exact ⟨rfl, fun ⟨_, wrong⟩ => (nomatch wrong), nofun⟩

/-- A plain refusal tells its message, or the status without one, and asks to wait by its status or
its code. -/
theorem ofAnswer_plain (status : Int) (plain : IsPlain body) :
    (ofAnswer status body).message = (message? body).getD (defaultMessage status) ∧
      ((ofAnswer status body).AsksToWait ↔ AsksToWait status body) := by
  have unnamed := classify_text status (defaultMessage status) .null rfl
  cases body with
  | error fault =>
    cases fault with
    | tooDeep inObject => exact plain.elim
    | malformed => exact unnamed
  | ok document =>
    cases document with
    | object fields =>
      have classified := classify_text status
        ((Json.fieldOrNull fields "msg").said?.getD (defaultMessage status)) _ plain.2
      rw [← Json.said?_getD plain.1] at classified
      exact classified
    | _ => exact unnamed

end Refusal

namespace Exchange

/-- Whether the body of an answer acknowledges an order under a number and for a price: it is an
object whose fills tell the price, and whose executed quantity, if there is one, is a number. -/
inductive Acknowledges (body : String) : Text → Real64 → Prop where
  | told {fields : List (Text × Json)} {price : Real64}
      (read : Json.readBody body = .ok (.object fields)) (fills : FillsTell fields price)
      (executed : ∀ v, Json.field? fields "executedQty" = some v → ∃ x, v.toReal = .ok x) :
      Acknowledges body ((Json.field? fields "orderId").getD (.text "")).asText price

variable {o : Order} {status : Int} {body : String}

/-- An order with a quantity that is a number is acknowledged by what acknowledges it, and fails
with anything else. -/
theorem heard_ok_iff (patience : Real64) (accepted : status < 400)
    (numeric : ∃ x, Numeral.real? o.quantity = some x) {order : Text} {price : Real64} :
    (∃ a, heard patience o (.answer status body) = .ok a ∧ a.order = order ∧ a.price = price) ↔
      Acknowledges body order price := by
  constructor
  · rintro ⟨a, told, rfl, rfl⟩
    by_cases object : ∃ answer, Json.readBody body = .ok (.object answer)
    · obtain ⟨fields, read⟩ := object
      rw [heard_object accepted read] at told
      obtain ⟨price, executed, fills, quantity, rfl⟩ := acknowledgement_ok.mp told
      refine .told read fills fun v given => ⟨executed, ?_⟩
      rwa [executedOf, given] at quantity
    · rcases heard_other patience o accepted (not_exists.mp object) with
        failed | ⟨_, failed⟩ | ⟨_, failed, -⟩ <;> rw [failed] at told <;> cases told
  · intro acknowledged
    cases acknowledged with
    | @told fields price read fills executed =>
      have quantity : ∃ x, (executedOf o fields).toReal = .ok x := by
        unfold executedOf
        cases given : Json.field? fields "executedQty" with
        | some v => exact executed v given
        | none =>
          obtain ⟨x, numeral⟩ := numeric
          exact ⟨x, by simp [Json.toReal, numeral]⟩
      obtain ⟨x, quantity⟩ := quantity
      exact ⟨_, (heard_object accepted read).trans
        (acknowledgement_ok.mpr ⟨price, x, fills, quantity, rfl⟩), rfl, rfl⟩

/-- An accepted order that fails does not ask to wait. -/
theorem accepted_asksNot {patience : Real64} (accepted : status < 400) {e : OrderError}
    (h : heard patience o (.answer status body) = .error e) : ¬e.AsksToWait := by
  rintro ⟨message, rfl⟩
  by_cases object : ∃ answer, Json.readBody body = .ok (.object answer)
  · obtain ⟨fields, read⟩ := object
    rw [heard_object accepted read] at h
    rcases acknowledgement_error h with ⟨_, wrong⟩ | ⟨wrong, -⟩ <;> cases wrong
  · rcases heard_other patience o accepted (not_exists.mp object) with
      told | ⟨_, told⟩ | ⟨_, told, -⟩ <;> rw [told] at h <;> cases h

/-- A request that fails does so without a word of the exchange. -/
theorem fault_whole {patience : Real64} {f : Fault} {e : OrderError}
    (h : heard patience o (.fault f) = .error e) : ∃ s, e.message = .whole s := by
  simp only [heard, fields] at h
  cases h
  cases f.kind.isRequest with
  | true => exact ⟨_, rfl⟩
  | false =>
    simp only [Bool.false_eq_true, if_false, OrderError.message]
    split <;> exact ⟨_, rfl⟩

/-- So does an accepted order that fails. -/
theorem accepted_whole {patience : Real64} (accepted : status < 400) {e : OrderError}
    (h : heard patience o (.answer status body) = .error e) : ∃ s, e.message = .whole s := by
  by_cases object : ∃ answer, Json.readBody body = .ok (.object answer)
  · obtain ⟨fields, read⟩ := object
    rw [heard_object accepted read] at h
    rcases acknowledgement_error h with ⟨_, rfl⟩ | ⟨rfl, -⟩ <;> exact ⟨_, rfl⟩
  · rcases heard_other patience o accepted (not_exists.mp object) with
      told | ⟨_, told⟩ | ⟨_, told, -⟩ <;> rw [told] at h <;> cases h <;> exact ⟨_, rfl⟩

/-- The text of the exchange that is noted with the trade of an order: why it failed, or the number
of the order. -/
def noted : Except OrderError Acknowledgement → Text
  | .error e => e.message
  | .ok a => a.order

/-- Whether a reply has a torn text noted: the message of a refusal, or the number of an order that
is acknowledged. -/
inductive Tears : Reply → List Point → Prop where
  | refused {status : Int} {body : String} {points : List Point}
      {half : points.any Point.isHalf = true} (refused : 400 ≤ status)
      (message : (Refusal.ofAnswer status (Json.readBody body)).message = .torn points half) :
      Tears (.answer status body) points
  | filled {status : Int} {body : String} {points : List Point}
      {half : points.any Point.isHalf = true} {price : Real64} (accepted : status < 400)
      (acknowledged : Acknowledges body (.torn points half) price) :
      Tears (.answer status body) points

theorem tears_iff (patience : Real64) (numeric : ∃ x, Numeral.real? o.quantity = some x)
    {reply : Reply} {points : List Point} :
    Tears reply points ↔ ∃ half, noted (heard patience o reply) = .torn points half := by
  constructor
  · intro tears
    cases tears with
    | @refused _ _ _ half refused message =>
      rw [heard_refusal refused]
      exact ⟨half, message⟩
    | @filled _ _ _ half _ accepted acknowledged =>
      obtain ⟨a, told, order, -⟩ := (heard_ok_iff patience accepted numeric).mpr acknowledged
      rw [told]
      exact ⟨half, order⟩
  · rintro ⟨half, torn⟩
    cases reply with
    | silence => cases torn
    | fault f =>
      cases told : heard patience o (.fault f) with
      | ok a => cases told
      | error e =>
        obtain ⟨s, whole⟩ := fault_whole told
        rw [told, noted, whole] at torn
        cases torn
    | answer status body =>
      rcases Int.lt_or_le status 400 with accepted | refused
      · cases told : heard patience o (.answer status body) with
        | ok a =>
          rw [told] at torn
          exact .filled accepted ((heard_ok_iff patience accepted numeric).mp ⟨a, told, torn, rfl⟩)
        | error e =>
          obtain ⟨s, whole⟩ := accepted_whole accepted told
          rw [told, noted, whole] at torn
          cases torn
      · rw [heard_refusal refused] at torn
        exact .refused refused torn

end Exchange
end SignalDesk
