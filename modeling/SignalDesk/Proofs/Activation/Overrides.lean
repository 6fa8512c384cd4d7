import SignalDesk.Activation.Overrides
import SignalDesk.Proofs.Market.Fallback
import SignalDesk.Proofs.Number.Rounding

/-!
# Overrides in range

What the document of an activation may set: a positive amount that is finite, and between one and a
thousand candles (`Overrides.InRange`). Each of the two fields is read by itself and counts as not
set when it is invalid, unless one of them spoils the document: by a number that is no number, by
one out of range, or by a fraction of a candle (`overrides_in_range_iff`).
-/

namespace SignalDesk

namespace Real64

/-- A finite number is positive when it is not at most zero. -/
theorem zero_lt_finite (x : Binary64) : zero.lt (.finite x) = !(finite x).le zero := by
  simp only [lt, le, zero, Binary64.over_zero, Int.min_comm x.exponent]
  by_cases positive : 0 < x.over (min (-1074) x.exponent)
  · simp [positive]
  · simp [positive, Int.not_lt.mp positive]

/-- The integer part of a positive number is not negative. -/
theorem truncate_nonneg {x : Binary64} (positive : zero.lt (.finite x) = true) :
    0 ≤ x.truncate := by
  simp only [lt, zero, Binary64.over_zero, decide_eq_true_eq] at positive
  simp only [Binary64.truncate, (Binary64.over_pos_iff.mp positive).1]
  exact Int.natCast_nonneg _

end Real64

namespace Json

theorem IsTooLarge.toReal {v : Json} (large : v.IsTooLarge) : v.toReal = .error .tooLarge := by
  obtain ⟨n, rfl, outside⟩ := large
  cases near : Real64.ofInt n with
  | finite x => exact absurd near (outside x)
  | infinite | nan => simp only [Json.toReal, realOfInt, near]

/-- A value that is no amount and yet not passed over: a number that is none, one without end, or an
integer past all binary64 numbers. -/
inductive SpoilsAmount (v : Json) : Prop
  | nan (number : v.toReal = .ok .nan)
  | infinite (number : v.toReal = .ok (.infinite false))
  | tooLarge (number : v.IsTooLarge)

/-- A value that is no limit and yet not passed over: one that is no amount, or a fraction of one. A
truth value is passed over. -/
inductive SpoilsLimit (v : Json) : Prop
  | amount (untold : ∀ b, v ≠ .bool b) (number : v.SpoilsAmount)
  | fraction {x : Binary64} (untold : ∀ b, v ≠ .bool b) (number : v.toReal = .ok (.finite x))
      (positive : Real64.zero.lt (.finite x) = true) (none : x.truncate = 0)

/-- The amount that a value is, if it is one. -/
def amount? (v : Json) : Option Real64 :=
  v.toReal.toOption.filter fun x => x.isFinite && Real64.zero.lt x

/-- The number of candles that a value is, if it is one. -/
def limit? : Json → Option Int
  | .bool _ => none
  | v => ((v.amount?.bind Real64.truncate?).filter (0 < ·)).map (min · Overrides.maxCandleLimit)

theorem amount?_inRange {v : Json} {x : Real64} (h : v.amount? = some x) :
    x.isFinite = true ∧ Real64.zero.lt x = true := by
  simpa using (Option.filter_eq_some_iff.mp h).2

theorem limit?_inRange {v : Json} {n : Int} (h : v.limit? = some n) :
    1 ≤ n ∧ n ≤ Overrides.maxCandleLimit := by
  unfold limit? at h
  split at h
  · cases h
  · obtain ⟨k, found, rfl⟩ := Option.map_eq_some_iff.mp h
    have positive : 0 < k := by simpa using (Option.filter_eq_some_iff.mp found).2
    have bound : (0 : Int) < Overrides.maxCandleLimit := by decide
    omega

end Json

namespace Overrides

variable {v : Json} {x : Real64} {fault : NumberFault}

theorem positiveReal_of_ok (read : v.toReal = .ok x) :
    positiveReal v = .ok (if x.le .zero then none else some x) := by
  cases v with
  | null => cases read
  | _ => simp only [positiveReal, read]

theorem positiveReal_of_error (unread : v.toReal = .error fault) :
    positiveReal v = if fault.isOverflow then .error fault else .ok none := by
  cases v with
  | null =>
    cases unread
    rfl
  | _ => simp only [positiveReal, unread]

/-- A value that spoils nothing sets the amount that it is. -/
theorem positiveReal_eq (sound : ¬v.SpoilsAmount) : positiveReal v = .ok v.amount? := by
  cases read : v.toReal with
  | ok x =>
    rw [positiveReal_of_ok read, Json.amount?, read]
    cases x with
    | nan => exact absurd (.nan read) sound
    | infinite negative =>
      cases negative with
      | false => exact absurd (.infinite read) sound
      | true => rfl
    | finite x =>
      simp only [Except.toOption, Option.filter_some, Real64.isFinite, Bool.true_and,
        Real64.zero_lt_finite]
      cases (Real64.finite x).le .zero <;> rfl
  | error fault =>
    rw [positiveReal_of_error read, Json.amount?, read]
    split
    · rename_i range
      exact absurd (.tooLarge (Json.isTooLarge_of_toReal read range)) sound
    · rfl

/-- A value that spoils the amount sets one that is not finite, or breaks off. -/
theorem positiveReal_spoilt (spoilt : v.SpoilsAmount) :
    positiveReal v = .ok (some .nan) ∨ positiveReal v = .ok (some (.infinite false)) ∨
      positiveReal v = .error .tooLarge := by
  cases spoilt with
  | nan number => exact .inl (positiveReal_of_ok number)
  | infinite number => exact .inr (.inl (positiveReal_of_ok number))
  | tooLarge number => exact .inr (.inr (positiveReal_of_error number.toReal))

theorem positiveInteger_eq_map (number : ∀ b, v ≠ .bool b) :
    positiveInteger v = (positiveReal v).bind fun
      | none => .ok none
      | some x => (Json.real x).toInteger.map some := by
  cases v with
  | bool b => exact absurd rfl (number b)
  | _ =>
    simp only [positiveInteger]
    cases positiveReal _ with
    | error fault => rfl
    | ok x => cases x <;> rfl

theorem limit?_eq (number : ∀ b, v ≠ .bool b) :
    v.limit? = ((v.amount?.bind Real64.truncate?).filter (0 < ·)).map (min · maxCandleLimit) := by
  cases v with
  | bool b => exact absurd rfl (number b)
  | _ => rfl

/-- A value that spoils nothing sets the limit that it is. -/
theorem positiveInteger_eq (sound : ¬v.SpoilsLimit) :
    (positiveInteger v).map (·.map (min · maxCandleLimit)) = .ok v.limit? := by
  by_cases told : ∃ b, v = .bool b
  · obtain ⟨b, rfl⟩ := told
    rfl
  have number : ∀ b, v ≠ .bool b := fun b same => told ⟨b, same⟩
  have amount : ¬v.SpoilsAmount := fun spoilt => sound (.amount number spoilt)
  rw [positiveInteger_eq_map number, positiveReal_eq amount, limit?_eq number]
  cases found : v.amount? with
  | none => rfl
  | some x =>
    obtain ⟨finite, positive⟩ := Json.amount?_inRange found
    cases x with
    | infinite | nan => cases finite
    | finite x =>
      have read : v.toReal = .ok (.finite x) := by
        have some := (Option.filter_eq_some_iff.mp found).1
        cases read : v.toReal with
        | ok y => rw [read] at some; exact congrArg _ (Option.some.inj some)
        | error fault => rw [read] at some; cases some
      have apart : x.truncate ≠ 0 := fun none => sound (.fraction number read positive none)
      have least : 0 < x.truncate := by
        have := Real64.truncate_nonneg positive
        omega
      have kept : (some x.truncate).filter (0 < ·) = some x.truncate := by simp [least]
      simp only [Option.bind_some, Real64.truncate?, kept]
      rfl

/-- A value that spoils the limit sets none at all, or breaks off. -/
theorem positiveInteger_spoilt (spoilt : v.SpoilsLimit) :
    positiveInteger v = .ok (some 0) ∨ ∃ fault, positiveInteger v = .error fault := by
  cases spoilt with
  | amount number spoilt =>
    right
    rw [positiveInteger_eq_map number]
    rcases positiveReal_spoilt spoilt with nan | infinite | large
    · exact ⟨.nanInteger, by rw [nan]; rfl⟩
    · exact ⟨.infiniteInteger, by rw [infinite]; rfl⟩
    · exact ⟨.tooLarge, by rw [large]; rfl⟩
  | @fraction x number read positive none =>
    left
    have above : (Real64.finite x).le .zero = false := by simpa [Real64.zero_lt_finite] using positive
    rw [positiveInteger_eq_map number, positiveReal_of_ok read, above]
    simp [Except.bind, Except.map, Json.toInteger, none]

/-- Whether what is set is in range: a positive amount that is finite, and between one candle and
the most that there may be. -/
structure InRange (o : Overrides) : Prop where
  amount : ∀ x, o.quoteAmount = some x → x.isFinite = true ∧ Real64.zero.lt x = true
  limit : ∀ n, o.candleLimit = some n → 1 ≤ n ∧ n ≤ maxCandleLimit

theorem inRange_iff {o : Overrides} :
    o.InRange ↔ (o.quoteAmount.all fun x => x.isFinite && Real64.zero.lt x) = true ∧
      (o.candleLimit.all fun n => 1 ≤ n && n ≤ maxCandleLimit) = true := by
  simp only [Option.all_eq_true, Bool.and_eq_true, decide_eq_true_eq]
  exact ⟨fun range => ⟨range.amount, range.limit⟩, fun ⟨amount, limit⟩ => ⟨amount, limit⟩⟩

instance (o : Overrides) : Decidable o.InRange := decidable_of_iff' _ inRange_iff

/-- What the fields of a document set, each by itself. -/
def settings (fields : List (Text × Json)) : Overrides :=
  ⟨(Json.fieldOrNull fields quoteField).amount?, (Json.fieldOrNull fields limitField).limit?,
    fields.filter fun (name, _) => name != quoteField && name != limitField⟩

/-- Whether a value of the two fields spoils a document. -/
def Spoilt (fields : List (Text × Json)) : Prop :=
  (Json.fieldOrNull fields quoteField).SpoilsAmount ∨
    (Json.fieldOrNull fields limitField).SpoilsLimit

theorem settings_inRange (fields : List (Text × Json)) : (settings fields).InRange :=
  ⟨fun _ found => Json.amount?_inRange found, fun _ found => Json.limit?_inRange found⟩

theorem ofFields_eq {fields : List (Text × Json)} (sound : ¬Spoilt fields) :
    ofFields fields = .ok (settings fields) := by
  obtain ⟨amount, limit⟩ := not_or.mp sound
  obtain ⟨n, read, same⟩ := map_ok.mp (positiveInteger_eq limit)
  simp only [ofFields, positiveReal_eq amount, read, ok_bind, same]
  rfl

theorem ofFields_spoilt {fields : List (Text × Json)} (spoilt : Spoilt fields) {o : Overrides}
    (read : ofFields fields = .ok o) : ¬o.InRange := by
  obtain ⟨x, amount, read⟩ := bind_ok.mp read
  obtain ⟨n, limit, read⟩ := bind_ok.mp read
  obtain rfl := pure_ok.mp read
  intro range
  rcases spoilt with spoilt | spoilt
  · rcases positiveReal_spoilt spoilt with nan | infinite | large
    · rw [nan] at amount
      cases amount
      exact absurd (range.amount _ rfl).1 (by decide)
    · rw [infinite] at amount
      cases amount
      exact absurd (range.amount _ rfl).1 (by decide)
    · rw [large] at amount
      cases amount
  · rcases positiveInteger_spoilt spoilt with zero | ⟨fault, broken⟩
    · rw [zero] at limit
      cases limit
      exact absurd (range.limit _ rfl).1 (by decide)
    · rw [broken] at limit
      cases limit

/-- What a text sets: the fields of its document, each by itself, and nothing if it holds none. -/
def inText (text : Option String) : Overrides :=
  match Json.read (text.getD "") with
  | .ok (.object fields) => settings fields
  | _ => empty

/-- Whether a text goes too deep to be read, or its document is spoilt. -/
def SpoiltText (text : Option String) : Prop :=
  (∃ inObject, Json.read (text.getD "") = .error (.tooDeep inObject)) ∨
    ∃ fields, Json.read (text.getD "") = .ok (.object fields) ∧ Spoilt fields

theorem inText_inRange (text : Option String) : (inText text).InRange := by
  unfold inText
  split
  · exact settings_inRange _
  · exact ⟨nofun, nofun⟩

/-- **Overrides are in range.** A text of any kind, or none, sets the two fields in range, each by
itself and an invalid one not at all, exactly when it does not go too deep and no value of the two
fields spoils its document. What it comes to otherwise is an error or out of range. -/
theorem overrides_in_range_iff (text : Option String) :
    ((∃ o, ofText text = .ok o ∧ o.InRange) ↔ ¬SpoiltText text) ∧
      (¬SpoiltText text → ofText text = .ok (inText text)) := by
  have sound : ¬SpoiltText text → ofText text = .ok (inText text) := by
    intro sound
    obtain ⟨shallow, unspoilt⟩ := not_or.mp sound
    simp only [ofText, inText]
    cases read : Json.read (text.getD "") with
    | ok doc =>
      cases doc with
      | object fields =>
        have known : ¬Spoilt fields := fun spoilt => unspoilt ⟨fields, read, spoilt⟩
        simp only [ofFields_eq known, ok_mapError]
      | _ => rfl
    | error fault =>
      cases fault with
      | tooDeep inObject => exact absurd ⟨inObject, read⟩ shallow
      | malformed => rfl
  refine ⟨⟨?_, fun h => ⟨_, sound h, inText_inRange text⟩⟩, sound⟩
  rintro ⟨o, read, range⟩ (⟨inObject, deep⟩ | ⟨fields, document, spoilt⟩)
  · simp [ofText, deep] at read
  · simp only [ofText, document] at read
    exact ofFields_spoilt spoilt (mapError_ok.mp read) range

theorem not_set_of_any {text : String}
    (out : ((ofText (some text)).toOption.any fun o => o.InRange) = false) :
    ¬∃ o, ofText (some text) = .ok o ∧ o.InRange := by
  rintro ⟨o, read, range⟩
  simp only [read, Except.toOption, Option.any_some, range, decide_true] at out
  exact absurd out (by decide)

/-- A limit without end, one that is no number, or half a candle, and an amount that is no number or
without end: none of these documents sets what it may. -/
theorem spoilt_documents :
    (¬∃ o, ofText (some "\x7b\"candle_limit\": Infinity\x7d") = .ok o ∧ o.InRange) ∧
      (¬∃ o, ofText (some "\x7b\"candle_limit\": NaN\x7d") = .ok o ∧ o.InRange) ∧
      (¬∃ o, ofText (some "\x7b\"candle_limit\": 0.5\x7d") = .ok o ∧ o.InRange) ∧
      (¬∃ o, ofText (some "\x7b\"order_quote_amount\": NaN\x7d") = .ok o ∧ o.InRange) ∧
      ¬∃ o, ofText (some "\x7b\"order_quote_amount\": Infinity\x7d") = .ok o ∧ o.InRange := by
  refine ⟨?_, ?_, ?_, ?_, ?_⟩ <;> exact not_set_of_any (by decide +kernel)

end Overrides
end SignalDesk
