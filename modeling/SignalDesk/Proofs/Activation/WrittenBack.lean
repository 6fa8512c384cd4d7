import SignalDesk.Proofs.Activation.Overrides
import SignalDesk.Proofs.Number.Whole

namespace SignalDesk

namespace Json

variable {name other : Text} {v : Json} {fields : List (Text × Json)}

theorem field?_cons {f : Text × Json} :
    field? (f :: fields) name = if name = f.1 then some f.2 else field? fields name := by
  obtain ⟨k, w⟩ := f
  by_cases same : name = k
  · subst same
    simp [field?]
  · simp only [field?, List.lookup_cons, beq_false_of_ne same, if_neg same]

theorem field?_setField : field? (setField name v fields) other =
    if other = name then some v else field? fields other := by
  induction fields with
  | nil => simp only [setField, field?_cons]
  | cons f fields ih =>
    obtain ⟨k, w⟩ := f
    by_cases here : k = name
    · subst here
      by_cases same : other = k <;> simp [setField, field?_cons, same]
    · by_cases same : other = k
      · subst same
        simp [setField, field?_cons, here]
      · simp only [setField, if_neg here, field?_cons, if_neg same, ih]

/-- A field that is left out does not matter. -/
theorem filter_setField {p : Text → Bool} (out : p name = false) :
    (setField name v fields).filter (fun f => p f.1) = fields.filter fun f => p f.1 := by
  induction fields with
  | nil => simp [setField, out]
  | cons f fields ih =>
    obtain ⟨k, w⟩ := f
    by_cases here : k = name
    · subst here
      simp [setField, out]
    · simp only [setField, if_neg here, List.filter_cons, ih]

theorem field?_filter (p : Text → Bool) :
    field? (fields.filter fun f => p f.1) name = if p name then field? fields name else none := by
  induction fields with
  | nil => simp [field?]
  | cons f fields ih =>
    by_cases same : name = f.1
    · subst same
      by_cases kept : p f.1 = true
      · simp only [List.filter_cons, kept, if_true, field?_cons]
      · simp only [List.filter_cons, kept, Bool.false_eq_true, if_false, ih]
    · by_cases kept : p f.1 = true
      · simp only [List.filter_cons, kept, if_true, field?_cons, if_neg same, ih]
      · simp only [List.filter_cons, kept, Bool.false_eq_true, if_false, field?_cons, if_neg same,
          ih]

theorem mem_names_setField {k : Text} :
    k ∈ (setField name v fields).map Prod.fst ↔ k = name ∨ k ∈ fields.map Prod.fst := by
  induction fields with
  | nil => simp [setField]
  | cons f fields ih =>
    obtain ⟨l, w⟩ := f
    by_cases here : l = name
    · subst here
      simp [setField]
    · simp only [setField, if_neg here, List.map_cons, List.mem_cons, ih]
      exact or_left_comm

/-- To set a field gives no name a second time. -/
theorem nodup_setField (h : (fields.map Prod.fst).Nodup) :
    ((setField name v fields).map Prod.fst).Nodup := by
  induction fields with
  | nil => simp [setField]
  | cons f fields ih =>
    obtain ⟨k, w⟩ := f
    rw [List.map_cons, List.nodup_cons] at h
    by_cases here : k = name
    · subst here
      simpa [setField] using h
    · rw [setField, if_neg here, List.map_cons, List.nodup_cons]
      refine ⟨?_, ih h.2⟩
      intro again
      rcases mem_names_setField.mp again with same | before
      · exact here same
      · exact h.1 before

/-- Whether a value is a number of candles above none and below one. A truth value is no number of
candles. -/
structure IsFraction (v : Json) : Prop where
  untold : ∀ b, v ≠ .bool b
  cut : ∃ x, v.toReal = .ok (.finite x) ∧ Real64.zero.lt (.finite x) = true ∧ x.truncate = 0

end Json

namespace Overrides

variable {v : Json} {x : Real64} {n : Int} {fields : List (Text × Json)} {o : Overrides}

theorem positiveReal_some (h : positiveReal v = .ok (some x)) :
    v.toReal = .ok x ∧ x.le .zero = false := by
  cases read : v.toReal with
  | ok y =>
    rw [positiveReal_of_ok read] at h
    by_cases low : y.le .zero = true
    · simp [low] at h
    · have high : y.le .zero = false := by simpa using low
      rw [high] at h
      cases h
      exact ⟨rfl, high⟩
  | error fault =>
    rw [positiveReal_of_error read] at h
    split at h <;> cases h

/-- An amount that was set is set again as it is. -/
theorem positiveReal_again (h : positiveReal v = .ok (some x)) :
    positiveReal (.real x) = .ok (some x) := by
  have number : (Json.real x).toReal = .ok x := rfl
  rw [positiveReal_of_ok number, (positiveReal_some h).2]
  rfl

/-- A limit that was set is the integer part of a positive number. -/
theorem positiveInteger_some (h : positiveInteger v = .ok (some n)) :
    (∀ b, v ≠ .bool b) ∧ ∃ x, v.toReal = .ok (.finite x) ∧
      Real64.zero.lt (.finite x) = true ∧ x.truncate = n := by
  have untold : ∀ b, v ≠ .bool b := by
    rintro b rfl
    cases h
  rw [positiveInteger_eq_map untold] at h
  obtain ⟨found, amount, h⟩ := bind_ok.mp h
  cases found with
  | none => cases h
  | some x =>
    obtain ⟨read, high⟩ := positiveReal_some amount
    cases x with
    | infinite | nan => cases h
    | finite x =>
      refine ⟨untold, x, read, ?_, ?_⟩
      · rw [Real64.zero_lt_finite, high]
        rfl
      · obtain ⟨k, part, same⟩ := map_ok.mp h
        cases part
        exact Option.some.inj same

/-- An integer that is not rounded is set as it is, if it is positive. -/
theorem positiveInteger_int (bits : n.natAbs < 2 ^ 53) :
    positiveInteger (.int n) = .ok (if 0 < n then some n else none) := by
  obtain ⟨y, rounded, whole⟩ := Real64.ofInt_whole (n := n) (k := 0) bits (by decide) (by omega)
  have read : (Json.int n).toReal = .ok (.finite y) := by
    simp only [Json.toReal, Json.realOfInt, rounded]
  have zero : (⟨false, 0, -1074⟩ : Binary64).Is 0 := by
    rw [Binary64.Is, Binary64.whole_iff_over _ _ (Int.le_refl _) (by decide), Binary64.over_zero,
      Int.zero_mul]
  have sign : (Real64.finite y).le .zero = !decide (0 < n) := by
    rw [← Real64.lt_whole zero whole]
    exact (Bool.not_eq_eq_eq_not.mpr (Real64.zero_lt_finite y)).symm
  have part : y.truncate = n := by
    simp only [Binary64.Is, Bool.and_eq_true, beq_iff_eq] at whole
    exact whole.2
  rw [positiveInteger_eq_map (by simp), positiveReal_of_ok read, sign]
  by_cases positive : 0 < n
  · simp [positive, Except.bind, Json.toInteger, Except.map, part]
  · simp [positive, Except.bind]

theorem ofFields_ok (read : ofFields fields = .ok o) :
    ∃ limit, positiveReal (Json.fieldOrNull fields quoteField) = .ok o.quoteAmount ∧
      positiveInteger (Json.fieldOrNull fields limitField) = .ok limit ∧
        o.candleLimit = limit.map (min · maxCandleLimit) ∧
          o.extras = fields.filter fun f => f.1 != quoteField && f.1 != limitField := by
  obtain ⟨amount, quote, read⟩ := bind_ok.mp read
  obtain ⟨limit, part, read⟩ := bind_ok.mp read
  obtain rfl := pure_ok.mp read
  exact ⟨limit, quote, part, rfl, rfl⟩

/-- A limit that was set is between no candle and the most that there may be. -/
theorem candleLimit_bounds (read : ofFields fields = .ok o) (set : o.candleLimit = some n) :
    0 ≤ n ∧ n ≤ maxCandleLimit := by
  obtain ⟨limit, -, part, capped, -⟩ := ofFields_ok read
  rw [capped] at set
  obtain ⟨k, rfl, rfl⟩ := Option.map_eq_some_iff.mp set
  obtain ⟨-, x, -, positive, rfl⟩ := positiveInteger_some part
  have least := Real64.truncate_nonneg positive
  have most : maxCandleLimit = 1000 := rfl
  omega

/-- A limit of no candle was a fraction of one. -/
theorem candleLimit_zero_iff (read : ofFields fields = .ok o) :
    o.candleLimit = some 0 ↔ (Json.fieldOrNull fields limitField).IsFraction := by
  obtain ⟨limit, -, part, capped, -⟩ := ofFields_ok read
  rw [capped]
  constructor
  · intro none
    obtain ⟨k, rfl, least⟩ := Option.map_eq_some_iff.mp none
    obtain ⟨untold, x, number, positive, rfl⟩ := positiveInteger_some part
    have most : maxCandleLimit = 1000 := rfl
    exact ⟨untold, x, number, positive, by omega⟩
  · rintro ⟨untold, x, number, positive, cut⟩
    have above : (Real64.finite x).le .zero = false := by
      simpa [Real64.zero_lt_finite] using positive
    rw [positiveInteger_eq_map untold, positiveReal_of_ok number, above] at part
    cases part
    simp [cut, maxCandleLimit]

/-- A field of the document that overrides make up. -/
theorem field?_fields (read : ofFields fields = .ok o) (name : Text) :
    Json.field? o.fields name =
      if name = limitField then o.candleLimit.map .int
      else if name = quoteField then o.quoteAmount.map .real
      else Json.field? fields name := by
  obtain ⟨-, -, -, -, extras⟩ := ofFields_ok read
  have others : Json.field? o.extras name =
      if name != quoteField && name != limitField then Json.field? fields name else none := by
    rw [extras]
    exact Json.field?_filter fun name => name != quoteField && name != limitField
  have apart : quoteField ≠ limitField := by decide
  unfold Overrides.fields
  cases o.candleLimit <;> cases o.quoteAmount <;>
    simp only [Option.map_some, Option.map_none, Json.field?_setField, others] <;>
    by_cases limit : name = limitField <;> by_cases quote : name = quoteField <;>
    simp_all

/-- The other fields of the document that overrides make up. -/
theorem filter_fields (o : Overrides) :
    (o.fields.filter fun f => f.1 != quoteField && f.1 != limitField) =
      o.extras.filter fun f => f.1 != quoteField && f.1 != limitField := by
  have quote : (quoteField != quoteField && quoteField != limitField) = false := by decide
  have limit : (limitField != quoteField && limitField != limitField) = false := by decide
  unfold Overrides.fields
  cases o.candleLimit <;> cases o.quoteAmount <;>
    simp only [Option.map_some, Option.map_none,
      Json.filter_setField (p := fun name => name != quoteField && name != limitField) limit,
      Json.filter_setField (p := fun name => name != quoteField && name != limitField) quote]

/-- Overrides that are read from what they make up: a limit of no candle is not set any more, and
all else is as it was. -/
theorem ofFields_fields (read : ofFields fields = .ok o) :
    ofFields o.fields = .ok { o with candleLimit := o.candleLimit.filter (0 < ·) } := by
  obtain ⟨limit, amount, part, capped, extras⟩ := ofFields_ok read
  have quote : positiveReal (Json.fieldOrNull o.fields quoteField) = .ok o.quoteAmount := by
    have apart : quoteField ≠ limitField := by decide
    rw [Json.fieldOrNull, field?_fields read, if_neg apart, if_pos rfl]
    cases set : o.quoteAmount with
    | none => rfl
    | some x =>
      rw [set] at amount
      exact positiveReal_again amount
  have cut : positiveInteger (Json.fieldOrNull o.fields limitField) =
      .ok (o.candleLimit.filter (0 < ·)) := by
    rw [Json.fieldOrNull, field?_fields read, if_pos rfl]
    cases set : o.candleLimit with
    | none => rfl
    | some n =>
      have bounds := candleLimit_bounds read set
      have most : maxCandleLimit = 1000 := rfl
      have bits : n.natAbs < 2 ^ 53 := by omega
      rw [Option.filter_some]
      simpa using positiveInteger_int bits
  have kept : (o.candleLimit.filter (0 < ·)).map (min · maxCandleLimit) =
      o.candleLimit.filter (0 < ·) := by
    cases set : o.candleLimit with
    | none => rfl
    | some n =>
      have most := (candleLimit_bounds read set).2
      rw [Option.filter_some]
      by_cases positive : 0 < n
      · simp only [positive, decide_true, if_true, Option.map_some, Int.min_eq_left most]
      · simp only [positive, decide_false, Bool.false_eq_true, if_false, Option.map_none]
  have others : (o.fields.filter fun f => f.1 != quoteField && f.1 != limitField) = o.extras := by
    rw [filter_fields, extras, List.filter_filter]
    simp only [Bool.and_self]
  unfold ofFields
  rw [quote, ok_bind, cut, ok_bind, kept]
  exact congrArg (fun extras => Except.ok (Overrides.mk _ _ extras)) others

theorem nodup_fields (read : ofFields fields = .ok o) (once : (fields.map Prod.fst).Nodup) :
    (o.fields.map Prod.fst).Nodup := by
  obtain ⟨-, -, -, -, extras⟩ := ofFields_ok read
  have others : (o.extras.map Prod.fst).Nodup := by
    rw [extras]
    exact once.sublist (List.filter_sublist.map _)
  unfold Overrides.fields
  cases o.candleLimit with
  | none =>
    cases o.quoteAmount with
    | none => exact others
    | some x => exact Json.nodup_setField others
  | some n =>
    cases o.quoteAmount with
    | none => exact Json.nodup_setField others
    | some x => exact Json.nodup_setField (Json.nodup_setField others)

/-- **Overrides read back.** Of every document that can be used: the overrides that it sets make up
one that has all its other fields with the values that they had, no further ones but the two, and no
name twice. Read from there the overrides are the same exactly when the limit was not a fraction of
a candle; then it is not set any more, and all else is the same. -/
theorem overrides_read_back (read : ofFields fields = .ok o) :
    (ofFields o.fields = .ok o ↔ ¬(Json.fieldOrNull fields limitField).IsFraction) ∧
      ofFields o.fields = .ok { o with candleLimit := o.candleLimit.filter (0 < ·) } ∧
      (∀ name : Text, name ≠ quoteField → name ≠ limitField →
        Json.field? o.fields name = Json.field? fields name) ∧
      ((fields.map Prod.fst).Nodup → (o.fields.map Prod.fst).Nodup) := by
  have again := ofFields_fields read
  refine ⟨?same, again, ?others, nodup_fields read⟩
  case same =>
    rw [← candleLimit_zero_iff read, again]
    constructor
    · intro same none
      have limit := congrArg Overrides.candleLimit (Except.ok.inj same)
      simp [none] at limit
    · intro some
      congr 1
      cases o with
      | mk quote limit extras =>
      cases limit with
      | none => rfl
      | some n =>
        have least := (candleLimit_bounds read rfl).1
        have apart : n ≠ 0 := fun zero => some (congrArg _ zero)
        have positive : 0 < n := by omega
        simp [positive]
  case others =>
    intro name quote limit
    rw [field?_fields read, if_neg limit, if_neg quote]

/-- An amount of 20, 300 candles and a note. -/
def sampleFields : List (Text × Json) :=
  [("note", .text "slow"), (quoteField, .int 20), (limitField, .int 300)]

/-- The amount, the candles and the note are all read back. -/
theorem sample_read_back : ∃ o, ofFields sampleFields = .ok o ∧ o.candleLimit = some 300 ∧
    ofFields o.fields = .ok o ∧ Json.field? o.fields "note" = some (.text "slow") := by
  have set : ((ofFields sampleFields).toOption.any fun o => o.candleLimit = some 300) = true := by
    decide +kernel
  cases read : ofFields sampleFields with
  | error fault => simp [read, Except.toOption] at set
  | ok o =>
    have limit : o.candleLimit = some 300 := by simpa [read, Except.toOption] using set
    obtain ⟨stable, -, others, -⟩ := overrides_read_back read
    refine ⟨o, rfl, limit, ?_, others "note" (by decide) (by decide)⟩
    apply stable.mpr
    rw [← candleLimit_zero_iff read, limit]
    decide

/-- Half a candle is cut to no candle, and that is no limit when it is read back. -/
theorem half_candle_lost : ∃ o, ofText (some "\x7b\"candle_limit\": 0.5\x7d") = .ok o ∧
    o.candleLimit = some 0 ∧ ofFields o.fields ≠ .ok o := by
  have lost : ((ofText (some "\x7b\"candle_limit\": 0.5\x7d")).toOption.any fun o =>
      o.candleLimit = some 0 && (ofFields o.fields).toOption.any (·.candleLimit = none)) = true := by
    decide +kernel
  cases read : ofText (some "\x7b\"candle_limit\": 0.5\x7d") with
  | error fault => simp [read, Except.toOption] at lost
  | ok o =>
    simp only [read, Except.toOption, Option.any_some, Bool.and_eq_true, decide_eq_true_eq] at lost
    refine ⟨o, rfl, lost.1, ?_⟩
    intro same
    simp [same, lost.1] at lost

end Overrides
end SignalDesk
