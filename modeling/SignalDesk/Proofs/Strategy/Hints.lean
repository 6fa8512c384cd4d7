import SignalDesk.Proofs.Strategy.LowerCase
import SignalDesk.Proofs.Text.Search

namespace SignalDesk
namespace Pattern

open Text

theorem isSome_dropWord? {w : List Char} (letters : w.all isLetter = true) (cs : List Char) :
    (Text.dropWord? w cs).isSome = w.isPrefixOf (cs.map folded) := by
  induction w generalizing cs with
  | nil => rfl
  | cons a w ih =>
    obtain ⟨first, letters⟩ := Bool.and_eq_true_iff.mp letters
    cases cs with
    | nil => rfl
    | cons c cs =>
      simp only [List.map_cons, Text.dropWord?, reads_iff first, List.isPrefixOf]
      by_cases same : folded c = a
      · simp [same, ih letters]
      · simp [same, Ne.symm same]

theorem mentions_eq {word : String} (letters : word.toList.all isLetter = true)
    (visible : word.toList ≠ []) (cs : List Char) :
    mentions word cs = occursIn word.toList (cs.map folded) := by
  induction cs with
  | nil =>
    cases word : word.toList with
    | nil => exact absurd word visible
    | cons a w => rfl
  | cons c cs ih =>
    rw [mentions, isSome_dropWord? letters, ih, List.map_cons, occursIn]

theorem mentions_sma (cs : List Char) :
    mentions "ta.sma" cs = occursIn "ta.sma".toList (cs.map folded) :=
  mentions_eq (by decide) (by decide) cs

section Stop

variable {needle : List Char} {f : Char → Char} {c : Char}

/-- A word stands on one side of a character that ends a value. -/
theorem occursIn_stop (visible : needle ≠ []) (value : ∀ c, f c ∈ needle → isValueChar c = true)
    (stop : isValueChar c = false) (front cs : List Char) :
    occursIn needle ((front ++ c :: cs).map f) =
      (occursIn needle (front.map f) || occursIn needle (cs.map f)) := by
  rw [List.map_append, List.map_cons]
  refine occursIn_apart visible (fun mem => ?_) _ _
  rw [value c mem] at stop
  cases stop

theorem occursIn_start (visible : needle ≠ []) (value : ∀ c, f c ∈ needle → isValueChar c = true)
    (stop : isValueChar c = false) (cs : List Char) :
    occursIn needle ((c :: cs).map f) = occursIn needle (cs.map f) := by
  have split := occursIn_stop visible value stop [] cs
  rw [List.nil_append] at split
  rw [split]
  simp [occursIn, visible]

theorem occursIn_stops {back : List Char} (visible : needle ≠ [])
    (value : ∀ c, f c ∈ needle → isValueChar c = true) (stops : Stops back) (front : List Char) :
    occursIn needle ((front ++ back).map f) =
      (occursIn needle (front.map f) || occursIn needle (back.map f)) := by
  cases back with
  | nil => simp [occursIn, visible]
  | cons c back =>
    have stop : isValueChar c = false := stops c rfl
    rw [occursIn_stop visible value stop, occursIn_start visible value stop]

end Stop

theorem isValueChar_of_folded_mem {needle : List Char} (letters : needle.all isLetter = true)
    (c : Char) (h : folded c ∈ needle) : isValueChar c = true :=
  isValueChar_of_folded (List.all_eq_true.mp letters _ h)

theorem isValueChar_of_toLower_mem {needle : List Char} (values : needle.all isValueChar = true)
    (c : Char) (h : c.toLower ∈ needle) : isValueChar c = true := by
  rw [← isValueChar_toLower]
  exact List.all_eq_true.mp values _ h

end Pattern

namespace Script

open Pattern Text

/-- Whether a script speaks of crossing downwards. -/
def speaksDown (cs : List Char) : Bool :=
  Text.occursIn "crossunder".toList (cs.map Char.toLower)

/-- Whether two scripts say the same, but for their rules. -/
structure SameButRule (cs cs' : List Char) : Prop where
  numerals : ∀ field, numeral field cs' = numeral field cs
  entry : entryName cs' = entryName cs
  average : averageName cs' = averageName cs
  falls : speaksDown cs' = speaksDown cs
  hints : hintsSma cs' = hintsSma cs

theorem entry_same {named : Option String} {hasRsiPeriod : Bool} {cs cs' : List Char}
    (falls : speaksDown cs' = speaksDown cs) :
    entry named hasRsiPeriod cs' = entry named hasRsiPeriod cs := by
  unfold speaksDown at falls
  unfold entry
  rw [falls]

theorem average_same {named : Option String} {cs cs' : List Char}
    (hints : hintsSma cs' = hintsSma cs) : average named cs' = average named cs := by
  unfold average
  rw [hints]

theorem values_ofSame {cs cs' : List Char} (same : SameButRule cs cs') :
    values cs' = (values cs).map fun v => { v with rule := ruleText cs' } := by
  have fast := same.numerals .fastPeriod
  have slow := same.numerals .slowPeriod
  have stopLoss := same.numerals .stopLossPercent
  have takeProfit := same.numerals .takeProfitPercent
  have rsiPeriod := same.numerals .rsiPeriod
  have overbought := same.numerals .rsiOverbought
  have oversold := same.numerals .rsiOversold
  have threshold := same.numerals .priceThreshold
  have named := same.entry
  have averaged := same.average
  simp only [numeral, numericNames] at fast slow stopLoss takeProfit
  simp only [numeral, numericNames] at rsiPeriod overbought oversold threshold
  simp only [entryName, averageName] at named averaged
  simp only [values, fast, slow, stopLoss, takeProfit, rsiPeriod, overbought, oversold, threshold,
    named, averaged, entry_same same.falls, average_same same.hints, map_bind]
  rfl

/-- A strategy has the rule that its values have, and nothing else of it depends on the rule as long
as it is blank or not. -/
theorem strategy_withRule {v : Values} {rule : Option String}
    (blank : rule.all isBlank = v.rule.all isBlank) :
    strategy { v with rule } = (strategy v).map fun s => { s with customRule := rule } := by
  simp only [strategy, blank, apply_ite (Except.map _)]
  rfl

theorem parse_ofSame {text text' : String} (visible : isBlank text' = isBlank text)
    (same : SameButRule text.toList text'.toList)
    (blank : (ruleText text'.toList).all isBlank = (ruleText text.toList).all isBlank) :
    parse text' = (parse text).map fun s => { s with customRule := ruleText text'.toList } := by
  simp only [parse, visible, values_ofSame same]
  split
  · rfl
  · cases read : values text.toList with
    | error e => rfl
    | ok v =>
      have rule : v.rule = ruleText text.toList := (values_ok.mp read).rule
      rw [← rule] at blank
      exact strategy_withRule blank

theorem parse_rule {text : String} {s : Strategy Binary64} (h : parse text = .ok s) :
    s.customRule = ruleText text.toList := by
  obtain ⟨-, v, said, compiled⟩ := parse_ok.mp h
  have kept := strategy_withRule (v := v) rfl
  rw [show { v with rule := v.rule } = v from rfl, compiled] at kept
  rw [← said.rule]
  exact congrArg Strategy.customRule (Except.ok.inj kept)

/-- Scripts that say the same compile alike. -/
theorem parse_congr {text text' : String} (visible : isBlank text' = isBlank text)
    (same : SameButRule text.toList text'.toList)
    (rule : ruleText text'.toList = ruleText text.toList) : parse text' = parse text := by
  rw [parse_ofSame visible same (congrArg (Option.all isBlank) rule), rule]
  cases compiled : parse text with
  | error e => rfl
  | ok s =>
    rw [← parse_rule compiled]
    rfl

end Script
end SignalDesk
