import SignalDesk.Proofs.Strategy.Assignments
import SignalDesk.Proofs.Strategy.Checked

namespace SignalDesk
namespace Script

open Pattern

variable {field : ScriptField} {text text' : String} {word cs : List Char} {raw : String}

def fields : List ScriptField :=
  [.script, .fastPeriod, .slowPeriod, .stopLossPercent, .takeProfitPercent, .rsiPeriod,
    .rsiOverbought, .rsiOversold, .priceThreshold, .customRule, .entryType, .maType]

theorem mem_fields (field : ScriptField) : field ∈ fields := by
  cases field <;> decide

theorem numericNames_areWords (field : ScriptField) : areWords (numericNames field) = true := by
  have all : ∀ field ∈ fields, areWords (numericNames field) = true := by decide
  exact all field (mem_fields field)

/-- No name is one of two fields. -/
theorem numericNames_apart {field field' : ScriptField} {name : String}
    (h : name ∈ numericNames field) (h' : name ∈ numericNames field') : field = field' := by
  have all : ∀ field ∈ fields, ∀ field' ∈ fields, ∀ name ∈ numericNames field,
      name ∈ numericNames field' → field = field' := by
    decide
  exact all field (mem_fields field) field' (mem_fields field') name h h'

theorem numericNames_noKeyword {name : String} (h : name ∈ numericNames field) :
    name ∉ entryNames ++ averageNames ++ ruleNames := by
  have all : ∀ field ∈ fields, ∀ name ∈ numericNames field,
      name ∉ entryNames ++ averageNames ++ ruleNames := by
    decide
  exact all field (mem_fields field) name h

/-- The names that a word spells. -/
theorem spells_iff {names : List String} :
    spells names word = true ↔ String.ofList (word.map Text.folded) ∈ names := by
  simp only [spells, List.any_eq_true, beq_iff_eq]
  constructor
  · rintro ⟨name, mem, same⟩
    rwa [same, String.ofList_toList]
  · exact fun mem => ⟨_, mem, String.toList_ofList.symm⟩

/-- The number that a text starts with, behind blanks. -/
def leading (cs : List Char) : Option String := (number? (skipBlank cs)).map String.ofList

theorem numeral_line (spelled : spells (numericNames field) word = true) (field' : ScriptField) :
    numeral field' (line word cs) =
      (if field' = field then leading cs else none).or (numeral field' cs) := by
  obtain ⟨visible, chars⟩ := isValueChar_of_spells (numericNames_areWords field) spelled
  rw [numeral, assigned?_line (numericNames_areWords field') visible chars]
  split
  · rename_i spelled'
    rw [if_pos (numericNames_apart (spells_iff.mp spelled') (spells_iff.mp spelled))]
    rfl
  · rename_i other
    rw [if_neg]
    · rfl
    · rintro rfl
      exact other spelled

theorem keyword_line {names : List String} {value : List Char → Option (List Char)}
    (spelled : spells (numericNames field) word = true)
    (keyword : names ⊆ entryNames ++ averageNames ++ ruleNames) (words : areWords names = true) :
    assigned? names value (line word cs) = assigned? names value cs := by
  obtain ⟨visible, chars⟩ := isValueChar_of_spells (numericNames_areWords field) spelled
  rw [assigned?_line words visible chars, if_neg]
  · rfl
  · intro listed
    exact numericNames_noKeyword (spells_iff.mp spelled) (keyword (spells_iff.mp listed))

/-- Whether two scripts have the same numbers and name neither an entry nor an average. -/
structure SameNumbers (cs cs' : List Char) : Prop where
  numerals : ∀ field, numeral field cs = numeral field cs'
  entry : entryName cs = none ∧ entryName cs' = none
  average : averageName cs = none ∧ averageName cs' = none

theorem SameNumbers.symm {cs cs' : List Char} (h : SameNumbers cs cs') : SameNumbers cs' cs :=
  ⟨fun field => (h.numerals field).symm, h.entry.symm, h.average.symm⟩

/-- A number that a compiled script has for a field is finite. -/
theorem Values.Of.numeral_finite {v : Values} (said : v.Of cs)
    (written : numeral field cs = some raw) : ∃ x, Numeral.real? raw = some (.finite x) := by
  have ofPeriod : ∀ {field given}, optional (period field) (some raw) = .ok given →
      ∃ x, Numeral.real? raw = some (.finite x) := by
    intro field given h
    obtain ⟨_, read⟩ := optional_some h
    exact period_finite read
  have ofPercent : ∀ {field given}, optional (percent field) (some raw) = .ok given →
      ∃ x, Numeral.real? raw = some (.finite x) := by
    intro field given h
    obtain ⟨_, read⟩ := optional_some h
    exact percent_finite read
  have ofFinite : ∀ {field given}, optional (finite field) (some raw) = .ok given →
      ∃ x, Numeral.real? raw = some (.finite x) := by
    intro field given h
    obtain ⟨x, read⟩ := optional_some h
    exact ⟨x, finite_ok.mp read⟩
  have absent : ∀ {field}, numericNames field = [] → numeral field cs = none := by
    intro field empty
    rw [numeral, empty, assigned?_nil]
  cases field with
  | fastPeriod => exact ofPeriod (written ▸ said.fast)
  | slowPeriod => exact ofPeriod (written ▸ said.slow)
  | stopLossPercent => exact ofPercent (written ▸ said.stopLoss)
  | takeProfitPercent => exact ofPercent (written ▸ said.takeProfit)
  | rsiPeriod => exact ofPeriod (written ▸ said.rsiPeriod)
  | rsiOverbought => exact ofFinite (written ▸ said.overbought)
  | rsiOversold => exact ofFinite (written ▸ said.oversold)
  | priceThreshold => exact ofFinite (written ▸ said.threshold)
  | script | customRule | entryType | maType =>
    rw [absent rfl] at written
    cases written

/-- Without a name the entry is one about the index or a crossing of averages. -/
theorem entry_of_none (hasRsiPeriod : Bool) (cs : List Char) :
    ∃ e, entry none hasRsiPeriod cs = .ok e ∧
      (hasRsiPeriod = true ∧ e = .rsi ∨ hasRsiPeriod = false ∧ e.crossesAverages = true) := by
  simp only [entry]
  split
  · rename_i given
    exact ⟨_, rfl, .inl ⟨given, rfl⟩⟩
  · rename_i absent
    rw [Bool.not_eq_true] at absent
    split
    · exact ⟨_, rfl, .inr ⟨absent, rfl⟩⟩
    · exact ⟨_, rfl, .inr ⟨absent, rfl⟩⟩

theorem strategy_crossing {v : Values} (crosses : v.entry.crossesAverages = true) :
    (∃ s, strategy v = .ok s) ↔
      v.fast.getD Strategy.defaultFast < v.slow.getD Strategy.defaultSlow ∧
        ((v.overbought.isSome || v.oversold.isSome) = true →
          boundsInOrder v.oversold v.overbought = true) := by
  have plain : v.entry ≠ .rsi ∧ v.entry.crossesPrice = false ∧ v.entry ≠ .custom := by
    revert crosses
    cases v.entry <;> decide
  obtain ⟨noIndex, noPrice, noCustom⟩ := plain
  rw [← Int.not_le]
  by_cases falling : v.slow.getD Strategy.defaultSlow ≤ v.fast.getD Strategy.defaultFast
  · simp [strategy, crosses, falling]
  · by_cases ordered : boundsInOrder v.oversold v.overbought = true
    · simp [strategy, crosses, falling, noIndex, noPrice, noCustom, ordered]
    · by_cases given : (v.overbought.isSome || v.oversold.isSome) = true
      · simp only [strategy, noIndex, if_false, given]
        simp [crosses, falling, ordered]
      · simp only [strategy, noIndex, if_false, given]
        simp [crosses, falling, noPrice, noCustom]

theorem strategy_index {v : Values} (index : v.entry = .rsi) :
    (∃ s, strategy v = .ok s) ↔
      boundsInOrder (some (v.oversold.getD (whole Strategy.defaultOversold)))
        (some (v.overbought.getD (whole Strategy.defaultOverbought))) = true := by
  generalize order : boundsInOrder (some (v.oversold.getD (whole Strategy.defaultOversold)))
    (some (v.overbought.getD (whole Strategy.defaultOverbought))) = inOrder
  cases inOrder <;> simp [strategy, index, Entry.crossesAverages, Entry.crossesPrice, order]

theorem parse_isOk_of_same {s : Strategy Binary64} (visible : isBlank text' = false)
    (same : SameNumbers text.toList text'.toList) (h : parse text = .ok s) :
    ∃ s', parse text' = .ok s' := by
  obtain ⟨-, v, said, h⟩ := parse_ok.mp h
  obtain ⟨e, entry, kind⟩ := entry_of_none v.rsiPeriod.isSome text.toList
  obtain ⟨e', entry', kind'⟩ := entry_of_none v.rsiPeriod.isSome text'.toList
  have named : e = v.entry := by
    have read := said.entry
    rw [same.entry.1, entry] at read
    exact Except.ok.inj read
  subst named
  let v' : Values :=
    { v with rule := ruleText text'.toList, entry := e',
             average := if hintsSma text'.toList then .sma else .ema }
  have said' : v'.Of text'.toList :=
    { fast := same.numerals .fastPeriod ▸ said.fast
      slow := same.numerals .slowPeriod ▸ said.slow
      stopLoss := same.numerals .stopLossPercent ▸ said.stopLoss
      takeProfit := same.numerals .takeProfitPercent ▸ said.takeProfit
      rsiPeriod := same.numerals .rsiPeriod ▸ said.rsiPeriod
      overbought := same.numerals .rsiOverbought ▸ said.overbought
      oversold := same.numerals .rsiOversold ▸ said.oversold
      threshold := same.numerals .priceThreshold ▸ said.threshold
      rule := rfl
      entry := by rw [same.entry.2]; exact entry'
      average := by rw [same.average.2]; rfl }
  have compiled : ∃ s', strategy v' = .ok s' := by
    rcases kind with ⟨given, index⟩ | ⟨absent, crosses⟩
    · rcases kind' with ⟨-, index'⟩ | ⟨absent, -⟩
      · exact (strategy_index index').mpr ((strategy_index index).mp ⟨s, h⟩)
      · rw [given] at absent
        cases absent
    · rcases kind' with ⟨given, -⟩ | ⟨-, crosses'⟩
      · rw [absent] at given
        cases given
      · exact (strategy_crossing crosses').mpr ((strategy_crossing crosses).mp ⟨s, h⟩)
  obtain ⟨s', compiled⟩ := compiled
  exact ⟨s', parse_ok.mpr ⟨visible, v', said', compiled⟩⟩

theorem parse_isError_of_same (visible : isBlank text = false)
    (same : SameNumbers text.toList text'.toList) (h : ∃ e, parse text = .error e) :
    ∃ e, parse text' = .error e := by
  obtain ⟨e, failed⟩ := h
  cases compiled : parse text' with
  | error e' => exact ⟨e', rfl⟩
  | ok s =>
    obtain ⟨s', compiled'⟩ := parse_isOk_of_same visible same.symm compiled
    rw [failed] at compiled'
    cases compiled'

section Assignment

variable {name written value : String}

/-- A name stands for a word in any case. -/
theorem spells_of_dropWord? (known : name ∈ numericNames field)
    (spelled : Text.dropWord? name.toList written.toList = some []) :
    spells (numericNames field) written.toList = true := by
  have letters := letters_of_areWords (numericNames_areWords field) known
  obtain ⟨front, mapped, eq⟩ := (Text.dropWord?_eq_some letters).mp spelled
  rw [eq, List.append_nil]
  exact List.any_eq_true.mpr ⟨name, known, beq_iff_eq.mpr mapped⟩

theorem toList_assignment :
    (written ++ " = " ++ value).toList = line written.toList value.toList := by
  simp [line]

theorem isBlank_assignment : isBlank (written ++ " = " ++ value) = false := by
  refine Bool.eq_false_iff.mpr fun blank => ?_
  have sign : '=' ∈ (written ++ " = " ++ value).toList := by simp
  exact absurd (List.all_eq_true.mp blank '=' sign) (by decide)

theorem numeral_of_leading {raw : String}
    (spelled : spells (numericNames field) written.toList = true)
    (read : leading value.toList = some raw) :
    numeral field (written ++ " = " ++ value).toList = some raw := by
  rw [toList_assignment, numeral_line spelled, if_pos rfl, read]
  rfl

/-- Without another equals sign the script has no more than the one number. -/
theorem numeral_alone (spelled : spells (numericNames field) written.toList = true)
    (alone : '=' ∉ value.toList) (field' : ScriptField) :
    numeral field' (written ++ " = " ++ value).toList =
      if field' = field then leading value.toList else none := by
  rw [toList_assignment, numeral_line spelled, numeral,
    assigned?_of_noEquals (numericNames_areWords field') alone, Option.or_none]

theorem keywords_alone (spelled : spells (numericNames field) written.toList = true)
    (alone : '=' ∉ value.toList) :
    entryName (written ++ " = " ++ value).toList = none ∧
      averageName (written ++ " = " ++ value).toList = none := by
  have absent : ∀ {names : List String} {read},
      names ⊆ entryNames ++ averageNames ++ ruleNames → areWords names = true →
      assigned? names read (written ++ " = " ++ value).toList = none := by
    intro names read keyword words
    rw [toList_assignment, keyword_line spelled keyword words, assigned?_of_noEquals words alone]
  exact ⟨absent (by decide) (by decide), absent (by decide) (by decide)⟩

theorem Misread.field_alone {e : ScriptError} (h : Misread (written ++ " = " ++ value) e)
    (spelled : spells (numericNames field) written.toList = true) (alone : '=' ∉ value.toList) :
    e.field = field := by
  have numeric : ∀ {field' raw}, numeral field' (written ++ " = " ++ value).toList = some raw →
      field' = field := by
    intro field' raw found
    rw [numeral_alone spelled alone] at found
    split at found
    · assumption
    · cases found
  obtain ⟨noEntry, noAverage⟩ := keywords_alone spelled alone
  cases e with
  | empty | periodsNotRising | boundsNotRising | thresholdMissing | ruleMissing => exact h.elim
  | notNumber | notFinite | notWhole | notPositive | negative => exact numeric h.1
  | unknownEntry =>
    cases noEntry.symm.trans h.1
  | unknownAverage =>
    cases noAverage.symm.trans h.1

/-- A value that starts with anything but a finite number is refused. -/
theorem parse_error_of_leading {raw : String}
    (spelled : spells (numericNames field) written.toList = true)
    (read : leading value.toList = some raw)
    (wrong : ∀ x, Numeral.real? raw ≠ some (.finite x)) :
    ∃ e, parse (written ++ " = " ++ value) = .error e ∧
      ('=' ∉ value.toList → e.field = field) := by
  have found := numeral_of_leading spelled read
  have refused : ∀ v : Values, ¬v.Of (written ++ " = " ++ value).toList := by
    intro v said
    obtain ⟨x, finite⟩ := said.numeral_finite found
    exact wrong x finite
  cases compiled : parse (written ++ " = " ++ value) with
  | ok s =>
    obtain ⟨-, v, said, -⟩ := parse_ok.mp compiled
    exact absurd said (refused v)
  | error e =>
    refine ⟨e, rfl, fun alone => ?_⟩
    rw [parse, isBlank_assignment, if_neg Bool.false_ne_true] at compiled
    rcases bind_error.mp compiled with failed | ⟨v, said, -⟩
    · exact (values_misread failed).field_alone spelled alone
    · exact absurd (values_ok.mp said) (refused v)

end Assignment

/-- When the assignment of a value to the name of a number is refused: whenever the value starts
with a text that is no finite number, and, where no other assignment follows, exactly when what it
starts with is refused by itself. What stands behind that is not looked at, and a value that starts
with none at all is taken for absent. -/
theorem assigned_value_checked {name written : String} (known : name ∈ numericNames field)
    (spelled : Text.dropWord? name.toList written.toList = some []) (value : String) :
    (∀ raw, leading value.toList = some raw → (∀ x, Numeral.real? raw ≠ some (.finite x)) →
      ∃ e, parse (written ++ " = " ++ value) = .error e ∧
        ('=' ∉ value.toList → e.field = field)) ∧
    ('=' ∉ value.toList →
      ((∃ e, parse (written ++ " = " ++ value) = .error e) ↔
        ∃ raw, leading value.toList = some raw ∧
          ∃ e, parse (written ++ " = " ++ raw) = .error e)) := by
  have known := spells_of_dropWord? known spelled
  refine ⟨fun raw read wrong => parse_error_of_leading known read wrong, fun alone => ?_⟩
  have numbers := numeral_alone known alone
  have keywords := keywords_alone known alone
  have visible : ∀ value, isBlank (written ++ " = " ++ value) = false := fun _ => isBlank_assignment
  cases read : leading value.toList with
  | none =>
    simp only [read, ite_self] at numbers
    have same : SameNumbers "x".toList (written ++ " = " ++ value).toList :=
      { numerals := fun field' => by
          rw [numbers, numeral, assigned?_of_noEquals (numericNames_areWords field') (by decide)]
        entry := ⟨by decide, keywords.1⟩
        average := ⟨by decide, keywords.2⟩ }
    obtain ⟨s, plain⟩ : ∃ s, parse "x" = .ok s := exists_of_isOk (by decide +kernel)
    obtain ⟨s', compiled⟩ := parse_isOk_of_same (visible value) same plain
    simp [compiled]
  | some raw =>
    obtain ⟨chars, number, rfl⟩ := Option.map_eq_some_iff.mp read
    obtain ⟨again, bare⟩ := number?_again number
    have bare' : '=' ∉ (String.ofList chars).toList := by rwa [String.toList_ofList]
    have reread : leading (String.ofList chars).toList = some (String.ofList chars) := by
      rw [leading, String.toList_ofList, again]
      rfl
    have keywords' := keywords_alone known bare'
    have same : SameNumbers (written ++ " = " ++ value).toList
        (written ++ " = " ++ String.ofList chars).toList :=
      { numerals := fun field' => by rw [numbers, numeral_alone known bare', read, reread]
        entry := ⟨keywords.1, keywords'.1⟩
        average := ⟨keywords.2, keywords'.2⟩ }
    constructor
    · exact fun failed => ⟨_, rfl, parse_isError_of_same (visible value) same failed⟩
    · rintro ⟨_, ⟨⟩, failed⟩
      exact parse_isError_of_same (visible _) same.symm failed

theorem sample_word_refused :
    Text.dropWord? "fastlength".toList "fastLength".toList = some [] ∧
      ∃ e, parse ("fastLength" ++ " = " ++ "abc") = .error e ∧ e.field = .fastPeriod := by
  have none : Numeral.real? "abc" = none := by decide
  have known : "fastlength" ∈ numericNames .fastPeriod := by decide
  have spelled : Text.dropWord? "fastlength".toList "fastLength".toList = some [] := by
    decide
  have read : leading "abc".toList = some "abc" := by decide
  obtain ⟨e, failed, about⟩ :=
    (assigned_value_checked known spelled "abc").1 "abc" read fun x => by simp [none]
  exact ⟨spelled, e, failed, about (by decide)⟩

/-- A quoted word is taken for an absent value, and of a text that starts with a number only the
number is read. -/
theorem sample_text_ignored :
    (parse "fastLength = \"abc\"").map (·.fastPeriod) = .ok Strategy.defaultFast ∧
      (parse "fastLength = 5 minutes").map (·.fastPeriod) = .ok 5 := by
  decide +kernel

end Script
end SignalDesk
