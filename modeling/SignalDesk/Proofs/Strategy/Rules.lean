import SignalDesk.Proofs.Strategy.Bounds
import SignalDesk.Proofs.Strategy.Single

namespace SignalDesk
namespace Pattern

/-- Whether a text assigns a quote to a rule, be it closed or not. -/
def opensRule (cs : List Char) : Bool :=
  (search (fun cs => ((dropName? Script.ruleNames cs).bind List.head?).filter isQuote) none
    cs).isSome

end Pattern

namespace Script

open Pattern

/-- A script with a rule assigned in a line behind it. -/
def withRule (script rule : String) : String := script ++ "customRule = \"" ++ rule ++ "\""

/-- Whether a script names its entry and its average, has no rule, and ends with a line that
assigns all it starts to. -/
structure Complete (script : String) : Prop where
  line : script.toList.getLast? = some '\n'
  entry : (entryName script.toList).isSome = true
  average : (averageName script.toList).isSome = true
  ruleless : opensRule script.toList = false
  finished : ∀ field, numeral field script.toList = none →
    cutOff (numericNames field) script.toList = false

/-- Whether a rule is visible, has no quotes, and no number for a field that a script leaves out. -/
structure Harmless (script rule : String) : Prop where
  visible : isBlank rule = false
  unquoted : rule.toList.all (!isQuote ·) = true
  silent : ∀ field, numeral field script.toList = none → numeral field rule.toList = none

/-- The line of a rule. -/
def ruleLine (rule : List Char) : List Char :=
  Pattern.line "customRule".toList ('"' :: (rule ++ ['"']))

variable {script rule : String} {field : ScriptField} {raw : String} {cs : List Char}

theorem toList_withRule :
    (withRule script rule).toList = script.toList ++ ruleLine rule.toList := by
  simp [withRule, ruleLine, Pattern.line]

theorem ruleLine_inert (rule : List Char) : Inert (ruleLine rule) :=
  ⟨'c', _, rfl, by decide, by decide, by decide, by decide⟩

theorem apart_ruleLine (h : cs.getLast? = some '\n') (rule : List Char) :
    Apart (ruleLine rule) cs := by
  obtain ⟨front, rfl⟩ := List.getLast?_eq_some_iff.mp h
  exact .inr ⟨front, '\n', rfl, by decide⟩

theorem isBlank_withRule : isBlank (withRule script rule) = false := by
  refine Bool.eq_false_iff.mpr fun blank => ?_
  have sign : '=' ∈ (withRule script rule).toList := by simp [withRule]
  exact absurd (List.all_eq_true.mp blank '=' sign) (by decide)

theorem assigned?_afterNewline {names : List String} {value : List Char → Option (List Char)}
    (h : cs.getLast? = some '\n') (back : List Char) :
    (search (fun cs => (dropName? names cs).bind value) cs.getLast? back).map String.ofList =
      assigned? names value back := by
  have fresh : startsName cs.getLast? = startsName none := by
    rw [h]
    decide
  rw [search_congr fresh]
  rfl

/-- The line of a rule has the numbers of the rule. -/
theorem numeral_ruleLine (silent : numeral field cs = none) :
    numeral field (ruleLine cs) = none := by
  have words := numericNames_areWords field
  have other : spells (numericNames field) "customRule".toList = false := by
    refine Bool.eq_false_iff.mpr fun spelled => ?_
    exact numericNames_noKeyword (spells_iff.mp spelled) (by decide)
  have closed : numeral field (cs ++ ['"']) = none := by
    have inert : Inert ['"'] := ⟨'"', [], rfl, by decide, by decide, by decide, by decide⟩
    have apart : Apart ['"'] cs := .inl ⟨'"', [], rfl, by decide⟩
    have rest := assigned?_append_none words inert apart silent (.inr rfl)
      fun c rest apart => number?_append_none inert apart
    rw [search_stop words (by decide)] at rest
    exact rest
  rw [numeral, ruleLine, assigned?_line words (by decide) (List.all_eq_true.mp (by decide)), other,
    if_neg Bool.false_ne_true, Option.map_none, Option.none_or, assigned?_stop words (by decide)]
  exact closed

theorem numeral_withRule (complete : Complete script) (harmless : Harmless script rule)
    (finite : ∀ raw, numeral field script.toList = some raw →
      ∃ x, Numeral.real? raw = some (.finite x)) :
    numeral field (withRule script rule).toList = numeral field script.toList := by
  have words := numericNames_areWords field
  have inert := ruleLine_inert rule.toList
  have apart := apart_ruleLine complete.line rule.toList
  rw [toList_withRule]
  cases written : numeral field script.toList with
  | some raw =>
    obtain ⟨x, number⟩ := finite raw written
    rw [← String.ofList_toList (s := raw)] at number
    exact assigned?_append_some words inert apart written rfl
      (fun c rest apart => number?_append_none inert apart)
      fun c rest apart read => number?_append inert apart read number
  | none =>
    have finished := complete.finished field written
    rw [numeral, assigned?_append_none words inert apart written (.inl finished)
      fun c rest apart => number?_append_none inert apart, assigned?_afterNewline complete.line]
    exact numeral_ruleLine (harmless.silent field written)

theorem word_withRule {names : List String} (complete : Complete script)
    (words : areWords names = true) (named : assigned? names word? script.toList = some raw) :
    assigned? names word? (withRule script rule).toList = some raw := by
  rw [toList_withRule]
  exact assigned?_append_some words (ruleLine_inert _) (apart_ruleLine complete.line _) named rfl
    (fun c rest apart absent => (word?_append apart).trans absent)
    fun c rest apart read => (word?_append apart).trans read

theorem ruleText_withRule (complete : Complete script) (harmless : Harmless script rule) :
    ruleText (withRule script rule).toList = some rule := by
  have words : areWords ruleNames = true := by decide
  have inert := ruleLine_inert rule.toList
  have apart := apart_ruleLine complete.line rule.toList
  have spelled : spells ruleNames "customRule".toList = true := by decide
  have own : assigned? ruleNames quotedText? (ruleLine rule.toList) = some rule := by
    rw [ruleLine, assigned?_line words (by decide) (List.all_eq_true.mp (by decide)),
      if_pos spelled]
    change (quotedText? ('"' :: (rule.toList ++ ['"'])) |>.map String.ofList).or _ = _
    have unquoted : ∀ c ∈ rule.toList, isQuote c = false := fun c mem => by
      simpa using List.all_eq_true.mp harmless.unquoted c mem
    rw [quotedText?_closed rfl rfl unquoted, Option.map_some, String.ofList_toList, Option.some_or]
  rw [toList_withRule, ruleText, assigned?, search_append_none, Option.or_none,
    assigned?_afterNewline complete.line]
  · exact own
  · -- no quote is opened in the script, so none of it is read with the rule
    intro front c rest split starts
    have here := search_eq_none.mp (Option.isNone_iff_eq_none.mp
      (Option.isSome_eq_false_iff.mp complete.ruleless)) front c rest split starts
    have apart := apart.of_suffix ⟨front, split.symm⟩
    rw [dropName?_append inert apart words]
    cases named : dropName? ruleNames (c :: rest) with
    | none => rfl
    | some target =>
      rw [named] at here
      cases target with
      | nil => rfl
      | cons d target =>
        have plain : isQuote d = false := by simpa [Option.filter] using here
        exact quotedText?_of_plain plain

/-- A visible rule is kept as it is, whatever else a strategy has. -/
theorem strategy_rule {v : Values} (h : ∀ e, strategy v = .error e → e = .ruleMissing) :
    ∃ s : Strategy Binary64, (∀ s', strategy v = .ok s' → s' = { s with customRule := v.rule }) ∧
      ((∃ e, strategy v = .error e) → s.entry = .custom) ∧ ∀ rule, isBlank rule = false →
        strategy { v with rule := some rule } = .ok { s with customRule := some rule } := by
  unfold strategy at h
  extract_lets fast slow isRsi rsiPeriod bound overbought oversold at h
  split at h
  · cases h _ rfl
  rename_i rising
  split at h
  · cases h _ rfl
  rename_i ordered
  split at h
  · cases h _ rfl
  rename_i threshold
  let s : Strategy Binary64 :=
    { entry := v.entry
      average := v.average
      fastPeriod := fast
      slowPeriod := slow
      stopLossPercent := v.stopLoss.getD (whole Strategy.defaultStopLoss)
      takeProfitPercent := v.takeProfit.getD (whole Strategy.defaultTakeProfit)
      rsiPeriod := rsiPeriod
      overbought := overbought
      oversold := oversold
      threshold := v.threshold
      customRule := none }
  -- the checks before the one of the rule do not read it
  have checked : ∀ rule, strategy { v with rule := rule } =
      if v.entry = .custom && rule.all isBlank then .error .ruleMissing
      else .ok { s with customRule := rule } :=
    fun rule => (if_neg rising).trans ((if_neg ordered).trans (if_neg threshold))
  refine ⟨s, ?_, ?_, ?_⟩
  · intro s' compiled
    rw [checked v.rule] at compiled
    split at compiled
    · cases compiled
    · cases compiled
      rfl
  · rintro ⟨e, failed⟩
    rw [checked v.rule] at failed
    split at failed
    · rename_i missing
      exact of_decide_eq_true (Bool.and_eq_true_iff.mp missing).1
    · cases failed
  · intro rule visible
    rw [checked, if_neg]
    simp [visible]

theorem Values.Of.withRule {v : Values} (said : v.Of script.toList) (complete : Complete script)
    (harmless : Harmless script rule) :
    Values.Of (withRule script rule).toList { v with rule := some rule } := by
  have numerals : ∀ field, numeral field (Script.withRule script rule).toList =
      numeral field script.toList :=
    fun field => numeral_withRule complete harmless fun raw => said.numeral_finite
  obtain ⟨entry, entryNamed⟩ := Option.isSome_iff_exists.mp complete.entry
  obtain ⟨average, averageNamed⟩ := Option.isSome_iff_exists.mp complete.average
  have readEntry := said.entry
  have readAverage := said.average
  rw [entryNamed] at readEntry
  rw [averageNamed] at readAverage
  constructor
  case fast => exact (numerals .fastPeriod).symm ▸ said.fast
  case slow => exact (numerals .slowPeriod).symm ▸ said.slow
  case stopLoss => exact (numerals .stopLossPercent).symm ▸ said.stopLoss
  case takeProfit => exact (numerals .takeProfitPercent).symm ▸ said.takeProfit
  case rsiPeriod => exact (numerals .rsiPeriod).symm ▸ said.rsiPeriod
  case overbought => exact (numerals .rsiOverbought).symm ▸ said.overbought
  case oversold => exact (numerals .rsiOversold).symm ▸ said.oversold
  case threshold => exact (numerals .priceThreshold).symm ▸ said.threshold
  case rule => exact (ruleText_withRule complete harmless).symm
  case entry =>
    rw [entryName, word_withRule complete (by decide) entryNamed]
    exact readEntry
  case average =>
    rw [averageName, word_withRule complete (by decide) averageNamed]
    exact readAverage

/-- A rule is opaque: a complete script that compiles does so with the rule in its last line, too,
and nothing of its strategy but the rule is another; and one that lacks only the rule compiles to a
strategy that is the same for each rule but for the rule itself. -/
theorem rule_verbatim {script : String} (complete : Complete script) :
    (∀ s, parse script = .ok s → ∀ rule, Harmless script rule →
      parse (withRule script rule) = .ok { s with customRule := some rule }) ∧
    (parse script = .error .ruleMissing → ∃ s : Strategy Binary64, s.entry = .custom ∧
      ∀ rule, Harmless script rule →
        parse (withRule script rule) = .ok { s with customRule := some rule }) := by
  have compiled : ∀ {v : Values} {s : Strategy Binary64}, v.Of script.toList →
      (∀ rule, isBlank rule = false →
        strategy { v with rule := some rule } = .ok { s with customRule := some rule }) →
      ∀ rule, Harmless script rule →
        parse (withRule script rule) = .ok { s with customRule := some rule } := by
    intro v s said kept rule harmless
    exact parse_ok.mpr
      ⟨isBlank_withRule, _, said.withRule complete harmless, kept rule harmless.visible⟩
  constructor
  · intro s ok
    obtain ⟨-, v, said, ok⟩ := parse_ok.mp ok
    obtain ⟨s', same, -, kept⟩ := strategy_rule fun e failed => by
      rw [ok] at failed
      cases failed
    rw [same s ok]
    exact compiled said kept
  · intro failed
    simp only [parse] at failed
    split at failed
    · cases failed
    rcases bind_error.mp failed with failed | ⟨v, read, failed⟩
    · exact (values_misread failed).elim
    · have said := values_ok.mp read
      obtain ⟨s, -, entry, kept⟩ := strategy_rule fun e failed' => by
        rw [failed] at failed'
        cases failed'
        rfl
      exact ⟨s, entry ⟨_, failed⟩, compiled said kept⟩

/-- A script with a crossing and one with a rule that is missing. -/
def sampleScript (entry : String) : String := "entryType = " ++ entry ++ "\nmaType = ema\n"

theorem sample_rule_kept :
    (∃ s, parse (sampleScript "MA_CROSSOVER") = .ok s ∧
      parse (withRule (sampleScript "MA_CROSSOVER") "close > open") =
        .ok { s with customRule := some "close > open" }) ∧
    parse (sampleScript "CUSTOM") = .error .ruleMissing ∧
    ∃ s : Strategy Binary64, parse (withRule (sampleScript "CUSTOM") "close > open") =
      .ok { s with customRule := some "close > open" } := by
  have complete : ∀ entry ∈ ["MA_CROSSOVER", "CUSTOM"], Complete (sampleScript entry) := by
    intro entry mem
    have all : ∀ entry ∈ ["MA_CROSSOVER", "CUSTOM"],
        (sampleScript entry).toList.getLast? = some '\n' ∧
        (entryName (sampleScript entry).toList).isSome = true ∧
        (averageName (sampleScript entry).toList).isSome = true ∧
        opensRule (sampleScript entry).toList = false ∧
        ∀ field ∈ fields, numeral field (sampleScript entry).toList = none →
          cutOff (numericNames field) (sampleScript entry).toList = false := by
      decide +kernel
    obtain ⟨line, named, average, ruleless, finished⟩ := all entry mem
    exact ⟨line, named, average, ruleless, fun field => finished field (mem_fields field)⟩
  have harmless : ∀ script, Harmless script "close > open" := by
    have silent : ∀ field ∈ fields, numeral field "close > open".toList = none := by decide +kernel
    exact fun script => ⟨by decide, by decide,
      fun field _ => silent field (mem_fields field)⟩
  obtain ⟨s, compiled⟩ : ∃ s, parse (sampleScript "MA_CROSSOVER") = .ok s :=
    exists_of_isOk (by decide +kernel)
  have missing : parse (sampleScript "CUSTOM") = .error .ruleMissing := by decide +kernel
  obtain ⟨s', -, kept⟩ := (rule_verbatim (complete "CUSTOM" (by decide))).2 missing
  have keeps := (rule_verbatim (complete "MA_CROSSOVER" (by decide))).1 s compiled
  exact ⟨⟨s, compiled, keeps _ (harmless _)⟩, missing, s', kept _ (harmless _)⟩

/-- A rule ends at a quote of either kind, a number in it is read as one of the script, and it is
itself read as the value of an assignment that the script breaks off in. -/
theorem sample_rules_read :
    (parse (withRule (sampleScript "MA_CROSSOVER") "it's")).map (·.customRule) =
      .ok (some "it") ∧
    (parse (sampleScript "MA_CROSSOVER")).map (·.fastPeriod) = .ok Strategy.defaultFast ∧
    (parse (withRule (sampleScript "MA_CROSSOVER") "fastLength = 3")).map (·.fastPeriod) = .ok 3 ∧
    (parse (sampleScript "MA_CROSSOVER" ++ "slowLength =\n")).isOk = true ∧
    parse (withRule (sampleScript "MA_CROSSOVER" ++ "slowLength =\n") "close > open") =
      .error (.notNumber .slowPeriod "customRule") := by
  decide +kernel

end Script
end SignalDesk
