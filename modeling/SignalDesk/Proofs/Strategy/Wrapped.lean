import SignalDesk.Proofs.Strategy.Hints
import SignalDesk.Proofs.Strategy.Literals

namespace SignalDesk
namespace Pattern

open Text

variable {β : Type} {p : List Char → Option β} {front cs cs' : List Char} {names : List String}
  {value : List Char → Option (List Char)}

theorem line_stops (cs : List Char) : Stops (line [] cs) := fun _ eq => Option.some.inj eq ▸ rfl

theorem line_append (y cs : List Char) : line y cs = y ++ line [] cs := rfl

/-- A search gives related results for two assignments when what it gives in front of their signs is
related, and it gives the same behind them. -/
theorem search_line_rel {r : β → β → Prop} (refl : ∀ b, r b b) (lettered : Lettered p)
    (behind : search p none cs = search p none cs')
    (here : ∀ y, y <:+ front → y ≠ [] → Option.Rel r (p (line y cs)) (p (line y cs'))) :
    Option.Rel r (search p none (line front cs)) (search p none (line front cs')) := by
  have fresh : startsName (some ' ') = startsName none := by decide
  have skip : ∀ before cs, search p before (line [] cs) = search p none cs := by
    intro before cs
    rw [line, List.nil_append, lettered.search_skip (by decide), lettered.search_skip (by decide),
      lettered.search_skip (by decide), search_congr fresh]
  refine search_append_rel (fun c rest suffix => here _ suffix (List.cons_ne_nil c rest)) ?_
  change Option.Rel r (search p _ (line [] cs)) (search p _ (line [] cs'))
  rw [skip, skip, behind]
  cases search p none cs' with
  | none => exact .none
  | some b => exact .some (refl b)

theorem dropName?_suffix {rest : List Char} (words : areWords names = true)
    (h : dropName? names cs = some rest) : rest <:+ cs := by
  obtain ⟨name, mem, behind, word, sign⟩ := dropName?_some h
  rw [dropEquals?_eq] at sign
  exact (dropSign?_suffix sign).trans (dropWord?_suffix (letters_of_areWords words mem) word)

/-- What an assignment gives in front of the sign of another one: the value of that one, where its
name is the text, or what is read from the text up to that sign and behind it. -/
theorem assigned_line_rel {r : List Char → List Char → Prop} {y : List Char}
    (words : areWords names = true) (solid : Solid y)
    (named : spells names y = true → Option.Rel r (value (skipBlank cs)) (value (skipBlank cs')))
    (within : ∀ q, q <:+ y → Solid q → Option.Rel r (value (line q cs)) (value (line q cs'))) :
    Option.Rel r ((dropName? names (line y cs)).bind value)
      ((dropName? names (line y cs')).bind value) := by
  by_cases spelled : spells names y = true
  · have chars := (isValueChar_of_spells words spelled).2
    rw [dropName?_line words chars, dropName?_line words chars, if_pos spelled, if_pos spelled]
    exact named spelled
  · have other := Bool.eq_false_iff.mpr spelled
    rw [line_append y cs, line_append y cs', dropName?_solid words solid (line_stops cs) other,
      dropName?_solid words solid (line_stops cs') other]
    cases found : dropName? names y with
    | none => exact .none
    | some q => exact within q (dropName?_suffix words found) (solid.dropName? words found)

/-- A quotation that reaches over a part without quotes has it as it is written. -/
theorem quotedText?_rel {q mid mid' : List Char} (visible : q ≠ [])
    (plain : ∀ c ∈ mid, isQuote c = false) (plain' : ∀ c ∈ mid', isQuote c = false)
    (back : List Char) :
    quotedText? (q ++ (mid ++ back)) = quotedText? (q ++ (mid' ++ back)) ∨
      ∃ c l m, q = c :: l ∧ isQuote c = true ∧
        quotedText? (q ++ (mid ++ back)) = some (l ++ (mid ++ m)) ∧
        quotedText? (q ++ (mid' ++ back)) = some (l ++ (mid' ++ m)) := by
  obtain ⟨c, l, rfl⟩ := List.exists_cons_of_ne_nil visible
  simp only [List.cons_append]
  cases opens : isQuote c with
  | false =>
    rw [quotedText?_of_plain opens, quotedText?_of_plain opens]
    exact .inl rfl
  | true =>
    rcases quotes_split l with within | ⟨run, d, rest, rfl, within, closes⟩
    · -- the quotation reaches behind the part, to the next quote there
      have across {mid : List Char} (plain : ∀ c ∈ mid, isQuote c = false) :
          ∀ e ∈ l ++ mid, isQuote e = false := fun e mem =>
        (List.mem_append.mp mem).elim (within e) (plain e)
      rw [← List.append_assoc, ← List.append_assoc]
      rcases quotes_split back with none | ⟨m, d, rest, rfl, none, closes⟩
      · left
        rw [quotedText?_open fun e mem => (List.mem_append.mp mem).elim (across plain e) (none e),
          quotedText?_open fun e mem => (List.mem_append.mp mem).elim (across plain' e) (none e)]
      · refine .inr ⟨c, l, m, rfl, opens, ?_, ?_⟩
        · rw [← List.append_assoc, ← List.append_assoc]
          exact quotedText?_closed opens closes
            (fun e mem => (List.mem_append.mp mem).elim (across plain e) (none e)) rest
        · rw [← List.append_assoc, ← List.append_assoc]
          exact quotedText?_closed opens closes
            (fun e mem => (List.mem_append.mp mem).elim (across plain' e) (none e)) rest
    · left
      rw [List.append_assoc, List.append_assoc, List.cons_append, List.cons_append,
        quotedText?_closed opens closes within, quotedText?_closed opens closes within]

theorem occursIn_line {needle : List Char} {f : Char → Char} (visible : needle ≠ [])
    (value : ∀ c, f c ∈ needle → isValueChar c = true) (front cs : List Char) :
    occursIn needle ((line front cs).map f) =
      (occursIn needle (front.map f) || occursIn needle (cs.map f)) := by
  rw [line, occursIn_stop visible value (by decide), occursIn_start visible value (by decide),
    occursIn_start visible value (by decide)]

/-- A word of letters that is in no input stands in a value wrapped just when it does in it bare. -/
theorem occursIn_wrapped {needle call v back : List Char} {f : Char → Char} (visible : needle ≠ [])
    (value : ∀ c, f c ∈ needle → isValueChar c = true)
    (silent : occursIn needle (call.map f) = false) (stops : Stops back) :
    occursIn needle ((wrapped call v ++ back).map f) = occursIn needle ((v ++ back).map f) := by
  rw [wrapped_append, occursIn_stop visible value (by decide), silent, Bool.false_or,
    occursIn_stop visible value (by decide), occursIn_stops visible value stops]

theorem Literal.unquoted {v : List Char} (h : Literal v) : ∀ c ∈ v, isQuote c = false := by
  intro c mem
  rcases (token?_some h.token).2.1 c mem with value | rfl
  · exact isQuote_of_isValueChar value
  · decide

end Pattern

namespace Script

open Pattern Text

variable {field : ScriptField} {before word v after call : List Char}

/-- No name of a number is at the end of another word that is looked for, nor that at its end. -/
theorem numericNames_noEnd {y : List Char} {key : String}
    (spelled : spells (numericNames field) word = true) (suffix : y <:+ before ++ word)
    (listed : key ∈ "defval" :: (entryNames ++ averageNames ++ ruleNames)) :
    y.map folded ≠ key.toList := by
  have all : ∀ field ∈ fields, ∀ name ∈ numericNames field,
      ∀ key ∈ "defval" :: (entryNames ++ averageNames ++ ruleNames),
        ¬key.toList <:+ name.toList ∧ ¬name.toList <:+ key.toList := by
    decide +kernel
  obtain ⟨name, mem, same⟩ := List.any_eq_true.mp spelled
  have mapped := eq_of_beq same
  intro found
  obtain ⟨notEnd, notEnd'⟩ := all field (mem_fields field) name mem key listed
  rcases List.suffix_or_suffix_of_suffix suffix (List.suffix_append before word) with inner | outer
  · exact notEnd (found ▸ mapped ▸ inner.map folded)
  · exact notEnd' (found ▸ mapped ▸ outer.map folded)

theorem solid_word (spelled : spells (numericNames field) word = true) {y : List Char}
    (suffix : y <:+ before ++ word) (visible : y ≠ []) : Solid y := by
  obtain ⟨start, chars⟩ := isValueChar_of_spells (numericNames_areWords field) spelled
  have solid : Solid word :=
    solid_of_forall (fun c mem => plain_of_isValueChar (chars c mem)) start
  refine Solid.suffix ?_ suffix visible
  rwa [Solid, List.getLast?_append_of_ne_nil _ start]

theorem noKeyword {names : List String} (spelled : spells (numericNames field) word = true)
    (keywords : names ⊆ entryNames ++ averageNames ++ ruleNames) :
    ¬∃ y, y <:+ before ++ word ∧ spells names y = true := by
  rintro ⟨y, suffix, listed⟩
  obtain ⟨key, mem, same⟩ := List.any_eq_true.mp listed
  exact numericNames_noEnd spelled suffix (List.mem_cons_of_mem _ (keywords mem)) (eq_of_beq same)

/-- Whether a number is assigned to the name of a field, with what may wrap it, and a text behind it
that does not go on with it. -/
structure Wraps (field : ScriptField) (word v after call : List Char) : Prop where
  spelled : spells (numericNames field) word = true
  literal : Literal v
  known : String.ofList call ∈ calls
  stops : Stops after

/-- Whether a text is the same as another, or has an assignment wrapped that the other has bare. -/
def Rewraps (word v call raw raw' : List Char) : Prop :=
  raw' = raw ∨ ∃ l m, raw = l ++ line word v ++ m ∧ raw' = l ++ line word (wrapped call v) ++ m

namespace Wraps

/-- What a search for assignments gives is related when what it reads up to the sign of a number is,
and so is the value that it reads where its names are those of a number. -/
theorem search_rel (h : Wraps field word v after call) {r : List Char → List Char → Prop}
    (refl : ∀ raw, r raw raw) {names : List String} {value : List Char → Option (List Char)}
    (words : areWords names = true) (lettered : startLettered names = true)
    (named : (∃ y, y <:+ before ++ word ∧ spells names y = true) → value = number?)
    (within : ∀ q, q <:+ before ++ word → Solid q →
      Option.Rel r (value (line q (v ++ after))) (value (line q (wrapped call v ++ after)))) :
    Option.Rel r
      (search (fun cs => (dropName? names cs).bind value) none
        (line (before ++ word) (v ++ after)))
      (search (fun cs => (dropName? names cs).bind value) none
        (line (before ++ word) (wrapped call v ++ after))) := by
  have lettered : Lettered fun cs => (dropName? names cs).bind value :=
    dropName?_lettered words lettered
  refine search_line_rel refl lettered ?_ fun y suffix visible => ?_
  · rw [lettered.search_literal h.literal h.stops,
      lettered.search_wrapped h.literal h.known h.stops]
  · refine assigned_line_rel words (solid_word h.spelled suffix visible) (fun spelled => ?_)
      fun q inner => within q (inner.trans suffix)
    rw [named ⟨y, suffix, spelled⟩, h.literal.number?_bare h.stops,
      h.literal.number?_wrapped h.known]
    exact .some (refl v)

theorem assigned?_same (h : Wraps field word v after call) {names : List String}
    {value : List Char → Option (List Char)} (words : areWords names = true)
    (lettered : startLettered names = true)
    (named : (∃ y, y <:+ before ++ word ∧ spells names y = true) → value = number?)
    (within : ∀ q, q <:+ before ++ word → Solid q → ∀ cs, value (line q cs) = value q) :
    assigned? names value (line (before ++ word) (wrapped call v ++ after)) =
      assigned? names value (line (before ++ word) (v ++ after)) := by
  have same := h.search_rel (r := Eq) (fun _ => rfl) words lettered named fun q suffix solid => by
    rw [within q suffix solid, within q suffix solid]
    exact rel_eq.mpr rfl
  rw [assigned?, assigned?, rel_eq.mp same]

theorem numeral_same (h : Wraps field word v after call) (field' : ScriptField) :
    numeral field' (line (before ++ word) (wrapped call v ++ after)) =
      numeral field' (line (before ++ word) (v ++ after)) := by
  have lettered : ∀ field ∈ fields, startLettered (numericNames field) = true := by decide
  refine h.assigned?_same (numericNames_areWords field') (lettered field' (mem_fields field'))
    (fun _ => rfl) fun q suffix solid cs => ?_
  refine number?_solid solid (line_stops cs) rfl fun inner within label => ?_
  exact absurd label (numericNames_noEnd h.spelled (within.trans suffix) List.mem_cons_self)

theorem word_same (h : Wraps field word v after call) {names : List String}
    (words : areWords names = true) (lettered : startLettered names = true)
    (keywords : names ⊆ entryNames ++ averageNames ++ ruleNames) :
    assigned? names word? (line (before ++ word) (wrapped call v ++ after)) =
      assigned? names word? (line (before ++ word) (v ++ after)) :=
  h.assigned?_same words lettered (fun listed => absurd listed (noKeyword h.spelled keywords))
    fun _ _ solid cs => word?_stops (line_stops cs) solid.visible

theorem speaksDown_same (h : Wraps field word v after call) :
    speaksDown (line (before ++ word) (wrapped call v ++ after)) =
      speaksDown (line (before ++ word) (v ++ after)) := by
  have silent : ∀ call ∈ calls, speaksDown call.toList = false := by decide
  have silent := silent _ h.known
  rw [String.toList_ofList] at silent
  have value := isValueChar_of_toLower_mem (show "crossunder".toList.all isValueChar from by decide)
  unfold speaksDown
  rw [occursIn_line (by decide) value, occursIn_line (by decide) value,
    occursIn_wrapped (by decide) value silent h.stops]

theorem mentions_same (h : Wraps field word v after call) :
    mentions "ta.sma" (line (before ++ word) (wrapped call v ++ after)) =
      mentions "ta.sma" (line (before ++ word) (v ++ after)) := by
  have silent : ∀ call ∈ calls, mentions "ta.sma" call.toList = false := by decide
  have silent := silent _ h.known
  rw [String.toList_ofList, mentions_sma] at silent
  have value := isValueChar_of_folded_mem (show "ta.sma".toList.all isLetter from by decide)
  rw [mentions_sma, mentions_sma, occursIn_line (by decide) value, occursIn_line (by decide) value,
    occursIn_wrapped (by decide) value silent h.stops]

theorem hintsSma_same (h : Wraps field word v after call) :
    hintsSma (line (before ++ word) (wrapped call v ++ after)) =
      hintsSma (line (before ++ word) (v ++ after)) := by
  have called : Option.Rel Eq (search callsSma none (line (before ++ word) (v ++ after)))
      (search callsSma none (line (before ++ word) (wrapped call v ++ after))) := by
    refine search_line_rel (fun _ => rfl) callsSma_lettered ?_ fun y suffix visible => ?_
    · rw [callsSma_lettered.search_literal h.literal h.stops,
        callsSma_lettered.search_wrapped h.literal h.known h.stops]
    · have solid := solid_word h.spelled suffix visible
      have read : ∀ cs, callsSma (line y cs) = callsSma y := fun cs =>
        callsSma_solid solid (line_stops cs) rfl
      rw [read, read]
      exact rel_eq.mpr rfl
  rw [hintsSma, hintsSma, h.mentions_same, rel_eq.mp called]

theorem same (h : Wraps field word v after call) :
    SameButRule (line (before ++ word) (v ++ after))
      (line (before ++ word) (wrapped call v ++ after)) where
  numerals := h.numeral_same
  entry := h.word_same (by decide) (by decide) (by decide)
  average := h.word_same (by decide) (by decide) (by decide)
  falls := h.speaksDown_same
  hints := h.hintsSma_same

theorem unquoted (h : Wraps field word v after call) :
    (∀ c ∈ line [] v, isQuote c = false) ∧ ∀ c ∈ line [] (wrapped call v), isQuote c = false := by
  have plain := h.literal.unquoted
  have called : ∀ c ∈ call, isQuote c = false := by
    have all : ∀ call ∈ calls, call.toList.all (!isQuote ·) = true := by decide
    have all := all _ h.known
    rw [String.toList_ofList] at all
    exact fun c mem => by simpa using List.all_eq_true.mp all c mem
  constructor
  · intro c mem
    simp only [line, List.nil_append, List.mem_cons] at mem
    rcases mem with rfl | rfl | rfl | mem
    · decide
    · decide
    · decide
    · exact plain c mem
  · intro c mem
    simp only [line, wrapped, List.nil_append, List.mem_cons, List.mem_append, List.not_mem_nil,
      or_false] at mem
    rcases mem with rfl | rfl | rfl | mem | rfl | mem | rfl
    · decide
    · decide
    · decide
    · exact called c mem
    · decide
    · exact plain c mem
    · decide

/-- The rule is the same, unless the assignment stands in its quotes. -/
theorem ruleText_rel (h : Wraps field word v after call) (before : List Char) :
    Option.Rel (Rewraps word v call)
      (search (fun cs => (dropName? ruleNames cs).bind quotedText?) none
        (line (before ++ word) (v ++ after)))
      (search (fun cs => (dropName? ruleNames cs).bind quotedText?) none
        (line (before ++ word) (wrapped call v ++ after))) := by
  refine h.search_rel (fun _ => .inl rfl) (by decide) (by decide)
    (fun listed => absurd listed (noKeyword h.spelled (by decide))) fun q suffix solid => ?_
  obtain ⟨plain, plain'⟩ := h.unquoted
  have text : ∀ w, line q (w ++ after) = q ++ (line [] w ++ after) := fun w => by simp [line]
  rw [text, text]
  rcases quotedText?_rel solid.visible plain plain' after with
    same | ⟨c, l, m, rfl, quote, told, told'⟩
  · rw [same]
    cases quotedText? (q ++ (line [] (wrapped call v) ++ after)) with
    | none => exact .none
    | some raw => exact .some (.inl rfl)
  · rw [told, told']
    -- the name has no quotes, so the quotation starts before it
    have chars := (isValueChar_of_spells (numericNames_areWords field) h.spelled).2
    have noQuote : c ∉ word := fun mem => by
      rw [isQuote_of_isValueChar (chars c mem)] at quote
      cases quote
    obtain ⟨u, rfl⟩ : ∃ u, l = u ++ word := by
      rcases List.suffix_or_suffix_of_suffix suffix (List.suffix_append before word) with
        inner | ⟨u, outer⟩
      · exact absurd (inner.mem List.mem_cons_self) noQuote
      · cases u with
        | nil =>
          have start : word = c :: l := outer
          exact absurd (start ▸ List.mem_cons_self) noQuote
        | cons d u => exact ⟨u, (List.cons.inj outer).2.symm⟩
    refine .some (.inr ⟨u, m, ?_, ?_⟩)
    · simp [line]
    · simp [line]

end Wraps

/-- A script with an assignment in it. -/
def inScript (before name value after : String) : String :=
  before ++ name ++ " = " ++ value ++ after

/-- A value as the first argument of an input. -/
def wrap (call value : String) : String := call ++ "(" ++ value ++ ")"

theorem toList_inScript (before name value after : String) :
    (inScript before name value after).toList =
      line (before.toList ++ name.toList) (value.toList ++ after.toList) := by
  simp [inScript, line]

theorem toList_wrap (call value : String) :
    (wrap call value).toList = wrapped call.toList value.toList := by
  simp [wrap, wrapped]

theorem isBlank_inScript (before name value after : String) :
    isBlank (inScript before name value after) = false := by
  refine Bool.eq_false_iff.mpr fun blank => ?_
  have sign : '=' ∈ (inScript before name value after).toList := by simp [inScript]
  exact absurd (List.all_eq_true.mp blank '=' sign) (by decide)

/-- **Wrapping does not change a number.** A finite number that is assigned to one of its names,
anywhere in a script, compiles alike when it is the first argument of an input. Where it stands in
the quotes of a rule, the rule has it wrapped, and all else is the same. -/
theorem parse_wrapped {name value after call : String}
    (spelled : spells (numericNames field) name.toList = true) (literal : Literal value.toList)
    (known : call ∈ calls) (stops : Stops after.toList) (before : String) :
    parse (inScript before name (wrap call value) after) =
        parse (inScript before name value after) ∨
      ∃ a b, ruleText (inScript before name value after).toList =
          some (inScript a name value b) ∧
        parse (inScript before name (wrap call value) after) =
          (parse (inScript before name value after)).map fun s =>
            { s with customRule := some (inScript a name (wrap call value) b) } := by
  have wraps : Wraps field name.toList value.toList after.toList call.toList :=
    ⟨spelled, literal, by rwa [String.ofList_toList], stops⟩
  have visible : isBlank (inScript before name (wrap call value) after) =
      isBlank (inScript before name value after) := by
    rw [isBlank_inScript, isBlank_inScript]
  have same : SameButRule (inScript before name value after).toList
      (inScript before name (wrap call value) after).toList := by
    rw [toList_inScript, toList_inScript, toList_wrap]
    exact wraps.same
  have rules := wraps.ruleText_rel before.toList
  rw [← toList_wrap, ← toList_inScript, ← toList_inScript] at rules
  have told : ruleText (inScript before name value after).toList = Option.map String.ofList _ := rfl
  have told' : ruleText (inScript before name (wrap call value) after).toList =
      Option.map String.ofList _ := rfl
  generalize search _ none (inScript before name value after).toList = found at rules told
  generalize search _ none (inScript before name (wrap call value) after).toList = found'
    at rules told'
  cases rules with
  | none => exact .inl (parse_congr visible same (told'.trans told.symm))
  | @some raw raw' rules =>
    rcases rules with rfl | ⟨l, m, rfl, rfl⟩
    · exact .inl (parse_congr visible same (told'.trans told.symm))
    · have written : ruleText (inScript before name value after).toList =
          some (inScript (String.ofList l) name value (String.ofList m)) := by
        rw [told, Option.map_some, Option.some.injEq, ← String.toList_inj, toList_inScript]
        simp [line]
      have written' : ruleText (inScript before name (wrap call value) after).toList =
          some (inScript (String.ofList l) name (wrap call value) (String.ofList m)) := by
        rw [told', Option.map_some, Option.some.injEq, ← String.toList_inj, toList_inScript,
          toList_wrap]
        simp [line]
      refine .inr ⟨String.ofList l, String.ofList m, written, ?_⟩
      rw [parse_ofSame visible same, written']
      rw [written, written', Option.all_some, Option.all_some, isBlank_inScript, isBlank_inScript]

/-- A number with a name that goes on before it, and a line behind it. -/
theorem sample_number_wrapped :
    spells (numericNames .rsiOverbought) "Overbought".toList = true ∧ Literal "8_0.5".toList ∧
      "input.float" ∈ calls ∧ Stops "\nentryType = RSI".toList ∧
      parse (inScript "maType = sma rsi_" "Overbought" (wrap "input.float" "8_0.5")
          "\nentryType = RSI") =
        parse (inScript "maType = sma rsi_" "Overbought" "8_0.5" "\nentryType = RSI") := by
  have spelled : spells (numericNames .rsiOverbought) "Overbought".toList = true := by decide
  have literal : Literal "8_0.5".toList := by
    have number : Numeral.real? (String.ofList "8_0.5".toList) =
        some (.finite ⟨false, 5664683906301952, -46⟩) := by
      decide +kernel
    exact ⟨by decide, _, number⟩
  have known : "input.float" ∈ calls := by decide
  have stops : Stops "\nentryType = RSI".toList := fun c eq => Option.some.inj eq ▸ by decide
  refine ⟨spelled, literal, known, stops, ?_⟩
  rcases parse_wrapped spelled literal known stops "maType = sma rsi_" with same | ⟨a, b, rule, -⟩
  · exact same
  · have none : ruleText (inScript "maType = sma rsi_" "Overbought" "8_0.5"
        "\nentryType = RSI").toList = none := by
      decide +kernel
    rw [none] at rule
    cases rule

/-- An entry, an average and a rule are not unwrapped: bare, each of them is read; wrapped, none. -/
theorem sample_keywords_wrapped :
    (parse "entryType = RSI").map (·.entry) = .ok .rsi ∧
      parse "entryType = input(RSI)" = .error (.unknownEntry "input") ∧
      (parse "maType = SMA").map (·.average) = .ok .sma ∧
      parse "maType = input(SMA)" = .error (.unknownAverage "input") ∧
      (parse "customRule = \"x\"").map (·.customRule) = .ok (some "x") ∧
      (parse "customRule = input(\"x\")").map (·.customRule) = .ok none := by
  decide +kernel

end Script
end SignalDesk
