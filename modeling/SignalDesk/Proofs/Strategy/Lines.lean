import SignalDesk.Proofs.Strategy.Bounds
import SignalDesk.Proofs.Strategy.Held
import SignalDesk.Proofs.Strategy.Hints

namespace SignalDesk
namespace Pattern

open Text

variable {back cs v : List Char} {names : List String} {value : List Char → Option (List Char)}

/-- Whether a text that stands behind a value does not go on with an assignment or a call. -/
structure Parted (back : List Char) : Prop where
  stops : Stops back
  unsigned : dropSign? '=' back = none
  uncalled : dropSign? '(' back = none

/-- In a value no name is found that is followed by an equals sign. -/
theorem assigned?_through (words : areWords names = true)
    (plain : ∀ c ∈ v, isBlank c = false ∧ c ≠ '=' ∧ c ≠ '(') (parted : Parted back) :
    assigned? names value (v ++ back) = assigned? names value back := by
  unfold assigned?
  rw [search_append_none, search_stops (fun _ _ => dropName?_bind_stop words) parted.stops]
  intro front c rest split _
  have mem : ∀ d ∈ c :: rest, d ∈ v := fun d mem => split ▸ List.mem_append_right front mem
  have absent : dropName? names (c :: rest ++ back) = none := by
    by_cases spelled : spells names (c :: rest) = true
    · rw [dropName?_word words parted.stops (isValueChar_of_spells words spelled).2, if_pos spelled,
        dropEquals?_eq, parted.unsigned]
    · have solid : Solid (c :: rest) :=
        solid_of_forall (fun d here => plain d (mem d here)) (List.cons_ne_nil c rest)
      rw [dropName?_solid words solid parted.stops (Bool.eq_false_iff.mpr spelled),
        dropName?_of_noEquals words fun here => (plain '=' (mem '=' here)).2.1 rfl]
      rfl
  rw [absent]
  rfl

end Pattern

namespace Script

open Pattern Text

/-- How a value is written for a field: a number as it is, a word with or without quotes, a rule in
quotes. -/
inductive Writes : ScriptField → (value raw : String) → Prop
  | number {field : ScriptField} {raw : String} (numeric : numericNames field ≠ [])
      (token : token? raw.toList = some raw.toList) : Writes field raw raw
  | word {field : ScriptField} {raw : String} (named : field ∈ [.entryType, .maType])
      (word : run? isWord raw.toList = some raw.toList) : Writes field raw raw
  | quoted {field : ScriptField} {raw : String} (named : field ∈ [.entryType, .maType, .customRule])
      (word : run? isWord raw.toList = some raw.toList) : Writes field ("\"" ++ raw ++ "\"") raw

/-- A line that assigns a value to a field. -/
structure Line where
  field : ScriptField
  name : String
  value : String
  raw : String
  spelled : spells (fieldNames field) name.toList = true
  writes : Writes field value raw

def Line.text (l : Line) : String := l.name ++ " = " ++ l.value

/-- The script of some lines. -/
def ofLines (lines : List Line) : String := "\n".intercalate (lines.map Line.text)

variable {field : ScriptField} {value raw : String} {back : List Char}

theorem isWord_plain {cs : List Char} (word : run? isWord cs = some cs) :
    ∀ c ∈ cs, isValueChar c = true ∧ isQuote c = false := by
  intro c mem
  have value := isValueChar_of_isWord ((run?_some word).2.1 c mem)
  exact ⟨value, isQuote_of_isValueChar value⟩

theorem Writes.plain (h : Writes field value raw) :
    value.toList ≠ [] ∧ ∀ c ∈ value.toList, Text.isBlank c = false ∧ c ≠ '=' ∧ c ≠ '(' := by
  cases h with
  | number numeric token => exact ⟨(token?_some token).2.2, token?_plain token⟩
  | word named word =>
    exact ⟨(run?_some word).2.2, fun c mem => plain_of_isValueChar (isWord_plain word c mem).1⟩
  | quoted named word =>
    refine ⟨by simp, fun c mem => ?_⟩
    simp only [String.toList_append, List.mem_append] at mem
    rcases mem with (quote | mem) | quote
    · obtain rfl := List.mem_singleton.mp quote
      decide
    · exact plain_of_isValueChar (isWord_plain word c mem).1
    · obtain rfl := List.mem_singleton.mp quote
      decide

/-- The value of a line is read as a whole. -/
theorem Writes.reads (h : Writes field value raw) (parted : Parted back) :
    reader field (value.toList ++ back) = some raw.toList := by
  cases h with
  | number numeric token =>
    have solid := solid_of_forall (token?_plain token) (token?_some token).2.2
    have number : reader field = number? := by
      cases field <;> first | rfl | exact absurd rfl numeric
    rw [number, number?_solid solid parted.stops parted.uncalled fun _ _ _ => parted.unsigned]
    exact number?_of_token token
  | word named word =>
    have reads : reader field = word? := by
      simp only [List.mem_cons, List.not_mem_nil, or_false] at named
      rcases named with rfl | rfl <;> rfl
    have visible := (run?_some word).2.2
    rw [reads, word?_stops parted.stops visible]
    have plain := isWord_plain word
    cases chars : value.toList with
    | nil => exact absurd chars visible
    | cons c cs =>
      rw [chars] at word plain
      rw [word?, if_neg (by simp [(plain c List.mem_cons_self).2])]
      exact word
  | quoted named word =>
    have plain := isWord_plain word
    have split : ("\"" ++ raw ++ "\"").toList ++ back = '"' :: (raw.toList ++ '"' :: back) := by
      simp
    rw [split]
    have stops : Stops ('"' :: back) := fun c eq => Option.some.inj eq ▸ rfl
    have asWord : word? ('"' :: (raw.toList ++ '"' :: back)) = some raw.toList :=
      (run?_stops stops fun _ => isValueChar_of_isWord).trans word
    simp only [List.mem_cons, List.not_mem_nil, or_false] at named
    rcases named with rfl | rfl | rfl
    · exact asWord
    · exact asWord
    · exact quotedText?_closed rfl rfl (fun c mem => (plain c mem).2) back

/-- The text of some lines with a line break before each. -/
def rows (lines : List Line) : List Char := lines.flatMap fun l => '\n' :: l.text.toList

theorem rows_cons (l : Line) (lines : List Line) :
    rows (l :: lines) = '\n' :: (line l.name.toList (l.value.toList ++ rows lines)) := by
  simp [rows, Line.text, line]

theorem toList_ofLines {lines : List Line} (visible : lines ≠ []) :
    '\n' :: (ofLines lines).toList = rows lines := by
  rw [ofLines, String.toList_intercalate, List.map_map]
  induction lines with
  | nil => contradiction
  | cons l lines ih =>
    cases lines with
    | nil => simp [rows, List.intercalate]
    | cons l' lines =>
      have later := ih (List.cons_ne_nil l' lines)
      rw [rows, List.flatMap_cons, ← rows, ← later]
      simp [List.intercalate_cons_cons]

theorem Line.word (l : Line) : l.name.toList ≠ [] ∧ ∀ c ∈ l.name.toList, isValueChar c = true :=
  isValueChar_of_spells (fieldNames_areWords l.field) l.spelled

theorem rows_parted (lines : List Line) : Parted (rows lines) := by
  cases lines with
  | nil => exact ⟨fun c eq => (Option.not_mem_none c eq).elim, rfl, rfl⟩
  | cons l lines =>
    obtain ⟨visible, chars⟩ := l.word
    rw [rows_cons]
    cases name : l.name.toList with
    | nil => exact absurd name visible
    | cons c cs =>
      have value := chars c (name ▸ List.mem_cons_self)
      obtain ⟨solid, noEquals, noCall⟩ := plain_of_isValueChar value
      have start (back : List Char) : skipBlank ('\n' :: c :: back) = c :: back := by
        have blank : Text.isBlank '\n' = true := by decide
        simp [skipBlank, blank, solid]
      refine ⟨fun d eq => Option.some.inj eq ▸ by decide, ?_, ?_⟩
      · simp [line, dropSign?, start, noEquals]
      · simp [line, dropSign?, start, noCall]

theorem said_rows_cons (field : ScriptField) (l : Line) (lines : List Line) :
    said field (rows (l :: lines)) =
      (if l.field = field then some l.raw else none).or (said field (rows lines)) := by
  obtain ⟨visible, chars⟩ := l.word
  obtain ⟨start, plain⟩ := l.writes.plain
  have words := fieldNames_areWords field
  have parted := rows_parted lines
  have skip : skipBlank (l.value.toList ++ rows lines) = l.value.toList ++ rows lines := by
    obtain ⟨c, cs, chars⟩ := List.exists_cons_of_ne_nil start
    rw [chars, List.cons_append, skipBlank, List.dropWhile_cons,
      if_neg (by simp [(plain c (chars ▸ List.mem_cons_self)).1])]
  rw [said, rows_cons, assigned?_stop words (by decide), assigned?_line words visible chars, skip,
    assigned?_through words plain parted]
  by_cases same : l.field = field
  · subst same
    rw [if_pos l.spelled, if_pos rfl, l.writes.reads parted, Option.map_some, String.ofList_toList]
    rfl
  · have other : ¬spells (fieldNames field) l.name.toList = true := fun spelled =>
      same (fieldNames_apart (spells_iff.mp l.spelled) (spells_iff.mp spelled))
    rw [if_neg other, if_neg same]
    rfl

/-- Lines for different fields say of each field what its line says, and nothing of others. -/
theorem said_rows {lines : List Line} (apart : (lines.map Line.field).Nodup) :
    said field (rows lines) = some raw ↔ ∃ l ∈ lines, l.field = field ∧ l.raw = raw := by
  induction lines with
  | nil =>
    have none : said field (rows []) = none := rfl
    simp [none]
  | cons l lines ih =>
    obtain ⟨absent, apart⟩ := List.nodup_cons.mp apart
    rw [said_rows_cons]
    by_cases same : l.field = field
    · rw [if_pos same, Option.some_or, Option.some.injEq]
      constructor
      · exact fun written => ⟨l, List.mem_cons_self, same, written⟩
      · rintro ⟨l', mem, same', written⟩
        rcases List.mem_cons.mp mem with rfl | later
        · exact written
        · exact absurd (List.mem_map.mpr ⟨l', later, same'.trans same.symm⟩) absent
    · rw [if_neg same, Option.none_or, ih apart]
      constructor
      · rintro ⟨l', later, about⟩
        exact ⟨l', List.mem_cons_of_mem l later, about⟩
      · rintro ⟨l', mem, about⟩
        rcases List.mem_cons.mp mem with rfl | later
        · exact absurd about.1 same
        · exact ⟨l', later, about⟩

/-- A word of letters stands in a line or in another. -/
theorem occursIn_rows_cons {needle : List Char} {f : Char → Char} (visible : needle ≠ [])
    (value : ∀ c, f c ∈ needle → isValueChar c = true) (l : Line) (lines : List Line) :
    occursIn needle ((rows (l :: lines)).map f) =
      (occursIn needle (l.text.toList.map f) || occursIn needle ((rows lines).map f)) := by
  rw [rows, List.flatMap_cons, ← rows, List.cons_append, occursIn_start visible value (by decide),
    occursIn_stops visible value (rows_parted lines).stops]

theorem occursIn_rows {needle : List Char} {f : Char → Char} (visible : needle ≠ [])
    (value : ∀ c, f c ∈ needle → isValueChar c = true) (lines : List Line) :
    occursIn needle ((rows lines).map f) =
      lines.any fun l => occursIn needle (l.text.toList.map f) := by
  induction lines with
  | nil => simp [rows, occursIn, visible]
  | cons l lines ih => rw [occursIn_rows_cons visible value, ih, List.any_cons]

theorem not_mem_rows (lines : List Line) : '(' ∉ rows lines := by
  simp only [rows, List.mem_flatMap, not_exists, not_and]
  intro l _ mem
  simp only [Line.text, String.toList_append, List.mem_cons, List.mem_append] at mem
  rcases mem with newline | (name | sign) | value
  · exact absurd newline (by decide)
  · exact (plain_of_isValueChar (l.word.2 _ name)).2.2 rfl
  · exact absurd sign (by decide)
  · exact (l.writes.plain.2 _ value).2.2 rfl

theorem speaksDown_rows (lines : List Line) :
    speaksDown (rows lines) = lines.any fun l => speaksDown l.text.toList :=
  occursIn_rows (by decide) (isValueChar_of_toLower_mem (by decide)) lines

theorem hintsSma_rows (lines : List Line) :
    hintsSma (rows lines) = lines.any fun l => mentions "ta.sma" l.text.toList := by
  rw [hintsSma_of_noCall (not_mem_rows lines), mentions_sma,
    occursIn_rows (by decide) (isValueChar_of_folded_mem (by decide))]
  simp only [mentions_sma]

variable {lines lines' : List Line}

theorem said_ofLines (visible : lines ≠ []) (field : ScriptField) :
    said field (ofLines lines).toList = said field (rows lines) := by
  rw [← toList_ofLines visible]
  exact (assigned?_stop (fieldNames_areWords field) (by decide)).symm

theorem speaksDown_ofLines (visible : lines ≠ []) :
    speaksDown (ofLines lines).toList = lines.any fun l => speaksDown l.text.toList := by
  rw [← speaksDown_rows, ← toList_ofLines visible]
  exact (occursIn_start (by decide) (isValueChar_of_toLower_mem (by decide)) (by decide) _).symm

theorem hintsSma_ofLines (visible : lines ≠ []) :
    hintsSma (ofLines lines).toList = lines.any fun l => mentions "ta.sma" l.text.toList := by
  have uncalled := not_mem_rows lines
  rw [← hintsSma_rows, hintsSma_of_noCall uncalled]
  rw [← toList_ofLines visible] at uncalled ⊢
  rw [hintsSma_of_noCall (List.not_mem_of_not_mem_cons uncalled), mentions_sma, mentions_sma]
  exact (occursIn_start (by decide) (isValueChar_of_folded_mem (by decide)) (by decide) _).symm

theorem said_perm (perm : lines'.Perm lines) (apart : (lines.map Line.field).Nodup)
    (field : ScriptField) : said field (rows lines') = said field (rows lines) := by
  have apart' : (lines'.map Line.field).Nodup := (perm.map Line.field).nodup_iff.mpr apart
  refine Option.ext fun raw => ?_
  rw [said_rows apart, said_rows apart']
  simp only [perm.mem_iff]

/-- What lines say of each field, and by the words in them, they say in any order. -/
theorem ofLines_same (visible : lines ≠ []) (perm : lines'.Perm lines)
    (apart : (lines.map Line.field).Nodup) :
    SameButRule (ofLines lines).toList (ofLines lines').toList ∧
      ruleText (ofLines lines').toList = ruleText (ofLines lines).toList := by
  have visible' : lines' ≠ [] := fun empty => visible (List.perm_nil.mp (empty ▸ perm.symm))
  have same (field : ScriptField) :
      said field (ofLines lines').toList = said field (ofLines lines).toList := by
    rw [said_ofLines visible, said_ofLines visible', said_perm perm apart]
  refine ⟨⟨fun field => ?_, same .entryType, same .maType, ?_, ?_⟩, same .customRule⟩
  · cases field with
    | script | customRule | entryType | maType => exact same .script
    | fastPeriod => exact same .fastPeriod
    | slowPeriod => exact same .slowPeriod
    | stopLossPercent => exact same .stopLossPercent
    | takeProfitPercent => exact same .takeProfitPercent
    | rsiPeriod => exact same .rsiPeriod
    | rsiOverbought => exact same .rsiOverbought
    | rsiOversold => exact same .rsiOversold
    | priceThreshold => exact same .priceThreshold
  · rw [speaksDown_ofLines visible, speaksDown_ofLines visible', perm.any_eq]
  · rw [hintsSma_ofLines visible, hintsSma_ofLines visible', perm.any_eq]

theorem isBlank_ofLines {lines : List Line} (visible : lines ≠ []) :
    isBlank (ofLines lines) = false := by
  obtain ⟨l, lines, rfl⟩ := List.exists_cons_of_ne_nil visible
  obtain ⟨start, chars⟩ := l.word
  obtain ⟨c, cs, name⟩ := List.exists_cons_of_ne_nil start
  have mem : c ∈ (ofLines (l :: lines)).toList := by
    have rows := toList_ofLines visible
    rw [rows_cons, name] at rows
    rw [(List.cons.inj rows).2]
    exact List.mem_cons_self
  refine Bool.eq_false_iff.mpr fun blank => ?_
  have solid := isBlank_of_isValueChar (chars c (name ▸ List.mem_cons_self))
  rw [List.all_eq_true.mp blank c mem] at solid
  cases solid

/-- **The order of lines does not matter.** Lines that assign values to different fields compile
alike in any order, to the same strategy or the same error, and a strategy has the value of each
line. -/
theorem parse_permuted {lines lines' : List Line} (perm : lines'.Perm lines)
    (apart : (lines.map Line.field).Nodup) :
    parse (ofLines lines') = parse (ofLines lines) ∧
      ∀ s, parse (ofLines lines) = .ok s → ∀ l ∈ lines, Holds s l.raw l.field := by
  by_cases visible : lines = []
  · subst visible
    rw [List.perm_nil.mp perm]
    exact ⟨rfl, fun _ _ l mem => (List.not_mem_nil mem).elim⟩
  have visible' : lines' ≠ [] := fun empty => visible (List.perm_nil.mp (empty ▸ perm.symm))
  constructor
  · obtain ⟨same, rule⟩ := ofLines_same visible perm apart
    exact parse_congr ((isBlank_ofLines visible').trans (isBlank_ofLines visible).symm) same rule
  · intro s compiled l mem
    obtain ⟨-, v, read, compiled⟩ := parse_ok.mp compiled
    refine holds_of_said read (strategy_in compiled) ?_
    rw [said_ofLines visible]
    exact (said_rows apart).mpr ⟨l, mem, rfl, rfl⟩

/-- A line that names an entry in quotes. -/
def sampleEntry : Line where
  field := .entryType
  name := "entryType"
  value := "\"" ++ "rsi" ++ "\""
  raw := "rsi"
  spelled := by decide
  writes := @Writes.quoted .entryType "rsi" (by decide) (by decide)

/-- A line that gives the period of an index, with capitals in its name. -/
def sampleLength : Line where
  field := .rsiPeriod
  name := "rsi_LENGTH"
  value := "7"
  raw := "7"
  spelled := by decide
  writes := .number (by decide) (by decide)

theorem sample_lines_permuted :
    [sampleLength, sampleEntry].Perm [sampleEntry, sampleLength] ∧
      ([sampleEntry, sampleLength].map Line.field).Nodup ∧
      parse (ofLines [sampleLength, sampleEntry]) = parse (ofLines [sampleEntry, sampleLength]) ∧
      ∃ s, parse (ofLines [sampleEntry, sampleLength]) = .ok s ∧
        Holds s "rsi" .entryType ∧ Holds s "7" .rsiPeriod := by
  have perm : [sampleLength, sampleEntry].Perm [sampleEntry, sampleLength] := .swap ..
  have apart : ([sampleEntry, sampleLength].map Line.field).Nodup := by decide
  obtain ⟨same, holds⟩ := parse_permuted perm apart
  obtain ⟨s, compiled⟩ : ∃ s, parse (ofLines [sampleEntry, sampleLength]) = .ok s :=
    exists_of_isOk (by decide +kernel)
  exact ⟨perm, apart, same, s, compiled, holds s compiled sampleEntry (by simp),
    holds s compiled sampleLength (by simp)⟩

end Script
end SignalDesk
