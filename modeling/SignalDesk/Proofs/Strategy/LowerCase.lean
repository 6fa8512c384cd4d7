import SignalDesk.Proofs.Number.LowerCase
import SignalDesk.Proofs.Strategy.Single

/-!
# Scripts in small letters

What a script says in capitals it says in small letters, too. Each reader, applied to a text in
small letters, gives what it reads from the text itself, in small letters; so compiling does
(`Script.parse_toLower`), and two scripts that differ only in the case of their ASCII letters
compile alike but for the rule of a custom strategy (`Script.parse_sameLetters`).
-/

namespace SignalDesk
namespace Pattern

open Text

variable {names : List String} {value : List Char → Option (List Char)}

theorem skipBlank_map (cs : List Char) :
    skipBlank (cs.map Char.toLower) = (skipBlank cs).map Char.toLower := by
  have same : isBlank ∘ Char.toLower = isBlank := funext isBlank_toLower
  rw [skipBlank, List.dropWhile_map, same]
  rfl

theorem startsName_map (before : Option Char) :
    startsName (before.map Char.toLower) = startsName before := by
  cases before with
  | none => rfl
  | some c => exact congrArg not (isValueChar_toLower c)

theorem dropWord?_map {w : List Char} (letters : w.all isLetter = true) (cs : List Char) :
    Text.dropWord? w (cs.map Char.toLower) = (Text.dropWord? w cs).map (·.map Char.toLower) := by
  induction w generalizing cs with
  | nil => rfl
  | cons a w ih =>
    obtain ⟨first, letters⟩ := Bool.and_eq_true_iff.mp letters
    cases cs with
    | nil => rfl
    | cons c cs =>
      simp only [List.map_cons, Text.dropWord?, reads_iff first, folded_toLower]
      split
      · exact ih letters cs
      · rfl

theorem dropSign?_map {sign : Char} (symbol : sign.isAlpha = false) (cs : List Char) :
    dropSign? sign (cs.map Char.toLower) = (dropSign? sign cs).map (·.map Char.toLower) := by
  unfold dropSign?
  rw [skipBlank_map]
  cases skipBlank cs with
  | nil => rfl
  | cons c rest =>
    simp only [List.map_cons, toLower_eq_iff symbol, skipBlank_map]
    split <;> rfl

theorem dropName?_map (words : areWords names = true) (cs : List Char) :
    dropName? names (cs.map Char.toLower) = (dropName? names cs).map (·.map Char.toLower) := by
  unfold dropName?
  induction names with
  | nil => rfl
  | cons name names ih =>
    have first : (Text.dropWord? name.toList (cs.map Char.toLower)).bind dropEquals? =
        ((Text.dropWord? name.toList cs).bind dropEquals?).map (·.map Char.toLower) := by
      rw [dropWord?_map (letters_of_areWords words List.mem_cons_self)]
      cases Text.dropWord? name.toList cs with
      | none => rfl
      | some rest =>
        simp only [Option.map_some, Option.bind_some, dropEquals?_eq]
        exact dropSign?_map rfl rest
    rw [List.findSome?_cons, List.findSome?_cons, first, ih (Bool.and_eq_true_iff.mp words).2]
    cases (Text.dropWord? name.toList cs).bind dropEquals? <;> rfl

theorem search_map {β γ : Type} {p : List Char → Option β} {q : List Char → Option γ} {f : β → γ}
    (same : ∀ cs, q (cs.map Char.toLower) = (p cs).map f) (before : Option Char) (cs : List Char) :
    search q (before.map Char.toLower) (cs.map Char.toLower) = (search p before cs).map f := by
  induction cs generalizing before with
  | nil => rfl
  | cons c cs ih =>
    rw [List.map_cons, search_cons, search_cons, startsName_map, ← List.map_cons, same,
      ← Option.map_some, ih, Option.map_or]
    split <;> rfl

/-- Whether a reader gives of a text in small letters what it gives of the text, in small
letters. -/
def ReadsLetters (value : List Char → Option (List Char)) : Prop :=
  ∀ cs, value (cs.map Char.toLower) = (value cs).map (·.map Char.toLower)

theorem run?_readsLetters {p : Char → Bool} (kept : ∀ c, p c.toLower = p c) :
    ReadsLetters (run? p) := by
  intro cs
  have same : p ∘ Char.toLower = p := funext kept
  rw [run?, run?, List.takeWhile_map, same]
  cases cs.takeWhile p <;> rfl

theorem token?_readsLetters : ReadsLetters token? := by
  intro cs
  have run := run?_readsLetters isValueChar_toLower
  cases cs with
  | nil => exact run []
  | cons c cs =>
    by_cases minus : c = '-'
    · subst minus
      change (run? isValueChar (cs.map Char.toLower)).map ('-' :: ·) = _
      rw [run, Option.map_map]
      change _ = ((run? isValueChar cs).map ('-' :: ·)).map _
      rw [Option.map_map]
      rfl
    · have minus' : c.toLower ≠ '-' := fun eq => minus ((toLower_eq_iff rfl).mp eq)
      rw [List.map_cons, token?_of_ne minus', token?_of_ne minus, ← List.map_cons, run]

theorem word?_readsLetters : ReadsLetters word? := by
  intro cs
  have run := run?_readsLetters isWord_toLower
  cases cs with
  | nil => rfl
  | cons c cs =>
    simp only [List.map_cons, word?, isQuote_toLower]
    split
    · exact run cs
    · exact run (c :: cs)

theorem quotedText?_readsLetters : ReadsLetters quotedText? := by
  intro cs
  cases cs with
  | nil => rfl
  | cons c cs =>
    have same : (!isQuote ·) ∘ Char.toLower = (!isQuote ·) :=
      funext fun c => congrArg not (isQuote_toLower c)
    simp only [List.map_cons, quotedText?, isQuote_toLower, List.dropWhile_map, List.takeWhile_map,
      same, List.isEmpty_map]
    split <;> rfl

theorem inputBody_map (cs : List Char) :
    inputBody (cs.map Char.toLower) = (inputBody cs).map Char.toLower := by
  simp only [inputBody]
  rw [dropWord?_map (by decide), dropWord?_map (by decide), Option.getD_map, Option.getD_map]

theorem dropInput?_map (cs : List Char) :
    dropInput? (cs.map Char.toLower) = (dropInput? cs).map (·.map Char.toLower) := by
  rw [dropInput?_eq, dropInput?_eq, dropWord?_map (by decide)]
  cases Text.dropWord? "input".toList cs with
  | none => rfl
  | some rest =>
    simp only [Option.map_some, Option.bind_some, inputBody_map]
    exact dropSign?_map rfl _

theorem number?_readsLetters : ReadsLetters number? := by
  intro cs
  have labelled (inner : List Char) :
      ((Text.dropWord? "defval".toList (inner.map Char.toLower)).bind dropEquals?).bind token? =
        (((Text.dropWord? "defval".toList inner).bind dropEquals?).bind token?).map
          (·.map Char.toLower) := by
    rw [dropWord?_map (by decide)]
    cases Text.dropWord? "defval".toList inner with
    | none => rfl
    | some body =>
      simp only [Option.map_some, Option.bind_some, dropEquals?_eq]
      rw [dropSign?_map rfl]
      cases dropSign? '=' body with
      | none => rfl
      | some rest => exact token?_readsLetters rest
  unfold number?
  rw [dropInput?_map]
  cases dropInput? cs with
  | none => exact token?_readsLetters cs
  | some inner =>
    simp only [Option.map_some, labelled]
    rw [token?_readsLetters, token?_readsLetters, Option.map_or, Option.map_or]

theorem assigned?_map (words : areWords names = true) (reads : ReadsLetters value)
    (cs : List Char) :
    assigned? names value (cs.map Char.toLower) =
      (assigned? names value cs).map String.toLower := by
  let target (cs : List Char) := (dropName? names cs).bind value
  have same (cs : List Char) :
      target (cs.map Char.toLower) = (target cs).map (·.map Char.toLower) := by
    change (dropName? names (cs.map Char.toLower)).bind value = _
    rw [dropName?_map words, Option.map_bind, Option.bind_map]
    exact congrArg (Option.bind _) (funext reads)
  have found := search_map same none cs
  rw [Option.map_none] at found
  rw [assigned?, assigned?, found, Option.map_map, Option.map_map]
  exact congrArg (Option.map · _) (funext fun raw => (ofList_toLower raw).symm)

theorem mentions_map {word : String} (letters : word.toList.all isLetter = true)
    (cs : List Char) : mentions word (cs.map Char.toLower) = mentions word cs := by
  induction cs with
  | nil => rfl
  | cons c cs ih =>
    rw [List.map_cons, mentions, mentions, ih, ← List.map_cons, dropWord?_map letters,
      Option.isSome_map]

theorem callsSma_map (cs : List Char) : callsSma (cs.map Char.toLower) = callsSma cs := by
  unfold callsSma
  rw [dropWord?_map (by decide)]
  cases Text.dropWord? "sma".toList cs with
  | none => rfl
  | some rest =>
    simp only [Option.map_some, skipBlank_map]
    cases skipBlank rest with
    | nil => rfl
    | cons c rest => simp [toLower_eq_iff]

theorem hintsSma_map (cs : List Char) : hintsSma (cs.map Char.toLower) = hintsSma cs := by
  have found := search_map (f := id) (fun cs => (callsSma_map cs).trans Option.map_id'.symm) none cs
  rw [Option.map_none, Option.map_id] at found
  rw [hintsSma, hintsSma, mentions_map (by decide), found]
  rfl

end Pattern

/-- An error about the same value, written in small letters. -/
def ScriptError.lowered : ScriptError → ScriptError
  | .notNumber field raw => .notNumber field raw.toLower
  | .notFinite field raw => .notFinite field raw.toLower
  | .notWhole field raw => .notWhole field raw.toLower
  | .notPositive field raw => .notPositive field raw.toLower
  | .negative field raw => .negative field raw.toLower
  | .unknownEntry raw => .unknownEntry raw.toLower
  | .unknownAverage raw => .unknownAverage raw.toLower
  | e => e

theorem ScriptError.field_lowered (e : ScriptError) : e.lowered.field = e.field := by
  cases e <;> rfl

namespace Script

open Pattern

variable {β : Type}

theorem isBlank_toLower (text : String) : isBlank text.toLower = isBlank text := by
  rw [isBlank, Text.toList_toLower, List.all_map]
  exact congrArg (List.all _) (funext Text.isBlank_toLower)

/-- Whether a value is read alike from a text in small letters. -/
def ReadsAlike (read : String → Except ScriptError β) : Prop :=
  ∀ raw, read raw.toLower = (read raw).mapError ScriptError.lowered

theorem finite_readsAlike (field : ScriptField) : ReadsAlike (finite field) := by
  intro raw
  simp only [finite, Numeral.real?_toLower]
  cases Numeral.real? raw with
  | none => rfl
  | some x => cases x <;> rfl

theorem period_readsAlike (field : ScriptField) : ReadsAlike (period field) := by
  intro raw
  simp only [period, bind_mapError, finite_readsAlike field raw]
  refine congrArg (Except.bind _) (funext fun x => ?_)
  split
  · rfl
  split <;> rfl

theorem percent_readsAlike (field : ScriptField) : ReadsAlike (percent field) := by
  intro raw
  simp only [percent, bind_mapError, finite_readsAlike field raw]
  refine congrArg (Except.bind _) (funext fun x => ?_)
  split <;> rfl

theorem optional_toLower {read : String → Except ScriptError β} (reads : ReadsAlike read)
    (raw : Option String) :
    optional read (raw.map String.toLower) = (optional read raw).mapError ScriptError.lowered := by
  cases raw with
  | none => rfl
  | some raw =>
    simp only [Option.map_some, optional, reads raw]
    cases read raw <;> rfl

theorem entry_toLower (named : Option String) (hasRsiPeriod : Bool) (script : List Char) :
    entry (named.map String.toLower) hasRsiPeriod (script.map Char.toLower) =
      (entry named hasRsiPeriod script).mapError ScriptError.lowered := by
  cases named with
  | none =>
    simp only [Option.map_none, entry, Text.map_toLower_toLower]
    split
    · rfl
    split <;> rfl
  | some raw =>
    simp only [Option.map_some, entry, Text.upper_toLower]
    cases Entry.ofName? (Text.upper raw) <;> rfl

theorem average_toLower (named : Option String) (script : List Char) :
    average (named.map String.toLower) (script.map Char.toLower) =
      (average named script).mapError ScriptError.lowered := by
  cases named with
  | none =>
    simp only [Option.map_none, average, hintsSma_map]
    rfl
  | some raw =>
    simp only [Option.map_some, average, Text.upper_toLower]
    cases Average.ofName? (Text.upper raw) <;> rfl

/-- The values with the rule in small letters. -/
def Values.lowered (v : Values) : Values := { v with rule := v.rule.map String.toLower }

/-- The strategy with the rule in small letters. -/
def lowered (s : Strategy Binary64) : Strategy Binary64 :=
  { s with customRule := s.customRule.map String.toLower }

theorem values_toLower (script : List Char) :
    values (script.map Char.toLower) =
      ((values script).mapError ScriptError.lowered).map Values.lowered := by
  have number : ∀ field, assigned? (numericNames field) number? (script.map Char.toLower) =
      (assigned? (numericNames field) number? script).map String.toLower :=
    fun field => assigned?_map (numericNames_areWords field) number?_readsLetters script
  have word : ∀ names, areWords names = true →
      assigned? names word? (script.map Char.toLower) =
        (assigned? names word? script).map String.toLower :=
    fun _ words => assigned?_map words word?_readsLetters script
  have rule : assigned? ruleNames quotedText? (script.map Char.toLower) =
      (assigned? ruleNames quotedText? script).map String.toLower :=
    assigned?_map (by decide) quotedText?_readsLetters script
  have fast := number .fastPeriod
  have slow := number .slowPeriod
  have stopLoss := number .stopLossPercent
  have takeProfit := number .takeProfitPercent
  have rsiPeriod := number .rsiPeriod
  have overbought := number .rsiOverbought
  have oversold := number .rsiOversold
  have threshold := number .priceThreshold
  simp only [numericNames] at fast slow stopLoss takeProfit rsiPeriod overbought oversold threshold
  simp only [values, fast, slow, stopLoss, takeProfit, rsiPeriod, overbought, oversold, threshold,
    rule, word entryNames (by decide), word averageNames (by decide),
    optional_toLower (period_readsAlike _), optional_toLower (percent_readsAlike _),
    optional_toLower (finite_readsAlike _), entry_toLower, average_toLower, bind_mapError, map_bind]
  rfl

theorem strategy_lowered (v : Values) :
    strategy v.lowered = ((strategy v).mapError ScriptError.lowered).map lowered := by
  have rule : v.lowered.rule.all isBlank = v.rule.all isBlank := by
    rw [Values.lowered, Option.all_map]
    exact congrArg (Option.all · v.rule) (funext isBlank_toLower)
  simp only [strategy, rule, apply_ite (Except.mapError ScriptError.lowered),
    apply_ite (Except.map lowered)]
  rfl

/-- Compiling a text in small letters gives the same strategy, with its rule in small letters, or
the same error. -/
theorem parse_toLower (text : String) :
    parse text.toLower = ((parse text).mapError ScriptError.lowered).map lowered := by
  simp only [parse, isBlank_toLower, Text.toList_toLower, values_toLower]
  split
  · rfl
  · cases values text.toList with
    | error e => rfl
    | ok v => exact strategy_lowered v

/-- Whether two texts compile alike: to strategies that differ at most in the case of the rule's
letters, or to errors about the same field. -/
inductive CompileAlike : (result result' : Except ScriptError (Strategy Binary64)) → Prop
  | compiled {s s' : Strategy Binary64} (same : s' = { s with customRule := s'.customRule })
      (rule : s'.customRule.map String.toLower = s.customRule.map String.toLower) :
      CompileAlike (.ok s) (.ok s')
  | failed {e e' : ScriptError} (field : e'.field = e.field) : CompileAlike (.error e) (.error e')

/-- **Case does not matter.** Two texts that differ only in the case of ASCII letters both compile or
both fail. Their strategies differ at most in the case of the rule's letters, and their errors are
about the same field. -/
theorem parse_sameLetters {text text' : String} (h : text.toLower = text'.toLower) :
    CompileAlike (parse text) (parse text') := by
  have same : ((parse text').mapError ScriptError.lowered).map lowered =
      ((parse text).mapError ScriptError.lowered).map lowered := by
    rw [← parse_toLower, ← parse_toLower, h]
  generalize parse text = result at same
  generalize parse text' = result' at same
  cases result with
  | error e =>
    cases result' with
    | error e' =>
      have errors : e'.lowered = e.lowered := Except.error.inj same
      refine .failed ?_
      rw [← e'.field_lowered, errors, e.field_lowered]
    | ok s' => cases same
  | ok s =>
    cases result' with
    | error e' => cases same
    | ok s' =>
      have strategies : lowered s' = lowered s := Except.ok.inj same
      simp only [lowered, Strategy.mk.injEq] at strategies
      obtain ⟨entry, average, fast, slow, stopLoss, takeProfit, rsi, high, low, threshold, rule⟩ :=
        strategies
      refine .compiled ?_ rule
      rw [← entry, ← average, ← fast, ← slow, ← stopLoss, ← takeProfit, ← rsi, ← high, ← low,
        ← threshold]

/-- A text with a rule and a long s in it. -/
def sampleText : String := "entryType = Custom customRule = \"Close > ſma\""

/-- The same text with every ASCII letter in the other case. -/
def sampleTurned : String := "ENTRYtYPE = cUSTOM CUSTOMrULE = \"cLOSE > ſMA\""

theorem sample_sameLetters :
    sampleText.toLower = sampleTurned.toLower ∧
      CompileAlike (parse sampleText) (parse sampleTurned) := by
  have same : sampleText.toLower = sampleTurned.toLower := by
    rw [← String.toList_inj, Text.toList_toLower, Text.toList_toLower]
    decide
  exact ⟨same, parse_sameLetters same⟩

end Script
end SignalDesk
