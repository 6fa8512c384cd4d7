import SignalDesk.Proofs.Strategy.Reading
import SignalDesk.Proofs.Strategy.Words

/-!
# Scripts joined

What is found in a text is found in it still when another one follows, if no run of value characters
goes on from the one into the other: names (`Pattern.dropName?_append`), numbers
(`Pattern.number?_append`) and what a search gives (`Pattern.search_append_some`,
`Pattern.search_append_none`). Only a value that is missing at the end of the first text may be
found in the second.
-/

namespace SignalDesk
namespace Pattern

open Text

/-- Whether a text starts with a character that takes no part in an assignment before it. -/
def Inert (back : List Char) : Prop :=
  ∃ x rest, back = x :: rest ∧ isBlank x = false ∧ x ≠ '=' ∧ x ≠ '(' ∧ x ≠ '-'

variable {back cs rest : List Char} {names : List String}

/-- The rest after a sign and the blanks around it. -/
def dropSign? (sign : Char) (cs : List Char) : Option (List Char) :=
  match skipBlank cs with
  | c :: rest => if c = sign then some (skipBlank rest) else none
  | [] => none

theorem dropEquals?_eq (cs : List Char) : dropEquals? cs = dropSign? '=' cs := by
  unfold dropEquals? dropSign?
  split <;> rename_i eq
  · simp [eq]
  · split
    · rename_i c rest found
      rw [if_neg]
      rintro rfl
      exact eq rest found
    · rfl

theorem skipBlank_append (inert : Inert back) (cs : List Char) :
    skipBlank (cs ++ back) = skipBlank cs ++ back := by
  obtain ⟨x, rest, rfl, visible, -⟩ := inert
  induction cs with
  | nil => simp [skipBlank, visible]
  | cons c cs ih =>
    simp only [skipBlank, List.cons_append, List.dropWhile_cons]
    split
    · exact ih
    · rfl

theorem dropSign?_append {sign : Char} (inert : Inert back) (listed : sign = '=' ∨ sign = '(')
    (cs : List Char) : dropSign? sign (cs ++ back) = (dropSign? sign cs).map (· ++ back) := by
  unfold dropSign?
  rw [skipBlank_append inert]
  cases skipBlank cs with
  | nil =>
    obtain ⟨x, rest, rfl, -, equals, opens, -⟩ := inert
    rcases listed with rfl | rfl
    · simp [equals]
    · simp [opens]
  | cons c cs =>
    simp only [List.cons_append]
    split
    · simp [skipBlank_append inert]
    · rfl

theorem Apart.skipBlank (h : Apart back cs) : skipBlank cs = [] ∨ Apart back (skipBlank cs) := by
  rw [← List.takeWhile_append_dropWhile (p := isBlank) (l := cs)] at h
  exact h.suffix

theorem Apart.dropSign? {sign : Char} (h : Apart back cs)
    (dropped : dropSign? sign cs = some rest) : rest = [] ∨ Apart back rest := by
  unfold Pattern.dropSign? at dropped
  split at dropped
  · rename_i c cs' found
    split at dropped
    · cases dropped
      rcases h.skipBlank with none | apart
      · rw [none] at found
        cases found
      · rw [found] at apart
        rcases Apart.suffix (show Apart back ([c] ++ cs') from apart) with rfl | apart
        · exact .inl rfl
        · exact apart.skipBlank
    · cases dropped
  · cases dropped

theorem Apart.dropWord? {w : List Char} (h : Apart back cs) (letters : w.all isLetter = true)
    (dropped : Text.dropWord? w cs = some rest) : Apart back rest := by
  obtain ⟨front, mapped, rfl⟩ := (dropWord?_eq_some letters).mp dropped
  exact h.behind fun c mem =>
    isBlank_of_isValueChar (isValueChar_of_map_folded letters mapped c mem)

/-- Whether names are words of letters. -/
def areWords (names : List String) : Bool :=
  names.all fun name => !name.toList.isEmpty && name.toList.all isLetter

theorem letters_of_areWords (words : areWords names = true) {name : String} (h : name ∈ names) :
    name.toList.all isLetter = true :=
  (Bool.and_eq_true_iff.mp (List.all_eq_true.mp words name h)).2

theorem dropName?_append (inert : Inert back) (h : Apart back cs)
    (words : areWords names = true) :
    dropName? names (cs ++ back) = (dropName? names cs).map (· ++ back) := by
  unfold dropName?
  induction names with
  | nil => rfl
  | cons name names ih =>
    have first : (Text.dropWord? name.toList (cs ++ back)).bind dropEquals? =
        ((Text.dropWord? name.toList cs).bind dropEquals?).map (· ++ back) := by
      rw [dropWord?_append h (letters_of_areWords words List.mem_cons_self)]
      cases Text.dropWord? name.toList cs with
      | none => rfl
      | some rest => simp [dropEquals?_eq, dropSign?_append inert]
    rw [List.findSome?_cons, List.findSome?_cons, first,
      ih (Bool.and_eq_true_iff.mp words).2]
    cases (Text.dropWord? name.toList cs).bind dropEquals? <;> rfl

theorem dropName?_some (h : dropName? names cs = some rest) :
    ∃ name ∈ names, ∃ behind, Text.dropWord? name.toList cs = some behind ∧
      dropEquals? behind = some rest := by
  obtain ⟨name, mem, dropped⟩ := List.exists_of_findSome?_eq_some h
  obtain ⟨behind, word, sign⟩ := Option.bind_eq_some_iff.mp dropped
  exact ⟨name, mem, behind, word, sign⟩

/-- A name stands where a value character does. -/
theorem dropName?_of_stop {c : Char} (words : areWords names = true)
    (stop : isValueChar c = false) : dropName? names (c :: cs) = none := by
  cases found : dropName? names (c :: cs) with
  | none => rfl
  | some rest =>
    obtain ⟨name, mem, behind, word, -⟩ := dropName?_some found
    have letters := letters_of_areWords words mem
    obtain ⟨front, mapped, eq⟩ := (dropWord?_eq_some letters).mp word
    cases front with
    | nil =>
      have empty := List.all_eq_true.mp words name mem
      rw [← mapped] at empty
      cases empty
    | cons d front =>
      cases eq
      rw [isValueChar_of_map_folded letters mapped c List.mem_cons_self] at stop
      cases stop

theorem Apart.dropName? (h : Apart back cs) (words : areWords names = true)
    (dropped : dropName? names cs = some rest) : rest = [] ∨ Apart back rest := by
  obtain ⟨name, mem, behind, word, sign⟩ := dropName?_some dropped
  rw [dropEquals?_eq] at sign
  exact (h.dropWord? (letters_of_areWords words mem) word).dropSign? sign

theorem run?_append {p : Char → Bool} (h : Apart back cs)
    (value : ∀ c, p c = true → isValueChar c = true) : run? p (cs ++ back) = run? p cs := by
  rw [run?, run?, takeWhile_append h value]

theorem token?_of_ne {c : Char} (h : c ≠ '-') :
    token? (c :: cs) = run? isValueChar (c :: cs) := by
  unfold token?
  split
  · rename_i eq
    exact absurd (List.cons.inj eq).1 h
  · rfl

theorem token?_append (inert : Inert back) (h : Apart back cs) :
    token? (cs ++ back) = token? cs := by
  cases cs with
  | nil =>
    obtain ⟨x, rest, rfl, -, -, -, noMinus⟩ := inert
    exact (token?_of_ne noMinus).trans (run?_append h fun _ => id)
  | cons c cs =>
    by_cases minus : c = '-'
    · subst minus
      exact congrArg (Option.map _) (run?_append (h.tail (by decide)) fun _ => id)
    · rw [List.cons_append, token?_of_ne minus, token?_of_ne minus, ← List.cons_append]
      exact run?_append h fun _ => id

theorem word?_append {c : Char} (h : Apart back (c :: cs)) :
    word? (c :: cs ++ back) = word? (c :: cs) := by
  have value : ∀ c, isWord c = true → isValueChar c = true :=
    fun c word => by simp [isValueChar, word]
  simp only [List.cons_append, word?]
  split
  · rename_i quote
    have visible : isBlank c = false := by
      rcases Bool.or_eq_true_iff.mp quote with same | same
      all_goals
        rw [eq_of_beq same]
        decide
    exact run?_append (h.tail visible) value
  · exact run?_append h value

/-- What follows the word of an input, with or without the type of its value. -/
def inputBody (cs : List Char) : List Char :=
  (Text.dropWord? ".int".toList cs).getD ((Text.dropWord? ".float".toList cs).getD cs)

theorem dropInput?_eq (cs : List Char) :
    dropInput? cs =
      (Text.dropWord? "input".toList cs).bind fun rest => dropSign? '(' (inputBody rest) := by
  unfold dropInput?
  cases Text.dropWord? "input".toList cs with
  | none => rfl
  | some rest =>
    simp only [Option.bind_some, inputBody, dropSign?]
    split <;> rename_i eq
    · rw [eq]
      exact (if_pos rfl).symm
    · split
      · rename_i c rest found
        rw [if_neg]
        rintro rfl
        exact eq rest found
      · rfl

theorem inputBody_suffix (cs : List Char) : inputBody cs <:+ cs := by
  unfold inputBody
  cases whole : Text.dropWord? ".int".toList cs with
  | some rest => exact dropWord?_suffix (by decide) whole
  | none =>
    cases real : Text.dropWord? ".float".toList cs with
    | some rest => exact dropWord?_suffix (by decide) real
    | none => exact List.suffix_refl cs

theorem Apart.inputBody (h : Apart back cs) : Apart back (inputBody cs) := by
  unfold Pattern.inputBody
  cases whole : Text.dropWord? ".int".toList cs with
  | some rest => exact h.dropWord? (by decide) whole
  | none =>
    cases real : Text.dropWord? ".float".toList cs with
    | some rest => exact h.dropWord? (by decide) real
    | none => exact h

theorem inputBody_append (h : Apart back cs) : inputBody (cs ++ back) = inputBody cs ++ back := by
  simp only [inputBody]
  rw [dropWord?_append h (by decide), dropWord?_append h (by decide), Option.getD_map,
    Option.getD_map]

theorem dropInput?_append (inert : Inert back) (h : Apart back cs) :
    dropInput? (cs ++ back) = (dropInput? cs).map (· ++ back) := by
  rw [dropInput?_eq, dropInput?_eq, dropWord?_append h (by decide)]
  cases word : Text.dropWord? "input".toList cs with
  | none => rfl
  | some rest =>
    have apart : Apart back rest := h.dropWord? (by decide) word
    simp only [Option.map_some, Option.bind_some]
    rw [inputBody_append apart, dropSign?_append inert (.inr rfl)]

theorem Apart.dropInput? (h : Apart back cs) (dropped : dropInput? cs = some rest) :
    rest = [] ∨ Apart back rest := by
  rw [dropInput?_eq] at dropped
  obtain ⟨behind, word, sign⟩ := Option.bind_eq_some_iff.mp dropped
  exact (h.dropWord? (by decide) word).inputBody.dropSign? sign

/-- A word of letters that a text starts with is a value, too. -/
theorem token?_of_dropWord? {a : Char} {w : List Char} (letters : (a :: w).all isLetter = true)
    (h : Text.dropWord? (a :: w) cs = some rest) :
    ∃ c cs', folded c = a ∧ token? cs = some (c :: cs') := by
  obtain ⟨front, mapped, rfl⟩ := (dropWord?_eq_some letters).mp h
  obtain ⟨c, front, rfl, rfl, -⟩ := List.map_eq_cons_iff.mp mapped
  have value : isValueChar c = true :=
    isValueChar_of_folded (Bool.and_eq_true_iff.mp letters).1
  refine ⟨c, (front ++ rest).takeWhile isValueChar, rfl, ?_⟩
  rw [List.cons_append, token?_of_ne]
  · simp [run?, value]
  · rintro rfl
    exact absurd value (by decide)

theorem number?_eq_none : number? cs = none ↔ token? cs = none := by
  unfold number?
  cases input : dropInput? cs with
  | none => exact Iff.rfl
  | some inner =>
    simp only [Option.or_eq_none_iff]
    refine ⟨And.right, fun none => ?_⟩
    rw [dropInput?_eq] at input
    obtain ⟨behind, word, -⟩ := Option.bind_eq_some_iff.mp input
    obtain ⟨c, cs', -, some⟩ := token?_of_dropWord? (by decide) word
    rw [some] at none
    cases none

theorem number?_append_none (inert : Inert back) (h : Apart back cs)
    (absent : number? cs = none) : number? (cs ++ back) = none := by
  rw [number?_eq_none] at absent ⊢
  rw [token?_append inert h, absent]

/-- The characters that are read as small letters. -/
def letters : List Char :=
  (List.range' 65 26 ++ List.range' 97 26 ++ [0x130, 0x131, 0x17f, 0x212a]).map Char.ofNat

theorem mem_letters {c : Char} (h : (folded c).isLower = true) : c ∈ letters := by
  unfold folded at h
  split at h
  · rename_i same
    subst same
    decide
  split at h
  · rename_i same
    subst same
    decide
  split at h
  · rename_i same
    rcases same with rfl | rfl <;> decide
  · simp only [isLower_iff, toNat_toLower, isUpper_iff] at h
    refine List.mem_map.mpr ⟨c.toNat, ?_, Char.ofNat_toNat c⟩
    simp only [List.mem_append, List.mem_range'_1]
    split at h <;> omega

/-- No letter is a part of a number but in its exponent. -/
theorem letter_facts {c : Char} (h : (folded c).isLower = true) :
    isSpace c = false ∧ Numeral.asciiDigit c = c ∧ c ≠ '-' ∧ c ≠ '+' ∧ c ≠ '.' ∧
      c.isDigit = false := by
  have facts : letters.all (fun c => decide (isSpace c = false ∧
      Numeral.asciiDigit c = c ∧ c ≠ '-' ∧ c ≠ '+' ∧ c ≠ '.' ∧ c.isDigit = false)) = true := by
    decide +kernel
  exact of_decide_eq_true (List.all_eq_true.mp facts c (mem_letters h))

/-- What a plain text starts with it keeps. -/
theorem plain_start {c : Char} (solid : isSpace c = false) (same : Numeral.asciiDigit c = c)
    (cs : List Char) : ∃ ds, Numeral.plain (c :: cs) = c :: ds ∧
      ∀ d, isSpace d = false → Numeral.asciiDigit d = d →
        Numeral.plain (d :: c :: cs) = d :: c :: ds := by
  have kept : (c :: cs).reverse.dropWhile isSpace = cs.reverse.dropWhile isSpace ++ [c] := by
    rw [List.reverse_cons, List.dropWhile_append]
    split
    · rename_i empty
      simp [List.isEmpty_iff.mp empty, solid]
    · rfl
  refine ⟨(((cs.reverse.dropWhile isSpace).reverse).map Numeral.asciiDigit), ?_, ?_⟩
  · rw [Numeral.plain, trim, List.dropWhile_cons, if_neg (by simp [solid]), kept]
    simp [same]
  · intro d visible fixed
    rw [Numeral.plain, trim, List.dropWhile_cons, if_neg (by simp [visible]), List.reverse_cons,
      List.dropWhile_append, kept]
    simp [same, fixed]

theorem decimal?_letter {c : Char} (h : (folded c).isLower = true) (negative : Bool)
    (cs : List Char) : Numeral.decimal? negative (c :: cs) = none := by
  obtain ⟨-, -, -, -, noPoint, noDigit⟩ := letter_facts h
  have run : Numeral.digitRun false (c :: cs) = ([], c :: cs) := by
    simp [Numeral.digitRun, noDigit]
  simp only [Numeral.decimal?, run]
  split
  · rename_i eq
    exact absurd (List.cons.inj eq).1 noPoint
  · rfl

/-- A text that starts with a letter, perhaps behind a minus, is no finite number. -/
theorem real?_ne_finite {minus : List Char} {c : Char} (signed : minus = [] ∨ minus = ['-'])
    (h : (folded c).isLower = true) (cs : List Char) (x : Binary64) :
    Numeral.real? (String.ofList (minus ++ c :: cs)) ≠ some (.finite x) := by
  obtain ⟨solid, same, noMinus, noPlus, -⟩ := letter_facts h
  obtain ⟨ds, bare, behind⟩ := plain_start solid same cs
  obtain ⟨negative, sign⟩ : ∃ negative,
      Numeral.sign (Numeral.plain (minus ++ c :: cs)) = (negative, c :: ds) := by
    rcases signed with rfl | rfl
    · rw [List.nil_append, bare]
      unfold Numeral.sign
      split
      · rename_i eq
        exact absurd (List.cons.inj eq).1 noMinus
      · rename_i eq
        exact absurd (List.cons.inj eq).1 noPlus
      · exact ⟨false, rfl⟩
    · rw [List.singleton_append, behind '-' (by decide) (by decide)]
      exact ⟨true, rfl⟩
  simp only [Numeral.real?, String.toList_ofList, sign, decimal?_letter h]
  split
  · simp
  split <;> simp

theorem number?_append (inert : Inert back) (h : Apart back cs) {raw : List Char} {x : Binary64}
    (found : number? cs = some raw)
    (finite : Numeral.real? (String.ofList raw) = some (.finite x)) :
    number? (cs ++ back) = some raw := by
  -- the value is no word, so it does not stand for one that is missing in the parenthesis
  have noWord : ∀ {a w cs rest}, (a = 'i' ∨ a = 'd') → (a :: w).all isLetter = true →
      Text.dropWord? (a :: w) cs = some rest → token? cs ≠ some raw := by
    intro a w cs rest first letters word same
    obtain ⟨c, cs', rfl, token⟩ := token?_of_dropWord? letters word
    rw [same] at token
    cases token
    have letter : (folded c).isLower = true := by rcases first with eq | eq <;> rw [eq] <;> decide
    exact real?_ne_finite (.inl rfl) letter _ _ finite
  have outer := token?_append inert h
  unfold number? at found ⊢
  rw [dropInput?_append inert h]
  cases input : dropInput? cs with
  | none =>
    rw [input] at found
    exact outer.trans found
  | some inner =>
    rw [input] at found
    simp only [Option.map_some, outer] at found ⊢
    obtain ⟨behind, word, -⟩ := Option.bind_eq_some_iff.mp (dropInput?_eq cs ▸ input)
    rcases h.dropInput? input with rfl | apart
    · exact absurd found (noWord (.inl rfl) (by decide) word)
    rw [dropWord?_append apart (by decide), token?_append inert apart]
    cases label : Text.dropWord? "defval".toList inner with
    | none =>
      rw [label] at found
      exact found
    | some body =>
      rw [label] at found
      simp only [Option.map_some, Option.bind_some, dropEquals?_eq] at found ⊢
      rw [dropSign?_append inert (.inl rfl)]
      cases sign : dropSign? '=' body with
      | none =>
        rw [sign] at found
        exact found
      | some value =>
        rw [sign] at found
        simp only [Option.map_some, Option.bind_some] at found ⊢
        rcases (apart.dropWord? (by decide) label).dropSign? sign with rfl | apart'
        · obtain ⟨c, cs', -, token⟩ := token?_of_dropWord? (by decide) label
          refine absurd ?_ (noWord (.inr rfl) (by decide) label)
          rw [token] at found ⊢
          exact found
        · rw [token?_append inert apart']
          exact found

section Search

variable {β : Type} {p : List Char → Option β} {before : Option Char} {b : β}

theorem search_cons (c : Char) (cs : List Char) :
    search p before (c :: cs) =
      (if startsName before = true then p (c :: cs) else none).or (search p (some c) cs) := by
  rw [search]
  split <;> rename_i found <;> rw [found] <;> rfl

theorem getLast?_cons_or (before : Option Char) (c : Char) (cs : List Char) :
    (c :: cs).getLast?.or before = cs.getLast?.or (some c) := by
  rw [List.getLast?_cons]
  cases cs.getLast? <;> rfl

theorem search_eq_none : search p before cs = none ↔
    ∀ front c rest, cs = front ++ c :: rest →
      startsName (front.getLast?.or before) = true → p (c :: rest) = none := by
  induction cs generalizing before with
  | nil => simp [search]
  | cons c cs ih =>
    rw [search_cons, Option.or_eq_none_iff, ih]
    constructor
    · rintro ⟨here, later⟩ (_ | ⟨c', front⟩) d rest eq starts
      · cases eq
        rw [List.getLast?_nil, Option.none_or] at starts
        rwa [if_pos starts] at here
      · cases eq
        rw [getLast?_cons_or] at starts
        exact later front d rest rfl starts
    · intro all
      constructor
      · split
        · rename_i starts
          exact all [] c cs rfl starts
        · rfl
      · intro front d rest eq starts
        rw [← getLast?_cons_or before] at starts
        exact all (c :: front) d rest (eq ▸ rfl) starts

theorem search_append_some (h : search p before cs = some b)
    (keeps : ∀ c rest, c :: rest <:+ cs → p (c :: rest) = some b → p (c :: rest ++ back) = some b)
    (misses : ∀ c rest, c :: rest <:+ cs → p (c :: rest) = none →
      p (c :: rest ++ back) = none ∨ search p (some c) rest = none) :
    search p before (cs ++ back) = some b := by
  induction cs generalizing before with
  | nil => cases h
  | cons c cs ih =>
    have tail : ∀ {rest}, rest <:+ cs → rest <:+ c :: cs := fun h => h.trans (List.suffix_cons c cs)
    rw [search_cons] at h
    rw [List.cons_append, search_cons, ← List.cons_append]
    split
    · rename_i starts
      rw [if_pos starts] at h
      cases here : p (c :: cs) with
      | some b' =>
        rw [here] at h
        cases h
        rw [keeps c cs (List.suffix_refl _) here]
        rfl
      | none =>
        rw [here, Option.none_or] at h
        rcases misses c cs (List.suffix_refl _) here with none | absent
        · rw [none, Option.none_or]
          exact ih h (fun d rest suffix => keeps d rest (tail suffix))
            fun d rest suffix => misses d rest (tail suffix)
        · rw [absent] at h
          cases h
    · rename_i inside
      rw [if_neg inside] at h
      rw [Option.none_or] at h ⊢
      exact ih h (fun d rest suffix => keeps d rest (tail suffix))
        fun d rest suffix => misses d rest (tail suffix)

theorem search_append_none
    (misses : ∀ front c rest, cs = front ++ c :: rest →
      startsName (front.getLast?.or before) = true → p (c :: rest ++ back) = none) :
    search p before (cs ++ back) = search p (cs.getLast?.or before) back := by
  induction cs generalizing before with
  | nil => rfl
  | cons c cs ih =>
    rw [List.cons_append, search_cons, ← List.cons_append, getLast?_cons_or]
    have here : (if startsName before = true then p (c :: cs ++ back) else none) = none := by
      split
      · rename_i starts
        exact misses [] c cs rfl starts
      · rfl
    rw [here, Option.none_or]
    refine ih fun front d rest eq starts => ?_
    rw [← getLast?_cons_or before] at starts
    exact misses (c :: front) d rest (eq ▸ rfl) starts

end Search

end Pattern
end SignalDesk
