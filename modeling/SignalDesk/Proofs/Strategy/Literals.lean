import SignalDesk.Proofs.Strategy.Bounds

/-!
# Numbers as they are written

A finite number, bare or wrapped in an input, is read as it is written
(`Pattern.Literal.number?_bare`, `Pattern.Literal.number?_wrapped`). A search for something that
starts with a letter finds nothing in either form, so it goes on behind them alike
(`Pattern.Lettered.search_literal`, `Pattern.Lettered.search_wrapped`).
-/

namespace SignalDesk
namespace Pattern

open Text

variable {β : Type} {p : List Char → Option β} {before : Option Char}
  {back cs v call : List Char} {names : List String}

/-- The words that a value is wrapped with. -/
def calls : List String := ["input", "input.int", "input.float"]

/-- A value as the first argument of an input. -/
def wrapped (call v : List Char) : List Char := call ++ '(' :: (v ++ [')'])

theorem wrapped_append (call v back : List Char) :
    wrapped call v ++ back = call ++ '(' :: (v ++ ')' :: back) := by
  simp [wrapped]

/-- Whether a text is a finite number as it is written. -/
structure Literal (v : List Char) : Prop where
  token : token? v = some v
  finite : ∃ x, Numeral.real? (String.ofList v) = some (.finite x)

/-- A number is a run of value characters that starts with no letter, perhaps behind a minus. -/
theorem Literal.shape (h : Literal v) :
    ∃ minus c run, v = minus ++ c :: run ∧ (minus = [] ∨ minus = ['-']) ∧
      (∀ d ∈ c :: run, isValueChar d = true) ∧ (folded c).isLower = false := by
  obtain ⟨token, x, finite⟩ := h
  have shape : ∃ minus run, v = minus ++ run ∧ (minus = [] ∨ minus = ['-']) ∧
      (∀ d ∈ run, isValueChar d = true) ∧ run ≠ [] := by
    unfold token? at token
    split at token
    · obtain ⟨run, found, same⟩ := Option.map_eq_some_iff.mp token
      obtain ⟨-, chars, visible⟩ := run?_some found
      exact ⟨['-'], run, same.symm, .inr rfl, chars, visible⟩
    · obtain ⟨-, chars, visible⟩ := run?_some token
      exact ⟨[], v, rfl, .inl rfl, chars, visible⟩
  obtain ⟨minus, run, rfl, signed, chars, visible⟩ := shape
  obtain ⟨c, run, rfl⟩ := List.exists_cons_of_ne_nil visible
  refine ⟨minus, c, run, rfl, signed, chars, Bool.eq_false_iff.mpr fun letter => ?_⟩
  exact real?_ne_finite signed letter run x finite

/-- What a number starts with is neither a blank nor read as a letter. -/
theorem Literal.start (h : Literal v) :
    ∃ c cs, v = c :: cs ∧ isBlank c = false ∧ (folded c).isLower = false := by
  obtain ⟨minus, c, run, rfl, rfl | rfl, chars, noLetter⟩ := h.shape
  · exact ⟨c, run, rfl, isBlank_of_isValueChar (chars c List.mem_cons_self), noLetter⟩
  · exact ⟨'-', c :: run, rfl, by decide, by decide⟩

theorem dropWord?_noLetter {a c : Char} {w : List Char} (lower : a.isLower = true)
    (noLetter : (folded c).isLower = false) : Text.dropWord? (a :: w) (c :: cs) = none := by
  rw [Text.dropWord?, if_neg]
  rw [reads_iff (by simp [isLetter, lower])]
  rintro rfl
  rw [lower] at noLetter
  cases noLetter

theorem Literal.skipBlank_append (h : Literal v) (back : List Char) :
    skipBlank (v ++ back) = v ++ back := by
  obtain ⟨c, cs, rfl, visible, -⟩ := h.start
  rw [List.cons_append, skipBlank, List.dropWhile_cons, if_neg (by simp [visible])]

theorem Literal.token?_append (h : Literal v) (stops : Stops back) :
    token? (v ++ back) = some v := by
  obtain ⟨c, cs, rfl, -⟩ := h.start
  rw [token?_stops stops (List.cons_ne_nil c cs), h.token]

theorem Literal.number?_bare (h : Literal v) (stops : Stops back) :
    number? (skipBlank (v ++ back)) = some v := by
  have bare : dropInput? (v ++ back) = none := by
    obtain ⟨c, cs, rfl, -, noLetter⟩ := h.start
    rw [dropInput?_eq, List.cons_append, show "input".toList = 'i' :: "nput".toList from rfl,
      dropWord?_noLetter (by decide) noLetter]
    rfl
  rw [h.skipBlank_append, number?, bare]
  exact h.token?_append stops

theorem calls_cases (known : String.ofList call ∈ calls) :
    call = "input".toList ∨ call = "input.int".toList ∨ call = "input.float".toList := by
  have listed := List.mem_map_of_mem (f := String.toList) known
  rw [String.toList_ofList] at listed
  simpa only [calls, List.map_cons, List.map_nil, List.mem_cons, List.not_mem_nil, or_false]
    using listed

theorem dropInput?_wrapped (known : String.ofList call ∈ calls) (cs : List Char) :
    skipBlank (call ++ '(' :: cs) = call ++ '(' :: cs ∧
      dropInput? (call ++ '(' :: cs) = some (skipBlank cs) := by
  rcases calls_cases known with rfl | rfl | rfl
  all_goals exact ⟨rfl, rfl⟩

theorem Literal.number?_wrapped (h : Literal v) (known : String.ofList call ∈ calls)
    (back : List Char) : number? (skipBlank (wrapped call v ++ back)) = some v := by
  have stops : Stops (')' :: back) := fun c eq => Option.some.inj eq ▸ rfl
  obtain ⟨start, input⟩ := dropInput?_wrapped known (v ++ ')' :: back)
  have unlabelled : Text.dropWord? "defval".toList (v ++ ')' :: back) = none := by
    obtain ⟨c, cs, rfl, -, noLetter⟩ := h.start
    exact dropWord?_noLetter (by decide) noLetter
  rw [wrapped_append, start, number?, input, h.skipBlank_append]
  simp only [unlabelled, h.token?_append stops]
  rfl

/-- Whether nothing is found but where a letter stands, and nothing at an i. -/
structure Lettered (p : List Char → Option β) : Prop where
  letter : ∀ c cs, (folded c).isLower = false → p (c :: cs) = none
  input : ∀ cs, p ('i' :: cs) = none

theorem noLetter_of_stop {c : Char} (stop : isValueChar c = false) :
    (folded c).isLower = false := by
  refine Bool.eq_false_iff.mpr fun lower => ?_
  rw [isValueChar_of_folded (by simp [isLetter, lower])] at stop
  cases stop

theorem Lettered.search_skip (h : Lettered p) {c : Char} (noLetter : (folded c).isLower = false) :
    search p before (c :: cs) = search p (some c) cs := by
  rw [search_cons, h.letter c cs noLetter, ite_self, Option.none_or]

theorem Lettered.search_stops (h : Lettered p) (stops : Stops back) :
    search p before back = search p none back :=
  Pattern.search_stops (fun c rest stop => h.letter c rest (noLetter_of_stop stop)) stops before

/-- Nothing is found inside a run of value characters. -/
theorem Lettered.search_word (h : Lettered p) {c : Char} {run : List Char}
    (chars : ∀ d ∈ c :: run, isValueChar d = true) (absent : ∀ cs, p (c :: cs) = none)
    (stops : Stops back) : search p before (c :: run ++ back) = search p none back := by
  rw [search_append_none, h.search_stops stops]
  intro front d rest split starts
  cases front with
  | nil =>
    obtain ⟨rfl, -⟩ := List.cons.inj split
    exact absent _
  | cons e front =>
    -- a place behind another character of the run is none to start at
    obtain ⟨f, last⟩ : ∃ f, (e :: front).getLast? = some f := ⟨_, List.getLast?_cons⟩
    rw [last, Option.some_or, startsName, chars f (split ▸ List.mem_append_left _
      (List.mem_of_getLast? last))] at starts
    cases starts

theorem Lettered.search_literal (h : Lettered p) (literal : Literal v) (stops : Stops back) :
    search p before (v ++ back) = search p none back := by
  obtain ⟨minus, c, run, rfl, signed, chars, noLetter⟩ := literal.shape
  have absent : ∀ cs, p (c :: cs) = none := fun cs => h.letter c cs noLetter
  rcases signed with rfl | rfl
  · exact h.search_word chars absent stops
  · have sign : (folded '-').isLower = false := by decide
    exact (h.search_skip sign).trans (h.search_word chars absent stops)

theorem Lettered.search_wrapped (h : Lettered p) (literal : Literal v)
    (known : String.ofList call ∈ calls) (stops : Stops back) :
    search p before (wrapped call v ++ back) = search p none back := by
  obtain ⟨run, rfl, chars⟩ : ∃ run, call = 'i' :: run ∧ ∀ d ∈ call, isValueChar d = true := by
    have all : ∀ call ∈ calls, call.toList.head? = some 'i' ∧
        call.toList.all isValueChar = true := by
      decide
    obtain ⟨head, chars⟩ := all _ known
    rw [String.toList_ofList] at head chars
    obtain ⟨run, rfl⟩ := List.head?_eq_some_iff.mp head
    exact ⟨run, rfl, List.all_eq_true.mp chars⟩
  have opens : Stops ('(' :: (v ++ ')' :: back)) := fun c eq => Option.some.inj eq ▸ rfl
  have closes : Stops (')' :: back) := fun c eq => Option.some.inj eq ▸ rfl
  calc search p before (wrapped ('i' :: run) v ++ back)
      = search p none ('(' :: (v ++ ')' :: back)) := by
        rw [wrapped_append, h.search_word chars h.input opens]
    _ = search p (some '(') (v ++ ')' :: back) := h.search_skip (by decide)
    _ = search p none (')' :: back) := h.search_literal literal closes
    _ = search p (some ')') back := h.search_skip (by decide)
    _ = search p none back := h.search_stops stops

/-- Whether names start with small letters, none of them with an i. -/
def startLettered (names : List String) : Bool :=
  names.all fun name => name.toList.head?.any fun c => c.isLower && c != 'i'

theorem dropName?_lettered {value : List Char → Option (List Char)} (words : areWords names = true)
    (lettered : startLettered names = true) :
    Lettered fun cs => (dropName? names cs).bind value := by
  have absent : ∀ c cs, (folded c).isLower = false ∨ folded c = 'i' →
      dropName? names (c :: cs) = none := by
    intro c cs other
    refine Option.eq_none_iff_forall_not_mem.mpr fun rest found => ?_
    obtain ⟨name, mem, behind, word, -⟩ := dropName?_some found
    obtain ⟨a, start, kind⟩ :=
      (Option.any_eq_true _ _).mp (List.all_eq_true.mp lettered name mem)
    obtain ⟨w, chars⟩ := List.head?_eq_some_iff.mp start
    obtain ⟨front, mapped, eq⟩ := (dropWord?_eq_some (letters_of_areWords words mem)).mp word
    rw [chars] at mapped
    obtain ⟨d, front, rfl, same, -⟩ := List.map_eq_cons_iff.mp mapped
    obtain ⟨rfl, -⟩ := List.cons.inj eq
    rw [Bool.and_eq_true, bne_iff_ne, ← same] at kind
    rcases other with noLetter | other
    · rw [kind.1] at noLetter
      cases noLetter
    · exact kind.2 other
  constructor
  · intro c cs noLetter
    rw [absent c cs (.inl noLetter)]
    rfl
  · intro cs
    rw [absent 'i' cs (.inr (by decide))]
    rfl

theorem callsSma_lettered : Lettered callsSma := by
  have absent : ∀ c cs, folded c ≠ 's' → callsSma (c :: cs) = none := by
    intro c cs other
    have none : Text.dropWord? "sma".toList (c :: cs) = none :=
      if_neg fun same => other ((reads_iff (by decide)).mp same)
    rw [callsSma_eq, none]
    rfl
  constructor
  · intro c cs noLetter
    refine absent c cs fun same => ?_
    rw [same] at noLetter
    exact absurd noLetter (by decide)
  · exact fun cs => absent 'i' cs (by decide)

end Pattern
end SignalDesk
