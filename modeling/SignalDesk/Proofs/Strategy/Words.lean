import SignalDesk.Strategy.Pattern

/-!
# Words in a script

A word of a pattern is found where characters that are read as its letters stand, one for each
(`Text.dropWord?_eq_some`), and each of them is a character of values and none is blank. Behind a
character that is no value character, or at one, a word ends, and what is read up to there does not
depend on what follows (`Pattern.dropWord?_append`, `Pattern.takeWhile_append`), nor does it where
the text ends (`Pattern.Stops`).
-/

namespace SignalDesk
namespace Text

/-- The letter that a character is read as, in any case. -/
def folded (c : Char) : Char :=
  if c = '\u017f' then 's' else if c = '\u212a' then 'k'
  else if c = '\u0131' ∨ c = '\u0130' then 'i' else c.toLower

/-- Characters that the words of patterns are written with. -/
def isLetter (c : Char) : Bool := c.isLower || c == '_' || c == '.'

theorem isLower_iff {c : Char} : c.isLower = true ↔ 97 ≤ c.toNat ∧ c.toNat ≤ 122 := by
  change (decide (97 ≤ c.val) && decide (c.val ≤ 122)) = true ↔ _
  simp [UInt32.le_iff_toNat_le, ← Char.toNat_val]

theorem isUpper_iff {c : Char} : c.isUpper = true ↔ 65 ≤ c.toNat ∧ c.toNat ≤ 90 := by
  change decide (65 ≤ c.val ∧ c.val ≤ 90) = true ↔ _
  simp [UInt32.le_iff_toNat_le, ← Char.toNat_val]

theorem toNat_toLower (c : Char) :
    c.toLower.toNat = if c.isUpper = true then c.toNat + 32 else c.toNat := by
  split
  · rename_i upper
    have range := isUpper_iff.mp upper
    have lowered : c.toLower.val = c.val + 32 :=
      congrArg Char.val (dif_pos (of_decide_eq_true upper))
    change c.toLower.val.toNat = c.val.toNat + 32
    rw [lowered, UInt32.toNat_add]
    simp
    omega
  · rename_i kept
    have same : c.toLower = c := dif_neg fun upper => kept (decide_eq_true upper)
    rw [same]

theorem isAlphanum_eq (c : Char) : c.isAlphanum = (c.isUpper || c.isLower || c.isDigit) := rfl

theorem folded_eq_symbol {c w : Char} (symbol : w = '_' ∨ w = '.') : folded c = w ↔ c = w := by
  unfold folded
  split
  · rename_i same
    subst same
    rcases symbol with rfl | rfl <;> decide
  split
  · rename_i same
    subst same
    rcases symbol with rfl | rfl <;> decide
  split
  · rename_i same
    rcases same with rfl | rfl <;> rcases symbol with rfl | rfl <;> decide
  · rw [← Char.toNat_inj, ← Char.toNat_inj, toNat_toLower]
    split
    · rename_i upper
      have range := isUpper_iff.mp upper
      rcases symbol with rfl | rfl
      · change c.toNat + 32 = 95 ↔ c.toNat = 95
        omega
      · change c.toNat + 32 = 46 ↔ c.toNat = 46
        omega
    · rfl

theorem reads_iff {w c : Char} (letter : isLetter w = true) : reads w c = true ↔ folded c = w := by
  by_cases lower : w.isLower = true
  · have range := isLower_iff.mp lower
    have far : ∀ x : Char, 122 < x.toNat → ¬x = w := by
      rintro x high rfl
      omega
    simp only [reads, if_pos lower, folded]
    split
    · rename_i same
      subst same
      simpa [far '\u017f' (by decide)] using eq_comm
    split
    · rename_i same
      subst same
      simpa [far '\u212a' (by decide)] using eq_comm
    split
    · rename_i same
      rcases same with rfl | rfl
      · simpa [far '\u0131' (by decide)] using eq_comm
      · simpa [far '\u0130' (by decide)] using eq_comm
    · rename_i s k i
      simp [s, k, not_or.mp i]
  · have symbol : w = '_' ∨ w = '.' := by simpa [isLetter, lower] using letter
    rw [folded_eq_symbol symbol]
    simp [reads, lower]

/-- Which characters past ASCII are characters of values. -/
theorem isValueChar_far {c : Char} (far : 128 ≤ c.toNat) :
    Pattern.isValueChar c =
      wordRanges.toList.any fun r => decide (r.1 ≤ c.toNat) && decide (c.toNat ≤ r.2) := by
  have point : (c == '.') = false := by
    rw [beq_eq_false_iff_ne]
    rintro rfl
    exact absurd far (by decide)
  rw [Pattern.isValueChar, isWord, if_neg (Nat.not_lt.mpr far), point, Bool.or_false, inRanges,
    Array.any_toList]

theorem isValueChar_of_folded {c : Char} (h : isLetter (folded c) = true) :
    Pattern.isValueChar c = true := by
  unfold folded at h
  split at h
  · rename_i same
    subst same
    rw [isValueChar_far (by decide)]
    decide +kernel
  split at h
  · rename_i same
    subst same
    rw [isValueChar_far (by decide)]
    decide +kernel
  split at h
  · rename_i same
    rcases same with rfl | rfl
    all_goals
      rw [isValueChar_far (by decide)]
      decide +kernel
  · simp only [isLetter, Bool.or_eq_true, beq_iff_eq, isLower_iff, ← Char.toNat_inj,
      toNat_toLower] at h
    simp only [Pattern.isValueChar, isWord, isAlphanum_eq, Bool.or_eq_true,
      beq_iff_eq, ← Char.toNat_inj]
    change (_ ∨ _ = 95) ∨ _ = 46 at h
    change _ ∨ _ = 46
    split at h
    · rename_i upper
      have range := isUpper_iff.mp upper
      rw [if_pos (by omega)]
      simp [upper]
    · rcases h with (lower | line) | point
      · rw [if_pos (by omega)]
        simp [isLower_iff.mpr lower]
      · obtain rfl : c = '_' := Char.toNat_inj.mp line
        decide
      · exact .inr point

/-- A value character is no blank. -/
theorem isBlank_of_isValueChar {c : Char} (h : Pattern.isValueChar c = true) :
    isBlank c = false := by
  refine Bool.eq_false_iff.mpr fun blank => ?_
  simp only [isBlank, isSpace, isSeparator, Bool.or_eq_true, Bool.and_eq_true, decide_eq_true_eq,
    beq_iff_eq] at blank
  by_cases far : 128 ≤ c.toNat
  · have known : c.toNat ∈ [0x85, 0xa0, 0x1680, 0x2000, 0x2001, 0x2002, 0x2003, 0x2004, 0x2005,
        0x2006, 0x2007, 0x2008, 0x2009, 0x200a, 0x2028, 0x2029, 0x202f, 0x205f, 0x3000] := by
      simp
      omega
    have none : ∀ n ∈ [0x85, 0xa0, 0x1680, 0x2000, 0x2001, 0x2002, 0x2003, 0x2004, 0x2005, 0x2006,
        0x2007, 0x2008, 0x2009, 0x200a, 0x2028, 0x2029, 0x202f, 0x205f, 0x3000],
        (wordRanges.toList.any fun r => decide (r.1 ≤ n) && decide (n ≤ r.2)) = false := by
      decide +kernel
    rw [isValueChar_far far, none _ known] at h
    exact Bool.noConfusion h
  · have known : c.toNat ∈ [9, 10, 11, 12, 13, 0x1c, 0x1d, 0x1e, 0x1f, 0x20] := by
      simp
      omega
    have none : ∀ n ∈ [9, 10, 11, 12, 13, 0x1c, 0x1d, 0x1e, 0x1f, 0x20],
        Pattern.isValueChar (Char.ofNat n) = false := by
      decide
    rw [← Char.ofNat_toNat c, none _ known] at h
    exact Bool.noConfusion h

theorem stop_of_isBlank {c : Char} (h : isBlank c = true) : Pattern.isValueChar c = false := by
  refine Bool.eq_false_iff.mpr fun value => ?_
  rw [isBlank_of_isValueChar value] at h
  cases h

/-- Where a word stands: a character of the text for each of its letters. -/
theorem dropWord?_eq_some {w cs rest : List Char} (letters : w.all isLetter = true) :
    dropWord? w cs = some rest ↔ ∃ front, front.map folded = w ∧ cs = front ++ rest := by
  induction w generalizing cs with
  | nil => simp [dropWord?, eq_comm]
  | cons a w ih =>
    obtain ⟨first, letters⟩ := Bool.and_eq_true_iff.mp letters
    cases cs with
    | nil =>
      simp only [dropWord?, reduceCtorEq, false_iff]
      rintro ⟨front, mapped, eq⟩
      obtain ⟨b, front, rfl, -, -⟩ := List.map_eq_cons_iff.mp mapped
      cases eq
    | cons c cs =>
      simp only [dropWord?, reads_iff first]
      split
      · rename_i same
        rw [ih letters]
        constructor
        · rintro ⟨front, rfl, rfl⟩
          exact ⟨c :: front, by rw [List.map_cons, same], rfl⟩
        · rintro ⟨front, mapped, eq⟩
          obtain ⟨b, front, rfl, rfl, rfl⟩ := List.map_eq_cons_iff.mp mapped
          obtain ⟨rfl, rfl⟩ := List.cons.inj eq
          exact ⟨front, rfl, rfl⟩
      · rename_i other
        simp only [reduceCtorEq, false_iff]
        rintro ⟨front, mapped, eq⟩
        obtain ⟨b, front, rfl, rfl, rfl⟩ := List.map_eq_cons_iff.mp mapped
        obtain ⟨rfl, rfl⟩ := List.cons.inj eq
        exact other rfl

theorem dropWord?_suffix {w cs rest : List Char} (letters : w.all isLetter = true)
    (h : dropWord? w cs = some rest) : rest <:+ cs := by
  obtain ⟨front, -, rfl⟩ := (dropWord?_eq_some letters).mp h
  exact List.suffix_append front rest

/-- A word is read from characters of values. -/
theorem isValueChar_of_map_folded {w front : List Char} (letters : w.all isLetter = true)
    (h : front.map folded = w) : ∀ c ∈ front, Pattern.isValueChar c = true := by
  intro c mem
  subst h
  exact isValueChar_of_folded (List.all_eq_true.mp letters _ (List.mem_map_of_mem mem))

end Text

namespace Pattern

open Text

variable {back cs : List Char}

/-- Whether no run of value characters goes on from a text into the one behind it. -/
def Apart (back cs : List Char) : Prop :=
  (∃ x rest, back = x :: rest ∧ isValueChar x = false) ∨
    ∃ front x, cs = front ++ [x] ∧ isBlank x = true

theorem Apart.suffix {front : List Char} (h : Apart back (front ++ cs)) :
    cs = [] ∨ Apart back cs := by
  rcases h with stops | ⟨left, x, eq, blank⟩
  · exact .inr (.inl stops)
  · rcases cs.eq_nil_or_concat with nil | ⟨right, y, concat⟩
    · exact .inl nil
    · rw [List.concat_eq_append] at concat
      rw [concat, ← List.append_assoc] at eq
      have same : y = x := List.singleton_inj.mp (List.append_inj_right' eq rfl)
      exact .inr (.inr ⟨right, y, concat, same ▸ blank⟩)

theorem Apart.behind {front : List Char} (h : Apart back (front ++ cs))
    (visible : ∀ c ∈ front, isBlank c = false) : Apart back cs := by
  rcases h.suffix with rfl | apart
  · rcases h with stops | ⟨left, x, eq, blank⟩
    · exact .inl stops
    · rw [List.append_nil] at eq
      rw [visible x (eq ▸ List.mem_append_right _ List.mem_cons_self)] at blank
      cases blank
  · exact apart

theorem Apart.tail {c : Char} (h : Apart back (c :: cs)) (visible : isBlank c = false) :
    Apart back cs :=
  Apart.behind h fun _ mem => List.mem_singleton.mp mem ▸ visible

theorem takeWhile_append {p : Char → Bool} (h : Apart back cs)
    (value : ∀ c, p c = true → isValueChar c = true) :
    (cs ++ back).takeWhile p = cs.takeWhile p := by
  induction cs with
  | nil =>
    rcases h with ⟨x, rest, rfl, stop⟩ | ⟨front, x, eq, -⟩
    · have fails : p x = false := by
        refine Bool.eq_false_iff.mpr fun holds => ?_
        rw [value x holds] at stop
        cases stop
      simp [fails]
    · simp at eq
  | cons c cs ih =>
    rw [List.cons_append, List.takeWhile_cons, List.takeWhile_cons]
    split
    · rename_i holds
      rw [ih (h.tail (isBlank_of_isValueChar (value c holds)))]
    · rfl

theorem dropWord?_append {w : List Char} (h : Apart back cs) (letters : w.all isLetter = true) :
    dropWord? w (cs ++ back) = (dropWord? w cs).map (· ++ back) := by
  induction w generalizing cs with
  | nil => rfl
  | cons a w ih =>
    obtain ⟨first, letters⟩ := Bool.and_eq_true_iff.mp letters
    cases cs with
    | nil =>
      rcases h with ⟨x, rest, rfl, stop⟩ | ⟨front, x, eq, -⟩
      · have other : reads a x = false := by
          refine Bool.eq_false_iff.mpr fun same => ?_
          rw [isValueChar_of_folded ((reads_iff first).mp same ▸ first)] at stop
          cases stop
        simp [dropWord?, other]
      · simp at eq
    | cons c cs =>
      simp only [List.cons_append, dropWord?]
      split
      · rename_i same
        have value : isValueChar c = true :=
          isValueChar_of_folded ((reads_iff first).mp same ▸ first)
        exact ih (h.tail (isBlank_of_isValueChar value)) letters
      · rfl

/-- Whether a text is empty or starts with a character that ends a value. -/
def Stops (back : List Char) : Prop := ∀ c ∈ back.head?, isValueChar c = false

theorem takeWhile_stops {p : Char → Bool} (h : Stops back)
    (value : ∀ c, p c = true → isValueChar c = true) :
    (cs ++ back).takeWhile p = cs.takeWhile p := by
  cases back with
  | nil => rw [List.append_nil]
  | cons x rest => exact takeWhile_append (.inl ⟨x, rest, rfl, h x rfl⟩) value

theorem dropWord?_stops {w : List Char} (h : Stops back) (letters : w.all isLetter = true) :
    dropWord? w (cs ++ back) = (dropWord? w cs).map (· ++ back) := by
  cases back with
  | nil => simp
  | cons x rest => exact dropWord?_append (.inl ⟨x, rest, rfl, h x rfl⟩) letters

end Pattern
end SignalDesk
