import Mathlib.Data.List.Basic
import SignalDesk.Proofs.Strategy.Assignments

/-!
# Texts behind texts

What is read from a text that ends in a visible character, no sign (`Pattern.Solid`), is the same
whatever stands behind it, if no value goes on there (`Pattern.Stops`). So a search finds in it what
it finds with another text behind it (`Pattern.search_append_rel`), up to the name that it may end
with.
-/

namespace SignalDesk
namespace Pattern

open Text

variable {back back' cs rest : List Char} {names : List String}

/-- Whether a text ends in a character that is no blank and no sign. -/
def Solid (cs : List Char) : Prop := ∃ c ∈ cs.getLast?, isBlank c = false ∧ c ≠ '=' ∧ c ≠ '('

theorem Solid.visible (h : Solid cs) : cs ≠ [] := by
  rintro rfl
  obtain ⟨c, last, -⟩ := h
  cases last

theorem Solid.suffix (h : Solid cs) (suffix : rest <:+ cs) (visible : rest ≠ []) : Solid rest := by
  obtain ⟨front, rfl⟩ := suffix
  rwa [Solid, List.getLast?_append_of_ne_nil _ visible] at h

theorem solid_of_forall (h : ∀ c ∈ cs, isBlank c = false ∧ c ≠ '=' ∧ c ≠ '(') (visible : cs ≠ []) :
    Solid cs :=
  ⟨_, List.getLast?_eq_some_getLast visible, h _ (List.getLast_mem visible)⟩

theorem plain_of_isValueChar {c : Char} (h : isValueChar c = true) :
    isBlank c = false ∧ c ≠ '=' ∧ c ≠ '(' := by
  refine ⟨isBlank_of_isValueChar h, ?_, ?_⟩
  all_goals
    rintro rfl
    exact absurd h (by decide)

theorem Solid.skipBlank (h : Solid cs) : Solid (skipBlank cs) := by
  refine h.suffix (List.dropWhile_suffix _) fun blank => ?_
  obtain ⟨c, last, visible, -⟩ := h
  have mem : c ∈ cs := List.mem_of_getLast? last
  rw [List.dropWhile_eq_nil_iff.mp blank c mem] at visible
  cases visible

theorem skipBlank_solid (h : Solid cs) (back : List Char) :
    skipBlank (cs ++ back) = skipBlank cs ++ back := by
  have visible := h.skipBlank.visible
  rw [Pattern.skipBlank] at visible ⊢
  rw [List.dropWhile_append, if_neg (by simpa using visible)]
  rfl

/-- A text that is but a sign is not solid. -/
theorem Solid.behind_sign {sign : Char} (h : Solid (sign :: rest))
    (listed : sign = '=' ∨ sign = '(') : Solid rest := by
  refine h.suffix (List.suffix_cons sign rest) ?_
  rintro rfl
  obtain ⟨c, last, -, equals, opens⟩ := h
  cases last
  exact listed.elim equals opens

theorem Solid.dropSign? {sign : Char} (h : Solid cs) (listed : sign = '=' ∨ sign = '(')
    (dropped : dropSign? sign cs = some rest) : Solid rest := by
  have solid := h.skipBlank
  unfold Pattern.dropSign? at dropped
  split at dropped
  · rename_i c behind found
    rw [found] at solid
    split at dropped
    · rename_i same
      subst same
      cases dropped
      exact (solid.behind_sign listed).skipBlank
    · cases dropped
  · cases dropped

theorem dropSign?_solid {sign : Char} (h : Solid cs) (listed : sign = '=' ∨ sign = '(')
    (back : List Char) : dropSign? sign (cs ++ back) = (dropSign? sign cs).map (· ++ back) := by
  have solid := h.skipBlank
  unfold dropSign?
  rw [skipBlank_solid h]
  cases found : Pattern.skipBlank cs with
  | nil => exact absurd found solid.visible
  | cons c behind =>
    rw [found] at solid
    simp only [List.cons_append]
    split
    · rename_i same
      subst same
      rw [skipBlank_solid (solid.behind_sign listed)]
      rfl
    · rfl

/-- What follows a text may belong to a name only if the text is that name. -/
theorem dropWord?_solid {name : String} (h : Solid cs) (stops : Stops back)
    (letters : name.toList.all isLetter = true) (other : cs.map folded ≠ name.toList) :
    (Text.dropWord? name.toList (cs ++ back)).bind dropEquals? =
      ((Text.dropWord? name.toList cs).bind dropEquals?).map (· ++ back) := by
  rw [dropWord?_stops stops letters]
  cases dropped : Text.dropWord? name.toList cs with
  | none => rfl
  | some rest =>
    have visible : rest ≠ [] := by
      rintro rfl
      obtain ⟨front, mapped, rfl⟩ := (dropWord?_eq_some letters).mp dropped
      rw [List.append_nil] at other
      exact other mapped
    simp only [Option.map_some, Option.bind_some, dropEquals?_eq]
    exact dropSign?_solid (h.suffix (dropWord?_suffix letters dropped) visible) (.inl rfl) back

theorem dropName?_solid (words : areWords names = true) (h : Solid cs) (stops : Stops back)
    (other : spells names cs = false) :
    dropName? names (cs ++ back) = (dropName? names cs).map (· ++ back) := by
  unfold dropName?
  induction names with
  | nil => rfl
  | cons name names ih =>
    obtain ⟨here, later⟩ := Bool.or_eq_false_iff.mp other
    rw [List.findSome?_cons, List.findSome?_cons,
      dropWord?_solid h stops (letters_of_areWords words List.mem_cons_self)
        (beq_eq_false_iff_ne.mp here),
      ih (Bool.and_eq_true_iff.mp words).2 later]
    cases (Text.dropWord? name.toList cs).bind dropEquals? <;> rfl

theorem Solid.dropName? (h : Solid cs) (words : areWords names = true)
    (dropped : dropName? names cs = some rest) : Solid rest := by
  obtain ⟨name, mem, behind, word, sign⟩ := dropName?_some dropped
  rw [dropEquals?_eq] at sign
  refine (h.suffix (dropWord?_suffix (letters_of_areWords words mem) word) ?_).dropSign? (.inl rfl)
    sign
  rintro rfl
  cases sign

theorem run?_stops {p : Char → Bool} (stops : Stops back)
    (value : ∀ c, p c = true → isValueChar c = true) : run? p (cs ++ back) = run? p cs := by
  rw [run?, run?, takeWhile_stops stops value]

theorem token?_stops (stops : Stops back) (visible : cs ≠ []) :
    token? (cs ++ back) = token? cs := by
  obtain ⟨c, cs, rfl⟩ := List.exists_cons_of_ne_nil visible
  by_cases minus : c = '-'
  · subst minus
    exact congrArg (Option.map _) (run?_stops stops fun _ => id)
  · rw [List.cons_append, token?_of_ne minus, token?_of_ne minus, ← List.cons_append]
    exact run?_stops stops fun _ => id

theorem isValueChar_of_isWord {c : Char} (h : isWord c = true) : isValueChar c = true := by
  simp [isValueChar, h]

theorem word?_stops (stops : Stops back) (visible : cs ≠ []) : word? (cs ++ back) = word? cs := by
  obtain ⟨c, cs, rfl⟩ := List.exists_cons_of_ne_nil visible
  simp only [List.cons_append, word?]
  split
  · exact run?_stops stops fun _ => isValueChar_of_isWord
  · rw [← List.cons_append]
    exact run?_stops stops fun _ => isValueChar_of_isWord

theorem inputBody_stops (stops : Stops back) : inputBody (cs ++ back) = inputBody cs ++ back := by
  simp only [inputBody]
  rw [dropWord?_stops stops (by decide), dropWord?_stops stops (by decide), Option.getD_map,
    Option.getD_map]

theorem dropInput?_solid (h : Solid cs) (stops : Stops back) (closed : dropSign? '(' back = none) :
    dropInput? (cs ++ back) = (dropInput? cs).map (· ++ back) := by
  rw [dropInput?_eq, dropInput?_eq, dropWord?_stops stops (by decide)]
  cases word : Text.dropWord? "input".toList cs with
  | none => rfl
  | some rest =>
    have suffix : inputBody rest <:+ cs :=
      (inputBody_suffix rest).trans (dropWord?_suffix (by decide) word)
    simp only [Option.map_some, Option.bind_some, inputBody_stops stops]
    by_cases visible : inputBody rest = []
    · rw [visible, List.nil_append, closed]
      rfl
    · exact dropSign?_solid (h.suffix suffix visible) (.inr rfl) back

theorem dropSign?_suffix {sign : Char} (h : dropSign? sign cs = some rest) : rest <:+ cs := by
  unfold dropSign? at h
  split at h
  · rename_i c behind found
    split at h
    · cases h
      have here : c :: behind <:+ cs := found ▸ List.dropWhile_suffix _
      exact (List.dropWhile_suffix _).trans ((List.suffix_cons c behind).trans here)
    · cases h
  · cases h

theorem dropInput?_suffix (h : dropInput? cs = some rest) : rest <:+ cs := by
  rw [dropInput?_eq] at h
  obtain ⟨behind, word, sign⟩ := Option.bind_eq_some_iff.mp h
  exact (dropSign?_suffix sign).trans
    ((inputBody_suffix behind).trans (dropWord?_suffix (by decide) word))

theorem Solid.dropInput? (h : Solid cs) (dropped : dropInput? cs = some rest) : Solid rest := by
  have suffix := dropInput?_suffix dropped
  rw [dropInput?_eq] at dropped
  obtain ⟨behind, word, sign⟩ := Option.bind_eq_some_iff.mp dropped
  refine (h.suffix ((inputBody_suffix behind).trans (dropWord?_suffix (by decide) word))
    ?_).dropSign? (.inr rfl) sign
  intro empty
  rw [empty] at sign
  cases sign

/-- A number in a text, unless the text ends in a label whose value stands behind it. -/
theorem number?_solid (h : Solid cs) (stops : Stops back) (closed : dropSign? '(' back = none)
    (label : ∀ inner, inner <:+ cs → inner.map folded = "defval".toList →
      dropSign? '=' back = none) :
    number? (cs ++ back) = number? cs := by
  unfold number?
  rw [dropInput?_solid h stops closed, token?_stops stops h.visible]
  cases input : Pattern.dropInput? cs with
  | none => rfl
  | some inner =>
    have solid := h.dropInput? input
    have labelled :
        ((Text.dropWord? "defval".toList (inner ++ back)).bind dropEquals?).bind token? =
          ((Text.dropWord? "defval".toList inner).bind dropEquals?).bind token? := by
      by_cases whole : inner.map folded = "defval".toList
      · have found : Text.dropWord? "defval".toList inner = some [] :=
          (dropWord?_eq_some (by decide)).mpr ⟨inner, whole, (List.append_nil inner).symm⟩
        rw [dropWord?_stops stops (by decide), found, Option.map_some, Option.bind_some,
          List.nil_append, dropEquals?_eq, label inner (dropInput?_suffix input) whole]
        rfl
      · rw [dropWord?_solid solid stops (by decide) whole]
        cases value : (Text.dropWord? "defval".toList inner).bind dropEquals? with
        | none => rfl
        | some body =>
          obtain ⟨behind, word, sign⟩ := Option.bind_eq_some_iff.mp value
          rw [dropEquals?_eq] at sign
          have visible : behind ≠ [] := by
            rintro rfl
            cases sign
          have solid := (solid.suffix (dropWord?_suffix (by decide) word) visible).dropSign?
            (.inl rfl) sign
          exact token?_stops stops solid.visible
    simp only [Option.map_some, labelled, token?_stops stops solid.visible]

theorem isQuote_of_isValueChar {c : Char} (h : isValueChar c = true) : isQuote c = false := by
  refine Bool.eq_false_iff.mpr fun quote => ?_
  rcases Bool.or_eq_true_iff.mp quote with same | same
  all_goals
    rw [eq_of_beq same] at h
    exact absurd h (by decide)

theorem quotedText?_of_plain {c : Char} (h : isQuote c = false) :
    quotedText? (c :: cs) = none := by
  simp [quotedText?, h]

theorem quotedText?_closed {c d : Char} (opens : isQuote c = true) (closes : isQuote d = true)
    (h : ∀ e ∈ cs, isQuote e = false) (back : List Char) :
    quotedText? (c :: (cs ++ d :: back)) = some cs := by
  have run : ∀ e ∈ cs, (!isQuote e) = true := fun e mem => by rw [h e mem]; rfl
  simp only [quotedText?]
  rw [List.dropWhile_append_of_pos run, List.takeWhile_append_of_pos run]
  simp [opens, closes]

theorem quotedText?_open {c : Char} (h : ∀ e ∈ cs, isQuote e = false) :
    quotedText? (c :: cs) = none := by
  have unclosed : cs.dropWhile (!isQuote ·) = [] :=
    List.dropWhile_eq_nil_iff.mpr fun e mem => by rw [h e mem]; rfl
  simp [quotedText?, unclosed]

/-- A text has no quotes, or there is a first one in it. -/
theorem quotes_split (cs : List Char) :
    (∀ e ∈ cs, isQuote e = false) ∨
      ∃ run d rest, cs = run ++ d :: rest ∧ (∀ e ∈ run, isQuote e = false) ∧
        isQuote d = true := by
  induction cs with
  | nil => exact .inl nofun
  | cons c cs ih =>
    cases quote : isQuote c with
    | true => exact .inr ⟨[], c, cs, rfl, nofun, quote⟩
    | false =>
      rcases ih with none | ⟨run, d, rest, rfl, plain, closes⟩
      · exact .inl (List.forall_mem_cons.mpr ⟨quote, none⟩)
      · exact .inr ⟨c :: run, d, rest, rfl, List.forall_mem_cons.mpr ⟨quote, plain⟩, closes⟩

theorem callsSma_eq (cs : List Char) :
    callsSma cs =
      (Text.dropWord? "sma".toList cs).bind fun rest => (dropSign? '(' rest).map fun _ => () := by
  unfold callsSma dropSign?
  cases Text.dropWord? "sma".toList cs with
  | none => rfl
  | some rest =>
    simp only [Option.bind_some]
    cases skipBlank rest with
    | nil => rfl
    | cons c rest =>
      simp only [List.head?_cons, Option.some.injEq]
      split <;> rfl

theorem callsSma_solid (h : Solid cs) (stops : Stops back) (closed : dropSign? '(' back = none) :
    callsSma (cs ++ back) = callsSma cs := by
  rw [callsSma_eq, callsSma_eq, dropWord?_stops stops (by decide)]
  cases word : Text.dropWord? "sma".toList cs with
  | none => rfl
  | some rest =>
    simp only [Option.map_some, Option.bind_some]
    by_cases visible : rest = []
    · rw [visible, List.nil_append, closed]
      rfl
    · rw [dropSign?_solid (h.suffix (dropWord?_suffix (by decide) word) visible) (.inr rfl),
        Option.map_map]

/-- Without a parenthesis nothing is called. -/
theorem hintsSma_of_noCall (h : '(' ∉ cs) : hintsSma cs = mentions "ta.sma" cs := by
  have none : search callsSma none cs = none := by
    refine search_eq_none.mpr fun front c rest split _ => ?_
    rw [callsSma_eq]
    cases word : Text.dropWord? "sma".toList (c :: rest) with
    | none => rfl
    | some behind =>
      have absent : dropSign? '(' behind = none := by
        refine Option.eq_none_iff_forall_not_mem.mpr fun inner opened => h ?_
        rw [split]
        exact List.mem_append_right _
          ((dropWord?_suffix (by decide) word).mem (mem_of_dropSign? opened))
      rw [Option.bind_some, absent]
      rfl
  rw [hintsSma, none]
  exact Bool.or_false _

section Search

variable {β : Type} {p : List Char → Option β} {before : Option Char}

theorem rel_or {r : β → β → Prop} {a a' b b' : Option β} (h : Option.Rel r a a')
    (h' : Option.Rel r b b') : Option.Rel r (a.or b) (a'.or b') := by
  cases h with
  | some same => exact .some same
  | none => exact h'

theorem rel_eq {a b : Option β} : Option.Rel Eq a b ↔ a = b := by
  constructor
  · rintro (same | _)
    · exact congrArg some same
    · rfl
  · rintro rfl
    cases a
    · exact .none
    · exact .some rfl

/-- A search gives related results for two texts with the same front when what it gives at each of
its places is related, and so is what it gives behind it. -/
theorem search_append_rel {r : β → β → Prop}
    (here : ∀ c rest, c :: rest <:+ cs →
      Option.Rel r (p (c :: rest ++ back)) (p (c :: rest ++ back')))
    (behind : Option.Rel r (search p (cs.getLast?.or before) back)
      (search p (cs.getLast?.or before) back')) :
    Option.Rel r (search p before (cs ++ back)) (search p before (cs ++ back')) := by
  induction cs generalizing before with
  | nil => exact behind
  | cons c cs ih =>
    rw [getLast?_cons_or] at behind
    rw [List.cons_append, List.cons_append, search_cons, search_cons]
    refine rel_or ?_ (ih (fun d rest suffix => here d rest (suffix.trans (List.suffix_cons c cs)))
      behind)
    split
    · exact here c cs (List.suffix_refl _)
    · exact .none

/-- It makes no difference what stands before a text that starts with no value. -/
theorem search_stops (absent : ∀ c rest, isValueChar c = false → p (c :: rest) = none)
    (stops : Stops back) (before : Option Char) : search p before back = search p none back := by
  cases back with
  | nil => rfl
  | cons c rest =>
    rw [search_cons, search_cons, absent c rest (stops c rfl), ite_self, ite_self]

end Search

theorem dropName?_bind_stop {value : List Char → Option (List Char)} {c : Char}
    (words : areWords names = true) (stop : isValueChar c = false) :
    (dropName? names (c :: cs)).bind value = none := by
  rw [dropName?_of_stop words stop]
  rfl

end Pattern
end SignalDesk
