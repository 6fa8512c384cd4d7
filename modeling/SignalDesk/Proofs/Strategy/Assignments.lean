import Mathlib.Data.List.TakeWhile
import SignalDesk.Proofs.Strategy.Joined

namespace SignalDesk
namespace Pattern

open Text

variable {back cs rest : List Char} {names : List String}
  {value : List Char → Option (List Char)} {raw : String}

/-- Whether a text ends in an assignment to one of the names that has no value yet. -/
def cutOff (names : List String) (cs : List Char) : Bool :=
  (search (fun cs => if dropName? names cs = some [] then some () else none) none cs).isSome

theorem stops_of_dropEquals? (h : dropEquals? cs = some []) : ∀ c ∈ cs, isValueChar c = false := by
  rw [dropEquals?_eq, dropSign?] at h
  split at h
  · rename_i sign rest found
    split at h
    · rename_i equals
      subst equals
      intro c mem
      rw [← List.takeWhile_append_dropWhile (p := isBlank) (l := cs)] at mem
      rcases List.mem_append.mp mem with mem | mem
      · exact stop_of_isBlank (List.all_eq_true.mp List.all_takeWhile c mem)
      · change c ∈ skipBlank cs at mem
        rw [found] at mem
        rcases List.mem_cons.mp mem with rfl | mem
        · decide
        · exact stop_of_isBlank (List.dropWhile_eq_nil_iff.mp (Option.some.inj h) c mem)
    · cases h
  · cases h

/-- Behind the equals sign of an assignment there is no other when the text ends there. -/
theorem search_of_cut {β : Type} {value : List Char → Option β} {c : Char}
    (words : areWords names = true) (cut : dropName? names (c :: cs) = some []) :
    search (fun cs => (dropName? names cs).bind value) (some c) cs = none := by
  obtain ⟨name, mem, behind, word, sign⟩ := dropName?_some cut
  have letters := letters_of_areWords words mem
  obtain ⟨front, mapped, eq⟩ := (dropWord?_eq_some letters).mp word
  refine search_eq_none.mpr fun left d right split starts => ?_
  cases kind : isValueChar d with
  | false => rw [dropName?_of_stop words kind, Option.bind_none]
  | true =>
    -- a name in the first word would start inside it, and behind it there are none
    rw [split, ← List.cons_append] at eq
    rcases List.append_eq_append_iff.mp eq with ⟨more, rfl, -⟩ | ⟨more, -, rfl⟩
    · obtain ⟨e, last⟩ : ∃ e, (c :: left).getLast? = some e := ⟨_, List.getLast?_cons⟩
      rw [← getLast?_cons_or none, Option.or_none, last, startsName,
        isValueChar_of_map_folded letters mapped e
          (List.mem_append_left more (List.mem_of_getLast? last))] at starts
      cases starts
    · have stop := stops_of_dropEquals? sign d (List.mem_append_right _ List.mem_cons_self)
      rw [kind] at stop
      cases stop

theorem Apart.of_suffix {c : Char} (h : Apart back cs) (suffix : c :: rest <:+ cs) :
    Apart back (c :: rest) := by
  obtain ⟨front, rfl⟩ := suffix
  exact h.suffix.resolve_left (List.cons_ne_nil c rest)

/-- The first value in a text is the first one in what the text starts, too. -/
theorem assigned?_append_some (words : areWords names = true) (inert : Inert back)
    (apart : Apart back cs) (found : assigned? names value cs = some raw) (empty : value [] = none)
    (fails : ∀ c rest, Apart back (c :: rest) → value (c :: rest) = none →
      value (c :: rest ++ back) = none)
    (reads : ∀ c rest, Apart back (c :: rest) → value (c :: rest) = some raw.toList →
      value (c :: rest ++ back) = some raw.toList) :
    assigned? names value (cs ++ back) = some raw := by
  obtain ⟨chars, first, rfl⟩ := Option.map_eq_some_iff.mp found
  rw [String.toList_ofList] at reads
  refine Option.map_eq_some_iff.mpr ⟨chars, search_append_some first ?keeps ?misses, rfl⟩
  case keeps =>
    intro c rest suffix here
    obtain ⟨target, named, read⟩ := Option.bind_eq_some_iff.mp here
    have apart := apart.of_suffix suffix
    rw [dropName?_append inert apart words, named]
    cases target with
    | nil =>
      rw [empty] at read
      cases read
    | cons d target =>
      exact reads d target ((apart.dropName? words named).resolve_left nofun) read
  case misses =>
    intro c rest suffix here
    have apart := apart.of_suffix suffix
    rw [dropName?_append inert apart words]
    cases named : dropName? names (c :: rest) with
    | none => exact .inl rfl
    | some target =>
      rw [named] at here
      cases target with
      | nil => exact .inr (search_of_cut words named)
      | cons d target =>
        exact .inl (fails d target ((apart.dropName? words named).resolve_left nofun) here)

theorem assigned?_append_none (words : areWords names = true) (inert : Inert back)
    (apart : Apart back cs) (absent : assigned? names value cs = none)
    (finished : cutOff names cs = false ∨ value back = none)
    (fails : ∀ c rest, Apart back (c :: rest) → value (c :: rest) = none →
      value (c :: rest ++ back) = none) :
    assigned? names value (cs ++ back) =
      (search (fun cs => (dropName? names cs).bind value) cs.getLast? back).map String.ofList := by
  unfold assigned?
  rw [search_append_none, Option.or_none]
  intro front c rest split starts
  have here := search_eq_none.mp (Option.map_eq_none_iff.mp absent) front c rest split starts
  have apart := apart.of_suffix ⟨front, split.symm⟩
  rw [dropName?_append inert apart words]
  cases named : dropName? names (c :: rest) with
  | none => rfl
  | some target =>
    rw [named] at here
    cases target with
    | nil =>
      rcases finished with finished | finished
      · have none := Option.isNone_iff_eq_none.mp (Option.isSome_eq_false_iff.mp finished)
        have cut := search_eq_none.mp none front c rest split starts
        rw [if_pos named] at cut
        cases cut
      · exact finished
    | cons d target => exact fails d target ((apart.dropName? words named).resolve_left nofun) here

/-- Whether a word is one of the names, in any case. -/
def spells (names : List String) (word : List Char) : Bool :=
  names.any fun name => word.map folded == name.toList

/-- An assignment with blanks around its sign. -/
def line (word value : List Char) : List Char := word ++ ' ' :: '=' :: ' ' :: value

theorem search_congr {β : Type} {p : List Char → Option β} {before before' : Option Char}
    (h : startsName before = startsName before') : search p before cs = search p before' cs := by
  cases cs with
  | nil => rfl
  | cons c cs => rw [search_cons, search_cons, h]

theorem isValueChar_of_spells {word : List Char} (words : areWords names = true)
    (h : spells names word = true) : word ≠ [] ∧ ∀ c ∈ word, isValueChar c = true := by
  obtain ⟨name, mem, same⟩ := List.any_eq_true.mp h
  have mapped := eq_of_beq same
  refine ⟨?_, isValueChar_of_map_folded (letters_of_areWords words mem) mapped⟩
  rintro rfl
  have empty := List.all_eq_true.mp words name mem
  rw [← mapped] at empty
  cases empty

theorem dropWord?_word {name : String} {word : List Char} (stops : Stops back)
    (letters : name.toList.all isLetter = true) (chars : ∀ c ∈ word, isValueChar c = true) :
    (Text.dropWord? name.toList (word ++ back)).bind dropEquals? =
      if word.map folded == name.toList then dropEquals? back else none := by
  rw [dropWord?_stops stops letters]
  cases dropped : Text.dropWord? name.toList word with
  | none =>
    have other : (word.map folded == name.toList) = false := by
      refine beq_false_of_ne fun same => ?_
      rw [(dropWord?_eq_some letters).mpr ⟨word, same, word.append_nil.symm⟩] at dropped
      cases dropped
    rw [other]
    rfl
  | some rest =>
    obtain ⟨front, mapped, rfl⟩ := (dropWord?_eq_some letters).mp dropped
    cases rest with
    | nil =>
      rw [List.append_nil, beq_iff_eq.mpr mapped]
      rfl
    | cons c rest =>
      have value := chars c (List.mem_append_right front List.mem_cons_self)
      have longer : ((front ++ c :: rest).map folded == name.toList) = false := by
        refine beq_false_of_ne fun same => ?_
        have length := congrArg List.length (same.trans mapped.symm)
        simp at length
      have noSign : c ≠ '=' := by
        rintro rfl
        exact absurd value (by decide)
      rw [longer, Option.map_some, Option.bind_some, dropEquals?_eq]
      simp [dropSign?, skipBlank, isBlank_of_isValueChar value, noSign]

/-- A run of value characters that is followed by an equals sign is a name as a whole. -/
theorem dropName?_word {word : List Char} (words : areWords names = true) (stops : Stops back)
    (chars : ∀ c ∈ word, isValueChar c = true) :
    dropName? names (word ++ back) =
      if spells names word = true then dropEquals? back else none := by
  unfold dropName?
  induction names with
  | nil => rfl
  | cons name names ih =>
    have parts := Bool.and_eq_true_iff.mp words
    rw [List.findSome?_cons, dropWord?_word stops (letters_of_areWords words List.mem_cons_self)
      chars, ih parts.2]
    simp only [spells, List.any_cons, Bool.or_eq_true]
    by_cases same : (word.map folded == name.toList) = true
    · cases dropEquals? back <;> simp [same]
    · simp [same]

theorem dropName?_line {word value : List Char} (words : areWords names = true)
    (chars : ∀ c ∈ word, isValueChar c = true) :
    dropName? names (line word value) =
      if spells names word = true then some (skipBlank value) else none :=
  dropName?_word words (fun _ eq => Option.some.inj eq ▸ rfl) chars

theorem search_stop {β : Type} {value : List Char → Option β} {before : Option Char} {c : Char}
    (words : areWords names = true) (stop : isValueChar c = false) :
    search (fun cs => (dropName? names cs).bind value) before (c :: cs) =
      search (fun cs => (dropName? names cs).bind value) (some c) cs := by
  rw [search_cons, dropName?_of_stop words stop, Option.bind_none, ite_self, Option.none_or]

theorem assigned?_stop {c : Char} (words : areWords names = true) (stop : isValueChar c = false) :
    assigned? names value (c :: cs) = assigned? names value cs := by
  have fresh : startsName (some c) = startsName none := by
    simp [startsName, stop]
  rw [assigned?, search_stop words stop, search_congr fresh]
  rfl

theorem assigned?_nil : assigned? [] value cs = none :=
  Option.map_eq_none_iff.mpr (search_eq_none.mpr fun _ _ _ _ _ => rfl)

theorem assigned?_line {word rest : List Char} (words : areWords names = true) (visible : word ≠ [])
    (chars : ∀ c ∈ word, isValueChar c = true) :
    assigned? names value (line word rest) =
      ((if spells names word = true then value (skipBlank rest) else none).map String.ofList).or
        (assigned? names value rest) := by
  obtain ⟨c, word, rfl⟩ := List.exists_cons_of_ne_nil visible
  have here : dropName? names (line (c :: word) rest) = _ := dropName?_line words chars
  have fresh : startsName (some ' ') = startsName none := by decide
  unfold assigned?
  rw [show line (c :: word) rest = c :: (word ++ ' ' :: '=' :: ' ' :: rest) from rfl, search_cons,
    search_append_none, search_stop words (by decide), search_stop words (by decide),
    search_stop words (by decide),
    search_congr fresh, Option.map_or]
  · congr 2
    change (dropName? names (line (c :: word) rest)).bind value = _
    rw [here]
    split <;> rfl
  · -- inside a word no name starts
    intro front d right split starts
    obtain ⟨e, last⟩ : ∃ e, (c :: front).getLast? = some e := ⟨_, List.getLast?_cons⟩
    have mem : e ∈ c :: word := by
      rw [split, ← List.cons_append]
      exact List.mem_append_left _ (List.mem_of_getLast? last)
    rw [← getLast?_cons_or none, Option.or_none, last, startsName, chars e mem] at starts
    cases starts

theorem mem_of_dropSign? {sign : Char} (h : dropSign? sign cs = some rest) : sign ∈ cs := by
  rw [dropSign?] at h
  split at h
  · rename_i c behind found
    split at h
    · rename_i same
      subst same
      rw [← List.takeWhile_append_dropWhile (p := isBlank) (l := cs)]
      exact List.mem_append_right _ (found ▸ List.mem_cons_self : c ∈ skipBlank cs)
    · cases h
  · cases h

theorem dropName?_of_noEquals (words : areWords names = true) (h : '=' ∉ cs) :
    dropName? names cs = none := by
  cases found : dropName? names cs with
  | none => rfl
  | some target =>
    obtain ⟨name, mem, behind, word, sign⟩ := dropName?_some found
    obtain ⟨left, -, eq⟩ := (dropWord?_eq_some (letters_of_areWords words mem)).mp word
    rw [dropEquals?_eq] at sign
    exact absurd (eq ▸ List.mem_append_right _ (mem_of_dropSign? sign)) h

theorem assigned?_of_noEquals (words : areWords names = true) (h : '=' ∉ cs) :
    assigned? names value cs = none := by
  refine Option.map_eq_none_iff.mpr (search_eq_none.mpr fun front c rest split _ => ?_)
  rw [dropName?_of_noEquals words fun mem => h (split ▸ List.mem_append_right _ mem)]
  rfl

theorem run?_some {p : Char → Bool} {run : List Char} (h : run? p cs = some run) :
    run? p run = some run ∧ (∀ c ∈ run, p c = true) ∧ run ≠ [] := by
  have taken : run = cs.takeWhile p ∧ run ≠ [] := by
    unfold run? at h
    split at h
    · cases h
    · rename_i visible
      cases h
      exact ⟨rfl, visible⟩
  obtain ⟨rfl, visible⟩ := taken
  refine ⟨?_, List.all_eq_true.mp List.all_takeWhile, visible⟩
  rw [run?, List.takeWhile_idem]
  split
  · contradiction
  · rfl

theorem token?_some {raw : List Char} (h : token? cs = some raw) :
    token? raw = some raw ∧ (∀ c ∈ raw, isValueChar c = true ∨ c = '-') ∧ raw ≠ [] := by
  unfold token? at h
  split at h
  · rename_i rest
    obtain ⟨run, found, rfl⟩ := Option.map_eq_some_iff.mp h
    obtain ⟨again, chars, -⟩ := run?_some found
    refine ⟨by rw [token?, again]; rfl, fun c mem => ?_, List.cons_ne_nil _ _⟩
    rcases List.mem_cons.mp mem with rfl | mem
    · exact .inr rfl
    · exact .inl (chars c mem)
  · obtain ⟨again, chars, visible⟩ := run?_some h
    obtain ⟨c, run, rfl⟩ := List.exists_cons_of_ne_nil visible
    have value := chars c List.mem_cons_self
    refine ⟨?_, fun c mem => .inl (chars c mem), visible⟩
    rw [token?_of_ne]
    · exact again
    · rintro rfl
      exact absurd value (by decide)

theorem number?_some {raw : List Char} (h : number? cs = some raw) :
    ∃ cs, token? cs = some raw := by
  unfold number? at h
  split at h
  · exact ⟨_, h⟩
  · rcases Option.or_eq_some_iff.mp h with h | ⟨-, h⟩
    · rcases Option.or_eq_some_iff.mp h with h | ⟨-, h⟩
      · obtain ⟨inner, -, h⟩ := Option.bind_eq_some_iff.mp h
        exact ⟨_, h⟩
      · exact ⟨_, h⟩
    · exact ⟨_, h⟩

theorem token?_plain {raw : List Char} (h : token? raw = some raw) :
    ∀ c ∈ raw, isBlank c = false ∧ c ≠ '=' ∧ c ≠ '(' := by
  intro c mem
  rcases (token?_some h).2.1 c mem with value | rfl
  · refine ⟨isBlank_of_isValueChar value, ?_, ?_⟩
    all_goals
      rintro rfl
      exact absurd value (by decide)
  · decide

theorem number?_of_token {raw : List Char} (h : token? raw = some raw) : number? raw = some raw := by
  have bare : dropInput? raw = none := by
    rw [dropInput?_eq]
    cases word : Text.dropWord? "input".toList raw with
    | none => rfl
    | some rest =>
      refine Option.eq_none_iff_forall_not_mem.mpr fun inner opened => ?_
      exact (token?_plain h '(' ((dropWord?_suffix (by decide) word).mem
        ((inputBody_suffix rest).mem (mem_of_dropSign? opened)))).2.2 rfl
  rw [number?, bare]
  exact h

/-- A number that was read is read again where it stands alone. -/
theorem number?_again {raw : List Char} (h : number? cs = some raw) :
    number? (skipBlank raw) = some raw ∧ '=' ∉ raw := by
  obtain ⟨cs, token⟩ := number?_some h
  obtain ⟨again, -, visible⟩ := token?_some token
  have plain := token?_plain again
  have start : skipBlank raw = raw := by
    obtain ⟨c, rest, rfl⟩ := List.exists_cons_of_ne_nil visible
    rw [skipBlank, List.dropWhile_cons, if_neg (by simp [(plain c List.mem_cons_self).1])]
  rw [start]
  exact ⟨number?_of_token again, fun mem => (plain '=' mem).2.1 rfl⟩

end Pattern
end SignalDesk
