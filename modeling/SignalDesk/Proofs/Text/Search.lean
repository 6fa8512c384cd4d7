import SignalDesk.Text.Search

namespace SignalDesk
namespace Text

theorem occursIn_iff {α : Type} [BEq α] [LawfulBEq α] (needle text : List α) :
    occursIn needle text = true ↔ needle <:+: text := by
  induction text with
  | nil => simp [occursIn]
  | cons c cs ih =>
    simp only [occursIn, Bool.or_eq_true, List.isPrefixOf_iff_prefix, ih]
    constructor
    · rintro (start | later)
      · exact start.isInfix
      · exact later.trans (List.suffix_cons c cs).isInfix
    · intro infixed
      exact List.infix_cons_iff.mp infixed

theorem contains_iff (text needle : String) :
    contains text needle = true ↔ needle.toList <:+: text.toList :=
  occursIn_iff ..

theorem contains_append_left {a needle : String} (b : String) (h : contains a needle = true) :
    contains (a ++ b) needle = true := by
  rw [contains_iff, String.toList_append]
  exact ((contains_iff a needle).mp h).trans (List.prefix_append _ _).isInfix

theorem contains_append_right {b needle : String} (a : String) (h : contains b needle = true) :
    contains (a ++ b) needle = true := by
  rw [contains_iff, String.toList_append]
  exact ((contains_iff b needle).mp h).trans (List.suffix_append _ _).isInfix

section Apart

variable {α : Type} [BEq α] [LawfulBEq α] {needle : List α} {x : α}

theorem isPrefixOf_apart (clean : x ∉ needle) (a b : List α) :
    needle.isPrefixOf (a ++ x :: b) = needle.isPrefixOf a := by
  induction needle generalizing a with
  | nil => simp
  | cons y needle ih =>
    obtain ⟨other, clean⟩ := not_or.mp (mt List.mem_cons.mpr clean)
    cases a with
    | nil => simp [List.isPrefixOf, Ne.symm other]
    | cons c a => simp [List.isPrefixOf, ih clean]

theorem occursIn_apart (visible : needle ≠ []) (clean : x ∉ needle) (a b : List α) :
    occursIn needle (a ++ x :: b) = (occursIn needle a || occursIn needle b) := by
  induction a with
  | nil =>
    have absent : needle.isPrefixOf (x :: b) = false := by
      rw [← List.nil_append (x :: b), isPrefixOf_apart clean]
      cases needle with
      | nil => contradiction
      | cons y needle => rfl
    simp [occursIn, absent, visible]
  | cons c a ih =>
    have here := isPrefixOf_apart clean (c :: a) b
    rw [List.cons_append] at here
    rw [List.cons_append, occursIn, here, ih, occursIn, Bool.or_assoc]

end Apart

end Text
end SignalDesk
