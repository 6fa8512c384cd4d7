import SignalDesk.Proofs.Strategy.Words
import SignalDesk.Text.Upper

namespace SignalDesk
namespace Text

/-- The capitals of ASCII. -/
def capitals : List Char := (List.range' 65 26).map Char.ofNat

theorem mem_capitals {c : Char} (h : c.isUpper = true) : c ∈ capitals := by
  have range := isUpper_iff.mp h
  refine List.mem_map.mpr ⟨c.toNat, List.mem_range'_1.mpr ?_, Char.ofNat_toNat c⟩
  omega

theorem toLower_of_not_isUpper {c : Char} (h : ¬c.isUpper = true) : c.toLower = c := by
  rw [← Char.toNat_inj, toNat_toLower, if_neg h]

/-- What is the same of each capital and its small letter is the same of every character when it is
lower-cased. -/
theorem toLower_keeps {β : Type} {f : Char → β}
    (h : capitals.map (fun c => f c.toLower) = capitals.map f) (c : Char) : f c.toLower = f c := by
  by_cases upper : c.isUpper = true
  · exact List.map_inj_left.mp h c (mem_capitals upper)
  · rw [toLower_of_not_isUpper upper]

/-- Only letters come from lower-casing a capital. -/
theorem toLower_eq_iff {c w : Char} (symbol : w.isAlpha = false) : c.toLower = w ↔ c = w := by
  obtain ⟨noUpper, noLower⟩ := Bool.or_eq_false_iff.mp symbol
  by_cases upper : c.isUpper = true
  · have range := isUpper_iff.mp upper
    constructor
    · rintro rfl
      refine absurd (isLower_iff.mpr ?_) (Bool.eq_false_iff.mp noLower)
      rw [toNat_toLower, if_pos upper]
      omega
    · rintro rfl
      rw [noUpper] at upper
      cases upper
  · rw [toLower_of_not_isUpper upper]

theorem toLower_beq {c w : Char} (symbol : w.isAlpha = false) : (c.toLower == w) = (c == w) := by
  rw [Bool.eq_iff_iff, beq_iff_eq, beq_iff_eq, toLower_eq_iff symbol]

@[simp] theorem toLower_toLower (c : Char) : c.toLower.toLower = c.toLower :=
  toLower_keeps (by decide) c

theorem isDigit_toLower (c : Char) : c.toLower.isDigit = c.isDigit :=
  toLower_keeps (by decide) c

theorem toLower_of_isDigit {c : Char} (h : c.isDigit = true) : c.toLower = c := by
  refine toLower_of_not_isUpper fun upper => ?_
  have none : capitals.all (!·.isDigit) = true := by decide
  have absent := List.all_eq_true.mp none c (mem_capitals upper)
  rw [h] at absent
  cases absent

theorem isSpace_toLower (c : Char) : isSpace c.toLower = isSpace c :=
  toLower_keeps (by decide) c

theorem isBlank_toLower (c : Char) : isBlank c.toLower = isBlank c :=
  toLower_keeps (by decide) c

theorem isWord_toLower (c : Char) : isWord c.toLower = isWord c :=
  toLower_keeps (by decide) c

theorem isValueChar_toLower (c : Char) : Pattern.isValueChar c.toLower = Pattern.isValueChar c :=
  toLower_keeps (by decide) c

theorem isQuote_toLower (c : Char) : Pattern.isQuote c.toLower = Pattern.isQuote c :=
  toLower_keeps (by decide) c

theorem folded_toLower (c : Char) : folded c.toLower = folded c := toLower_keeps (by decide) c

theorem upperChar_toLower (c : Char) : upperChar c.toLower = upperChar c :=
  toLower_keeps (by decide) c

theorem map_toLower_toLower (cs : List Char) :
    (cs.map Char.toLower).map Char.toLower = cs.map Char.toLower := by
  simp [Function.comp_def]

theorem toList_toLower (s : String) : s.toLower.toList = s.toList.map Char.toLower :=
  String.toList_map

theorem ofList_toLower (cs : List Char) :
    (String.ofList cs).toLower = String.ofList (cs.map Char.toLower) := by
  rw [← String.toList_inj, toList_toLower, String.toList_ofList, String.toList_ofList]

theorem upper_toLower (s : String) : upper s.toLower = upper s := by
  rw [upper, upper, toList_toLower, List.flatMap_map]
  exact congrArg String.ofList (congrArg (List.flatMap · s.toList) (funext upperChar_toLower))

theorem trim_map {p : Char → Bool} {f : Char → Char} (kept : ∀ c, p (f c) = p c)
    (cs : List Char) : trim p (cs.map f) = (trim p cs).map f := by
  have same : p ∘ f = p := funext kept
  simp only [trim, List.dropWhile_map, same, ← List.map_reverse]

end Text
end SignalDesk
