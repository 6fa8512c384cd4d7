import SignalDesk.Number.Numeral
import SignalDesk.Proofs.Text.LowerCase

namespace SignalDesk
namespace Numeral

open Text

theorem sign_map (cs : List Char) :
    sign (cs.map Char.toLower) = ((sign cs).1, (sign cs).2.map Char.toLower) := by
  cases cs with
  | nil => rfl
  | cons c cs =>
    by_cases minus : c = '-'
    · subst minus
      rfl
    by_cases plus : c = '+'
    · subst plus
      rfl
    have minus' : c.toLower ≠ '-' := fun eq => minus ((toLower_eq_iff rfl).mp eq)
    have plus' : c.toLower ≠ '+' := fun eq => plus ((toLower_eq_iff rfl).mp eq)
    have bare : ∀ {d : Char} {ds : List Char}, d ≠ '-' → d ≠ '+' →
        sign (d :: ds) = (false, d :: ds) := by
      intro d ds noMinus noPlus
      unfold sign
      split <;> simp_all
    rw [List.map_cons, bare minus' plus', bare minus plus]
    rfl

theorem startsWithDigit_map (cs : List Char) :
    startsWithDigit (cs.map Char.toLower) = startsWithDigit cs := by
  cases cs with
  | nil => rfl
  | cons c cs => exact isDigit_toLower c

theorem digitRun_map (inside : Bool) (cs : List Char) :
    digitRun inside (cs.map Char.toLower) =
      ((digitRun inside cs).1, (digitRun inside cs).2.map Char.toLower) := by
  induction cs generalizing inside with
  | nil => rfl
  | cons c cs ih =>
    simp only [List.map_cons, digitRun, isDigit_toLower, toLower_beq (w := '_') rfl,
      startsWithDigit_map, ih]
    split
    · rename_i digit
      rw [toLower_of_isDigit digit]
    split <;> rfl

theorem exponent?_map (cs : List Char) : exponent? (cs.map Char.toLower) = exponent? cs := by
  cases cs with
  | nil => rfl
  | cons c cs =>
    have mark : (c.toLower == 'e' || c.toLower == 'E') = (c == 'e' || c == 'E') :=
      toLower_keeps (f := fun c => c == 'e' || c == 'E') (by decide) c
    simp only [List.map_cons, exponent?, mark, sign_map, digitRun_map]
    generalize digitRun false (sign cs).2 = run
    obtain ⟨digits, rest⟩ := run
    cases digits <;> cases rest <;> rfl

/-- The digits behind a point, and the rest. -/
def fraction : List Char → List Nat × List Char
  | '.' :: rest => digitRun false rest
  | rest => ([], rest)

theorem fraction_map (cs : List Char) :
    fraction (cs.map Char.toLower) = ((fraction cs).1, (fraction cs).2.map Char.toLower) := by
  cases cs with
  | nil => rfl
  | cons c cs =>
    by_cases point : c = '.'
    · subst point
      exact digitRun_map false cs
    · have point' : c.toLower ≠ '.' := fun eq => point ((toLower_eq_iff rfl).mp eq)
      have bare : ∀ {d : Char} {ds : List Char}, d ≠ '.' → fraction (d :: ds) = ([], d :: ds) := by
        intro d ds noPoint
        unfold fraction
        split <;> simp_all
      rw [List.map_cons, bare point', bare point]
      rfl

theorem decimal?_eq (negative : Bool) (cs : List Char) :
    decimal? negative cs =
      let (integral, rest) := digitRun false cs
      let (fraction, rest) := fraction rest
      if integral.isEmpty && fraction.isEmpty then none
      else (exponent? rest).map fun e =>
        ⟨negative, ofDigits (integral ++ fraction), e - fraction.length⟩ := rfl

theorem decimal?_map (negative : Bool) (cs : List Char) :
    decimal? negative (cs.map Char.toLower) = decimal? negative cs := by
  simp only [decimal?_eq, digitRun_map, fraction_map, exponent?_map]

/-- The number that a plain text says. -/
def ofPlain? (cs : List Char) : Option Real64 :=
  let (negative, cs) := sign cs
  let word := String.ofList (cs.map Char.toLower)
  if word == "inf" || word == "infinity" then some (.infinite negative)
  else if word == "nan" then some .nan
  else (decimal? negative cs).map Decimal.toReal64

theorem real?_eq (s : String) : real? s = ofPlain? (plain s.toList) := rfl

theorem ofPlain?_map (cs : List Char) : ofPlain? (cs.map Char.toLower) = ofPlain? cs := by
  simp only [ofPlain?, sign_map, decimal?_map, map_toLower_toLower]

theorem plain_map (cs : List Char) :
    (plain (cs.map Char.toLower)).map Char.toLower = (plain cs).map Char.toLower := by
  have digit (c : Char) : (asciiDigit c.toLower).toLower = (asciiDigit c).toLower :=
    toLower_keeps (f := fun c => (asciiDigit c).toLower) (by decide) c
  simp only [plain, trim_map isSpace_toLower, List.map_map, Function.comp_def, digit]

theorem real?_toLower (s : String) : real? s.toLower = real? s := by
  rw [real?_eq, real?_eq, toList_toLower, ← ofPlain?_map, plain_map, ofPlain?_map]

end Numeral
end SignalDesk
