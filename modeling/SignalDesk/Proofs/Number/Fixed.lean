import Mathlib.Algebra.Order.Field.Basic
import Mathlib.Algebra.Order.Ring.Rat
import Mathlib.Tactic.Ring
import SignalDesk.Exchange.Order
import SignalDesk.Number.Numeral

namespace SignalDesk

/-- The number that is written. -/
def Decimal.value (x : Decimal) : Rat :=
  let magnitude := (x.coefficient : Rat) * 10 ^ x.exponent
  if x.negative then -magnitude else magnitude

namespace Numeral

theorem foldl_digits (n : Nat) (ds : List Nat) :
    ds.foldl (fun n d => 10 * n + d) n = n * 10 ^ ds.length + ofDigits ds := by
  unfold ofDigits
  induction ds generalizing n with
  | nil => simp
  | cons d ds ih =>
    simp only [List.foldl_cons, List.length_cons]
    rw [ih (10 * n + d), ih (10 * 0 + d), Nat.pow_succ']
    ring

theorem ofDigits_append (ds es : List Nat) :
    ofDigits (ds ++ es) = ofDigits ds * 10 ^ es.length + ofDigits es := by
  rw [ofDigits, List.foldl_append, foldl_digits, ← ofDigits]

/-- The digits of a number are its digits. -/
theorem ofDigits_toDigits (n : Nat) :
    ofDigits ((Nat.toDigits 10 n).map fun c => c.toNat - 48) = n := by
  have value : Nat.ofDigitChars 10 (Nat.toDigits 10 n) 0 = n := Nat.ofDigitChars_ten_toDigits
  rwa [Nat.ofDigitChars_eq_foldl, ← List.foldl_map] at value

end Numeral

theorem Digits.ofNat_lt (count n : Nat) : ∀ d ∈ Digits.ofNat count n, d < 10 := by
  intro d member
  obtain ⟨i, -, rfl⟩ := List.mem_map.mp member
  exact Nat.mod_lt _ (by decide)

theorem Digits.length_ofNat (count n : Nat) : (Digits.ofNat count n).length = count := by
  simp [ofNat]

theorem Digits.ofNat_succ (count n : Nat) :
    Digits.ofNat (count + 1) n = Digits.ofNat count (n / 10) ++ [n % 10] := by
  simp only [ofNat, List.range_succ, List.map_append, List.map_cons, List.map_nil]
  congr 1
  · apply List.map_congr_left
    intro i member
    have below := List.mem_range.mp member
    have place : count + 1 - 1 - i = 1 + (count - 1 - i) := by omega
    rw [place, Nat.pow_add, Nat.pow_one, Nat.div_div_eq_div_mul]
  · simp

/-- The last `count` digits are what is left of a division by `10 ^ count`. -/
theorem Numeral.ofDigits_ofNat (count n : Nat) :
    ofDigits (Digits.ofNat count n) = n % 10 ^ count := by
  induction count generalizing n with
  | zero => simp [Digits.ofNat, ofDigits, Nat.mod_one]
  | succ count ih =>
    have last : ofDigits [n % 10] = n % 10 := by simp [ofDigits]
    rw [Digits.ofNat_succ, ofDigits_append, ih, last, Nat.pow_succ', Nat.mod_mul]
    simp only [List.length_cons, List.length_nil]
    ring

theorem Layout.isDigit_digitChars {ds : List Nat} (h : ∀ d ∈ ds, d < 10) :
    ∀ c ∈ (digitChars ds).toList, c.isDigit = true := by
  intro c member
  rw [digitChars, String.toList_ofList] at member
  obtain ⟨d, digit, rfl⟩ := List.mem_map.mp member
  have all : ∀ d < 10, d.digitChar.isDigit = true := by decide
  exact all d (h d digit)

/-- Written digits are read back. -/
theorem Layout.map_digitChars {ds : List Nat} (h : ∀ d ∈ ds, d < 10) :
    ((digitChars ds).toList.map fun c => c.toNat - 48) = ds := by
  have all : ∀ d < 10, d.digitChar.toNat - 48 = d := by decide
  rw [digitChars, String.toList_ofList, List.map_map]
  exact (List.map_congr_left fun d digit => all d (h d digit)).trans (List.map_id ds)

namespace Numeral

variable {cs ds fs : List Char}

/-- Whether a character stands in a numeral as it is. -/
def IsPlain (c : Char) : Prop := Text.isSpace c = false ∧ asciiDigit c = c

theorem isPlain_digit {c : Char} (h : c.isDigit = true) : IsPlain c := by
  have range : 48 ≤ c.toNat ∧ c.toNat ≤ 57 := by
    simpa [Char.isDigit, UInt32.le_iff_toNat_le] using h
  constructor
  · simp only [Text.isSpace, Bool.or_eq_false_iff, Bool.and_eq_false_iff, decide_eq_false_iff_not,
      beq_eq_false_iff_ne]
    omega
  · have ascii : c.toNat < 128 := by omega
    have same : 48 + (c.toNat - 48) = c.toNat := by omega
    simp only [asciiDigit, Text.digitValue?, ascii, h, if_true, same, Char.ofNat_toNat]

theorem plain_eq (h : ∀ c ∈ cs, IsPlain c) : plain cs = cs := by
  have kept : ∀ ds : List Char, (∀ c ∈ ds, IsPlain c) → ds.dropWhile Text.isSpace = ds := by
    intro ds h
    cases ds with
    | nil => rfl
    | cons c ds => rw [List.dropWhile_cons, if_neg (by simp [(h c List.mem_cons_self).1])]
  have back : ∀ c ∈ cs.reverse, IsPlain c := fun c hc => h c (List.mem_reverse.mp hc)
  rw [plain, Text.trim, kept cs h, kept cs.reverse back, List.reverse_reverse]
  exact (List.map_congr_left fun c hc => (h c hc).2).trans (List.map_id cs)

/-- Digits are read up to a point or the end. -/
theorem digitRun_digits (inside : Bool) (digits : ∀ c ∈ ds, c.isDigit = true)
    (stops : cs = [] ∨ ∃ rest, cs = '.' :: rest) :
    digitRun inside (ds ++ cs) = (ds.map fun c => c.toNat - 48, cs) := by
  induction ds generalizing inside with
  | nil => rcases stops with rfl | ⟨rest, rfl⟩ <;> simp [digitRun]
  | cons c ds ih =>
    obtain ⟨digit, digits⟩ := List.forall_mem_cons.mp digits
    simp only [List.cons_append, digitRun, digit, if_true, ih true digits, List.map_cons]

/-- Digits are a number, and so they are with digits after a point. -/
theorem decimal?_digits (negative : Bool) (written : ds ≠ [])
    (digits : ∀ c ∈ ds, c.isDigit = true) (places : ∀ c ∈ fs, c.isDigit = true)
    (tail : fs = [] ∧ cs = [] ∨ cs = '.' :: fs) :
    decimal? negative (ds ++ cs) =
      some ⟨negative, ofDigits ((ds ++ fs).map fun c => c.toNat - 48), -(fs.length : Int)⟩ := by
  have stops : cs = [] ∨ ∃ rest, cs = '.' :: rest := tail.imp (·.2) fun point => ⟨fs, point⟩
  have whole := digitRun_digits false digits stops
  have fraction : digitRun false fs = (fs.map fun c => c.toNat - 48, []) := by
    simpa using digitRun_digits false places (.inl rfl)
  simp only [decimal?, whole]
  rcases tail with ⟨rfl, rfl⟩ | rfl
  · simp [written, exponent?]
  · simp [written, fraction, exponent?]

/-- Whether a text is a numeral, and of what number. -/
def Denotes (s : String) (q : Rat) : Prop :=
  ∃ negative cs d, sign (plain s.toList) = (negative, cs) ∧ decimal? negative cs = some d ∧
    d.value = q

/-- A numeral is one of one number. -/
theorem Denotes.unique {s : String} {q q' : Rat} (h : Denotes s q) (h' : Denotes s q') : q = q' := by
  obtain ⟨negative, cs, d, signed, number, rfl⟩ := h
  obtain ⟨negative', cs', d', signed', number', rfl⟩ := h'
  obtain ⟨rfl, rfl⟩ := Prod.mk.inj (signed.symm.trans signed')
  rw [Option.some.inj (number.symm.trans number')]

/-- A numeral reads. -/
theorem Denotes.reads {s : String} {q : Rat} (h : Denotes s q) : ∃ y, real? s = some y := by
  obtain ⟨negative, cs, d, signed, number, -⟩ := h
  simp only [real?, signed, number]
  split
  · exact ⟨_, rfl⟩
  split
  · exact ⟨_, rfl⟩
  · exact ⟨_, rfl⟩

theorem sign_signText (negative : Bool) {c : Char} (digit : c.isDigit = true) :
    sign ((Layout.signText negative).toList ++ c :: cs) = (negative, c :: cs) := by
  cases negative with
  | true => rfl
  | false =>
    change sign (c :: cs) = _
    simp only [sign]
    split
    · rename_i first
      cases first
      cases digit
    · rename_i first
      cases first
      cases digit
    · rfl

theorem isPlain_signText (negative : Bool) :
    ∀ c ∈ (Layout.signText negative).toList, IsPlain c := by
  cases negative with
  | true =>
    intro c minus
    rw [List.mem_singleton.mp minus]
    exact ⟨rfl, rfl⟩
  | false => exact fun _ none => (nomatch none)

/-- Digits behind a sign are a number, and so they are with digits after a point. -/
theorem denotes_digits (negative : Bool) {c : Char} (digits : ∀ d ∈ c :: ds, d.isDigit = true)
    (places : ∀ d ∈ fs, d.isDigit = true) (tail : fs = [] ∧ cs = [] ∨ cs = '.' :: fs) {s : String}
    (written : s.toList = (Layout.signText negative).toList ++ (c :: ds ++ cs)) :
    Denotes s (Decimal.value
      ⟨negative, ofDigits ((c :: ds ++ fs).map fun c => c.toNat - 48), -(fs.length : Int)⟩) := by
  have point : IsPlain '.' := ⟨rfl, rfl⟩
  have stays : ∀ d ∈ s.toList, IsPlain d := by
    intro d member
    rw [written] at member
    simp only [List.mem_append] at member
    rcases member with sign | digit | rest
    · exact isPlain_signText negative d sign
    · exact isPlain_digit (digits d digit)
    · rcases tail with ⟨-, rfl⟩ | rfl
      · cases rest
      · rcases List.mem_cons.mp rest with rfl | digit
        · exact point
        · exact isPlain_digit (places d digit)
  have signed : sign (plain s.toList) = (negative, c :: ds ++ cs) := by
    rw [plain_eq stays, written]
    exact sign_signText negative (digits c List.mem_cons_self)
  exact ⟨_, _, _, signed, decimal?_digits negative (List.cons_ne_nil c ds) digits places tail, rfl⟩

end Numeral

/-- A finite number is written as the number of places nearest to it. -/
theorem Real64.fixedText_denotes (places : Nat) (x : Binary64) :
    Numeral.Denotes ((Real64.finite x).fixedText places)
      (Decimal.value ⟨x.negative, inPlaces places x, -(places : Int)⟩) := by
  let n := inPlaces places x
  let fraction := Layout.digitChars (Digits.ofNat places (n % 10 ^ places))
  have whole : ∀ c ∈ Nat.toDigits 10 (n / 10 ^ places), c.isDigit = true := fun c =>
    Nat.isDigit_of_mem_toDigits (by decide) (by decide)
  have after : ∀ c ∈ fraction.toList, c.isDigit = true :=
    Layout.isDigit_digitChars (Digits.ofNat_lt places _)
  have count : fraction.toList.length = places := by
    simp only [fraction, Layout.digitChars, String.toList_ofList, List.length_map,
      Digits.length_ofNat]
  have value : Numeral.ofDigits ((Nat.toDigits 10 (n / 10 ^ places) ++ fraction.toList).map
      fun c => c.toNat - 48) = n := by
    rw [List.map_append, Layout.map_digitChars (Digits.ofNat_lt places _), Numeral.ofDigits_append,
      Numeral.ofDigits_toDigits, Numeral.ofDigits_ofNat, Digits.length_ofNat, Nat.mod_mod,
      Nat.div_add_mod']
  obtain ⟨c, ds, first⟩ : ∃ c ds, Nat.toDigits 10 (n / 10 ^ places) = c :: ds :=
    List.exists_cons_of_ne_nil Nat.toDigits_ne_nil
  rw [first] at whole value
  have denotes {cs : List Char}
      (tail : fraction.toList = [] ∧ cs = [] ∨ cs = '.' :: fraction.toList)
      (written : ((Real64.finite x).fixedText places).toList =
        (Layout.signText x.negative).toList ++ (c :: ds ++ cs)) :
      Numeral.Denotes ((Real64.finite x).fixedText places)
        (Decimal.value ⟨x.negative, n, -(places : Int)⟩) := by
    have read := Numeral.denotes_digits x.negative whole after tail written
    rwa [value, count] at read
  by_cases none : places = 0
  · apply denotes (.inl ⟨List.eq_nil_of_length_eq_zero (count.trans none), rfl⟩)
    simp only [fixedText, none, if_true, String.toList_append, Nat.toString_eq_ofList_toDigits,
      String.toList_ofList, List.append_nil]
    rw [← first]
    simp only [n, none]
  · apply denotes (.inr rfl)
    simp only [fixedText, none, if_false, String.toList_append, Nat.toString_eq_ofList_toDigits,
      String.toList_ofList]
    rw [← first, List.append_assoc]
    rfl

/-- What is written with a fixed number of places reads as a number. -/
theorem Real64.fixedText_reads (places : Nat) (x : Real64) :
    ∃ y, Numeral.real? (x.fixedText places) = some y := by
  cases x with
  | nan =>
    have read : Numeral.real? "nan" = some .nan := by decide +kernel
    exact ⟨_, read⟩
  | infinite negative =>
    have read : ∀ negative, Numeral.real? (Layout.signText negative ++ "inf") =
        some (.infinite negative) := by
      decide +kernel
    exact ⟨_, read negative⟩
  | finite x => exact (fixedText_denotes places x).reads

/-- The quantity of an order reads as a number. -/
theorem Order.quantityText_reads (quote price : Real64) :
    ∃ y, Numeral.real? (quantityText quote price) = some y := by
  unfold quantityText
  split
  · have read : (Numeral.real? "0.000000").isSome = true := by decide +kernel
    exact Option.isSome_iff_exists.mp read
  · exact Real64.fixedText_reads 6 _

end SignalDesk
