import Mathlib.Data.List.Basic
import SignalDesk.Activation.Basic
import SignalDesk.Proofs.Results
import SignalDesk.Proofs.Time.Calendar

namespace SignalDesk.Stamp

section Padded

variable {width n : Nat}

theorem pad_toList (width n : Nat) :
    (pad width n).toList =
      List.replicate (width - (Nat.toDigits 10 n).length) '0' ++ Nat.toDigits 10 n := by
  simp only [pad, Nat.toString_eq_ofList_toDigits, String.toList_append, String.toList_ofList,
    String.length_ofList]

theorem pad_length (positive : 0 < width) (h : n < 10 ^ width) :
    (pad width n).toList.length = width := by
  have fits := (Nat.length_toDigits_le_iff (by decide : 1 < 10) positive).mpr h
  rw [pad_toList, List.length_append, List.length_replicate]
  exact Nat.sub_add_cancel fits

theorem pad_isDigit : ∀ c ∈ (pad width n).toList, c.isDigit = true := by
  intro c member
  rw [pad_toList] at member
  rcases List.mem_append.mp member with zero | digit
  · rw [List.eq_of_mem_replicate zero]
    rfl
  · exact Nat.isDigit_of_mem_toDigits (by decide) (by decide) digit

theorem pad_value (width n : Nat) :
    (pad width n).toList.foldl (fun n c => 10 * n + (c.toNat - 48)) 0 = n := by
  have value : Nat.ofDigitChars 10 (pad width n).toList 0 = n := by
    rw [pad_toList, Nat.ofDigitChars_append, Nat.ofDigitChars_replicate_zero, Nat.mul_zero,
      Nat.ofDigitChars_ten_toDigits]
  rwa [Nat.ofDigitChars_eq_foldl] at value

/-- A number that was written is read back. -/
theorem digits?_pad (positive : 0 < width) (h : n < 10 ^ width) (rest : List Char) :
    digits? width ((pad width n).toList ++ rest) = some (n, rest) := by
  have length := pad_length positive h
  have taken : ((pad width n).toList ++ rest).take width = (pad width n).toList :=
    List.take_left' length
  have left : ((pad width n).toList ++ rest).drop width = rest := List.drop_left' length
  have all : (pad width n).toList.all Char.isDigit = true := List.all_eq_true.mpr pad_isDigit
  simp only [digits?, taken, left, length, all, decide_true, Bool.and_true, if_true, pad_value]

/-- A number of two digits, as characters. -/
theorem pad_two (h : n < 100) : ∃ a b, (pad 2 n).toList = [a, b] ∧ a.isDigit = true ∧
    b.isDigit = true ∧ ∀ rest, digits? 2 (a :: b :: rest) = some (n, rest) := by
  have length := pad_length (n := n) (by decide : 0 < 2) h
  obtain ⟨a, b, chars⟩ := List.length_eq_two.mp length
  have digits : ∀ c ∈ (pad 2 n).toList, c.isDigit = true := pad_isDigit
  rw [chars] at digits
  refine ⟨a, b, chars, digits a (by simp), digits b (by simp), fun rest => ?_⟩
  have read := digits?_pad (by decide : 0 < 2) h rest
  rwa [chars] at read

end Padded

theorem ne_of_isDigit {c d : Char} (h : c.isDigit = true) (other : d.isDigit = false) : c ≠ d := by
  rintro rfl
  rw [h] at other
  cases other

/-- The text of a date. -/
def dateText (year month day : Nat) : List Char :=
  (pad 4 year).toList ++ '-' :: ((pad 2 month).toList ++ '-' :: (pad 2 day).toList)

section Dates

variable {year month day : Nat}

theorem dateText_length (hy : year < 10000) (hm : month < 100) (hd : day < 100) :
    (dateText year month day).length = 10 := by
  have years := pad_length (by decide : 0 < 4) hy
  have months := pad_length (by decide : 0 < 2) hm
  have days := pad_length (by decide : 0 < 2) hd
  simp only [dateText, List.length_append, List.length_cons, years, months, days]

theorem date?_dateText (text : String) (hy : year < 10000) (hm : month < 100) (hd : day < 100) :
    date? text (dateText year month day) = .ok (year, month, day) := by
  obtain ⟨m, m', months, digit, -, month'⟩ := pad_two hm
  obtain ⟨d, d', days, -, -, day'⟩ := pad_two hd
  have letter : m ≠ 'W' := ne_of_isDigit digit rfl
  have years := digits?_pad (by decide : 0 < 4) hy ('-' :: m :: m' :: '-' :: [d, d'])
  rw [dateText, months, days]
  simp only [date?, List.cons_append, List.nil_append, years, List.head?_cons, List.drop_one,
    List.tail_cons, if_true]
  split
  · rename_i week
    exact absurd (List.cons.inj week).1 letter
  · simp only [month', List.head?_cons, if_true, List.tail_cons, Option.bind_some, day' []]

/-- After the year comes a hyphen, and then a digit. -/
theorem dateLength_dateText (hy : year < 10000) (hm : month < 100) (hd : day < 100)
    (rest : List Char) : dateLength (dateText year month day ++ rest) = 10 := by
  obtain ⟨m, m', months, digit, -, -⟩ := pad_two hm
  obtain ⟨a, b, c, d, years⟩ := List.length_eq_four.mp (pad_length (by decide : 0 < 4) hy)
  have letter : m ≠ 'W' := ne_of_isDigit digit rfl
  have length := dateText_length hy hm hd
  have longer : (dateText year month day ++ rest).length ≠ 7 := by
    rw [List.length_append, length]
    omega
  have hyphen : (dateText year month day ++ rest)[4]? = some '-' := by
    rw [dateText, years]
    rfl
  have first : (dateText year month day ++ rest)[5]? = some m := by
    rw [dateText, years, months]
    rfl
  simp only [dateLength, if_neg longer, hyphen, first, Option.some.injEq, if_true, if_neg letter]

end Dates

/-- The text of a clock time, with its fraction. -/
def clockText (hour minute second : Nat) (fraction : List Char) : List Char :=
  (pad 2 hour).toList ++ ':' :: ((pad 2 minute).toList ++ ':' :: ((pad 2 second).toList ++ fraction))

/-- A fraction of a second, as it is written if there is any. -/
def fractionText (micro : Nat) : List Char :=
  if micro = 0 then [] else '.' :: (pad 6 micro).toList

section Clocks

variable {hour minute second micro : Nat}

/-- A pair of digits, and a colon before more of them. -/
theorem clockFrom_colon {c : Clock} {colons : Bool} {place left n : Nat} {cs : List Char} {x : Char}
    {more : List Char} (read : digits? 2 cs = some (n, ':' :: x :: more))
    (first : place = 0 ∨ colons = true) :
    clockFrom c colons place (left + 1) cs =
      clockFrom (c.set place n) true (place + 1) left (x :: more) := by
  have marks : (if place = 0 then true else colons) = true := by
    rcases first with rfl | rfl
    · rfl
    · exact ite_self true
  simp only [clockFrom, read, marks, List.isEmpty_cons, Bool.false_and, Bool.false_eq_true,
    if_false, beq_self_eq_true, Bool.and_self, if_true]

/-- The last pair, without a fraction. -/
theorem clockFrom_last {c : Clock} {colons : Bool} {place left n : Nat} {cs : List Char}
    (read : digits? 2 cs = some (n, [])) :
    clockFrom c colons place (left + 1) cs = some (c.set place n, false) := by
  simp only [clockFrom, read]

/-- The last pair, and a fraction. -/
theorem clockFrom_point {c : Clock} {colons : Bool} {place left n : Nat} {cs : List Char} {x : Char}
    {more : List Char} (read : digits? 2 cs = some (n, '.' :: x :: more)) :
    clockFrom c colons place (left + 1) cs = fraction? (c.set place n) (x :: more) := by
  simp only [clockFrom, read, List.isEmpty_cons, Bool.false_and, Bool.false_eq_true, if_false,
    beq_self_eq_true, Bool.true_or, if_true, show ('.' == ':') = false from rfl, Bool.and_false]

theorem fraction?_pad {c : Clock} (h : micro < 1000000) :
    fraction? c (pad 6 micro).toList = some ({ c with micro }, false) := by
  have length := pad_length (by decide : 0 < 6) h
  have read := digits?_pad (by decide : 0 < 6) h []
  rw [List.append_nil] at read
  simp only [fraction?, length, Nat.min_self, read, Option.map_some, Nat.sub_self, Nat.pow_zero,
    Nat.mul_one]
  rfl

theorem clock?_clockText (hh : hour < 100) (hm : minute < 100) (hs : second < 100)
    (hu : micro < 1000000) :
    clock? (clockText hour minute second (fractionText micro)) =
      some (⟨hour, minute, second, micro⟩, false) := by
  obtain ⟨h, h', hours, -, -, hour'⟩ := pad_two hh
  obtain ⟨m, m', minutes, -, -, minute'⟩ := pad_two hm
  obtain ⟨s, s', seconds, -, -, second'⟩ := pad_two hs
  rw [clockText, hours, minutes, seconds]
  simp only [clock?, List.cons_append, List.nil_append]
  rw [clockFrom_colon (hour' _) (.inl rfl), clockFrom_colon (minute' _) (.inr rfl)]
  by_cases none : micro = 0
  · subst none
    rw [fractionText, if_pos rfl, clockFrom_last (second' _)]
    rfl
  · have length := pad_length (by decide : 0 < 6) hu
    have fraction := fraction?_pad (c := ⟨hour, minute, second, 0⟩) hu
    cases digits : (pad 6 micro).toList with
    | nil => simp [digits] at length
    | cons x more =>
      rw [digits] at fraction
      rw [fractionText, if_neg none, digits, clockFrom_point (second' _)]
      exact fraction

/-- A clock time has no character that begins an offset. -/
theorem mem_clockText {c : Char}
    (member : c ∈ clockText hour minute second (fractionText micro)) :
    (c == '+' || c == '-' || c == 'Z') = false := by
  have digit : ∀ {c : Char}, c.isDigit = true → (c == '+' || c == '-' || c == 'Z') = false := by
    intro c digit
    simp [ne_of_isDigit digit (d := '+') rfl, ne_of_isDigit digit (d := '-') rfl,
      ne_of_isDigit digit (d := 'Z') rfl]
  have pads : ∀ {width n : Nat} {c : Char}, c ∈ (pad width n).toList →
      (c == '+' || c == '-' || c == 'Z') = false := fun member => digit (pad_isDigit _ member)
  simp only [clockText, List.mem_append, List.mem_cons] at member
  rcases member with hours | rfl | minutes | rfl | seconds | rest
  · exact pads hours
  · rfl
  · exact pads minutes
  · rfl
  · exact pads seconds
  · simp only [fractionText] at rest
    split at rest
    · cases rest
    · rcases List.mem_cons.mp rest with rfl | digits
      · rfl
      · exact pads digits

theorem time?_clockText (hh : hour < 100) (hm : minute < 100) (hs : second < 100)
    (hu : micro < 1000000) :
    time? (clockText hour minute second (fractionText micro) ++ "+00:00".toList) =
      some (⟨hour, minute, second, micro⟩, some 0) := by
  have clock := clock?_clockText hh hm hs hu
  have plain : ∀ c ∈ clockText hour minute second (fractionText micro),
      (!(c == '+' || c == '-' || c == 'Z')) = true := by
    intro c member
    rw [mem_clockText member]
    rfl
  have zone : clock? "00:00".toList = some ({}, false) := rfl
  have time : (clockText hour minute second (fractionText micro) ++ "+00:00".toList).takeWhile
      (fun c => !(c == '+' || c == '-' || c == 'Z')) = _ := List.takeWhile_append_of_pos plain
  have offset : (clockText hour minute second (fractionText micro) ++ "+00:00".toList).dropWhile
      (fun c => !(c == '+' || c == '-' || c == 'Z')) = _ := List.dropWhile_append_of_pos plain
  simp only [time?, time, offset]
  have nothing : "+00:00".toList.takeWhile (fun c => !(c == '+' || c == '-' || c == 'Z')) = [] :=
    rfl
  have sign : "+00:00".toList.dropWhile (fun c => !(c == '+' || c == '-' || c == 'Z')) =
      '+' :: "00:00".toList := rfl
  rw [nothing, sign, List.append_nil, clock]
  -- the offset is kept as a variable: it is not to be read again here
  generalize "00:00".toList = rest at zone
  simp [zone]

end Clocks

/-- Whether a moment is one of the calendar: from the start of year 1 to the end of year 9999. -/
def InCalendar (ms : Int) : Prop := -62135596800000 ≤ ms ∧ ms < 253402300800000

instance (ms : Int) : Decidable (InCalendar ms) := inferInstanceAs (Decidable (_ ∧ _))

/-- The parts of the text of a moment. -/
theorem ofMillis_toList {ms : Int} {year month day : Nat}
    (date : Calendar.ofDayNumber (ms.fdiv 86400000 + epochDay).toNat = (year, month, day)) :
    let inDay := (ms.fmod 86400000).toNat
    (ofMillis ms).toList = dateText year month day ++ 'T' ::
      (clockText (inDay / 1000 / 3600) (inDay / 1000 / 60 % 60) (inDay / 1000 % 60)
        (fractionText (inDay % 1000 * 1000)) ++ "+00:00".toList) := by
  intro inDay
  have fraction : (if inDay % 1000 = 0 then "" else "." ++ pad 6 (inDay % 1000 * 1000)).toList =
      fractionText (inDay % 1000 * 1000) := by
    by_cases none : inDay % 1000 = 0
    · rw [if_pos none, none]
      rfl
    · rw [if_neg none, fractionText, if_neg (by omega), String.toList_append]
      rfl
  simp only [ofMillis, date, String.toList_append]
  rw [fraction]
  simp [dateText, clockText, inDay]

theorem checked_ok {year month day hour minute second micro : Nat} (hy : 1 ≤ year ∧ year ≤ 9999)
    (hm : 1 ≤ month ∧ month ≤ 12) (hd : 1 ≤ day ∧ day ≤ Calendar.daysInMonth year month)
    (hh : hour ≤ 23) (hmin : minute ≤ 59) (hs : second ≤ 59) :
    checked ⟨year, month, day, hour, minute, second, micro, some 0⟩ =
      .ok ⟨year, month, day, hour, minute, second, micro, some 0⟩ := by
  have years : (decide (year < 1) || decide (9999 < year)) = false := by simp; omega
  have months : (decide (month < 1) || decide (12 < month)) = false := by simp; omega
  have days : (decide (day < 1) || decide (Calendar.daysInMonth year month < day)) = false := by
    simp
    omega
  simp only [checked, years, months, days, Option.getD_some, Bool.false_eq_true, if_false]
  rw [if_neg (by decide), if_neg (by omega), if_neg (by omega), if_neg (by omega)]

/-- A date, one character, a clock time and the offset of UTC are read part by part. -/
theorem read?_parts {text : String} {year month day hour minute second micro : Nat}
    (chars : text.toList = dateText year month day ++ 'T' ::
      (clockText hour minute second (fractionText micro) ++ "+00:00".toList))
    (hy : year < 10000) (hm : month < 100) (hd : day < 100) (hh : hour < 100)
    (hmin : minute < 100) (hs : second < 100) (hu : micro < 1000000) :
    read? text = checked ⟨year, month, day, hour, minute, second, micro, some 0⟩ := by
  have dated := date?_dateText text hy hm hd
  have timed := time?_clockText hh hmin hs hu
  have length := dateText_length hy hm hd
  generalize clockText hour minute second _ ++ "+00:00".toList = time at chars timed
  have longer : ¬(dateText year month day ++ 'T' :: time).length < 7 := by
    rw [List.length_append, length]
    omega
  have place := dateLength_dateText hy hm hd ('T' :: time)
  have front : (dateText year month day ++ 'T' :: time).take 10 = dateText year month day :=
    List.take_left' length
  have back : (dateText year month day ++ 'T' :: time).drop 10 = 'T' :: time :=
    List.drop_left' length
  unfold read?
  rw [chars]
  dsimp only
  rw [if_neg longer, place, front, back, dated]
  dsimp only [bind, Except.bind]
  rw [timed]

/-- **Stamps read back.** What the engine writes for a moment of the calendar, it reads. -/
theorem read_ofMillis {ms : Int} (h : InCalendar ms) :
    ∃ s : Stamp, read? (ofMillis ms) = .ok s ∧ s.offset = some 0 := by
  obtain ⟨low, high⟩ := h
  have floor : ms.fdiv 86400000 = ms / 86400000 := Int.fdiv_eq_ediv_of_nonneg _ (by decide)
  have rest : ms.fmod 86400000 = ms % 86400000 := Int.fmod_eq_emod_of_nonneg _ (by decide)
  generalize day : (ms.fdiv 86400000 + epochDay).toNat = n
  have positive : 0 < n := by simp only [epochDay] at day; omega
  have within : n ≤ Calendar.daysBeforeYear (9999 + 1) := by
    have last : Calendar.daysBeforeYear (9999 + 1) = 3652059 := by decide
    simp only [epochDay] at day
    omega
  obtain ⟨year, month, day', date, early, late, valid⟩ := Calendar.ofDayNumber_valid positive within
  obtain ⟨january, december, first, last⟩ := valid
  have days : Calendar.daysInMonth year month ≤ 31 := by
    simp only [Calendar.daysInMonth]
    split
    · split <;> decide
    all_goals decide
  have hd : day' < 100 := by
    have := Nat.le_trans last days
    omega
  have chars := ofMillis_toList (day ▸ date)
  generalize clock : (ms.fmod 86400000).toNat = inDay at chars
  have inside : inDay < 86400000 := by omega
  refine ⟨⟨year, month, day', inDay / 1000 / 3600, inDay / 1000 / 60 % 60, inDay / 1000 % 60,
    inDay % 1000 * 1000, some 0⟩, ?_, rfl⟩
  rw [read?_parts chars (by omega) (by omega) hd (by omega) (by omega) (by omega) (by omega)]
  exact checked_ok ⟨early, late⟩ ⟨january, december⟩ ⟨first, last⟩ (by omega) (by omega) (by omega)

end SignalDesk.Stamp

namespace SignalDesk

/-- A gate with a stamp of the calendar can be asked since when it is on. -/
theorem Gate.startedMillis_ofMillis {g : Gate} {ms : Int}
    (stamp : g.startedAt = some (Stamp.ofMillis ms)) (h : Stamp.InCalendar ms) :
    ∃ started, g.startedMillis = .ok (some started) := by
  obtain ⟨s, read, offset⟩ := Stamp.read_ofMillis h
  have written : ¬(Stamp.ofMillis ms).isEmpty = true := by
    intro empty
    rw [String.isEmpty_iff.mp empty] at read
    cases read
  obtain ⟨x, counted⟩ : ∃ x, s.seconds = .ok x := by
    simp only [Stamp.seconds, offset]
    exact ⟨_, rfl⟩
  refine ⟨((x.mul (.ofInt 1000)).truncate?).getD 0, ?_⟩
  simp only [startedMillis, stamp, if_neg written, read, Except.bind, Stamp.millis, counted,
    Except.map]

end SignalDesk
