import SignalDesk.Number.Arithmetic
import SignalDesk.Text.Quoted
import SignalDesk.Time.Calendar

namespace SignalDesk

/-- A moment as written; the offset counts microseconds east of UTC. -/
structure Stamp where
  year : Nat
  month : Nat
  day : Nat
  hour : Nat
  minute : Nat
  second : Nat
  micro : Nat
  offset : Option Int
deriving DecidableEq, Repr

/-- Why a text is no moment. -/
inductive StampError
  | malformed (text : String)
  | year (n : Nat)
  | month
  | day
  | hour
  | minute
  | second
  | offset (micros : Int)
deriving DecidableEq, Repr

namespace StampError

/-- A span of time in messages: days, and what is left in seconds and microseconds. -/
def span (micros : Int) : String :=
  let days := micros.fdiv 86400000000
  let rest := (micros.fmod 86400000000).toNat
  let part (name : String) (n : Int) : List String := if n = 0 then [] else [name ++ toString n]
  let parts := part "days=" days ++ part "seconds=" (rest / 1000000 : Nat) ++
    part "microseconds=" (rest % 1000000 : Nat)
  "datetime.timedelta(" ++ (if parts.isEmpty then "0" else ", ".intercalate parts) ++ ")"

def message : StampError → String
  | malformed text => "Invalid isoformat string: " ++ Text.quoted text
  | year n => "year " ++ toString n ++ " is out of range"
  | month => "month must be in 1..12"
  | day => "day is out of range for month"
  | hour => "hour must be in 0..23"
  | minute => "minute must be in 0..59"
  | second => "second must be in 0..59"
  | offset micros =>
    "offset must be a timedelta strictly between -timedelta(hours=24) and timedelta(hours=24), not "
      ++ span micros ++ "."

end StampError

namespace Stamp

/-- Exactly `count` digits. -/
def digits? : (count : Nat) → List Char → Option (Nat × List Char)
  | count, cs =>
    let ds := cs.take count
    if ds.length = count && ds.all Char.isDigit then
      some (ds.foldl (fun n c => 10 * n + (c.toNat - 48)) 0, cs.drop count)
    else none

/-- How many characters of the text are its date. Where a week date leaves it open, a hyphen after
the week separates, and an even count of digits after it holds a weekday. -/
def dateLength (cs : List Char) : Nat :=
  if cs.length = 7 then 7
  else if cs[4]? = some '-' then
    if cs[5]? = some 'W' then
      if cs[8]? = some '-' then
        if ((cs.drop 10).take 1).any Char.isDigit then 8 else 10
      else 8
    else 10
  else if cs[4]? = some 'W' then
    let run := ((cs.drop 7).takeWhile Char.isDigit).length
    if run < 2 then 7 + run else if run % 2 = 0 then 8 else 7
  else 8

/-- The date of an ISO week, as year, month and day. The weeks of year 0 get no month. -/
def weekDate (text : String) (year week weekday : Nat) : Except StampError (Nat × Nat × Nat) :=
  if week = 0 || 53 < week || (week = 53 && !Calendar.hasWeek53 year) then .error (.malformed text)
  else if weekday = 0 || 7 < weekday then .error (.malformed text)
  else
    let n := Calendar.firstMonday year + (week - 1) * 7 + (weekday - 1)
    if year = 0 then .ok (1, 0, 0) else .ok (Calendar.ofDayNumber n.toNat)

/-- A date that takes up all of `cs`: year, month and day, or year, week and perhaps weekday, with
hyphens throughout or not at all. -/
def date? (text : String) (cs : List Char) : Except StampError (Nat × Nat × Nat) :=
  let malformed : Except StampError (Nat × Nat × Nat) := .error (.malformed text)
  match digits? 4 cs with
  | none => malformed
  | some (year, rest) =>
    let hyphens := rest.head? = some '-'
    let rest := if hyphens then rest.drop 1 else rest
    let next (rest : List Char) : Option (List Char) :=
      if hyphens then if rest.head? = some '-' then some (rest.drop 1) else none else some rest
    match rest with
    | 'W' :: rest =>
      match digits? 2 rest with
      | none => malformed
      | some (week, []) => weekDate text year week 1
      | some (week, rest) =>
        match (next rest).bind (digits? 1) with
        | some (weekday, _) => weekDate text year week weekday
        | none => malformed
    | rest =>
      match digits? 2 rest with
      | none => malformed
      | some (month, rest) =>
        match (next rest).bind (digits? 2) with
        | some (day, []) => .ok (year, month, day)
        | _ => malformed

/-- Hour, minute, second and microsecond. -/
structure Clock where
  hour : Nat := 0
  minute : Nat := 0
  second : Nat := 0
  micro : Nat := 0

/-- A clock time, and whether text is left over behind it. -/
abbrev ClockReading := Clock × Bool

/-- Whether what follows a time is more than nothing; a NUL counts as nothing. -/
def isLeftOver : List Char → Bool
  | [] => false
  | c :: _ => c != '\x00'

/-- The digits after a decimal mark as microseconds; digits past the sixth are dropped. -/
def fraction? (c : Clock) (cs : List Char) : Option ClockReading :=
  let count := min 6 cs.length
  (digits? count cs).map fun (n, rest) =>
    ({ c with micro := n * 10 ^ (6 - count) }, isLeftOver (rest.dropWhile Char.isDigit))

/-- Sets the hour, then the minute, then the second. -/
def Clock.set (c : Clock) : (place : Nat) → (n : Nat) → Clock
  | 0, n => { c with hour := n }
  | 1, n => { c with minute := n }
  | _, n => { c with second := n }

/-- Reads pairs of digits from `place` on, `left` of them at most, and then a fraction. Colons stand
between all pairs or none. One character may be left over at any point. -/
def clockFrom (c : Clock) (colons : Bool) : (place left : Nat) → List Char → Option ClockReading
  | _, 0, cs => fraction? c cs
  | place, left + 1, cs =>
    match digits? 2 cs with
    | none => none
    | some (n, rest) =>
      let c := c.set place n
      match rest with
      | [] => some (c, false)
      | mark :: more =>
        let colons := if place = 0 then mark == ':' else colons
        if more.isEmpty && mark.toNat < 128 then some (c, isLeftOver rest)
        else if colons && mark == ':' then clockFrom c colons (place + 1) left more
        else if mark == '.' || mark == ',' then fraction? c more
        else if colons then none
        else clockFrom c colons (place + 1) left rest

def clock? (cs : List Char) : Option ClockReading := clockFrom {} false 0 3 cs

/-- A clock time and its offset. A time without offset leaves nothing over. -/
def time? (cs : List Char) : Option (Clock × Option Int) :=
  let isZone (c : Char) : Bool := c == '+' || c == '-' || c == 'Z'
  match clock? (cs.takeWhile (!isZone ·)), cs.dropWhile (!isZone ·) with
  | none, _ => none
  | some (c, leftOver), [] => if leftOver then none else some (c, none)
  | some (c, _), 'Z' :: rest => if isLeftOver rest then none else some (c, some 0)
  | some (c, _), sign :: rest =>
    match clock? rest with
    | some (z, false) =>
      let seconds : Int := (z.hour * 3600 + z.minute * 60 + z.second : Nat)
      let micros : Int := if seconds = 0 then 0 else seconds * 1000000 + z.micro
      some (c, some (if sign == '-' then -micros else micros))
    | _ => none

/-- Checks that the parts name a moment: the offset first, then from the year down. -/
def checked (s : Stamp) : Except StampError Stamp :=
  if 86400000000 ≤ (s.offset.getD 0).natAbs then .error (.offset (s.offset.getD 0))
  else if s.year < 1 || 9999 < s.year then .error (.year s.year)
  else if s.month < 1 || 12 < s.month then .error .month
  else if s.day < 1 || Calendar.daysInMonth s.year s.month < s.day then .error .day
  else if 23 < s.hour then .error .hour
  else if 59 < s.minute then .error .minute
  else if 59 < s.second then .error .second
  else .ok s

/-- Reads a moment: a date, and after one character of any kind a time. -/
def read? (text : String) : Except StampError Stamp := do
  let cs := text.toList
  if cs.length < 7 then .error (.malformed text)
  else
    let n := dateLength cs
    let (year, month, day) ← date? text (cs.take n)
    match cs.drop n with
    | [] => checked ⟨year, month, day, 0, 0, 0, 0, none⟩
    | _ :: rest =>
      match time? rest with
      | none => .error (.malformed text)
      | some (c, offset) => checked ⟨year, month, day, c.hour, c.minute, c.second, c.micro, offset⟩

/-- The day number of the first of January 1970. -/
def epochDay : Int := 719163

/-- Seconds since 1970 by the clock as written. -/
def localSeconds (s : Stamp) : Int :=
  (Calendar.dayNumber s.year s.month s.day - epochDay) * 86400 +
    (s.hour * 3600 + s.minute * 60 + s.second : Nat)

/-- Seconds since 1970 as a number. With an offset the exact count is rounded once; without one the
microseconds are added in rounded arithmetic, and the first day of year 1 is out of range. -/
def seconds (s : Stamp) : Except StampError Real64 :=
  match s.offset with
  | some offset =>
    let micros := s.localSeconds * 1000000 + s.micro - offset
    .ok (Real64.ofQuotient (decide (micros < 0)) micros.natAbs 1000000)
  | none =>
    if s.year = 1 && s.month = 1 && s.day = 1 then .error (.year 0)
    else .ok (.add (.ofInt s.localSeconds) (.div (.ofInt s.micro) (.ofInt 1000000)))

/-- Milliseconds since 1970: the seconds times a thousand in rounded arithmetic, cut to an
integer. -/
def millis (s : Stamp) : Except StampError Int :=
  s.seconds.map fun x => ((Real64.mul x (.ofInt 1000)).truncate?).getD 0

def pad (width n : Nat) : String :=
  let t := toString n
  String.ofList (List.replicate (width - t.length) '0') ++ t

/-- The text of a moment of the engine's clock, in UTC. Milliseconds are written when there are
any. -/
def ofMillis (ms : Int) : String :=
  let days := ms.fdiv 86400000
  let inDay := (ms.fmod 86400000).toNat
  let (year, month, day) := Calendar.ofDayNumber (days + epochDay).toNat
  let second := inDay / 1000
  let fraction := if inDay % 1000 = 0 then "" else "." ++ pad 6 (inDay % 1000 * 1000)
  pad 4 year ++ "-" ++ pad 2 month ++ "-" ++ pad 2 day ++ "T" ++ pad 2 (second / 3600) ++ ":" ++
    pad 2 (second / 60 % 60) ++ ":" ++ pad 2 (second % 60) ++ fraction ++ "+00:00"

end Stamp
end SignalDesk
