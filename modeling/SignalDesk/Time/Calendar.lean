namespace SignalDesk.Calendar

def isLeap (year : Nat) : Bool := year % 4 == 0 && (year % 100 != 0 || year % 400 == 0)

def daysInMonth (year month : Nat) : Nat :=
  match month with
  | 2 => if isLeap year then 29 else 28
  | 4 | 6 | 9 | 11 => 30
  | _ => 31

/-- The days of the years before `year`. -/
def daysBeforeYear (year : Nat) : Nat :=
  let y := year - 1
  y * 365 + y / 4 - y / 100 + y / 400

/-- The days of `year` before `month`. -/
def daysBeforeMonth (year : Nat) : (month : Nat) → Nat
  | 0 => 0
  | 1 => 0
  | month + 1 => daysBeforeMonth year month + daysInMonth year month

def dayNumber (year month day : Nat) : Nat :=
  daysBeforeYear year + daysBeforeMonth year month + day

/-- The year that holds a day. -/
def yearOf (n : Nat) : Nat :=
  let guess := (n - 1) * 400 / 146097 + 1
  if daysBeforeYear (guess + 1) < n then guess + 1
  else if daysBeforeYear guess < n then guess
  else guess - 1

/-- The month and day of the `n`-th day of a year. -/
def monthDay (year n : Nat) : Nat × Nat :=
  let month := ((List.range 12).filter fun m => daysBeforeMonth year (m + 1) < n).length
  (month, n - daysBeforeMonth year month)

/-- Year, month and day of a day number. -/
def ofDayNumber (n : Nat) : Nat × Nat × Nat :=
  let year := yearOf n
  (year, monthDay year (n - daysBeforeYear year))

/-- The weekday of a day number, Monday as 0. -/
def weekday (n : Nat) : Nat := (n + 6) % 7

/-- The Monday of a year's first ISO week, the week with its first Thursday. It may lie before
day 1. -/
def firstMonday (year : Nat) : Int :=
  let first := dayNumber year 1 1
  let monday : Int := (first : Int) - weekday first
  if 3 < weekday first then monday + 7 else monday

def hasWeek53 (year : Nat) : Bool :=
  let w := weekday (dayNumber year 1 1)
  w == 3 || (w == 2 && isLeap year)

end SignalDesk.Calendar
