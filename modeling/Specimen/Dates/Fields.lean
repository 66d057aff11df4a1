import Specimen.Dates.Calendar

/-! The parts of a date collected from a text, and the day and time they determine together. A part
that is given twice must agree with itself, and a part that is not needed must agree with the rest.
-/
namespace Specimen.Dates

/-- The parts given so far. Weekdays count from Monday as 0. -/
structure Fields where
  year : Option Int := none
  century : Option Int := none
  yearOfCentury : Option Int := none
  isoYear : Option Int := none
  isoYearOfCentury : Option Int := none
  quarter : Option Int := none
  month : Option Int := none
  day : Option Int := none
  sundayWeek : Option Int := none
  mondayWeek : Option Int := none
  isoWeek : Option Int := none
  weekday : Option Int := none
  ordinal : Option Int := none
  /-- The half of the day, 0 before noon and 1 after. -/
  half : Option Int := none
  /-- The hour within its half of the day. -/
  hourOfHalf : Option Int := none
  minute : Option Int := none
  second : Option Int := none
  nanosecond : Option Int := none
  /-- Seconds since the first of January 1970, universal time. -/
  timestamp : Option Int := none
  /-- Seconds east of universal time. -/
  offset : Option Int := none

/-- A part takes a value within its range, unless it has another value already. -/
def assign (least greatest : Int) (old : Option Int) (value : Int) : Option (Option Int) :=
  if value < least || greatest < value then none
  else match old with
    | some known => if known = value then some (some value) else none
    | none => some (some value)

/-- Agrees with a part that may not be given. -/
def agrees (given : Option Int) (value : Int) : Bool := given.all (· == value)

/-- Why parts determine no day or time: some are missing, or those given cannot be. -/
inductive Refusal where
  | insufficient
  | impossible

abbrev Resolved (α : Type) := Except Refusal α

namespace Fields

def year32 (year : Int) : Bool := -2147483648 ≤ year && year ≤ 2147483647

def setHour (f : Fields) (hour : Int) : Option Fields := do
  if hour < 0 || 23 < hour then none
  let half ← assign 0 1 f.half (hour / 12)
  let hourOfHalf ← assign 0 11 f.hourOfHalf (hour % 12)
  return { f with half, hourOfHalf }

/-- On a twelve-hour clock, twelve comes before one. -/
def setHour12 (f : Fields) (hour : Int) : Option Fields := do
  if hour < 1 || 12 < hour then none
  let hourOfHalf ← assign 0 11 f.hourOfHalf (hour % 12)
  return { f with hourOfHalf }

/-- A year given in full, by century and year of the century, or by the latter alone, which then
stands for a year from 1970 to 2069. -/
def resolveYear (year century yearOfCentury : Option Int) : Resolved (Option Int) :=
  match year, century, yearOfCentury with
  | year, none, none => .ok year
  | some y, _, _ =>
    if 0 ≤ y && agrees century (y / 100) && agrees yearOfCentury (y % 100) then .ok (some y)
    else .error .impossible
  | none, some q, some r =>
    if year32 (q * 100 + r) then .ok (some (q * 100 + r)) else .error .impossible
  | none, none, some r => .ok (some (if r < 70 then r + 2000 else r + 1900))
  | none, some _, none => .error .insufficient

/-- Century and year of the century agree with a year, and are not given for one before the year 0.
-/
def yearAgrees (year : Int) (given century yearOfCentury : Option Int) : Bool :=
  agrees given year &&
    if 0 ≤ year then agrees century (year / 100) && agrees yearOfCentury (year % 100)
    else century.isNone && yearOfCentury.isNone

def monthDayAgrees (f : Fields) (d : Day) : Bool :=
  yearAgrees d.year f.year f.century f.yearOfCentury &&
    agrees f.month d.monthDay.1 && agrees f.day d.monthDay.2

def isoWeekAgrees (f : Fields) (d : Day) : Bool :=
  yearAgrees d.isoWeek.1 f.isoYear none f.isoYearOfCentury &&
    agrees f.isoWeek d.isoWeek.2 && agrees f.weekday d.weekday

def ordinalAgrees (f : Fields) (d : Day) : Bool :=
  agrees f.ordinal d.ordinal && agrees f.sundayWeek (d.weekFrom 6) &&
    agrees f.mondayWeek (d.weekFrom 0)

/-- The day of a week counted from the first `start` of the year; it must lie in the year. -/
def dayOfWeek (year week weekday start : Int) : Resolved Day :=
  match Day.ofOrdinal? year 1 with
  | none => .error .impossible
  | some first =>
    let weekOne := 1 + Day.daysSince start first.weekday
    match Day.ofOrdinal? year (weekOne + (week - 1) * 7 + Day.daysSince weekday start) with
    | some d => .ok d
    | none => .error .impossible

def orImpossible {α : Type} (x : Option α) : Resolved α :=
  match x with
  | some a => .ok a
  | none => .error .impossible

/-- The day that the parts name, by the first way that they suffice for, and whether the parts it
did not use agree with it. -/
def namedDay (f : Fields) : Resolved (Day × Bool) := do
  let year ← resolveYear f.year f.century f.yearOfCentury
  let isoYear ← resolveYear f.isoYear none f.isoYearOfCentury
  let all (d : Day) := f.monthDayAgrees d && f.isoWeekAgrees d && f.ordinalAgrees d
  match year, f.month, f.day, f.ordinal, f.sundayWeek, f.mondayWeek, isoYear, f.isoWeek,
    f.weekday with
  | some y, some m, some d, _, _, _, _, _, _ =>
    let d ← orImpossible (Day.ofMonthDay? y m d)
    return (d, f.isoWeekAgrees d && f.ordinalAgrees d)
  | some y, _, _, some o, _, _, _, _, _ =>
    let d ← orImpossible (Day.ofOrdinal? y o)
    return (d, all d)
  | some y, _, _, _, some w, _, _, _, some weekday =>
    let d ← dayOfWeek y w weekday 6
    return (d, all d)
  | some y, _, _, _, _, some w, _, _, some weekday =>
    let d ← dayOfWeek y w weekday 0
    return (d, all d)
  | _, _, _, _, _, _, some y, some w, some weekday =>
    let d ← orImpossible (Day.ofIsoWeek? y w weekday)
    return (d, f.monthDayAgrees d && f.ordinalAgrees d)
  | _, _, _, _, _, _, _, _, _ => .error .insufficient

def toDay (f : Fields) : Resolved Day := do
  let (d, consistent) ← f.namedDay
  if consistent && agrees f.quarter d.quarter then .ok d else .error .impossible

/-- Seconds since midnight, and whether they lie in a leap second. -/
structure TimeOfDay where
  seconds : Int
  leap : Bool

/-- Hour and minute are needed; the second may be missing if no fraction is given. -/
def toTime (f : Fields) : Resolved TimeOfDay :=
  match f.half, f.hourOfHalf, f.minute with
  | some half, some hour, some minute =>
    let base := (half * 12 + hour) * 3600 + minute * 60
    match f.second with
    | some second => .ok (if second = 60 then ⟨base + 59, true⟩ else ⟨base + second, false⟩)
    | none => if f.nanosecond.isSome then .error .insufficient else .ok ⟨base, false⟩
  | _, _, _ => .error .insufficient

/-- The number of the first of January 1970. -/
def epochDay : Int := 719163

/-- A day and the seconds since its midnight. -/
structure LocalTime where
  day : Day
  time : TimeOfDay

def LocalTime.seconds (t : LocalTime) : Int := (t.day.number - epochDay) * 86400 + t.time.seconds

/-- Day and time taken from the timestamp at the given offset, with every other part checked against
it. A leap second may be counted as the second before it or after it. -/
def ofTimestamp (f : Fields) (timestamp offset : Int) : Resolved LocalTime := do
  let total := timestamp + offset
  let dayOf (total : Int) := orImpossible (Day.ofNumber? (total.fdiv 86400 + epochDay))
  let d ← dayOf total
  let leap := f.second == some 60
  let inMinute := total.emod 60
  if leap && inMinute != 59 && inMinute != 0 then .error .impossible
  let total := if leap && inMinute == 0 then total - 1 else total
  let d ← if leap && inMinute == 0 then dayOf total else pure d
  let f ← orImpossible do
    let second ← if leap then some f.second else assign 0 60 f.second inMinute
    let year ← assign (-2147483648) 2147483647 f.year d.year
    let ordinal ← assign 1 366 f.ordinal d.ordinal
    let f ← { f with second, year, ordinal }.setHour (total.emod 86400 / 3600)
    let minute ← assign 0 59 f.minute (total.emod 3600 / 60)
    return { f with minute }
  return ⟨← f.toDay, ← f.toTime⟩

/-- The local time that the parts determine, where a timestamp is taken to lie `offset` seconds
before it. -/
def toLocalTime (f : Fields) (offset : Int) : Resolved LocalTime :=
  match f.toDay, f.toTime, f.timestamp with
  | .ok day, .ok time, none => .ok ⟨day, time⟩
  | .ok day, .ok time, some given =>
    let t : LocalTime := ⟨day, time⟩
    let stamp := t.seconds - offset
    if given = stamp || (time.leap && given = stamp + 1) then .ok t else .error .impossible
  | .error .impossible, _, _ => .error .impossible
  | _, .error .impossible, _ => .error .impossible
  | _, _, some given => f.ofTimestamp given offset
  | _, _, none => .error .insufficient

/-- The parts determine a moment: a local time with an offset of less than a day, whose universal
time is within the calendar. A timestamp without offset is universal. -/
def isMoment (f : Fields) : Bool :=
  match f.offset, f.timestamp with
  | none, none => false
  | given, _ =>
    let offset := given.getD 0
    match f.toLocalTime offset with
    | .ok t =>
      -86400 < offset && offset < 86400 &&
        (Day.ofNumber? ((t.seconds - offset).fdiv 86400 + epochDay)).isSome
    | .error _ => false

def isOk {α : Type} : Resolved α → Bool
  | .ok _ => true
  | .error _ => false

/-- The parts determine a local time, a day, or a moment. -/
def isDate (f : Fields) : Bool := isOk (f.toLocalTime 0) || isOk f.toDay || f.isMoment

end Fields

end Specimen.Dates
