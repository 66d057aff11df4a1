/-! Days of the proleptic Gregorian calendar, by year and day of the year, with the three ways of
naming a day inside its year: month and day, ISO week and weekday, and weeks counted from the first
Sunday or Monday. -/
namespace Specimen.Dates

/-- The day number `ordinal` of the year, counted from one. -/
structure Day where
  year : Int
  ordinal : Nat
  deriving DecidableEq

def leastYear : Int := -262143
def greatestYear : Int := 262142

def isLeapYear (year : Int) : Bool := year % 4 == 0 && (year % 100 != 0 || year % 400 == 0)

def daysInYear (year : Int) : Nat := if isLeapYear year then 366 else 365

def monthLengths (year : Int) : List Nat :=
  [31, if isLeapYear year then 29 else 28, 31, 30, 31, 30, 31, 31, 30, 31, 30, 31]

namespace Day

def ofOrdinal? (year : Int) (ordinal : Int) : Option Day :=
  if leastYear ≤ year && year ≤ greatestYear && 1 ≤ ordinal && ordinal ≤ daysInYear year then
    some ⟨year, ordinal.toNat⟩
  else none

def ofMonthDay? (year month day : Int) : Option Day :=
  if 1 ≤ month && 1 ≤ day then
    match (monthLengths year)[(month - 1).toNat]? with
    | some length =>
      if day ≤ length then
        let before : Nat := ((monthLengths year).take (month - 1).toNat).foldl (· + ·) 0
        ofOrdinal? year (before + day)
      else none
    | none => none
  else none

/-- The month and day that a day of the year falls on, given the lengths of the months left. -/
def monthDayIn : List Nat → Nat → Nat → Nat × Nat
  | [], month, rest => (month, rest)
  | length :: lengths, month, rest =>
    if rest ≤ length then (month, rest) else monthDayIn lengths (month + 1) (rest - length)

def monthDay (d : Day) : Nat × Nat := monthDayIn (monthLengths d.year) 1 d.ordinal

def quarter (d : Day) : Nat := (d.monthDay.1 - 1) / 3 + 1

/-- Days counted so that the first of January of the year 1 is day 1. -/
def number (d : Day) : Int :=
  let y := d.year - 1
  365 * y + y.fdiv 4 - y.fdiv 100 + y.fdiv 400 + d.ordinal

/-- Days since Monday. -/
def weekday (d : Day) : Int := (d.number - 1).emod 7

/-- The day with the given number: years are taken off in cycles of 400, 100, 4 and 1. -/
def ofNumber? (n : Int) : Option Day :=
  let days := n - 1
  let cycle := days.fdiv 146097
  let inCycle := (days.emod 146097).toNat
  let century := min 3 (inCycle / 36524)
  let inCentury := inCycle - century * 36524
  let four := inCentury / 1461
  let inFour := inCentury - four * 1461
  let one := min 3 (inFour / 365)
  ofOrdinal? (cycle * 400 + century * 100 + four * 4 + one + 1) (inFour - one * 365 + 1 : Nat)

/-- A year has 53 ISO weeks if it starts on a Thursday, or is a leap year that starts on a
Wednesday. -/
def isoWeeksIn (year : Int) : Int :=
  let first := (Day.mk year 1).weekday
  if first == 3 || (first == 2 && isLeapYear year) then 53 else 52

/-- The year that the ISO week of a day belongs to, and the week. -/
def isoWeek (d : Day) : Int × Int :=
  let week := (d.ordinal - (d.weekday + 1) + 10).fdiv 7
  if week < 1 then (d.year - 1, isoWeeksIn (d.year - 1))
  else if isoWeeksIn d.year < week then (d.year + 1, 1)
  else (d.year, week)

def ofIsoWeek? (year week weekday : Int) : Option Day :=
  if 1 ≤ week && week ≤ isoWeeksIn year then
    -- The first ISO week holds the fourth of January.
    let fourth := (Day.mk year 4).weekday
    let ordinal := (week - 1) * 7 + weekday + 4 - fourth
    if ordinal < 1 then ofOrdinal? (year - 1) (ordinal + daysInYear (year - 1))
    else if daysInYear year < ordinal then ofOrdinal? (year + 1) (ordinal - daysInYear year)
    else ofOrdinal? year ordinal
  else none

/-- How many days `weekday` comes after `start` in a week that begins on `start`. -/
def daysSince (weekday start : Int) : Int := (weekday - start).emod 7

/-- Weeks of the year that begin on the weekday `start`; the days before the first are week 0. -/
def weekFrom (d : Day) (start : Int) : Int := (d.ordinal - daysSince d.weekday start + 6).fdiv 7

end Day

end Specimen.Dates
