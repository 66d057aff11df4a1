import Specimen.Text.Basic

/-! Patterns that describe how a date is written: percent specifiers among literal text. Blanks in a
pattern stand for any run of blanks. -/
namespace Specimen.Dates
open Text

/-- The parts of a date that are written as a number. -/
inductive NumberPart where
  | year
  | century
  | yearOfCentury
  | isoYear
  | isoYearOfCentury
  | quarter
  | month
  | day
  | sundayWeek
  | mondayWeek
  | isoWeek
  | weekdayFromSunday
  | weekdayFromMonday
  | ordinal
  | hour
  | hour12
  | minute
  | second
  | nanosecond
  | timestamp
  deriving DecidableEq

inductive Item where
  | literal (c : Char)
  | blanks
  | number (part : NumberPart)
  /-- The name of a month, abbreviated; in full as well if `long`. -/
  | monthName (long : Bool)
  | weekdayName (long : Bool)
  | halfDay
  /-- A point and the digits after it, all of them or a fixed count; nothing if there is no point. -/
  | fraction (digits : Option Nat)
  /-- A fixed count of digits after the second, without a point. -/
  | bareFraction (digits : Nat)
  | zoneName
  /-- An offset from universal time; the minutes may be left out and a `Z` stand for zero if `loose`.
  -/
  | offset (loose : Bool)
  | internetDate

/-- The items of `%m/%d/%y` and the like, given as specifier letters and literals. -/
def dateSlashes : List Item :=
  [.number .month, .literal '/', .number .day, .literal '/', .number .yearOfCentury]

def dateHyphens : List Item :=
  [.number .year, .literal '-', .number .month, .literal '-', .number .day]

def clock : List Item :=
  [.number .hour, .literal ':', .number .minute, .literal ':', .number .second]

/-- A specifier for a single number, which may carry a mark for its padding. -/
def numberPart? (c : Char) : Option NumberPart :=
  match c with
  | 'C' => some .century
  | 'G' => some .isoYear
  | 'H' | 'k' => some .hour
  | 'I' | 'l' => some .hour12
  | 'M' => some .minute
  | 'S' => some .second
  | 'U' => some .sundayWeek
  | 'V' => some .isoWeek
  | 'W' => some .mondayWeek
  | 'Y' => some .year
  | 'd' | 'e' => some .day
  | 'f' => some .nanosecond
  | 'g' => some .isoYearOfCentury
  | 'j' => some .ordinal
  | 'm' => some .month
  | 'q' => some .quarter
  | 's' => some .timestamp
  | 'u' => some .weekdayFromMonday
  | 'w' => some .weekdayFromSunday
  | 'y' => some .yearOfCentury
  | _ => none

/-- Any other specifier of one letter. -/
def letterItems? (c : Char) : Option (List Item) :=
  match c with
  | 'A' => some [.weekdayName true]
  | 'B' => some [.monthName true]
  | 'D' | 'x' => some dateSlashes
  | 'F' => some dateHyphens
  | 'P' | 'p' => some [.halfDay]
  | 'R' => some [.number .hour, .literal ':', .number .minute]
  | 'T' | 'X' => some clock
  | 'Z' => some [.zoneName]
  | 'a' => some [.weekdayName false]
  | 'b' | 'h' => some [.monthName false]
  | 'c' => some ([.weekdayName false, .blanks, .monthName false, .blanks, .number .day, .blanks] ++
      clock ++ [.blanks, .number .year])
  | 'n' | 't' => some [.blanks]
  | 'r' => some [.number .hour12, .literal ':', .number .minute, .literal ':', .number .second,
      .blanks, .halfDay]
  | 'v' => some [.number .day, .literal '-', .monthName false, .literal '-', .number .year]
  | 'z' => some [.offset false]
  | '+' => some [.internetDate]
  | '%' => some [.literal '%']
  | _ => none

/-- A digit that may stand before `f` to fix the number of digits after the second. -/
def fixedDigits? (c : Char) : Option Nat :=
  match c with
  | '3' => some 3
  | '6' => some 6
  | '9' => some 9
  | _ => none

/-- The items of one specifier after its percent sign, and the text after it. -/
def specifier? (text : List Char) : Option (List Item × List Char) :=
  match text with
  | '-' :: c :: rest | '0' :: c :: rest | '_' :: c :: rest =>
    (numberPart? c).map fun part => ([.number part], rest)
  | '#' :: 'z' :: rest => some ([.offset true], rest)
  | ':' :: 'z' :: rest => some ([.offset false], rest)
  | ':' :: ':' :: 'z' :: rest => some ([.offset false], rest)
  | ':' :: ':' :: ':' :: 'z' :: rest => some ([.offset false], rest)
  | '.' :: 'f' :: rest => some ([.fraction none], rest)
  | '.' :: c :: 'f' :: rest => (fixedDigits? c).map fun n => ([.fraction (some n)], rest)
  | c :: 'f' :: rest =>
    match fixedDigits? c with
    | some n => some ([.bareFraction n], rest)
    | none => (items? c).map fun items => (items, 'f' :: rest)
  | c :: rest => (items? c).map fun items => (items, rest)
  | [] => none
where
  items? (c : Char) : Option (List Item) :=
    match numberPart? c with
    | some part => some [.number part]
    | none => letterItems? c

/-- The items of a pattern, or `none` if it has a specifier that is not one. Each item takes a
character of the text at least. -/
def itemsWithin : Nat → List Char → Option (List Item)
  | 0, _ => some []
  | _, [] => some []
  | fuel + 1, '%' :: rest => do
    let (items, rest) ← specifier? rest
    return items ++ (← itemsWithin fuel rest)
  | fuel + 1, c :: rest => do
    let items ← itemsWithin fuel rest
    return (if isBlank c then .blanks else .literal c) :: items

def patternItems? (pattern : String) : Option (List Item) :=
  itemsWithin pattern.toList.length pattern.toList

end Specimen.Dates
