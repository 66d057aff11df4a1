import Specimen.Dates.Fields
import Specimen.Dates.Pattern
import Specimen.Text.Alphanumeric
import Specimen.Text.Basic
import Specimen.Decimal.Binary64

/-! Reading a text by the items of a pattern. A scanner takes what its item calls for off the front
of the text and enters it into the fields, or fails. Blanks before a number are skipped. -/
namespace Specimen.Dates
open Text

abbrev Scanned := Fields × List Char

/-! ### Numbers -/

/-- From `least` to `most` digits, as many as there are; `most` may be absent. -/
def scanDigits (least : Nat) (most : Option Nat) (text : List Char) : Option (Int × List Char) :=
  let digits := (text.take (most.getD text.length)).takeWhile isAsciiDigit
  let value := ofDigits digits
  if digits.length < least || twoTo 63 ≤ value then none
  else some (value, text.drop digits.length)

/-- A signed number may have any number of digits, one without a sign at most `most`. -/
def scanSigned (most : Nat) (text : List Char) : Option (Int × List Char) :=
  match text with
  | '-' :: rest => (scanDigits 1 none rest).map fun (n, rest) => (-n, rest)
  | '+' :: rest => scanDigits 1 none rest
  | _ => scanDigits 1 (some most) text

namespace NumberPart

def scan (part : NumberPart) (text : List Char) : Option (Int × List Char) :=
  match part with
  | .year | .isoYear => scanSigned 4 text
  | .quarter | .weekdayFromSunday | .weekdayFromMonday => scanDigits 1 (some 1) text
  | .ordinal => scanDigits 1 (some 3) text
  | .nanosecond => scanDigits 1 (some 9) text
  | .timestamp => scanDigits 1 none text
  | _ => scanDigits 1 (some 2) text

/-- Enters a number into the fields if it is in range and agrees with what is there. -/
def enter (part : NumberPart) (f : Fields) (n : Int) : Option Fields :=
  match part with
  | .year => (assign (-2147483648) 2147483647 f.year n).map fun year => { f with year }
  | .century => (assign 0 2147483647 f.century n).map fun century => { f with century }
  | .yearOfCentury =>
    (assign 0 99 f.yearOfCentury n).map fun yearOfCentury => { f with yearOfCentury }
  | .isoYear => (assign (-2147483648) 2147483647 f.isoYear n).map fun isoYear => { f with isoYear }
  | .isoYearOfCentury =>
    (assign 0 99 f.isoYearOfCentury n).map fun isoYearOfCentury => { f with isoYearOfCentury }
  | .quarter => (assign 1 4 f.quarter n).map fun quarter => { f with quarter }
  | .month => (assign 1 12 f.month n).map fun month => { f with month }
  | .day => (assign 1 31 f.day n).map fun day => { f with day }
  | .sundayWeek => (assign 0 53 f.sundayWeek n).map fun sundayWeek => { f with sundayWeek }
  | .mondayWeek => (assign 0 53 f.mondayWeek n).map fun mondayWeek => { f with mondayWeek }
  | .isoWeek => (assign 1 53 f.isoWeek n).map fun isoWeek => { f with isoWeek }
  | .weekdayFromSunday =>
    if n < 0 || 6 < n then none
    else (assign 0 6 f.weekday ((n + 6) % 7)).map fun weekday => { f with weekday }
  | .weekdayFromMonday => (assign 0 6 f.weekday (n - 1)).map fun weekday => { f with weekday }
  | .ordinal => (assign 1 366 f.ordinal n).map fun ordinal => { f with ordinal }
  | .hour => f.setHour n
  | .hour12 => f.setHour12 n
  | .minute => (assign 0 59 f.minute n).map fun minute => { f with minute }
  | .second => (assign 0 60 f.second n).map fun second => { f with second }
  | .nanosecond => (assign 0 999999999 f.nanosecond n).map fun nanosecond => { f with nanosecond }
  | .timestamp =>
    (assign 0 9223372036854775808 f.timestamp n).map fun timestamp => { f with timestamp }

end NumberPart

/-- The fraction of a second that digits denote: nine digits count, further ones are passed over. -/
def scanFraction (text : List Char) : Option (Int × List Char) := do
  let (n, rest) ← scanDigits 1 (some 9) text
  return (n * tenTo (9 - (text.length - rest.length)), rest.dropWhile isAsciiDigit)

def scanFixedFraction (digits : Nat) (text : List Char) : Option (Int × List Char) := do
  let (n, rest) ← scanDigits digits (some digits) text
  return (n * tenTo (9 - digits), rest)

/-! ### Names -/

/-- The text after a word, whatever its case. -/
def afterWord? (word : List Char) (text : List Char) : Option (List Char) :=
  if (text.take word.length).map Char.toLower == word then some (text.drop word.length) else none

/-- Names with the letters that abbreviate them and the letters that follow in full. -/
def monthNames : List (String × String) :=
  [("jan", "uary"), ("feb", "ruary"), ("mar", "ch"), ("apr", "il"), ("may", ""), ("jun", "e"),
   ("jul", "y"), ("aug", "ust"), ("sep", "tember"), ("oct", "ober"), ("nov", "ember"),
   ("dec", "ember")]

def weekdayNames : List (String × String) :=
  [("mon", "day"), ("tue", "sday"), ("wed", "nesday"), ("thu", "rsday"), ("fri", "day"),
   ("sat", "urday"), ("sun", "day")]

/-- The index of the name at the front of the text. Where full names are admitted, the rest of the
name is taken if it is there. -/
def scanName (long : Bool) (names : List (String × String)) (text : List Char) :
    Option (Nat × List Char) :=
  names.zipIdx.findSome? fun ((short, full), index) =>
    (afterWord? short.toList text).map fun rest =>
      (index, if long then (afterWord? full.toList rest).getD rest else rest)

/-! ### Offsets -/

def isOffsetSeparator (c : Char) : Bool := c == ':' || isBlank c

/-- What stands between the hours and the minutes of an offset. -/
inductive Separator where
  | oneColon
  | anyBlanks

def Separator.skip : Separator → List Char → Option (List Char)
  | .oneColon, ':' :: rest => some rest
  | .oneColon, _ => none
  | .anyBlanks, text => some (text.dropWhile isOffsetSeparator)

/-- A sign, two digits of hours and two of minutes, in seconds. With `zulu` a `Z` stands for zero,
with `loose` the minutes may be missing at the end of the text. -/
def scanOffset (separator : Separator) (zulu loose : Bool) (text : List Char) :
    Option (Int × List Char) :=
  match zulu, text with
  | true, 'Z' :: rest => some (0, rest)
  | true, 'z' :: rest => some (0, rest)
  | _, _ => do
    let (negative, text) ← match text with
      | '+' :: rest => some (false, rest)
      | '-' :: rest => some (true, rest)
      -- The minus sign proper.
      | '\u2212' :: rest => some (true, rest)
      | _ => none
    let (hours, text) ← scanDigits 2 (some 2) text
    let text ← separator.skip text
    let (minutes, rest) ← if loose && text.isEmpty then some (0, []) else scanDigits 2 (some 2) text
    if 59 < minutes then none
    let seconds := hours * 3600 + minutes * 60
    return (if negative then -seconds else seconds, rest)

def enterOffset (f : Fields) (seconds : Int) : Option Fields :=
  (assign (-2147483648) 2147483647 f.offset seconds).map fun offset => { f with offset }

/-! ### Items -/

def scanNumber (part : NumberPart) (f : Fields) (text : List Char) : Option Scanned := do
  let (n, rest) ← part.scan (trimStart text)
  return (← part.enter f n, rest)

def enterFraction (f : Fields) (scanned : Option (Int × List Char)) : Option Scanned := do
  let (n, rest) ← scanned
  return (← NumberPart.nanosecond.enter f n, rest)

/-- The letter between the date and the time of an internet date. -/
def skipDateMark : List Char → Option (List Char)
  | 'T' :: rest | 't' :: rest | ' ' :: rest => some rest
  | _ => none

def skipChar (c : Char) : List Char → Option (List Char)
  | d :: rest => if c = d then some rest else none
  | [] => none

/-- Items that hold no other items. -/
def scanPlain (item : Item) (f : Fields) (text : List Char) : Option Scanned :=
  match item with
  | .literal c => (skipChar c text).map (f, ·)
  | .blanks => some (f, trimStart text)
  | .number part => scanNumber part f text
  | .monthName long => do
    let (index, rest) ← scanName long monthNames text
    return (← NumberPart.month.enter f (index + 1), rest)
  | .weekdayName long => do
    let (index, rest) ← scanName long weekdayNames text
    return (← NumberPart.weekdayFromMonday.enter f (index + 1), rest)
  | .halfDay => do
    let (half, rest) ← match afterWord? ['a', 'm'] text with
      | some rest => some ((0 : Int), rest)
      | none => (afterWord? ['p', 'm'] text).map (1, ·)
    return ({ f with half := ← assign 0 1 f.half half }, rest)
  | .fraction digits =>
    match text with
    | '.' :: rest =>
      enterFraction f (match digits with
        | none => scanFraction rest
        | some n => scanFixedFraction n rest)
    | _ => some (f, text)
  | .bareFraction digits => enterFraction f (scanFixedFraction digits text)
  | .zoneName => some (f, text.dropWhile (!isBlank ·))
  | .offset loose => do
    let (seconds, rest) ← scanOffset .anyBlanks loose loose (trimStart text)
    return (← enterOffset f seconds, rest)
  | .internetDate => none

def scanPlainItems : List Item → Fields → List Char → Option Scanned
  | [], f, text => some (f, text)
  | item :: items, f, text => do
    let (f, text) ← scanPlain item f text
    scanPlainItems items f text

/-- Date, time and offset with blanks allowed between the parts; the offset may be `UTC`. -/
def scanLooseInternetDate (f : Fields) (text : List Char) : Option Scanned := do
  let (f, text) ← scanPlainItems
    [.number .year, .blanks, .literal '-', .number .month, .blanks, .literal '-', .number .day]
    f text
  let text ← skipDateMark text
  let (f, text) ← scanPlainItems
    [.number .hour, .blanks, .literal ':', .number .minute, .blanks, .literal ':', .number .second,
     .fraction none, .blanks] f text
  let (seconds, rest) ← match afterWord? ['u', 't', 'c'] text with
    | some rest => some (0, rest)
    | none => scanOffset .anyBlanks true false text
  return (← enterOffset f seconds, rest)

def scanItem (item : Item) (f : Fields) (text : List Char) : Option Scanned :=
  match item with
  | .internetDate => scanLooseInternetDate f text
  | _ => scanPlain item f text

/-- The fields of a text that a pattern covers to its end. -/
def scanItems : List Item → Fields → List Char → Option Fields
  | [], f, text => if text.isEmpty then some f else none
  | item :: items, f, text => do
    let (f, text) ← scanItem item f text
    scanItems items f text

/-- A number of exactly the given count of digits, entered under the given part. -/
def scanExact (part : NumberPart) (digits : Nat) (f : Fields) (text : List Char) :
    Option Scanned := do
  let (n, rest) ← scanDigits digits (some digits) text
  return (← part.enter f n, rest)

/-- The strict form of an internet date (RFC 3339): fixed counts of digits, no blanks, and an offset
of less than a day with a colon. -/
def scanInternetDate (text : List Char) : Option Fields := do
  let (f, text) ← scanExact .year 4 {} text
  let text ← skipChar '-' text
  let (f, text) ← scanExact .month 2 f text
  let text ← skipChar '-' text
  let (f, text) ← scanExact .day 2 f text
  let text ← skipDateMark text
  let (f, text) ← scanExact .hour 2 f text
  let text ← skipChar ':' text
  let (f, text) ← scanExact .minute 2 f text
  let text ← skipChar ':' text
  let (f, text) ← scanExact .second 2 f text
  let (f, text) ← match text with
    | '.' :: rest => enterFraction f (scanFraction rest)
    | _ => some (f, text)
  let (seconds, rest) ← scanOffset .oneColon true false text
  if !rest.isEmpty || seconds.natAbs > (23 * 60 + 59) * 60 then none
  enterOffset f seconds

end Specimen.Dates
