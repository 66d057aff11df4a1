import Specimen.Json.Fault
import Specimen.Json.Number

/-! The tokens of a JSON text: blanks, words, numbers and strings. A scanner works on the bytes that
are left and gives what it read together with the bytes after it. A scanner that stops gives the
fault with the bytes left at that point, from which the place is found once the whole text is known.
-/
namespace Specimen.Json

abbrev Bytes := List UInt8

/-- A fault, and the bytes left where it was found. -/
structure Stop where
  fault : Fault
  rest : Bytes

abbrev Scan (α : Type) := Except Stop (α × Bytes)

/-- Stops after the bytes consumed so far. -/
def stopAt {α : Type} (fault : Fault) (rest : Bytes) : Except Stop α := .error ⟨fault, rest⟩

/-- Stops after one byte more, if there is one: the byte that was looked at is to blame. -/
def stopPast {α : Type} (fault : Fault) (rest : Bytes) : Except Stop α := .error ⟨fault, rest.tail⟩

/-- The byte is the given ASCII character. -/
def isByte (b : UInt8) (c : Char) : Bool := b == c.toUInt8

def isDigitByte (b : UInt8) : Bool := '0'.toUInt8 ≤ b && b ≤ '9'.toUInt8

def digitValue (b : UInt8) : Nat := b.toNat - '0'.toNat

def isBlankByte (b : UInt8) : Bool :=
  isByte b ' ' || isByte b '\n' || isByte b '\t' || isByte b '\r'

def skipBlanks (input : Bytes) : Bytes := input.dropWhile isBlankByte

/-! ### Words -/

/-- The remaining letters of a word whose first letter is consumed. -/
def scanWord : List Char → Bytes → Except Stop Bytes
  | [], input => .ok input
  | _ :: _, [] => stopAt .endInValue []
  | c :: cs, b :: rest => if isByte b c then scanWord cs rest else stopAt .wordExpected rest

/-! ### Numbers -/

/-- Appends digits to a significand as long as it fits 64 bits; also gives the digits left over. -/
def fitDigits : Nat → Bytes → Nat × Bytes
  | n, [] => (n, [])
  | n, b :: rest =>
    let next := n * 10 + digitValue b
    if next < twoTo 64 then fitDigits next rest else (n, b :: rest)

def toFloat (negative : Bool) (significand : Nat) (exponent : Int) : Option Number :=
  (Binary64.ofDecimal significand exponent).map fun x => .float (if negative then x.neg else x)

/-- The number is within range, or the scan stops where the number ends. -/
def finishFloat (negative : Bool) (significand : Nat) (exponent : Int) (rest : Bytes) :
    Scan Number :=
  match toFloat negative significand exponent with
  | some x => .ok (x, rest)
  | none => stopAt .numberOutOfRange rest

/-- The digits of a written exponent. One that outgrows 31 bits is not read on: it puts a
significand other than zero out of range, unless it makes the number vanish. -/
def scanExponentDigits (negative : Bool) (significand : Nat) (start : Int) (down : Bool) :
    Nat → Bytes → Scan Number
  | exponent, [] =>
    finishFloat negative significand (if down then start - exponent else start + exponent) []
  | exponent, b :: rest =>
    if isDigitByte b then
      let next := exponent * 10 + digitValue b
      if twoTo 31 ≤ next then
        if significand != 0 && !down then stopAt .numberOutOfRange rest
        else .ok (.float (.zero negative), rest.dropWhile isDigitByte)
      else scanExponentDigits negative significand start down next rest
    else
      finishFloat negative significand (if down then start - exponent else start + exponent)
        (b :: rest)

/-- What follows the exponent mark: a sign or none, and at least one digit. -/
def scanExponent (negative : Bool) (significand : Nat) (start : Int) (input : Bytes) :
    Scan Number :=
  let (down, digits) := match input with
    | b :: rest =>
      if isByte b '+' then (false, rest)
      else if isByte b '-' then (true, rest)
      else (false, input)
    | [] => (false, input)
  match digits with
  | [] => stopAt .endInValue []
  | b :: rest =>
    if isDigitByte b then
      scanExponentDigits negative significand start down (digitValue b) rest
    else stopAt .invalidNumber rest

/-- What follows the last digit of the whole part or of the fraction. -/
def scanTail (negative : Bool) (significand : Nat) (exponent : Int) (input : Bytes) : Scan Number :=
  match input with
  | b :: rest =>
    if isByte b 'e' || isByte b 'E' then scanExponent negative significand exponent rest
    else finishFloat negative significand exponent input
  | [] => finishFloat negative significand exponent input

/-- What follows the point: at least one digit. Digits beyond 64 bits are dropped. -/
def scanFraction (negative : Bool) (significand : Nat) (exponent : Int) (input : Bytes) :
    Scan Number :=
  let digits := input.takeWhile isDigitByte
  let rest := input.dropWhile isDigitByte
  if digits.isEmpty then
    if rest.isEmpty then stopAt .endInValue [] else stopPast .invalidNumber rest
  else
    let (significand, dropped) := fitDigits significand digits
    scanTail negative significand (exponent - (digits.length - dropped.length : Nat)) rest

/-- A number without point and exponent: exact if it fits 64 bits, negative zero aside. -/
def wholeNumber (negative : Bool) (significand : Nat) : Number :=
  if !negative then .int significand
  else if significand == 0 || twoTo 63 < significand then
    (toFloat true significand 0).getD (.int (-significand))
  else .int (-significand)

/-- A number after its sign. Whole digits beyond 64 bits only count towards the exponent. -/
def scanNumber (negative : Bool) (input : Bytes) : Scan Number :=
  match input with
  | [] => stopAt .endInValue []
  | first :: others =>
    if !isDigitByte first then stopAt .invalidNumber others
    else
      let digits := if isByte first '0' then [first] else first :: others.takeWhile isDigitByte
      let rest := if isByte first '0' then others else others.dropWhile isDigitByte
      let (significand, extra) := fitDigits 0 digits
      match rest with
      | b :: after =>
        if isDigitByte b then stopPast .invalidNumber rest
        else if isByte b '.' then scanFraction negative significand extra.length after
        else if isByte b 'e' || isByte b 'E' then
          scanExponent negative significand extra.length after
        else if extra.isEmpty then .ok (wholeNumber negative significand, rest)
        else finishFloat negative significand extra.length rest
      | [] =>
        if extra.isEmpty then .ok (wholeNumber negative significand, rest)
        else finishFloat negative significand extra.length rest

/-! ### Strings -/

/-- Where the scanner of a string stands: between characters, after a backslash, inside the four
hexadecimal digits of an escape, or between the two escapes of a surrogate pair. The first unit of
a pair is kept until the second is read. -/
inductive StringState where
  | plain
  | escape
  | hex (digits : Bytes) (high : Option Nat)
  | pairBackslash (high : Nat)
  | pairMark (high : Nat)

def hexValue (b : UInt8) : Option Nat :=
  if isDigitByte b then some (digitValue b)
  else if 'a'.toUInt8 ≤ b && b ≤ 'f'.toUInt8 then some (b.toNat - 'a'.toNat + 10)
  else if 'A'.toUInt8 ≤ b && b ≤ 'F'.toUInt8 then some (b.toNat - 'A'.toNat + 10)
  else none

/-- The value of hexadecimal digits given last to first. -/
def hexNumber : Bytes → Option Nat
  | [] => some 0
  | b :: before => do return (← hexNumber before) * 16 + (← hexValue b)

def isHighSurrogate (unit : Nat) : Bool := 0xd800 ≤ unit && unit ≤ 0xdbff

def isLowSurrogate (unit : Nat) : Bool := 0xdc00 ≤ unit && unit ≤ 0xdfff

def encodeUtf8 (code : Nat) : Bytes := String.utf8EncodeChar (Char.ofNat code)

/-- What a completed escape of four digits adds to the string, or the state it leads to. -/
def escapedUnit (high : Option Nat) (unit : Nat) : Except Fault (StringState × Bytes) :=
  match high with
  | some first =>
    if isLowSurrogate unit then
      .ok (.plain, encodeUtf8 ((first - 0xd800) * 0x400 + (unit - 0xdc00) + 0x10000))
    else .error .loneSurrogate
  | none =>
    if isLowSurrogate unit then .error .loneSurrogate
    else if isHighSurrogate unit then .ok (.pairBackslash unit, [])
    else .ok (.plain, encodeUtf8 unit)

/-- The byte that a one-letter escape stands for. -/
def simpleEscape (b : UInt8) : Option UInt8 :=
  if isByte b '"' || isByte b '\\' || isByte b '/' then some b
  else if isByte b 'b' then some 8
  else if isByte b 'f' then some 12
  else if isByte b 'n' then some 10
  else if isByte b 'r' then some 13
  else if isByte b 't' then some 9
  else none

/-- Takes in one byte that does not close the string: the next state, and the bytes added. -/
def stringStep (state : StringState) (b : UInt8) : Except Fault (StringState × Bytes) :=
  match state with
  | .plain =>
    if isByte b '\\' then .ok (.escape, [])
    else if b < 0x20 then .error .controlCharacter
    else .ok (.plain, [b])
  | .escape =>
    if isByte b 'u' then .ok (.hex [] none, [])
    else match simpleEscape b with
      | some byte => .ok (.plain, [byte])
      | none => .error .invalidEscape
  | .hex digits high =>
    if digits.length < 3 then .ok (.hex (b :: digits) high, [])
    else match hexNumber (b :: digits) with
      | some unit => escapedUnit high unit
      | none => .error .invalidEscape
  | .pairBackslash high =>
    if isByte b '\\' then .ok (.pairMark high, []) else .error .unfinishedSurrogatePair
  | .pairMark high =>
    if isByte b 'u' then .ok (.hex [] (some high), []) else .error .unfinishedSurrogatePair

/-- The bytes of a string up to its closing quote, in front of those read so far, last to first. -/
def scanStringBytes : StringState → Bytes → Bytes → Scan Bytes
  | _, _, [] => stopAt .endInString []
  | state, read, b :: rest =>
    match state, isByte b '"' with
    | .plain, true => .ok (read.reverse, rest)
    | _, _ =>
      match stringStep state b with
      | .ok (next, added) => scanStringBytes next (added.reverse ++ read) rest
      | .error fault => stopAt fault rest

def ofUtf8? (bytes : Bytes) : Option String := String.fromUTF8? ⟨bytes.toArray⟩

def toUtf8 (text : String) : Bytes := text.toUTF8.toList

/-- The length of the longest beginning that is text. -/
def textLength (bytes : Bytes) : Nat :=
  ((List.range (bytes.length + 1)).findRev? fun n => (ofUtf8? (bytes.take n)).isSome).getD 0

/-- A string after its opening quote. If its bytes are no text, the first that does not fit is to
blame; escapes are written in ASCII, so it is among the bytes of the input themselves. -/
def scanString (input : Bytes) : Except Stop (String × Bytes) := do
  let (bytes, rest) ← scanStringBytes .plain [] input
  match ofUtf8? bytes with
  | some text => .ok (text, rest)
  | none =>
    let written := input.take (input.length - rest.length)
    stopPast .invalidCodePoint (input.drop (textLength written))

end Specimen.Json
