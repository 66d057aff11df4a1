import Specimen.Json.Number
import Specimen.Text.Alphanumeric

/-! The numbers filters compute with: whole numbers of 64 bits, and binary64 numbers with infinities
and "not a number". A number that was written down and is not a whole number of 64 bits keeps its
text; it turns into a binary64 number when something is computed from it. -/
namespace Specimen.Filter
open Text

/-- A binary64 number, infinities and "not a number" included. -/
inductive Floating where
  | finite (value : Binary64)
  | infinite (negative : Bool)
  | nan

namespace Floating

/-- What lies beyond the greatest finite number is infinite. -/
def ofRounded (negative : Bool) : Option Binary64 → Floating
  | some x => .finite x
  | none => .infinite negative

def ofInt (n : Int) : Floating := ofRounded (n < 0) (Binary64.ofInt n)

def neg : Floating → Floating
  | .finite x => .finite x.neg
  | .infinite negative => .infinite (!negative)
  | .nan => .nan

def abs : Floating → Floating
  | .finite x => .finite x.abs
  | .infinite _ => .infinite false
  | .nan => .nan

def add : Floating → Floating → Floating
  | .finite x, .finite y => ofRounded x.negative (x.add y)
  | .infinite m, .infinite n => if m == n then .infinite m else .nan
  | .infinite m, .finite _ => .infinite m
  | .finite _, .infinite n => .infinite n
  | .nan, _ => .nan
  | _, .nan => .nan

def sub (x y : Floating) : Floating := x.add y.neg

def mul : Floating → Floating → Floating
  | .finite x, .finite y => ofRounded (x.negative != y.negative) (x.mul y)
  | .infinite m, .infinite n => .infinite (m != n)
  | .infinite m, .finite y => if y.isZero then .nan else .infinite (m != y.negative)
  | .finite x, .infinite n => if x.isZero then .nan else .infinite (x.negative != n)
  | .nan, _ => .nan
  | _, .nan => .nan

def div : Floating → Floating → Floating
  | .finite x, .finite y =>
    if !y.isZero then ofRounded (x.negative != y.negative) (x.div y)
    else if x.isZero then .nan
    else .infinite (x.negative != y.negative)
  | .infinite _, .infinite _ => .nan
  | .infinite m, .finite y => .infinite (m != y.negative)
  | .finite x, .infinite n => .finite (.zero (x.negative != n))
  | .nan, _ => .nan
  | _, .nan => .nan

/-- The remainder has the sign of the dividend. -/
def rem : Floating → Floating → Floating
  | .finite x, .finite y => if y.isZero then .nan else ofRounded x.negative (x.rem y)
  | .finite x, .infinite _ => .finite x
  | .infinite _, _ => .nan
  | .nan, _ => .nan
  | _, .nan => .nan

/-- Where a number lies on the line, infinities at its ends. -/
def compareInfinite (negative : Bool) : Ordering := if negative then .lt else .gt

/-- "Not a number" is less than everything, itself included. -/
def compare : Floating → Floating → Ordering
  | .nan, _ => .lt
  | _, .nan => .gt
  | .finite x, .finite y => x.compare y
  | .infinite m, .infinite n => if m == n then .eq else compareInfinite m
  | .infinite m, .finite _ => compareInfinite m
  | .finite _, .infinite n => (compareInfinite n).swap

/-- Powers of ten past these leave the range of binary64 whatever the significand's digits say. -/
def ofScientific (negative : Bool) (significand : Nat) (exponent : Int) : Floating :=
  let leading : Int := (digitsOf significand).length + exponent
  if significand = 0 || leading < -400 then .finite (.zero negative)
  else if 400 < leading then .infinite negative
  else ofRounded negative (Binary64.nearestDecimal negative significand exponent)

/-- The number nearest to a decimal literal: digits, a fraction if there is a point, an exponent if
there is an `e`, perhaps a minus sign in front. -/
def ofLiteral (text : String) : Floating :=
  let (negative, cs) := match text.toList with
    | '-' :: cs => (true, cs)
    | cs => (false, cs)
  let whole := cs.takeWhile isAsciiDigit
  let (fraction, cs) := match cs.dropWhile isAsciiDigit with
    | '.' :: cs => (cs.takeWhile isAsciiDigit, cs.dropWhile isAsciiDigit)
    | cs => ([], cs)
  let exponent : Int := match cs.drop 1 with
    | '-' :: digits => -ofDigits digits
    | '+' :: digits => ofDigits digits
    | digits => ofDigits digits
  ofScientific negative (ofDigits (whole ++ fraction)) (exponent - fraction.length)

/-- Floating numbers are written in full from `0.0001` up to sixteen digits before the point, and
with a bare power of ten otherwise. -/
def layout : Decimal.Layout := ⟨-4, 15, false, .upward⟩

/-- What is no finite number is written as a null. -/
def text : Floating → String
  | .finite x => layout.text x
  | .infinite _ => "null"
  | .nan => "null"

end Floating

inductive Numeral where
  /-- A whole number of 64 bits. -/
  | int (value : Int)
  | floating (value : Floating)
  | literal (text : String)

namespace Numeral

def fits (n : Int) : Bool := -9223372036854775808 ≤ n && n ≤ 9223372036854775807

/-- The number that a literal of digits, with a sign, a fraction or an exponent, denotes. -/
def ofLiteral (text : String) : Numeral :=
  let value? : Option Int := match text.toList with
    | '-' :: cs => if cs.all isAsciiDigit then some (-ofDigits cs) else none
    | cs => if cs.all isAsciiDigit then some (ofDigits cs) else none
  match value? with
  | some n => if fits n then .int n else .literal text
  | none => .literal text

def ofJson (n : Json.Number) : Numeral := ofLiteral n.text

def toFloating : Numeral → Floating
  | .int n => .ofInt n
  | .floating x => x
  | .literal text => .ofLiteral text

def compare : Numeral → Numeral → Ordering
  | .int m, .int n => Ord.compare m n
  | x, y => x.toFloating.compare y.toFloating

def text : Numeral → String
  | .int n => signedDecimal n
  | .floating x => x.text
  | .literal text => text

/-- The least whole number has no counterpart and stays itself. -/
def neg : Numeral → Numeral
  | .int n => if fits (-n) then .int (-n) else .int n
  | x => .floating x.toFloating.neg

def abs : Numeral → Numeral
  | .int n => if n < 0 then neg (.int n) else .int n
  | x => .floating x.toFloating.abs

/-- Computes in whole numbers as long as the result fits, in floating numbers otherwise. -/
def lift (whole : Int → Int → Int) (floating : Floating → Floating → Floating) (x y : Numeral) :
    Numeral :=
  match x, y with
  | .int m, .int n =>
    if fits (whole m n) then .int (whole m n) else .floating (floating (.ofInt m) (.ofInt n))
  | x, y => .floating (floating x.toFloating y.toFloating)

def add : Numeral → Numeral → Numeral := lift (· + ·) .add

def sub : Numeral → Numeral → Numeral := lift (· - ·) .sub

def mul : Numeral → Numeral → Numeral := lift (· * ·) .mul

/-- A quotient is always floating. -/
def div (x y : Numeral) : Numeral := .floating (x.toFloating.div y.toFloating)

/-- Of whole numbers the remainder has the sign of the dividend, and none exists for zero. -/
def rem? : Numeral → Numeral → Option Numeral
  | .int m, .int n => if n = 0 then none else some (.int (m.tmod n))
  | x, y => some (.floating (x.toFloating.rem y.toFloating))

end Numeral

end Specimen.Filter
