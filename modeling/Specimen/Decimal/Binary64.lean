/-! Finite binary64 numbers as exact values, and the rounding of a ratio of whole numbers to the
nearest of them. Every operation is the exact one followed by a single rounding, a tie going to the
even mantissa, so that `round` is the only place where precision is lost. -/
namespace Specimen

def twoTo (k : Nat) : Nat := Nat.pow 2 k

def tenTo (k : Nat) : Nat := Nat.pow 10 k

/-- The number `± mantissa · 2 ^ exponent`. What `round` builds has a mantissa below `2 ^ 53`, an
exponent of at least `-1074`, and the least exponent possible for its value. -/
structure Binary64 where
  negative : Bool
  mantissa : Nat
  exponent : Int
  deriving DecidableEq

namespace Binary64

def leastExponent : Int := -1074
def greatestExponent : Int := 971
def mantissaBits : Nat := 53

def zero (negative : Bool) : Binary64 := ⟨negative, 0, leastExponent⟩

def isZero (x : Binary64) : Bool := x.mantissa == 0

def neg (x : Binary64) : Binary64 := { x with negative := !x.negative }

def abs (x : Binary64) : Binary64 := { x with negative := false }

/-- The ratio `num / den` measured in units of `2 ^ e`, again as a ratio. -/
def inUnits (num den : Nat) (e : Int) : Nat × Nat :=
  match e with
  | .ofNat k => (num, den * twoTo k)
  | .negSucc k => (num * twoTo (k + 1), den)

/-- The whole number nearest to a ratio, the even one on a tie. -/
def nearest (num den : Nat) : Nat :=
  let q := num / den
  let r := num % den
  if den < 2 * r || (2 * r == den && q % 2 == 1) then q + 1 else q

/-- The finite number nearest to `± num / den`, or `none` where that lies beyond the greatest. -/
def round (negative : Bool) (num den : Nat) : Option Binary64 :=
  if num == 0 then some (zero negative)
  else
    -- The quotient in units of `2 ^ low` has 53 or 54 binary digits, or fewer at the bottom.
    let low : Int := max leastExponent ((num.log2 : Int) - den.log2 - mantissaBits)
    let inLow := inUnits num den low
    let e := if inLow.1 / inLow.2 < twoTo mantissaBits then low else low + 1
    let inE := inUnits num den e
    let m := nearest inE.1 inE.2
    let (m, e) := if m == twoTo mantissaBits then (twoTo (mantissaBits - 1), e + 1) else (m, e)
    if greatestExponent < e then none else some ⟨negative, m, e⟩

/-- The magnitude as a ratio of whole numbers. -/
def ratio (x : Binary64) : Nat × Nat :=
  match x.exponent with
  | .ofNat k => (x.mantissa * twoTo k, 1)
  | .negSucc k => (x.mantissa, twoTo (k + 1))

def ofInt (n : Int) : Option Binary64 := round (n < 0) n.natAbs 1

def mul (x y : Binary64) : Option Binary64 :=
  let (a, b) := x.ratio
  let (c, d) := y.ratio
  round (x.negative != y.negative) (a * c) (b * d)

/-- The quotient by a number other than zero. -/
def div (x y : Binary64) : Option Binary64 :=
  let (a, b) := x.ratio
  let (c, d) := y.ratio
  round (x.negative != y.negative) (a * d) (b * c)

/-- The exact value times `2 ^ 1074`, which is whole for every finite number. -/
def scaled (x : Binary64) : Int :=
  let magnitude : Int := x.mantissa * twoTo (x.exponent - leastExponent).toNat
  if x.negative then -magnitude else magnitude

/-- Two zeros of unlike sign add up to the positive one. -/
def add (x y : Binary64) : Option Binary64 :=
  let total := x.scaled + y.scaled
  if total == 0 then some (zero (x.negative && y.negative))
  else round (total < 0) total.natAbs (twoTo 1074)

/-- The remainder of the division that truncates, with the sign of the dividend. -/
def rem (x y : Binary64) : Option Binary64 :=
  round x.negative (x.scaled.natAbs % y.scaled.natAbs) (twoTo 1074)

/-- Numeric order; the two zeros are equal. -/
def compare (x y : Binary64) : Ordering := Ord.compare x.scaled y.scaled

/-- Numeric equality, decided on the representation: it is unique but for the sign of zero. -/
def same (x y : Binary64) : Bool := x == y || (x.isZero && y.isZero)

/-- The power of ten `10 ^ k`, correctly rounded. Past the greatest number it is that of `10 ^ 308`,
which no caller asks for. -/
def powerOfTen (k : Nat) : Binary64 := (round false (tenTo (min k 308)) 1).getD (zero false)

/-- Divides by `10 ^ k` in steps of at most `10 ^ 308`, rounding at each. -/
def shiftDown (x : Binary64) (k : Nat) : Option Binary64 :=
  if k ≤ 308 then x.div (powerOfTen k)
  else if x.isZero then some x
  else (x.div (powerOfTen 308)).bind fun y => y.shiftDown (k - 308)
termination_by k

/-- `significand · 10 ^ exponent` by one multiplication or a few divisions of rounded numbers, or
`none` where that overflows. The result may be a neighbour of the nearest number. -/
def ofDecimal (significand : Nat) (exponent : Int) : Option Binary64 := do
  let x ← round false significand 1
  match exponent with
  | .ofNat k =>
    if k ≤ 308 then x.mul (powerOfTen k) else if x.isZero then some x else none
  | .negSucc k => x.shiftDown (k + 1)

/-- The number nearest to `significand · 10 ^ exponent`. -/
def nearestDecimal (negative : Bool) (significand : Nat) (exponent : Int) : Option Binary64 :=
  match exponent with
  | .ofNat k => round negative (significand * tenTo k) 1
  | .negSucc k => round negative significand (tenTo (k + 1))

end Binary64

end Specimen
