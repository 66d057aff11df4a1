import Specimen.Decimal.Binary64

/-! The fewest decimal digits that read back as a given binary64 number. The numbers that round to
it form an interval around it; of the grids with one digit, two digits and so on, the first with a
point inside gives the digits, and of two such points the nearer. -/
namespace Specimen.Decimal

/-- Which of two grid points is taken when the value lies halfway between them. -/
inductive Tie where
  | toEven
  | upward
  deriving DecidableEq

/-- A positive number `coefficient · 10 ^ power` whose coefficient does not end in a zero. -/
structure Digits where
  coefficient : Nat
  power : Int

/-- Moves the zeros at the end of the coefficient into the power. -/
def trimZeros (coefficient : Nat) (power : Int) : Digits :=
  if h : coefficient ≠ 0 ∧ coefficient % 10 = 0 then trimZeros (coefficient / 10) (power + 1)
  else ⟨coefficient, power⟩
termination_by coefficient
decreasing_by omega

/-- The digits of the coefficient, first to last. -/
def Digits.digits (d : Digits) : List Char := Nat.toDigits 10 d.coefficient

/-- The power of ten that the first digit stands for. -/
def Digits.leading (d : Digits) : Int := d.digits.length - 1 + d.power

/-- The interval of reals that round to a number, both ends over one denominator. The ends belong to
it when the mantissa is even. -/
structure Interval where
  low : Nat
  value : Nat
  high : Nat
  denominator : Nat
  closed : Bool

/-- Half a unit on either side, but only a quarter below where the unit halves. -/
def intervalOf (x : Binary64) : Interval :=
  let narrow := x.mantissa == twoTo (Binary64.mantissaBits - 1) &&
    x.exponent != Binary64.leastExponent
  let scale (quarters : Nat) : Nat :=
    match x.exponent - 2 with
    | .ofNat k => quarters * twoTo k
    | .negSucc _ => quarters
  let denominator := match x.exponent - 2 with
    | .ofNat _ => 1
    | .negSucc k => twoTo (k + 1)
  { low := scale (4 * x.mantissa - if narrow then 1 else 2)
    value := scale (4 * x.mantissa)
    high := scale (4 * x.mantissa + 2)
    denominator
    closed := x.mantissa % 2 == 0 }

/-- A point of the grid of `10 ^ power`, as a fraction over the interval's denominator. -/
def gridPoint (i : Interval) (coefficient : Nat) (power : Int) : Nat × Nat :=
  match power with
  | .ofNat k => (coefficient * tenTo k * i.denominator, 1)
  | .negSucc k => (coefficient * i.denominator, tenTo (k + 1))

def Interval.holds (i : Interval) (coefficient : Nat) (power : Int) : Bool :=
  let (p, d) := gridPoint i coefficient power
  if i.closed then i.low * d ≤ p && p ≤ i.high * d else i.low * d < p && p < i.high * d

/-- The greatest grid point at or below the value. -/
def Interval.floor (i : Interval) (power : Int) : Nat :=
  match power with
  | .ofNat k => i.value / (i.denominator * tenTo k)
  | .negSucc k => i.value * tenTo (k + 1) / i.denominator

/-- Whether the value goes to the grid point above rather than to the one below: the point above is
nearer, or as near and the tie goes there. -/
def Interval.goesUp (i : Interval) (tie : Tie) (below : Nat) (power : Int) : Bool :=
  let (p, d) := gridPoint i (2 * below + 1) power
  p < 2 * i.value * d || (p == 2 * i.value * d && (tie == .upward || below % 2 == 1))

/-- The grid point next to the value that lies in the interval, the nearer of two. -/
def Interval.onGrid (i : Interval) (tie : Tie) (power : Int) : Option Digits :=
  let below := i.floor power
  match i.holds below power, i.holds (below + 1) power with
  | true, true => some (trimZeros (if i.goesUp tie below power then below + 1 else below) power)
  | true, false => some (trimZeros below power)
  | false, true => some (trimZeros (below + 1) power)
  | false, false => none

/-- The power of ten of the first digit of `value / denominator`, searched downwards from zero for a
number below one; `10 ^ -400` is below every binary64 number. -/
def firstPower (value denominator : Nat) : Int :=
  if denominator ≤ value then (Nat.toDigits 10 (value / denominator)).length - 1
  else
    let rec search (fuel : Nat) (scaled : Nat) (power : Int) : Int :=
      match fuel with
      | 0 => power
      | fuel + 1 =>
        if denominator ≤ scaled then power else search fuel (scaled * 10) (power - 1)
    search 400 (value * 10) (-1)

/-- The shortest digits of a number other than zero. Seventeen digits always suffice. -/
def shortest (tie : Tie) (x : Binary64) : Digits :=
  let i := intervalOf x
  let first := firstPower i.value i.denominator
  ((List.range 17).findSome? fun (n : Nat) => i.onGrid tie (first - (n : Int))).getD
    (trimZeros (i.floor (first - 17)) (first - 17))

end Specimen.Decimal
