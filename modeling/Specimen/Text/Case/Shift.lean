/-! How a case mapping is tabulated: long runs of characters that all move by one distance, and
single characters that turn into several. -/
namespace Specimen.Text

/-- The characters `first`, `first + step`, … up to `last` move by `distance` code points. -/
structure Shift where
  first : Nat
  last : Nat
  step : Nat
  distance : Int

def Shift.applies (shift : Shift) (code : Nat) : Bool :=
  shift.first ≤ code && code ≤ shift.last && (code - shift.first) % shift.step == 0

/-- A character in neither table is its own image. -/
def caseForm (shifts : List Shift) (expansions : List (Nat × List Nat)) (c : Char) : List Char :=
  match expansions.lookup c.toNat with
  | some codes => codes.map Char.ofNat
  | none =>
    match shifts.find? (·.applies c.toNat) with
    | some shift => [Char.ofNat (c.toNat + shift.distance).toNat]
    | none => [c]

end Specimen.Text
