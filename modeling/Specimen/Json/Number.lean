import Specimen.Decimal.Layout

/-! Numbers of JSON texts. A literal without fraction and exponent that fits 64 bits is kept as a
whole number, any other as the binary64 number it is read as. -/
namespace Specimen.Json
open Text

inductive Number where
  | int (value : Int)
  | float (value : Binary64)
  deriving DecidableEq

namespace Number

/-- Floating numbers are written in full from `0.00001` up to sixteen digits before the point. -/
def layout : Decimal.Layout := ⟨-5, 15, true, .toEven⟩

def text : Number → String
  | .int n => signedDecimal n
  | .float x => layout.text x

/-- A whole number never equals a floating one; the two floating zeros are equal. -/
def same : Number → Number → Bool
  | .int m, .int n => m == n
  | .float x, .float y => x.same y
  | _, _ => false

end Number

end Specimen.Json
