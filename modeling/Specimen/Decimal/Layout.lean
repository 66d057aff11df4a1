import Specimen.Decimal.Shortest
import Specimen.Text.Basic

/-! How the digits of a binary64 number are set out as text. -/
namespace Specimen.Decimal
open Text

/-- Numbers whose first digit stands for a power of ten from `leastPlain` to `mostPlain` are written
in full, with at least one digit after the point. Others show their power of ten after an `e`, a
positive power with a plus sign if `plusSign` is set. The tie decides between shortest forms that are
equally near. -/
structure Layout where
  leastPlain : Int
  mostPlain : Int
  plusSign : Bool
  tie : Tie

def plainText (d : Digits) : List Char :=
  match d.power with
  | .ofNat k => d.digits ++ List.replicate k '0' ++ ['.', '0']
  | .negSucc k =>
    let places := k + 1
    let digits := d.digits
    if places < digits.length then
      digits.take (digits.length - places) ++ '.' :: digits.drop (digits.length - places)
    else '0' :: '.' :: List.replicate (places - digits.length) '0' ++ digits

def scientificText (plusSign : Bool) (d : Digits) : List Char :=
  let mantissa := match d.digits with
    | first :: [] => [first]
    | first :: others => first :: '.' :: others
    | [] => []
  let power := signedDecimal d.leading
  mantissa ++ 'e' :: (if plusSign && 0 ≤ d.leading then ['+'] else []) ++ power.toList

/-- The sign of zero is kept. -/
def Layout.text (layout : Layout) (x : Binary64) : String :=
  let magnitude :=
    if x.isZero then ['0', '.', '0']
    else
      let d := shortest layout.tie x
      if layout.leastPlain ≤ d.leading && d.leading ≤ layout.mostPlain then plainText d
      else scientificText layout.plusSign d
  String.ofList (if x.negative then '-' :: magnitude else magnitude)

end Specimen.Decimal
