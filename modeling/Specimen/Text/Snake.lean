import Specimen.Text.Alphanumeric
import Specimen.Text.Case.Upper
import Specimen.Text.Case.Lower
import Specimen.Text.Words

/-! Names in lower case with underscores between the words. -/
namespace Specimen.Text

/-- An underscore on the end of what is written so far, unless that would be its first character or
its second underscore in a row. The written characters are given last to first. -/
def withUnderscore (written : List Char) : List Char :=
  match written with
  | [] => []
  | '_' :: _ => written
  | _ => '_' :: written

/-- A capital begins a word after a small letter or a digit, and as the last of several capitals. -/
def startsWord (before : Option Char) (c : Char) (after : List Char) : Bool :=
  isUppercase c &&
    match before with
    | none => false
    | some b =>
      isLowercase b || isAsciiDigit b || (isUppercase b && (after.head?.any isLowercase))

/-- The name in reverse, in front of the characters written so far. -/
def snakeReversed (before : Option Char) (written : List Char) : List Char → List Char
  | [] => written
  | c :: rest =>
    if isAlphanumeric c then
      let written := if startsWord before c rest then withUnderscore written else written
      snakeReversed (some c) ((lowerForm c).reverse ++ written) rest
    else snakeReversed (some c) (withUnderscore written) rest

def snakeCase (raw : String) : String :=
  String.ofList (guardDigit ((snakeReversed none [] raw.toList).dropWhile (· == '_')).reverse)

end Specimen.Text
