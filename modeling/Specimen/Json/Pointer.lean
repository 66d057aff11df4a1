import Specimen.Json.Basic
import Specimen.Text.Alphanumeric
import Specimen.Text.Basic

/-! Pointers to a place inside a document: steps with a slash before each, a step being a key or the
place of an item. Inside a step `~1` stands for a slash and `~0` for a tilde. -/
namespace Specimen.Json
open Text

/-- A tilde that escapes nothing stands for itself. -/
def unescapeStep : List Char → List Char
  | '~' :: '1' :: cs => '/' :: unescapeStep cs
  | '~' :: '0' :: cs => '~' :: unescapeStep cs
  | c :: cs => c :: unescapeStep cs
  | [] => []

/-- The place that a step denotes: digits without a leading zero. -/
def place? (step : List Char) : Option Nat :=
  if step.isEmpty || !step.all isAsciiDigit then none
  else if step.head? = some '0' && step.length ≠ 1 then none
  else some (ofDigits step)

def step? (x : Json) (step : List Char) : Option Json :=
  match x with
  | .object _ => x.member? (String.ofList step)
  | .array items => (place? step).bind fun i => items[i]?
  | _ => none

/-- What a pointer leads to. The empty pointer leads to the whole document. -/
def pointedTo? (pointer : String) (x : Json) : Option Json :=
  match pointer.toList with
  | [] => some x
  | '/' :: cs => ((parts '/' cs).map unescapeStep).foldlM step? x
  | _ => none

end Specimen.Json
