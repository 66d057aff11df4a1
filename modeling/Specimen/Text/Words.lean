import Specimen.Text.Alphanumeric
import Specimen.Text.Case.Upper
import Specimen.Text.Case.Lower

/-! The words that keys are made of, and the forms in which they become names. -/
namespace Specimen.Text

/-- Drops what is not alphanumeric, and puts the first character of every run in upper case. The
flag says that a run would start here. -/
def joinCapitalized : Bool → List Char → List Char
  | _, [] => []
  | start, c :: rest =>
    if isAlphanumeric c then (if start then upperForm c else [c]) ++ joinCapitalized false rest
    else joinCapitalized true rest

/-- An underscore in front of a digit, which could not begin a name. -/
def guardDigit : List Char → List Char
  | [] => []
  | c :: rest => if isAsciiDigit c then '_' :: c :: rest else c :: rest

/-- Every word with its first letter in upper case, and nothing between the words. -/
def pascalCase (raw : String) : String :=
  String.ofList (guardDigit (joinCapitalized true raw.toList))

/-- The word ends in the given lowercase letters, whatever their case. -/
def endsIn (word : List Char) (ending : String) : Bool :=
  (word.map Char.toLower).reverse.take ending.length == ending.toList.reverse

def dropEnd (n : Nat) (word : List Char) : List Char := word.take (word.length - n)

/-- Plurals that follow no rule. -/
def irregularPlurals : List (String × String) := [("people", "person"), ("children", "child")]

/-- The singular of an irregular plural, capitalized if the plural is. -/
def irregularSingular? (word : List Char) : Option (List Char) :=
  irregularPlurals.findSome? fun (plural, singular) =>
    if endsIn word plural then
      let stem := dropEnd plural.length word
      let capital := ((word.drop stem.length).take 1).all isUppercase
      some (stem ++ if capital then joinCapitalized true singular.toList else singular.toList)
    else none

/-- The English singular of a word, by its ending; a word of unknown form is kept. -/
def singularChars (word : List Char) : List Char :=
  match irregularSingular? word with
  | some singular => singular
  | none =>
    if endsIn word "ies" && (String.ofList word).utf8ByteSize > 3 then dropEnd 3 word ++ ['y']
    else if ["sses", "shes", "ches", "xes", "zes"].any (endsIn word) then dropEnd 2 word
    else if ["ss", "us", "is"].any (endsIn word) then word
    else if endsIn word "s" && (String.ofList word).utf8ByteSize > 1 then dropEnd 1 word
    else word

def singularize (word : String) : String := String.ofList (singularChars word.toList)

end Specimen.Text
