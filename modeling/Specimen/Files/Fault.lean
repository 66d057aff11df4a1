import Specimen.Text.Basic

/-! What can go wrong with a file. -/
namespace Specimen.Files
open Text

inductive Fault where
  | notFound
  | notDirectory
  | isDirectory
  | exists
  | notUtf8
  /-- Any other refusal, by its number and the words that go with it. -/
  | other (code : Nat) (words : String)

namespace Fault

def numbered (words : String) (code : Nat) : String := words ++ " (os error " ++ decimal code ++ ")"

def message : Fault → String
  | .notFound => numbered "No such file or directory" 2
  | .notDirectory => numbered "Not a directory" 20
  | .isDirectory => numbered "Is a directory" 21
  | .exists => numbered "File exists" 17
  | .notUtf8 => "stream did not contain valid UTF-8"
  | .other code words => numbered words code

end Fault

end Specimen.Files
