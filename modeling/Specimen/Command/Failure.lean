import Specimen.Inference
import Specimen.Settings.Reader
import Specimen.Filter.Run
import Specimen.Files.Fault
import Specimen.Files.Pattern

/-! Why a command fails. The message names every cause on the way down to the first one. -/
namespace Specimen.Command
open Files (Fault PatternError)

inductive Failure where
  | malformed (cause : MalformedInput)
  | settings (cause : Settings.ReadError)
  | emptyRootName
  | unread (path : String) (cause : Fault)
  | badPattern (cause : PatternError)
  | unlisted (directory : String) (cause : Fault)
  | noMatch (pattern : String)
  | filter (origin : String) (cause : Filter.Failure)
  | unmade (directory : String) (cause : Fault)
  | unwritten (path : String) (cause : Fault)

namespace Failure

def patternContext : String := "failed to resolve input file paths: "

def message : Failure → String
  | .malformed e => e.message ++ ": " ++ e.error.message
  | .settings e => "invalid configuration at " ++ e.path ++ ": " ++ e.message
  | .emptyRootName => "--root-type must not be empty"
  | .unread path fault =>
    "failed to read " ++ path ++ ": " ++ fault.message ++ ": " ++ fault.message
  | .badPattern e => patternContext ++ e.message
  | .unlisted directory fault =>
    patternContext ++ "attempting to read `" ++ directory ++ "` resulted in an error: " ++
      fault.message
  | .noMatch pattern => patternContext ++ "glob pattern matched no files: " ++ pattern
  | .filter origin e =>
    "failed to apply jq expression to " ++ origin ++ ": jq filter failed: " ++ e.message
  | .unmade directory fault => "failed to create " ++ directory ++ ": " ++ fault.message
  | .unwritten path fault => "failed to write " ++ path ++ ": " ++ fault.message

end Failure

end Specimen.Command
