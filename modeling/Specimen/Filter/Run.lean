import Specimen.Filter.Prelude
import Specimen.Json.Reader

/-! Running a filter over a document. Every output becomes a document of its own; a single one that
fails, or that is no JSON, fails the whole run. -/
namespace Specimen.Filter

inductive Failure where
  /-- The text is not a filter. -/
  | unreadable
  /-- The filter mentions something that is not there. -/
  | undefined (name : String)
  | fault (cause : Fault)
  | notJson (error : Json.ReadError)

def Failure.message : Failure → String
  | .unreadable => "the filter cannot be read"
  | .undefined name => "undefined " ++ name
  | .fault cause => cause.message
  | .notJson error => "filter produced non-JSON output: " ++ error.message

/-- The most steps an evaluation takes. -/
def mostSteps : Nat := twoTo 50

/-- The document that an output is written as. -/
def document (x : Value) : Except Failure Json := (Json.parse x.text).mapError .notJson

/-- The outputs of a filter for a document, in order. -/
def run (source : String) (input : Json) : Except Failure (List Json) :=
  match Term.ofText? source with
  | none => .error .unreadable
  | some f =>
    match f.undefined? preludeScope with
    | some name => .error (.undefined name)
    | none => do
      let found ← (f.outputs mostSteps preludeEnvironment (.ofJson input)).mapError .fault
      found.mapM document

end Specimen.Filter
