import Specimen.Settings.Basic
import Specimen.Json.Reader

/-! A run of inference: samples are observed one after another, and the evidence that has gathered
is solved into a model. A document that is an array stands for its items. Text that is no JSON is
refused before anything is recorded. -/
namespace Specimen

/-- A text that is not a JSON document, and where it came from. -/
structure MalformedInput where
  origin : String
  error : Json.ReadError
  deriving DecidableEq

def MalformedInput.message (e : MalformedInput) : String :=
  "malformed JSON in " ++ e.origin ++ ": " ++ e.error.message

/-- The document that a text from the given origin holds. -/
def parseDocument (origin text : String) : Except MalformedInput Json :=
  (Json.parse text).mapError (⟨origin, ·⟩)

/-- The evidence so far, and the number of root samples it comes from. -/
structure Inference where
  seen : Evidence Shape := .unknown
  documents : Nat := 0

namespace Inference
variable (s : Settings)

def observeSample (run : Inference) (sample : Json) : Inference where
  seen := run.seen.join (s.observer.observeRoot sample)
  documents := run.documents + 1

def observeValue (run : Inference) (document : Json) : Inference :=
  (Observer.rootSamples document).foldl (observeSample s) run

def observeText (run : Inference) (origin text : String) : Except MalformedInput Inference := do
  return run.observeValue s (← parseDocument origin text)

def observeValues (run : Inference) (documents : List Json) : Inference :=
  documents.foldl (observeValue s) run

/-- Interns the evidence, names the classes, and freezes them into a model. -/
def solve (run : Inference) : TypeModel :=
  let (root, table) := ClassTable.internRoot run.seen {}
  freeze table root (assignNames table root s.rootName) s.examplePolicy

end Inference

def inferValues (s : Settings) (documents : List Json) : TypeModel :=
  (Inference.observeValues s {} documents).solve s

/-- All texts are read before any is observed; the first that is malformed fails the run. -/
def inferTexts (s : Settings) (documents : List (String × String)) :
    Except MalformedInput TypeModel := do
  let values ← documents.mapM fun (origin, text) => parseDocument origin text
  return inferValues s values

/-- Unrelated sets of documents, each with a model of its own. -/
def inferSets (s : Settings) (sets : List (List Json)) : List TypeModel := sets.map (inferValues s)

end Specimen
