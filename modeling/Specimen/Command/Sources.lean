import Specimen.Command.Arguments
import Specimen.Command.Failure
import Specimen.Files.Search
import Specimen.Json.Pointer
import Specimen.Text.Basic

/-! The documents of a command, by the input they come from. -/
namespace Specimen.Command
open Files (Host)

variable {m : Type → Type} [Monad m] [Host m]

/-- The name of the standard input among the inputs. -/
def standardInput : String := "-"

/-- Text that is more than a path. -/
def isPattern (input : String) : Bool := input.toList.any ['*', '?', '[', '\x7b'].contains

def searchFailure : Files.SearchError → Failure
  | .badPattern e => .badPattern e
  | .unlisted directory fault => .unlisted directory fault

/-- The paths that an input stands for; a pattern has to match something. -/
def pathsOf (input : String) : ExceptT Failure m (List String) := do
  if isPattern input then
    match ← (Files.search input : ExceptT Files.SearchError m (List String)).run with
    | .error e => throw (searchFailure e)
    | .ok [] => throw (.noMatch input)
    | .ok paths => return paths
  else return [input]

/-- The bytes of a file. -/
def readBytes (path : String) : ExceptT Failure m Json.Bytes := do
  match ← (Host.readFile path : m (Except Files.Fault Json.Bytes)) with
  | .ok bytes => return bytes
  | .error fault => throw (.unread path fault)

/-- The text of a file, or of the standard input, of which nothing is left afterwards. -/
def readText (path : String) : ExceptT Failure m String := do
  let bytes ← if path = standardInput then (Host.readInput : m Json.Bytes) else readBytes path
  match Json.ofUtf8? bytes with
  | some text => return text
  | none => throw (.unread path .notUtf8)

/-- A line without the carriage return that ends it. -/
def dropReturn (line : List Char) : List Char :=
  if line.getLast? = some '\r' then line.dropLast else line

/-- The lines of a text, without what ends them. The last has no line feed to be part of its end. -/
def linesOf (text : String) : List String :=
  let parts := Text.parts '\n' text.toList
  (parts.dropLast.map dropReturn ++ parts.getLast?.toList).map String.ofList

/-- The texts of the documents in a file, with where each comes from. -/
def documentTexts (o : InputOptions) (path text : String) : List (String × String) :=
  if o.ndjson then
    ((linesOf text).zipIdx 1).filterMap fun (line, number) =>
      if Text.isBlankText line then none else some (path ++ ":" ++ Text.decimal number, line)
  else [(path, text)]

/-- What a document contributes: the part the options point to, run through the filter. A document
without that part contributes nothing. -/
def samplesOf (o : InputOptions) (path : String) (document : Json) : Except Failure (List Json) :=
  let selected := match o.pointer with
    | some pointer => document.pointedTo? pointer
    | none => some document
  match selected, o.filter with
  | none, _ => .ok []
  | some x, none => .ok [x]
  | some x, some filter => (Filter.run filter x).mapError (.filter path)

/-- All documents of a text are read before any is filtered. -/
def samplesIn (o : InputOptions) (path text : String) : Except Failure (List Json) := do
  let documents ← ((documentTexts o path text).mapM fun (origin, text) =>
    parseDocument origin text).mapError .malformed
  return (← documents.mapM (samplesOf o path)).flatten

/-- A path with the samples that it contributes. -/
def readSource (o : InputOptions) (path : String) : ExceptT Failure m (String × List Json) := do
  let text ← readText path
  match samplesIn o path text with
  | .ok samples => return (path, samples)
  | .error failure => throw failure

/-- All patterns are resolved before any file is read. -/
def readSources (o : InputOptions) : ExceptT Failure m (List (String × List Json)) := do
  let paths ← o.inputs.mapM pathsOf
  paths.flatten.mapM (readSource o)

end Specimen.Command
