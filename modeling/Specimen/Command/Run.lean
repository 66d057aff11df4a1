import Specimen.Command.Sources
import Specimen.Model.Schema

/-! Carrying out a command on a host: settings first, then the documents, then the output. -/
namespace Specimen.Command
open Files (Host)
open Source (Language)

variable {m : Type → Type} [Monad m] [Host m]

/-- The settings that a file holds. -/
def loadSettings (path : String) : ExceptT Failure m Settings := do
  match Settings.read (← readBytes path) with
  | .ok s => return s
  | .error e => throw (.settings e)

/-- Settings with the options' changes. What an option turns on it does not turn off. -/
def ModelOptions.apply (o : ModelOptions) (s : Settings) : Except Failure Settings := do
  if (o.rootName.any Text.isBlankText) then throw .emptyRootName
  return { s with
    rootName := o.rootName.getD s.rootName
    mainNamespace := o.mainNamespace.or s.mainNamespace
    secondaryNamespace := o.secondaryNamespace.or s.secondaryNamespace
    examplesInDocumentation := s.examplesInDocumentation || o.examples
    internalVisibility := s.internalVisibility || o.internal
    useProperties := s.useProperties || o.properties
    dictionaries :=
      { s.dictionaries with enabled := s.dictionaries.enabled && !o.noDictionaries } }

def settingsFor (o : ModelOptions) : ExceptT Failure m Settings := do
  let s ← match o.config with
    | some path => loadSettings path
    | none => pure {}
  match o.apply s with
  | .ok s => return s
  | .error failure => throw failure

/-! ### Output -/

/-- Writes a file, in directories made for it if need be. -/
def writeText (path content : String) : ExceptT Failure m Unit := do
  if let some directory := Files.parent? path then
    match ← (Host.makeDirectory directory : m (Except Files.Fault Unit)) with
    | .ok () => pure ()
    | .error fault => throw (.unmade directory fault)
  match ← (Host.writeFile path (Json.toUtf8 content) : m (Except Files.Fault Unit)) with
  | .ok () => return ()
  | .error fault => throw (.unwritten path fault)

/-- Printed text ends its line. -/
def output (out : Option String) (content : String) : ExceptT Failure m Unit :=
  match out with
  | some path => writeText path content
  | none => (Host.print (content ++ "\n") : m Unit)

/-! ### Jobs -/

/-- The model of the samples of all sources together. -/
def modelOf (s : Settings) (sources : List (String × List Json)) : TypeModel :=
  inferValues s (sources.flatMap Prod.snd)

def runSchema (o : Options) : ExceptT Failure m Unit := do
  let s ← settingsFor o.model
  let sources ← readSources o.input
  output o.out (modelOf s sources).json.pretty

/-- The file that a source's own types go to: its name with another extension. -/
def separatePath (language : Language) (directory source : String) : String :=
  Files.join directory
    ((Files.fileStem? source).getD "stdin" ++ "." ++ language.writer.fileExtension)

/-- One file for every source, in order, as its path and its content. -/
def separateFiles (language : Language) (s : Settings) (directory : String)
    (sources : List (String × List Json)) : List (String × String) :=
  ((sources.map Prod.fst).zip (inferSets s (sources.map Prod.snd))).map fun (source, model) =>
    (separatePath language directory source, Source.render language model s)

def runGenerate (o : Options) : ExceptT Failure m Unit := do
  let s ← settingsFor o.model
  let sources ← readSources o.input
  match o.separate, o.outDirectory with
  | true, some directory =>
    -- A later file takes the place of an earlier one of the same path.
    (separateFiles o.language s directory sources).forM fun (path, content) =>
      writeText path content
  | _, _ => output o.out (Source.render o.language (modelOf s sources) s)

def runJob : Job → ExceptT Failure m Unit
  | .schema o => if o.noOp then return () else runSchema o
  | .generate o => if o.noOp then return () else runGenerate o

/-- How a run ended: the exit code, and what is to be said about it. -/
structure Ending where
  code : UInt8
  complaint : String := ""

def versionLine : String := "json-classgen 0.1.0\n"

def usage : String := "Usage: json-classgen <schema|generate> --input <INPUT>... [OPTIONS]\n"

/-- Does what the arguments ask for. -/
def run (arguments : List String) : m Ending := do
  match Request.ofArguments arguments with
  | .version =>
    Host.print versionLine
    return ⟨0, ""⟩
  | .help =>
    Host.print usage
    return ⟨0, ""⟩
  | .misuse => return ⟨2, usage⟩
  | .run job =>
    match ← (runJob job).run with
    | .ok () => return ⟨0, ""⟩
    | .error failure => return ⟨1, "error: " ++ failure.message ++ "\n"⟩

end Specimen.Command
