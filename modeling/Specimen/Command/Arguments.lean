import Specimen.Command.Switches
import Specimen.Source.Render

/-! The command line: `schema` prints the model of the documents, `generate` source code for it. -/
namespace Specimen.Command
open Source (Language)

/-- Which documents to read. -/
structure InputOptions where
  /-- Paths, patterns, or `-` for the standard input. -/
  inputs : List String := []
  /-- Every line is a document. -/
  ndjson : Bool := false
  /-- A part of each document to go on with. -/
  pointer : Option String := none
  /-- A filter whose outputs are the samples. -/
  filter : Option String := none

/-- What to change about the settings. -/
structure ModelOptions where
  config : Option String := none
  rootName : Option String := none
  mainNamespace : Option String := none
  secondaryNamespace : Option String := none
  examples : Bool := false
  internal : Bool := false
  properties : Bool := false
  noDictionaries : Bool := false

structure Options where
  input : InputOptions := {}
  model : ModelOptions := {}
  out : Option String := none
  /-- Nothing is done. -/
  noOp : Bool := false
  language : Language := .typescript
  /-- Every input has a model and a file of its own. -/
  separate : Bool := false
  outDirectory : Option String := none

inductive Job where
  | schema (options : Options)
  | generate (options : Options)

/-- What the arguments ask for. -/
inductive Request where
  | run (job : Job)
  | version
  | help
  | misuse

/-! ### Switches -/

def changeInput (f : InputOptions → InputOptions) (o : Options) : Options :=
  { o with input := f o.input }

def changeModel (f : ModelOptions → ModelOptions) (o : Options) : Options :=
  { o with model := f o.model }

def text (set : String → Options → Options) : Action Options := .single fun s o => some (set s o)

/-- A path has at least one character. -/
def path (set : String → Options → Options) : Action Options :=
  .single fun s o => if s.isEmpty then none else some (set s o)

def helpSwitch {σ : Type} : Switch σ := ⟨"help", some 'h', .help⟩

def commonSwitches : List (Switch Options) :=
  [helpSwitch,
   ⟨"ndjson", none, .flag (changeInput fun i => { i with ndjson := true })⟩,
   ⟨"json-pointer", none, text fun s => changeInput fun i => { i with pointer := some s }⟩,
   ⟨"jq-expr", none, text fun s => changeInput fun i => { i with filter := some s }⟩,
   ⟨"input", some 'i', .several fun ss => changeInput fun i => { i with inputs := i.inputs ++ ss }⟩,
   ⟨"config", none, path fun s => changeModel fun m => { m with config := some s }⟩,
   ⟨"root-type", none, text fun s => changeModel fun m => { m with rootName := some s }⟩,
   ⟨"namespace", none, text fun s => changeModel fun m => { m with mainNamespace := some s }⟩,
   ⟨"secondary-namespace", none,
     text fun s => changeModel fun m => { m with secondaryNamespace := some s }⟩,
   ⟨"examples", none, .flag (changeModel fun m => { m with examples := true })⟩,
   ⟨"internal", none, .flag (changeModel fun m => { m with internal := true })⟩,
   ⟨"properties", none, .flag (changeModel fun m => { m with properties := true })⟩,
   ⟨"no-dictionaries", none, .flag (changeModel fun m => { m with noDictionaries := true })⟩,
   ⟨"out", some 'o', path fun s o => { o with out := some s }⟩,
   ⟨"no-op", none, .flag fun o => { o with noOp := true }⟩]

def generateSwitches : List (Switch Options) :=
  commonSwitches ++
    [⟨"lang", none, .single fun s o => (Language.ofName? s).map fun l => { o with language := l }⟩,
     ⟨"separate", none, .flag fun o => { o with separate := true }⟩,
     ⟨"out-dir", none, path fun s o => { o with outDirectory := some s }⟩]

/-- Some input is required. A file of its own for every input needs a directory, and leaves no
single file to name. -/
def isComplete (o : Options) : Bool :=
  !o.input.inputs.isEmpty && (!o.separate || (o.outDirectory.isSome && o.out.isNone))

def readJob (job : Options → Job) (switches : List (Switch Options)) (arguments : List String) :
    Request :=
  match readSwitches switches ({} : Options) arguments with
  | .ok options => if isComplete options then .run (job options) else .misuse
  | .error .help => .help
  | .error .misuse => .misuse

/-- Help may be asked about a subcommand. -/
def readHelp : List String → Request
  | [] | ["schema"] | ["generate"] | ["help"] => .help
  | _ => .misuse

/-- Reads all arguments. What comes before the subcommand only asks about the program. -/
def Request.ofArguments : List String → Request
  | "schema" :: rest => readJob .schema commonSwitches rest
  | "generate" :: rest => readJob .generate generateSwitches rest
  | "help" :: rest => readHelp rest
  | first :: _ =>
    match first.toList with
    | '-' :: 'V' :: _ => .version
    | '-' :: 'h' :: _ => .help
    | _ => if first = "--version" then .version else if first = "--help" then .help else .misuse
  | [] => .misuse

end Specimen.Command
