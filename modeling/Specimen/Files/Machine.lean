import Specimen.Files.Host
import Specimen.Files.Path

/-! A machine as a value: a tree of files, a current directory in it, the standard input and what
has been printed. Programs written for a `Host` run on it without any effect on the outside. -/
namespace Specimen.Files
open Json (Bytes)

inductive Entry where
  | file (content : Bytes)
  | directory

/-- The names on the way from the root. -/
abbrev Place := List String

structure Machine where
  /-- What there is at each place but the root. -/
  entries : List (Place × Entry) := []
  current : Place := []
  input : Bytes := []
  printed : String := ""

namespace Machine

def entry? (machine : Machine) (place : Place) : Option Entry :=
  if place.isEmpty then some .directory else machine.entries.lookup place

def setEntry (place : Place) (entry : Entry) : List (Place × Entry) → List (Place × Entry)
  | [] => [(place, entry)]
  | (p, e) :: rest => if p = place then (p, entry) :: rest else (p, e) :: setEntry place entry rest

def put (machine : Machine) (place : Place) (entry : Entry) : Machine :=
  { machine with entries := setEntry place entry machine.entries }

/-- Where a path starts. -/
def start (machine : Machine) (path : String) : Place :=
  if isAbsolute path then [] else machine.current

/-- Where the pieces of a path lead to. Nothing but a directory leads anywhere. -/
def walk (machine : Machine) : Place → List String → Except Fault Place
  | place, [] => .ok place
  | place, piece :: rest =>
    match machine.entry? place with
    | none => .error .notFound
    | some (.file _) => .error .notDirectory
    | some .directory =>
      if piece = "" || piece = "." then walk machine place rest
      else if piece = ".." then walk machine place.dropLast rest
      else if (machine.entry? (place ++ [piece])).isSome then walk machine (place ++ [piece]) rest
      else .error .notFound

def find (machine : Machine) (path : String) : Except Fault Place :=
  if path = "" then .error .notFound else machine.walk (machine.start path) (pieces path)

def readFile (machine : Machine) (path : String) : Except Fault Bytes := do
  match machine.entry? (← machine.find path) with
  | some (.file content) => return content
  | some .directory => throw .isDirectory
  | none => throw .notFound

def isDirectory? (machine : Machine) (path : String) : Option Bool :=
  match machine.find path with
  | .error _ => none
  | .ok place => (machine.entry? place).map fun
    | .directory => true
    | .file _ => false

/-- The name of an entry that lies right inside a directory. -/
def nameIn? (directory place : Place) : Option String :=
  if place.dropLast = directory then place.getLast? else none

def list (machine : Machine) (path : String) : Except Fault (List String) := do
  let place ← machine.find path
  match machine.entry? place with
  | some .directory => return machine.entries.filterMap fun (p, _) => nameIn? place p
  | some (.file _) => throw .notDirectory
  | none => throw .notFound

/-- A path that ends in no name is a directory or nothing. -/
def writeFile (machine : Machine) (path : String) (content : Bytes) : Except Fault Machine := do
  let steps := pieces path
  let named := (steps.reverse.dropWhile (· = "")).reverse
  let place ← machine.walk (machine.start path) named.dropLast
  match named.getLast? with
  | none => throw .isDirectory
  | some name =>
    if name = "." || name = ".." then
      let _ ← machine.find path
      throw .isDirectory
    else if named.length ≠ steps.length then throw .isDirectory
    else match machine.entry? place with
      | some (.file _) => throw .notDirectory
      | none => throw .notFound
      | some .directory =>
        match machine.entry? (place ++ [name]) with
        | some .directory => throw .isDirectory
        | _ => return machine.put (place ++ [name]) (.file content)

/-- Makes the directories that the pieces lead through. -/
def makeWay (machine : Machine) : Place → List String → Except Fault Machine
  | _, [] => .ok machine
  | place, piece :: rest =>
    if piece = "" || piece = "." then makeWay machine place rest
    else if piece = ".." then makeWay machine place.dropLast rest
    else match machine.entry? (place ++ [piece]) with
      | some .directory => makeWay machine (place ++ [piece]) rest
      | some (.file _) => .error (if rest.isEmpty then .exists else .notDirectory)
      | none => makeWay (machine.put (place ++ [piece]) .directory) (place ++ [piece]) rest

def makeDirectory (machine : Machine) (path : String) : Except Fault Machine :=
  machine.makeWay (machine.start path) (pieces path)

/-- Runs a change that may be refused. -/
def change (f : Machine → Except Fault Machine) : StateM Machine (Except Fault Unit) := do
  match f (← get) with
  | .ok machine =>
    set machine
    return .ok ()
  | .error fault => return .error fault

instance : Host (StateM Machine) where
  readFile path := do return (← get).readFile path
  writeFile path content := change (·.writeFile path content)
  makeDirectory path := change (·.makeDirectory path)
  isDirectory? path := do return (← get).isDirectory? path
  list path := do return (← get).list path
  readInput := do
    let machine ← get
    set { machine with input := [] }
    return machine.input
  print text := modify fun machine => { machine with printed := machine.printed ++ text }

/-- A machine that holds the given files below its current directory. -/
def holding (files : List (String × Bytes)) (input : Bytes) : Machine :=
  let start : Machine := ({ input } : Machine).put ["work"] .directory
  files.foldl (fun machine (path, content) =>
    let made := match parent? path with
      | some directory => (machine.makeDirectory directory).toOption.getD machine
      | none => machine
    (made.writeFile path content).toOption.getD made) { start with current := ["work"] }

/-- The files below the current directory, by their paths from there. -/
def files (machine : Machine) : List (String × Bytes) :=
  machine.entries.filterMap fun (place, entry) =>
    match entry with
    | .file content =>
      if machine.current.isPrefixOf place then
        some ("/".intercalate (place.drop machine.current.length), content)
      else none
    | .directory => none

end Machine

end Specimen.Files
