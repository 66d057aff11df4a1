import Specimen.Command.Run

/-! The program: the command line run on the machine it is started on. -/
namespace Specimen.Files

/-- The number of a refusal; some are reported as negative. -/
def refusalNumber (code : UInt32) : Nat := (min code (0 - code)).toNat

/-- A refusal known by its number. -/
def numberedFault (code : UInt32) (details : String) : Fault :=
  match refusalNumber code with
  | 2 => .notFound
  | 17 => .exists
  | 20 => .notDirectory
  | 21 => .isDirectory
  | n => .other n details

/-- The fault that a refusal of the operating system is. -/
def faultOf : IO.Error → Fault
  | .noFileOrDirectory .. => .notFound
  | .alreadyExists .. => .exists
  | .inappropriateType _ code details => numberedFault code details
  | .invalidArgument _ code details => numberedFault code details
  | .permissionDenied _ code details => numberedFault code details
  | .resourceExhausted _ code details => numberedFault code details
  | .noSuchThing _ code details => numberedFault code details
  | .otherError code details => numberedFault code details
  | e => .other 0 (toString e)

/-- The result of an action, its refusal included. -/
def guarded {α : Type} (action : IO α) : IO (Except Fault α) := do
  match ← action.toBaseIO with
  | .ok x => return .ok x
  | .error e => return .error (faultOf e)

/-- The names in a directory, in no particular order. -/
def namesIn (directory : String) : IO (List String) := do
  let entries ← ((← IO.currentDir) / directory).readDir
  return (entries.map (·.fileName)).toList

/-- Whether there is something at a path, and whether it is a directory. -/
def look (path : String) : IO (Option Bool) := do
  let whole := (← IO.currentDir) / path
  if ← whole.pathExists then return some (← whole.isDir) else return none

/-- Where a file is in the way, the directory itself cannot be there already. -/
def makeDirectory (path : String) : IO (Except Fault Unit) := do
  if path.isEmpty then return .ok ()
  match ← guarded (IO.FS.createDirAll path) with
  | .error .exists => return .error (if (← look path).isSome then .exists else .notDirectory)
  | result => return result

instance : Host IO where
  readFile path := guarded do
    if (← look path) == some true then throw (.inappropriateType (some path) 21 "")
    return (← IO.FS.readBinFile path).toList
  writeFile path content := guarded (IO.FS.writeBinFile path ⟨content.toArray⟩)
  makeDirectory := makeDirectory
  isDirectory? := look
  list directory := guarded (namesIn directory)
  readInput := do return (← (← IO.getStdin).readBinToEnd).toList
  print text := IO.print text

end Specimen.Files

open Specimen in
def main (arguments : List String) : IO UInt32 := do
  let ending ← (Command.run arguments : IO Command.Ending)
  IO.eprint ending.complaint
  return ending.code.toUInt32
