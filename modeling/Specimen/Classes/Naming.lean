import Specimen.Classes.Table
import Specimen.Text.Words
import Specimen.Text.Basic

/-! The names of classes. They are given out in a walk from the root, a class before the classes
that its fields lead to, fields in order. A class takes its name from the field it is first reached
through, in the singular if an array or a dictionary lies between, and the root class from the
settings. A name that is taken or reserved gets the next free number, from 2 on. -/
namespace Specimen
open Text

/-- Names that generated code uses for other things. -/
def reservedNames : List String :=
  ["Array", "Boolean", "Box", "Date", "Deserialize", "Err", "Error", "Function", "HashMap", "Map",
   "None", "Number", "Object", "Ok", "Option", "Promise", "Record", "Result", "Self", "Serialize",
   "Set", "Some", "String", "Symbol", "Value", "Vec"]

/-- The name of a class whose key has no letters. -/
def fallbackName : String := "Type"

/-- What a class is named after. -/
inductive NameHint where
  | root (name : String)
  | field (name : String) (element : Bool)

namespace NameHint

/-- The hint for the elements of a container. -/
def intoElement : NameHint → NameHint
  | .root name => .root name
  | .field name _ => .field name true

def base : NameHint → String
  | .root name => name
  | .field name false => pascalCase name
  | .field name true => singularize (pascalCase name)

/-- The hint that reaches the object inside a type. -/
def within {O : Type} (hint : NameHint) : Evidence O → NameHint
  | .array item _ => hint.intoElement.within item
  | .dictionary value _ => hint.intoElement.within value
  | _ => hint

end NameHint

/-- The spellings tried for a name: itself, then numbered from 2. -/
def numbered (base : String) : Nat → String
  | 0 => base
  | n + 1 => base ++ decimal (n + 2)

/-- The first spelling that is not taken; one of the first `taken.length + 1` is free. -/
def freeName (taken : List String) (base : String) : String :=
  let base := if base.isEmpty then fallbackName else base
  match (List.range (taken.length + 1)).find? fun n => !taken.contains (numbered base n) with
  | some n => numbered base n
  | none => base

/-- Names given so far, in the order they were given. -/
abbrev Naming := List (ClassId × String)

namespace Naming

def taken (given : Naming) : List String := given.map Prod.snd ++ reservedNames

/-- Names the classes that a type leads to. Every level of the walk names a class, so the number of
classes bounds its depth. -/
def visit (t : ClassTable) : Nat → Evidence ClassId → NameHint → Naming → Naming
  | 0, _, _, given => given
  | depth + 1, type, hint, given =>
    match type.innermost? with
    | none => given
    | some id =>
      if (given.lookup id).isSome then given
      else
        let name := freeName given.taken (hint.within type).base
        (t.fieldsOf id).foldl (fun given f => visit t depth f.type (.field f.name false) given)
          (given ++ [(id, name)])

end Naming

/-- The names of the classes reached from the root, in the order they are given. -/
def assignNames (t : ClassTable) (root : Evidence ClassId) (rootName : String) : Naming :=
  Naming.visit t (t.entries.length + 1) root (.root rootName) []

end Specimen
