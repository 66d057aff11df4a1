import Specimen.Evidence.Basic
import Specimen.Json.Basic

/-! Objects under observation. A shape keeps its fields in the order in which their keys were first
seen, with the number of objects that had the key and the literals it held. Two shapes at one
position always merge: a key that one side lacks counts as a null there. -/
namespace Specimen

/-- What is known about one key of an object. -/
structure Field (O : Type) where
  name : String
  type : Evidence O
  /-- How many objects had the key. -/
  presentIn : Nat
  /-- Literals seen under the key, each once, in order of first appearance. -/
  examples : List Json

/-- The examples kept while merging; how many are shown is decided later. -/
def mostExamplesKept : Nat := 64

/-- Adds an example unless it is there already or the list is full. -/
def keepExample (kept : List Json) (x : Json) : List Json :=
  if kept.length < mostExamplesKept && !kept.any (·.same x) then kept ++ [x] else kept

namespace Field
variable {O : Type}

def intoNullable (f : Field O) : Field O := { f with type := f.type.intoNullable }

/-- Another observation of the same key, folded in. -/
def absorbWith (merge : O → O → Option O) (ours theirs : Field O) : Field O where
  name := ours.name
  type := ours.type.joinWith merge theirs.type
  presentIn := ours.presentIn + theirs.presentIn
  examples := theirs.examples.foldl keepExample ours.examples

def absorb [Mergeable O] : Field O → Field O → Field O := absorbWith Mergeable.merge

/-- The field with the given key. -/
def find? (fields : List (Field O)) (name : String) : Option (Field O) :=
  fields.find? (·.name == name)

end Field

/-- The fields of the objects at one position, and how many objects there were. -/
structure Shape where
  fields : List (Field Shape)
  seen : Nat

namespace Shape

mutual

/-- How deep shapes are nested, this one included. -/
def depth : Shape → Nat
  | ⟨fields, _⟩ => depthOfFields fields + 1
termination_by structural s => s

def depthOfFields : List (Field Shape) → Nat
  | [] => 0
  | ⟨_, type, _, _⟩ :: rest => max (depthOfEvidence type) (depthOfFields rest)
termination_by structural fs => fs

def depthOfEvidence : Evidence Shape → Nat
  | .array item _ => depthOfEvidence item
  | .dictionary value _ => depthOfEvidence value
  | .object shape _ => depth shape
  | _ => 0
termination_by structural e => e

end

/-- Merges two shapes down to the given depth. -/
def mergeTo : Nat → Shape → Shape → Shape
  | 0, ours, _ => ours
  | depth + 1, ours, theirs =>
    let absorbed := ours.fields.map fun f =>
      match Field.find? theirs.fields f.name with
      | some g => f.absorbWith (fun x y => some (mergeTo depth x y)) g
      | none => f.intoNullable
    let added := theirs.fields.filter fun g => (Field.find? ours.fields g.name).isNone
    ⟨absorbed ++ added.map Field.intoNullable, ours.seen + theirs.seen⟩

/-- The union of both field lists, the first shape's fields first. Merging goes no deeper than the
first shape is nested. -/
def merge (ours theirs : Shape) : Shape := mergeTo ours.depth ours theirs

instance : Mergeable Shape where
  merge ours theirs := some (merge ours theirs)
  compatible _ _ := true

end Shape

end Specimen
