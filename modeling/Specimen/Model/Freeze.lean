import Specimen.Model.Basic
import Specimen.Classes.Emission
import Specimen.Classes.Naming

/-! From the class table to the model. Classes are renumbered in emission order; those the root does
not lead to are dropped. -/
namespace Specimen

def scalarKind : Scalar → Kind
  | .boolean => .boolean
  | .integer => .integer
  | .long => .long
  | .float => .float
  | .date => .date
  | .string => .string

/-- How much of the examples a model keeps. -/
structure ExamplePolicy where
  shown : Bool
  limit : Nat

namespace ExamplePolicy

def select (policy : ExamplePolicy) (examples : List Json) : List Json :=
  if policy.shown then examples.take policy.limit else []

end ExamplePolicy

/-- The place of a class in the emission order. A class outside it keeps its number. -/
def renumber (order : List ClassId) (id : ClassId) : ClassId :=
  match order.findIdx? (· = id) with
  | some place => ⟨place⟩
  | none => id

/-- The type that evidence amounts to. A conflict that also saw a null is some value or a null. -/
def freezeType (order : List ClassId) : Evidence ClassId → TypeNode
  | .unknown => .leaf .nonConstrained {}
  | .null => .leaf .nullableSomething { nullable := true }
  | .anything true => .leaf .nullableSomething { nullable := true }
  | .anything false => .leaf .anything {}
  | .scalar kind true =>
    .leaf ((scalarKind kind).nullable?.getD (scalarKind kind)) { nullable := true }
  | .scalar kind false => .leaf (scalarKind kind) {}
  | .array item nullable => .array (freezeType order item) { nullable }
  | .dictionary value nullable => .dictionary (freezeType order value) { nullable }
  | .object id nullable => .object (renumber order id) { nullable }

def freezeField (order : List ClassId) (examples : ExamplePolicy) (f : Field ClassId) :
    FieldInfo where
  sourceName := f.name
  type := freezeType order f.type
  nullable := f.type.isNullable
  presentIn := f.presentIn
  examples := examples.select f.examples

def freezeClass (order : List ClassId) (names : Naming) (examples : ExamplePolicy) (id : ClassId)
    (entry : ClassEntry) : ClassDef where
  id := renumber order id
  name := (names.lookup id).getD ""
  fields := entry.fields.map (freezeField order examples)
  isRoot := entry.isRoot
  samples := entry.samples

/-- The model of the classes that the root leads to. A class without a name has the empty one. -/
def freeze (t : ClassTable) (root : Evidence ClassId) (names : Naming) (examples : ExamplePolicy) :
    TypeModel :=
  let order := emissionOrder t root
  { root := (freezeType order root).withRoot true
    classes := order.filterMap fun id => (t.entry? id).map (freezeClass order names examples id) }

end Specimen
