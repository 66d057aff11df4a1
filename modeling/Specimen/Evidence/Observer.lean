import Specimen.Evidence.Shape
import Specimen.Evidence.Dictionary

/-! Reading evidence off a document. Inside a document an object may turn out to be a dictionary; at
its root it is always a record. -/
namespace Specimen

/-- Whole numbers that fit 32 or 64 signed bits, and all others. -/
def numberKind : Json.Number → Scalar
  | .int n =>
    if -2147483648 ≤ n && n ≤ 2147483647 then .integer
    else if -9223372036854775808 ≤ n && n ≤ 9223372036854775807 then .long
    else .float
  | .float _ => .float

/-- The evidence of a value that needs no look inside: a scalar, a null or an empty array. -/
def leafEvidence? {O : Type} (isDate : String → Bool) : Json → Option (Evidence O)
  | .null => some .null
  | .bool _ => some (.scalar .boolean false)
  | .number n => some (.scalar (numberKind n) false)
  | .string s => some (.scalar (if isDate s then .date else .string) false)
  | .array [] => some (.array .unknown false)
  | .array _ | .object _ => none

/-- What the reading of evidence depends on. -/
structure Observer where
  isDate : String → Bool
  dictionaries : DictionaryPolicy
  /-- Literals are kept as examples. -/
  keepsExamples : Bool

namespace Observer
variable (o : Observer)

/-- An object with the given fields, as a dictionary if it is one. -/
def objectEvidence (fields : List (Field Shape)) : Evidence Shape :=
  match o.dictionaries.detect o.isDate (fields.map fun f => (f.name, f.type)) with
  | some value => .dictionary value false
  | none => .object ⟨fields, 1⟩ false

def examplesOf (x : Json) : List Json := if o.keepsExamples && x.isLiteral then [x] else []

mutual

def observe : Json → Evidence Shape
  | .array items => .array (observeItems .unknown items) false
  | .object members => o.objectEvidence (observeMembers members)
  -- What is left has no parts.
  | x => (leafEvidence? o.isDate x).getD .unknown
termination_by structural x => x

/-- The items joined to what was seen before them. -/
def observeItems : Evidence Shape → List Json → Evidence Shape
  | seen, [] => seen
  | seen, x :: xs => observeItems (seen.join (observe x)) xs
termination_by structural _ xs => xs

def observeMembers : List (String × Json) → List (Field Shape)
  | [] => []
  | (key, x) :: rest => ⟨key, observe x, 1, o.examplesOf x⟩ :: observeMembers rest
termination_by structural ms => ms

end

/-- A sample of the root. -/
def observeRoot : Json → Evidence Shape
  | .object members => .object ⟨o.observeMembers members, 1⟩ false
  | x => o.observe x

/-- The samples of the root that a document holds: the items of an array, else the document. -/
def rootSamples : Json → List Json
  | .array items => items
  | x => [x]

end Observer

end Specimen
