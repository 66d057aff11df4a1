import Specimen.Filter.Operation

/-! The filters that are given, not defined. -/
namespace Specimen.Filter

/-- The filters that definitions are built from. -/
inductive Primitive where
  | length
  | keys
  | has
  | sort
  | sum
  | kind
  | json
  | raise
  | count
  /-- The first outcome of the argument. -/
  | first
  deriving DecidableEq

namespace Primitive

/-- The primitives by their names, with the number of arguments. -/
def names : List ((String × Nat) × Primitive) :=
  [(("length", 0), .length), (("keys_unsorted", 0), .keys), (("has", 1), .has),
   (("sort", 0), .sort), (("add", 0), .sum), (("type", 0), .kind), (("tojson", 0), .json),
   (("error", 0), .raise), (("range", 3), .count), (("first", 1), .first)]

def ofName? (name : String) (arity : Nat) : Option Primitive := names.lookup (name, arity)

/-- The outcome for a value, given outputs of the arguments. Counting and taking the first outcome
are no matter of a single outcome; they are tasks of their own. -/
def outcomes (x : Value) : Primitive → List Value → List Outcome
  | .length, _ => [x.length]
  | .keys, _ => [x.keys]
  | .has, key :: _ => [x.has key]
  | .sort, _ => [x.sort]
  | .sum, _ => [x.sum]
  | .kind, _ => [.ok (.string x.kindName)]
  | .json, _ => [.ok (.string x.text)]
  | .raise, _ => [.error (.raised x)]
  | _, _ => []

end Primitive

end Specimen.Filter
