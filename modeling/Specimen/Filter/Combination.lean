import Specimen.Filter.Syntax

/-! Several filters at once. Operators, objects, interpolated strings and accesses all take one
output each of a row of filters and make something of the outputs chosen. -/
namespace Specimen.Filter

/-- What is made of one output each of several filters. -/
inductive Combination where
  | calculate (operation : Arithmetic)
  | compare (relation : Comparison)
  /-- The outputs are keys and their values in turn. -/
  | object
  /-- The outputs go where the fragments hold filters. -/
  | text (fragments : List Fragment)
  /-- The outputs are the keys and bounds of the accesses. -/
  | access (base : Value) (accesses : List Access)

/-- The filters among the fragments. -/
def filtersIn (fragments : List Fragment) : List Term :=
  fragments.filterMap fun
    | .chars _ => none
    | .filter f => some f

/-- The text of the fragments with the given values in place of the filters. -/
def fillFragments : List Fragment → List Value → String
  | [], _ => ""
  | .chars s :: rest, xs => s ++ fillFragments rest xs
  | .filter _ :: rest, x :: xs => x.shown ++ fillFragments rest xs
  | .filter _ :: rest, [] => fillFragments rest []

/-- The object of keys and values in turn, added to the members so far. -/
def addMembers (members : List (String × Value)) : List Value → Outcome
  | .string key :: x :: rest => addMembers (Value.setMember key x members) rest
  | [] => .ok (.object members)
  | _ => .error .keyNotString

namespace Access

/-- The filters an access takes its keys and bounds from. -/
def filters : Access → List Term
  | .index key _ => [key]
  | .slice start stop _ => start.toList ++ stop.toList
  | .iterate _ => []

def lenient : Access → Bool
  | .index _ lenient | .slice _ _ lenient | .iterate lenient => lenient

/-- What an access finds, given the outputs of its filters. -/
def find (x : Value) : Access → List Value → Except Fault (List Value)
  | .index _ _, [key] => (x.index key).map ([·])
  | .slice (some _) (some _) _, [start, stop] => (x.slice start stop).map ([·])
  | .slice (some _) none _, [start] => (x.slice start none).map ([·])
  | .slice none (some _) _, [stop] => (x.slice none stop).map ([·])
  | .slice none none _, _ => (x.slice none none).map ([·])
  | .iterate _, _ => x.items
  | _, _ => .ok []

end Access

/-- What accesses lead to one after the other, given the outputs of all their filters. -/
def follow : List Access → List Value → Value → List Outcome
  | [], _, x => [.ok x]
  | access :: rest, chosen, x =>
    let count := access.filters.length
    match access.find x (chosen.take count) with
    | .ok xs => xs.flatMap (follow rest (chosen.drop count))
    | .error fault => if access.lenient then [] else [.error fault]

def Combination.outcomes : Combination → List Value → List Outcome
  | .calculate operation, [x, y] => [Value.calculate operation x y]
  | .compare relation, [x, y] => [.ok (.bool (relation.holds (x.compare y)))]
  | .object, xs => [addMembers [] xs]
  | .text fragments, xs => [.ok (.string (fillFragments fragments xs))]
  | .access base accesses, xs => follow accesses xs base
  | _, _ => []

end Specimen.Filter
