import Specimen.Json.Number

/-! JSON values. An object is the list of its members in order of first appearance; `member?` looks
one up by key, and `setMember` keeps keys distinct. -/
namespace Specimen

inductive Json where
  | null
  | bool (value : Bool)
  | number (value : Json.Number)
  | string (value : String)
  | array (items : List Json)
  | object (members : List (String × Json))

namespace Json

def member? (key : String) : Json → Option Json
  | .object members => members.lookup key
  | _ => none

/-- A key that is present keeps its place and takes the new value; a new key goes last. -/
def setMember (key : String) (value : Json) : List (String × Json) → List (String × Json)
  | [] => [(key, value)]
  | (k, v) :: rest => if k = key then (k, value) :: rest else (k, v) :: setMember key value rest

mutual

/-- Equality of values; the order of an object's members does not matter. -/
def same : Json → Json → Bool
  | .null, .null => true
  | .bool a, .bool b => a == b
  | .number m, .number n => m.same n
  | .string s, .string t => s == t
  | .array xs, .array ys => sameItems xs ys
  | .object ms, .object ns => ms.length == ns.length && sameMembers ms ns
  | _, _ => false
termination_by structural x => x

def sameItems : List Json → List Json → Bool
  | [], [] => true
  | x :: xs, y :: ys => x.same y && sameItems xs ys
  | _, _ => false
termination_by structural xs => xs

/-- Every member of the first list has an equal one in the second. -/
def sameMembers : List (String × Json) → List (String × Json) → Bool
  | [], _ => true
  | (k, v) :: rest, others =>
    (match others.lookup k with
      | some w => v.same w
      | none => false) && sameMembers rest others
termination_by structural ms => ms

end

/-- A boolean, a number or a string. -/
def isLiteral : Json → Bool
  | .bool _ | .number _ | .string _ => true
  | _ => false

end Json

end Specimen
