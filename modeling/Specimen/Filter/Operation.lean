import Specimen.Filter.Value

/-! What filters do to single values: arithmetic, looking inside, counting. -/
namespace Specimen.Filter

/-- Why an operation has no result. -/
inductive Fault where
  | notIndexable
  | notIterable
  | badBound
  | badOperands
  | keyNotString
  | noLength
  | notSortable
  | raised (value : Value)
  | tooLong

def Fault.message : Fault → String
  | .notIndexable => "the value cannot be indexed this way"
  | .notIterable => "the value has no items"
  | .badBound => "a slice is not bounded by whole numbers"
  | .badOperands => "the operation is not defined for these operands"
  | .keyNotString => "an object key is not a string"
  | .noLength => "the value has no length"
  | .notSortable => "only arrays are sorted"
  | .raised value => value.shown
  | .tooLong => "the evaluation does not end"

abbrev Outcome := Except Fault Value

inductive Arithmetic where
  | add
  | sub
  | mul
  | div
  | rem
  deriving DecidableEq

inductive Comparison where
  | eq
  | ne
  | lt
  | gt
  | le
  | ge
  deriving DecidableEq

def Comparison.holds : Comparison → Ordering → Bool
  | .eq, o => o.isEq
  | .ne, o => o.isNe
  | .lt, o => o.isLT
  | .gt, o => o.isGT
  | .le, o => o.isLE
  | .ge, o => o.isGE

namespace Value

/-! ### Objects -/

/-- A key that is present keeps its place and takes the new value; a new key goes last. -/
def setMember (key : String) (x : Value) : List (String × Value) → List (String × Value)
  | [] => [(key, x)]
  | (k, y) :: rest => if k = key then (k, x) :: rest else (k, y) :: setMember key x rest

def union (ms ns : List (String × Value)) : List (String × Value) :=
  ns.foldl (fun ms (k, x) => setMember k x ms) ms

mutual

/-- A value in place of an older one; two objects are united instead. -/
def overlay (old : Option Value) : Value → Value
  | .object ns =>
    match old with
    | some (.object ms) => .object (deepUnion ms ns)
    | _ => .object ns
  | x => x
termination_by structural x => x

def deepUnion (ms : List (String × Value)) : List (String × Value) → List (String × Value)
  | [] => ms
  | (k, x) :: rest => deepUnion (setMember k (overlay (ms.lookup k) x) ms) rest
termination_by structural ns => ns

end

/-! ### Arithmetic -/

/-- Repeated no times, a string is a null. -/
def repeated (s : String) (n : Int) : Value :=
  if 0 < n then .string (String.join (List.replicate n.toNat s)) else .null

/-- The parts of a string between separators; its characters if the separator is empty. -/
def parts (s separator : String) : List String :=
  if s.isEmpty then []
  else if separator.isEmpty then s.toList.map fun c => String.ofList [c]
  else s.splitOn separator

def calculate : Arithmetic → Value → Value → Outcome
  | .add, .null, y => .ok y
  | .add, x, .null => .ok x
  | .add, .number m, .number n => .ok (.number (m.add n))
  | .add, .string s, .string t => .ok (.string (s ++ t))
  | .add, .array xs, .array ys => .ok (.array (xs ++ ys))
  | .add, .object ms, .object ns => .ok (.object (union ms ns))
  | .sub, .number m, .number n => .ok (.number (m.sub n))
  | .sub, .array xs, .array ys => .ok (.array (xs.filter fun x => !ys.any x.same))
  | .mul, .number m, .number n => .ok (.number (m.mul n))
  | .mul, .string s, .number (.int n) => .ok (repeated s n)
  | .mul, .number (.int n), .string s => .ok (repeated s n)
  | .mul, .object ms, .object ns => .ok (.object (deepUnion ms ns))
  | .div, .number m, .number n => .ok (.number (m.div n))
  | .div, .string s, .string t => .ok (.array ((parts s t).map .string))
  | .rem, .number m, .number n =>
    match m.rem? n with
    | some r => .ok (.number r)
    | none => .error .badOperands
  | _, _, _ => .error .badOperands

def negate : Value → Outcome
  | .number n => .ok (.number n.neg)
  | _ => .error .badOperands

/-! ### Looking inside -/

/-- A place counted from the front, or from the end if negative. -/
def fromEnd (place : Int) (length : Nat) : Int := if place < 0 then length + place else place

/-- A null stands for the item of an array or the member of an object that is not there. -/
def index : Value → Value → Outcome
  | .array items, .number (.int place) =>
    let place := fromEnd place items.length
    .ok (if place < 0 then .null else (items[place.toNat]?).getD .null)
  | .object members, .string key => .ok ((members.lookup key).getD .null)
  | _, _ => .error .notIndexable

/-- What a bound counts to, kept within the length; a bound left out is the end it stands at. -/
def boundPlace (length absent : Nat) : Option Value → Except Fault Nat
  | none => .ok absent
  | some (.number (.int place)) => .ok (min length (fromEnd place length).toNat)
  | some _ => .error .badBound

def between {α : Type} (xs : List α) (start? stop? : Option Value) : Except Fault (List α) := do
  let start ← boundPlace xs.length 0 start?
  let stop ← boundPlace xs.length xs.length stop?
  return (xs.take stop).drop start

/-- A part of an array, or of a string by its characters. -/
def slice (x : Value) (start? stop? : Option Value) : Outcome :=
  match x with
  | .array items => (between items start? stop?).map .array
  | .string s => (between s.toList start? stop?).map fun cs => .string (String.ofList cs)
  | _ => .error .notIndexable

def items : Value → Except Fault (List Value)
  | .array xs => .ok xs
  | .object ms => .ok (ms.map Prod.snd)
  | _ => .error .notIterable

/-! ### Counting -/

/-- The magnitude of a number, the number of characters, items or members of others. -/
def length : Value → Outcome
  | .null => .ok (int 0)
  | .bool _ => .error .noLength
  | .number n => .ok (.number n.abs)
  | .string s => .ok (int s.length)
  | .array xs => .ok (int xs.length)
  | .object ms => .ok (int ms.length)

/-- The places of an array's items, or the keys of an object in their own order. -/
def keys : Value → Outcome
  | .array xs => .ok (.array ((List.range xs.length).map fun (i : Nat) => int i))
  | .object ms => .ok (.array (ms.map fun m => .string m.1))
  | _ => .error .notIterable

/-- Whether an index would find something. -/
def has : Value → Value → Outcome
  | .array xs, .number (.int place) =>
    if 0 ≤ place then .ok (.bool (place.toNat < xs.length)) else .error .notIndexable
  | .object ms, .string key => .ok (.bool (ms.lookup key).isSome)
  | _, _ => .error .notIndexable

/-- Items that compare as equal keep their order. -/
def sort : Value → Outcome
  | .array xs => .ok (.array (xs.mergeSort fun x y => (x.compare y).isLE))
  | _ => .error .notSortable

/-- The sum of the items, a null if there are none. -/
def sum (x : Value) : Outcome := do (← x.items).foldlM (calculate .add) .null

/-- Whether counting by steps goes on at a value: it has not reached the stop in the direction of
the steps. Without a direction, it goes on until it meets the stop. -/
def countsOn (step stop x : Value) : Bool :=
  match step.compare (int 0) with
  | .gt => (x.compare stop).isLT
  | .lt => (x.compare stop).isGT
  | .eq => !x.same stop

end Value

end Specimen.Filter
