import Specimen.Evidence.Shape

/-! The table of classes. Interning walks a tree of evidence, children before parents, and replaces
each shape by a class: the first registered class with the same keys whose field types are all
compatible with the shape's, which then absorbs the shape, or else a new one. Nested objects are
told apart by their class, so two parents share a class only if their children already do.

An index from key lists to classes saves the scan of the whole table. -/
namespace Specimen

/-- A class by its place in the table. -/
structure ClassId where
  index : Nat
  deriving DecidableEq

/-- Objects already interned merge only with themselves. -/
instance : Mergeable ClassId where
  merge a b := if a = b then some a else none
  compatible a b := a == b

/-- A class under construction. -/
structure ClassEntry where
  fields : List (Field ClassId)
  /-- How many objects were merged into the class. -/
  samples : Nat
  isRoot : Bool := false

namespace ClassEntry

/-- The keys are the same and every field type is compatible. -/
def accepts (entry : ClassEntry) (fields : List (Field ClassId)) : Bool :=
  entry.fields.length == fields.length &&
    fields.all fun theirs =>
      match Field.find? entry.fields theirs.name with
      | some ours => ours.type.isCompatible theirs.type
      | none => false

/-- Widens the fields by those of another object with the same keys. -/
def absorb (entry : ClassEntry) (fields : List (Field ClassId)) (samples : Nat) : ClassEntry :=
  { entry with
    fields := entry.fields.map fun ours =>
      match Field.find? fields ours.name with
      | some theirs => ours.absorb theirs
      | none => ours
    samples := entry.samples + samples }

end ClassEntry

/-- Inserts a string into a sorted list. -/
def insertSorted (s : String) : List String → List String
  | [] => [s]
  | t :: rest => if s ≤ t then s :: t :: rest else t :: insertSorted s rest

/-- The keys of a list of fields in one order for each set of keys. -/
def sortedKeys (fields : List (Field ClassId)) : List String :=
  (fields.map Field.name).foldr insertSorted []

/-- Classes in order of discovery, and for each sorted list of keys the classes that have them. -/
structure ClassTable where
  entries : List ClassEntry := []
  byKeys : List (List String × List ClassId) := []

namespace ClassTable

def entry? (t : ClassTable) (id : ClassId) : Option ClassEntry := t.entries[id.index]?

def fieldsOf (t : ClassTable) (id : ClassId) : List (Field ClassId) :=
  match t.entry? id with
  | some entry => entry.fields
  | none => []

/-- Adds a class to those indexed under a list of keys. -/
def indexUnder (keys : List String) (id : ClassId) :
    List (List String × List ClassId) → List (List String × List ClassId)
  | [] => [(keys, [id])]
  | (ks, ids) :: rest =>
    if ks = keys then (ks, ids ++ [id]) :: rest else (ks, ids) :: indexUnder keys id rest

/-- The first class under the keys that accepts the fields. -/
def accepting? (t : ClassTable) (keys : List String) (fields : List (Field ClassId)) :
    Option ClassId :=
  ((t.byKeys.lookup keys).getD []).find? fun id =>
    match t.entry? id with
    | some entry => entry.accepts fields
    | none => false

/-- Finds or makes the class of an object with the given fields, seen `seen` times. -/
def register (fields : List (Field ClassId)) (seen : Nat) (t : ClassTable) : ClassId × ClassTable :=
  let keys := sortedKeys fields
  match t.accepting? keys fields with
  | some id => (id, { t with entries := t.entries.modify id.index (·.absorb fields seen) })
  | none =>
    let id : ClassId := ⟨t.entries.length⟩
    (id, { entries := t.entries ++ [⟨fields, seen, false⟩], byKeys := indexUnder keys id t.byKeys })

mutual

/-- Evidence with every shape replaced by its class. -/
def intern : Evidence Shape → ClassTable → Evidence ClassId × ClassTable
  | .unknown, t => (.unknown, t)
  | .null, t => (.null, t)
  | .anything nullable, t => (.anything nullable, t)
  | .scalar kind nullable, t => (.scalar kind nullable, t)
  | .array item nullable, t =>
    let (item, t) := intern item t
    (.array item nullable, t)
  | .dictionary value nullable, t =>
    let (value, t) := intern value t
    (.dictionary value nullable, t)
  | .object shape nullable, t =>
    let (id, t) := internShape shape t
    (.object id nullable, t)
termination_by structural e => e

def internShape : Shape → ClassTable → ClassId × ClassTable
  | ⟨fields, seen⟩, t =>
    let (fields, t) := internFields fields t
    register fields seen t
termination_by structural s => s

def internFields : List (Field Shape) → ClassTable → List (Field ClassId) × ClassTable
  | [], t => ([], t)
  | ⟨name, type, presentIn, examples⟩ :: rest, t =>
    let (type, t) := intern type t
    let (rest, t) := internFields rest t
    (⟨name, type, presentIn, examples⟩ :: rest, t)
termination_by structural fs => fs

end

/-- Interns the evidence of the whole run. If it is an object, its class is marked as the root. -/
def internRoot (e : Evidence Shape) (t : ClassTable) : Evidence ClassId × ClassTable :=
  match intern e t with
  | (.object id nullable, t) =>
    (.object id nullable,
      { t with entries := t.entries.modify id.index fun entry => { entry with isRoot := true } })
  | result => result

end ClassTable

end Specimen
