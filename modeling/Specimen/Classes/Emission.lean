import Specimen.Classes.Table

/-! The order in which classes are emitted: a class after every class its fields lead to, unless the
walk is still inside that class because it leads back here. -/
namespace Specimen

/-- A walk in progress: the classes entered, and those completed in order. -/
structure EmissionWalk where
  entered : List ClassId := []
  order : List ClassId := []

namespace EmissionWalk

/-- Walks the classes a type leads to. Every level enters a class, so the number of classes bounds
the depth. -/
def visit (t : ClassTable) : Nat → Evidence ClassId → EmissionWalk → EmissionWalk
  | 0, _, walk => walk
  | depth + 1, type, walk =>
    match type.innermost? with
    | none => walk
    | some id =>
      if walk.entered.contains id then walk
      else
        let inside := (t.fieldsOf id).foldl (fun walk f => visit t depth f.type walk)
          { walk with entered := id :: walk.entered }
        { inside with order := inside.order ++ [id] }

end EmissionWalk

/-- The classes reached from the root, each once, dependencies first. -/
def emissionOrder (t : ClassTable) (root : Evidence ClassId) : List ClassId :=
  (EmissionWalk.visit t (t.entries.length + 1) root {}).order

end Specimen
