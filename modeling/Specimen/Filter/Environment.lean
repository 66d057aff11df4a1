import Specimen.Filter.Syntax

/-! What names stand for while a filter is evaluated. -/
namespace Specimen.Filter

/-- What names stand for, the innermost first. -/
inductive Environment where
  | empty
  | variable (name : String) (value : Value) (outer : Environment)
  | definition (definition : Definition) (outer : Environment)
  /-- An argument is evaluated in the environment of the call it was given in. -/
  | argument (name : String) (body : Term) (scope outer : Environment)

namespace Environment

def binding? (name : String) : Environment → Option Value
  | .empty => none
  | .variable n value outer => if n = name then some value else outer.binding? name
  | .definition _ outer => outer.binding? name
  | .argument _ _ _ outer => outer.binding? name

/-- What a call refers to. -/
inductive Target where
  /-- A definition, with the environment that starts at it. -/
  | definition (definition : Definition) (scope : Environment)
  | argument (body : Term) (scope : Environment)

def target? (name : String) (arity : Nat) : Environment → Option Target
  | .empty => none
  | .variable _ _ outer => outer.target? name arity
  | .definition d outer =>
    if d.name = name && d.parameters.length = arity then some (.definition d (.definition d outer))
    else outer.target? name arity
  | .argument n body scope outer =>
    if n = name && arity = 0 then some (.argument body scope) else outer.target? name arity

end Environment

end Specimen.Filter
