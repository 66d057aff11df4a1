import Specimen.Filter.Syntax

/-! Names in filters. A filter may only mention what is defined around it, even in parts that are
never evaluated; `undefined?` finds the first name that is not. -/
namespace Specimen.Filter

/-- The names that may be mentioned. A filter goes by its name and how many arguments it takes. -/
structure Scope where
  values : List String := []
  filters : List (String × Nat) := []

namespace Scope

def withVariable (scope : Scope) (name : String) : Scope :=
  { scope with values := name :: scope.values }

def withVariables (scope : Scope) (names : List String) : Scope :=
  names.foldl withVariable scope

def withFilter (scope : Scope) (name : String) (arity : Nat) : Scope :=
  { scope with filters := (name, arity) :: scope.filters }

def withParameters (scope : Scope) (parameters : List Parameter) : Scope :=
  parameters.foldl (fun scope parameter =>
    match parameter with
    | .filter name => scope.withFilter name 0
    | .variable name => scope.withVariable name) scope

end Scope

mutual

def Term.undefined? (scope : Scope) : Term → Option String
  | .identity | .number _ | .array none => none
  | .text fragments => undefinedInFragments? scope fragments
  | .array (some f) => f.undefined? scope
  | .object members => undefinedInMembers? scope members
  | .negate f => f.undefined? scope
  | .pipe f g => (f.undefined? scope).or (g.undefined? scope)
  | .bind f pattern g =>
    ((f.undefined? scope).or (pattern.undefined? scope)).or
      (g.undefined? (scope.withVariables pattern.names))
  | .comma f g => (f.undefined? scope).or (g.undefined? scope)
  | .calculate _ f g => (f.undefined? scope).or (g.undefined? scope)
  | .compare _ f g => (f.undefined? scope).or (g.undefined? scope)
  | .logic _ f g => (f.undefined? scope).or (g.undefined? scope)
  | .otherwise f g => (f.undefined? scope).or (g.undefined? scope)
  | .branch f g h => ((f.undefined? scope).or (g.undefined? scope)).or (h.undefined? scope)
  | .define (.mk name parameters body) f =>
    -- A definition may mention itself.
    let scope := scope.withFilter name parameters.length
    (body.undefined? (scope.withParameters parameters)).or (f.undefined? scope)
  | .call name arguments =>
    if scope.filters.contains (name, arguments.length) then undefinedInTerms? scope arguments
    else some name
  | .variable name => if scope.values.contains name then none else some ("$" ++ name)
  | .access f accesses => (f.undefined? scope).or (undefinedInAccesses? scope accesses)
  | .attempt f => f.undefined? scope
termination_by structural f => f

def Access.undefined? (scope : Scope) : Access → Option String
  | .index key _ => key.undefined? scope
  | .slice start stop _ => (undefinedInBound? scope start).or (undefinedInBound? scope stop)
  | .iterate _ => none
termination_by structural access => access

def undefinedInAccesses? (scope : Scope) : List Access → Option String
  | [] => none
  | access :: rest => (access.undefined? scope).or (undefinedInAccesses? scope rest)
termination_by structural accesses => accesses

/-- The keys of a pattern do not see the names it gives. -/
def Pattern.undefined? (scope : Scope) : Pattern → Option String
  | .variable _ => none
  | .parts entries => undefinedInEntries? scope entries
termination_by structural pattern => pattern

def undefinedInEntries? (scope : Scope) : List (Term × Pattern) → Option String
  | [] => none
  | (key, pattern) :: rest =>
    ((key.undefined? scope).or (pattern.undefined? scope)).or (undefinedInEntries? scope rest)
termination_by structural entries => entries

def undefinedInBound? (scope : Scope) : Option Term → Option String
  | none => none
  | some f => f.undefined? scope
termination_by structural bound => bound

def undefinedInTerms? (scope : Scope) : List Term → Option String
  | [] => none
  | f :: fs => (f.undefined? scope).or (undefinedInTerms? scope fs)
termination_by structural fs => fs

def undefinedInMembers? (scope : Scope) : List (Term × Term) → Option String
  | [] => none
  | (f, g) :: rest =>
    ((f.undefined? scope).or (g.undefined? scope)).or (undefinedInMembers? scope rest)
termination_by structural members => members

def undefinedInFragments? (scope : Scope) : List Fragment → Option String
  | [] => none
  | .chars _ :: rest => undefinedInFragments? scope rest
  | .filter f :: rest => (f.undefined? scope).or (undefinedInFragments? scope rest)
termination_by structural fragments => fragments

end

end Specimen.Filter
