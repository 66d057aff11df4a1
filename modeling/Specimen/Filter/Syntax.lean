import Specimen.Filter.Operation

/-! The language of filters. A filter maps a value to any number of values. -/
namespace Specimen.Filter

inductive Logic where
  | and
  | or
  deriving DecidableEq

/-- An argument is a filter, or for a variable one of the filter's outputs at a time. -/
inductive Parameter where
  | filter (name : String)
  | variable (name : String)
  deriving DecidableEq

mutual

inductive Term where
  /-- The value itself. -/
  | identity
  | number (literal : Numeral)
  | text (fragments : List Fragment)
  /-- All outputs of the filter in one array, or an empty array. -/
  | array (inside : Option Term)
  /-- An object for every choice among the outputs for its keys and values. -/
  | object (members : List (Term × Term))
  | negate (operand : Term)
  | pipe (first second : Term)
  /-- The body runs on the value itself, once for each output of the source, which the pattern takes
  apart. -/
  | bind (source : Term) (pattern : Pattern) (body : Term)
  | comma (first second : Term)
  | calculate (operation : Arithmetic) (left right : Term)
  | compare (relation : Comparison) (left right : Term)
  | logic (connective : Logic) (left right : Term)
  /-- The true outputs of the left filter, or if there are none all of the right. -/
  | otherwise (left right : Term)
  | branch (condition yes no : Term)
  | define (definition : Definition) (body : Term)
  | call (name : String) (arguments : List Term)
  | variable (name : String)
  /-- What the accesses lead to, one after the other. Their keys and bounds are filters of the value
  itself, not of the base. -/
  | access (base : Term) (accesses : List Access)
  /-- The outputs up to the first fault. -/
  | attempt (body : Term)

/-- A look into a value. If it is lenient, a value that cannot be looked into that way gives no
output instead of a fault. -/
inductive Access where
  | index (key : Term) (lenient : Bool)
  | slice (start stop : Option Term) (lenient : Bool)
  | iterate (lenient : Bool)

/-- What a value is taken apart by: it goes under a name, or parts of it do. -/
inductive Pattern where
  | variable (name : String)
  | parts (entries : List (Term × Pattern))

/-- A piece of a string: characters, or a filter whose outputs are put in their place. -/
inductive Fragment where
  | chars (value : String)
  | filter (term : Term)

inductive Definition where
  | mk (name : String) (parameters : List Parameter) (body : Term)

end

mutual

/-- The names a pattern gives, in order. -/
def Pattern.names : Pattern → List String
  | .variable name => [name]
  | .parts entries => namesOfEntries entries
termination_by structural pattern => pattern

def namesOfEntries : List (Term × Pattern) → List String
  | [] => []
  | (_, pattern) :: rest => pattern.names ++ namesOfEntries rest
termination_by structural entries => entries

end

namespace Definition

def name : Definition → String
  | .mk name _ _ => name

def parameters : Definition → List Parameter
  | .mk _ parameters _ => parameters

def body : Definition → Term
  | .mk _ _ body => body

end Definition

end Specimen.Filter
