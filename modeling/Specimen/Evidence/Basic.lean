/-! What has been seen at one position of the samples.

`Evidence O` says which kind of value occurs there and whether a null does, for objects represented
by `O`: a shape with all its fields while samples are being read, the name of a class once shapes
have been interned. Two pieces of evidence about one position are put together by `join`, which
never fails: kinds that cannot be reconciled become `anything`. `isCompatible` foretells whether
that happens. -/
namespace Specimen

/-- Kinds of values without parts. Of the numbers, `integer` fits 32 bits, `long` fits 64. -/
inductive Scalar where
  | boolean
  | integer
  | long
  | float
  | date
  | string
  deriving DecidableEq

namespace Scalar

/-- The place of a number kind in the order of widening. -/
def width? : Scalar → Option Nat
  | .integer => some 0
  | .long => some 1
  | .float => some 2
  | _ => none

/-- The narrowest kind that admits the values of both, if there is one. -/
def join (a b : Scalar) : Option Scalar :=
  if a = b then some a
  else match a.width?, b.width? with
    | some m, some n => some (if m ≤ n then b else a)
    | _, _ => none

end Scalar

/-- `unknown` stands for no observation at all, `null` for nothing but nulls, `anything` for
observations that agree on no kind. -/
inductive Evidence (O : Type) where
  | unknown
  | null
  | anything (nullable : Bool)
  | scalar (kind : Scalar) (nullable : Bool)
  | array (item : Evidence O) (nullable : Bool)
  | dictionary (value : Evidence O) (nullable : Bool)
  | object (object : O) (nullable : Bool)

/-- How two objects at one position merge, and whether they may share a definition. -/
class Mergeable (O : Type) where
  merge : O → O → Option O
  compatible : O → O → Bool

namespace Evidence
variable {O : Type}

def isAnything : Evidence O → Bool
  | .anything _ => true
  | _ => false

/-- A null was seen here, or the key was missing. -/
def isNullable : Evidence O → Bool
  | .unknown => false
  | .null => true
  | .anything nullable => nullable
  | .scalar _ nullable => nullable
  | .array _ nullable => nullable
  | .dictionary _ nullable => nullable
  | .object _ nullable => nullable

/-- The same evidence with a null added. -/
def intoNullable : Evidence O → Evidence O
  | .unknown => .null
  | .null => .null
  | .anything _ => .anything true
  | .scalar kind _ => .scalar kind true
  | .array item _ => .array item true
  | .dictionary value _ => .dictionary value true
  | .object o _ => .object o true

/-- The object at the end of a chain of arrays and dictionaries. -/
def innermost? : Evidence O → Option O
  | .array item _ => item.innermost?
  | .dictionary value _ => value.innermost?
  | .object o _ => some o
  | _ => none

/-- Two observations of one position together, where `merge` puts two objects together. -/
def joinWith (merge : O → O → Option O) (a b : Evidence O) : Evidence O :=
  match a, b with
  | .unknown, e => e
  | e, .unknown => e
  | .anything m, e => .anything (m || e.isNullable)
  | e, .anything n => .anything (e.isNullable || n)
  | .null, e => e.intoNullable
  | e, .null => e.intoNullable
  | .scalar j m, .scalar k n =>
    match j.join k with
    | some kind => .scalar kind (m || n)
    | none => .anything (m || n)
  | .array x m, .array y n => .array (joinWith merge x y) (m || n)
  | .dictionary x m, .dictionary y n => .dictionary (joinWith merge x y) (m || n)
  | .object x m, .object y n =>
    match merge x y with
    | some o => .object o (m || n)
    | none => .anything (m || n)
  | e, f => .anything (e.isNullable || f.isNullable)

/-- Joining would produce no `anything` that is not there already. -/
def compatibleWith (compatible : O → O → Bool) (a b : Evidence O) : Bool :=
  match a, b with
  | .unknown, _ => true
  | _, .unknown => true
  | .anything _, .anything _ => true
  | .anything _, _ => false
  | _, .anything _ => false
  | .null, _ => true
  | _, .null => true
  | .scalar j _, .scalar k _ => (j.join k).isSome
  | .array x _, .array y _ => compatibleWith compatible x y
  | .dictionary x _, .dictionary y _ => compatibleWith compatible x y
  | .object x _, .object y _ => compatible x y
  | _, _ => false

def join [Mergeable O] : Evidence O → Evidence O → Evidence O := joinWith Mergeable.merge

def isCompatible [Mergeable O] : Evidence O → Evidence O → Bool :=
  compatibleWith Mergeable.compatible

/-- Everything seen at one position. -/
def joinAll [Mergeable O] (es : List (Evidence O)) : Evidence O := es.foldl join .unknown

end Evidence

end Specimen
