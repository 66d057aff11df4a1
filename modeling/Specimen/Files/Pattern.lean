import Specimen.Text.Basic

/-! Patterns for file names: `?` for any character, `*` for any run of characters, sets of
characters in square brackets, and `**` for any run of directories. -/
namespace Specimen.Files
open Text

/-- The characters from `first` to `last`. -/
structure CharSpan where
  first : Char
  last : Char

def CharSpan.covers (span : CharSpan) (c : Char) : Bool := span.first ≤ c && c ≤ span.last

inductive Wildcard where
  | char (c : Char)
  | anyChar
  | anyRun
  | oneOf (spans : List CharSpan)
  | noneOf (spans : List CharSpan)
  /-- Any run of directories. -/
  | anyPath

inductive PatternFault where
  | longRun
  | runInName
  | badSet
  deriving DecidableEq

def PatternFault.message : PatternFault → String
  | .longRun => "wildcards are either regular `*` or recursive `**`"
  | .runInName => "recursive wildcards must form a single path component"
  | .badSet => "invalid range pattern"

/-- A fault with the number of characters before it. -/
structure PatternError where
  fault : PatternFault
  position : Nat
  deriving DecidableEq

def PatternError.message (e : PatternError) : String :=
  "Pattern syntax error near position " ++ decimal e.position ++ ": " ++ e.fault.message

/-! ### Reading -/

/-- The spans that the inside of a set lists. -/
def spans : List Char → List CharSpan
  | a :: '-' :: b :: cs => ⟨a, b⟩ :: spans cs
  | c :: cs => ⟨c, c⟩ :: spans cs
  | [] => []

/-- The inside of a set, which has at least one character, and what follows its bracket. -/
def setInside? : List Char → Option (List Char × List Char)
  | [] => none
  | c :: cs =>
    match cs.dropWhile (· != ']') with
    | _ :: rest => some (c :: cs.takeWhile (· != ']'), rest)
    | [] => none

/-- A set after its opening bracket. -/
def readSet? : List Char → Option (Wildcard × List Char)
  | '!' :: cs => (setInside? cs).map fun (inside, rest) => (.noneOf (spans inside), rest)
  | cs => (setInside? cs).map fun (inside, rest) => (.oneOf (spans inside), rest)

/-- Reads a pattern. `before` is the character to the left, `position` how many there are. Every
step takes a character, so the length of the pattern is fuel enough. -/
def readWildcards : Nat → Option Char → Nat → List Char → Except PatternError (List Wildcard)
  | 0, _, _, _ => .ok []
  | _ + 1, _, _, [] => .ok []
  | fuel + 1, before, position, c :: cs => do
    if c = '?' then return .anyChar :: (← readWildcards fuel (some c) (position + 1) cs)
    else if c = '*' then
      let others := (cs.takeWhile (· = '*')).length
      let rest := cs.dropWhile (· = '*')
      if others = 0 then return .anyRun :: (← readWildcards fuel (some c) (position + 1) cs)
      else if others = 1 then
        if !before.all (· = '/') then throw ⟨.runInName, position - 1⟩
        else match rest with
          | [] => return [.anyPath]
          | '/' :: rest => return .anyPath :: (← readWildcards fuel (some '/') (position + 3) rest)
          | _ => throw ⟨.runInName, position + 2⟩
      else throw ⟨.longRun, position + 2⟩
    else if c = '[' then
      match readSet? cs with
      | some (set, rest) =>
        let length := 1 + cs.length - rest.length
        return set :: (← readWildcards fuel (some ']') (position + length) rest)
      | none => throw ⟨.badSet, position⟩
    else return .char c :: (← readWildcards fuel (some c) (position + 1) cs)

def wildcardsOf (pattern : String) : Except PatternError (List Wildcard) :=
  readWildcards (pattern.length + 1) none 0 pattern.toList

/-! ### Matching -/

namespace Wildcard

/-- Whether a single character fits. A run is no single character. -/
def fits (c : Char) : Wildcard → Bool
  | .char d => c == d
  | .anyChar => true
  | .oneOf spans => spans.any (·.covers c)
  | .noneOf spans => !spans.any (·.covers c)
  | .anyRun | .anyPath => false

def isRun : Wildcard → Bool
  | .anyRun | .anyPath => true
  | _ => false

/-- Whether some end of a name, the whole of it and the empty one included, has a property. -/
def someEnd (p : List Char → Bool) : List Char → Bool
  | [] => p []
  | c :: cs => p (c :: cs) || someEnd p cs

/-- Whether a whole name fits. -/
def fitAll : List Wildcard → List Char → Bool
  | [], name => name.isEmpty
  | wildcard :: wildcards, name =>
    if wildcard.isRun then someEnd (fitAll wildcards) name
    else match name with
      | [] => false
      | c :: rest => wildcard.fits c && fitAll wildcards rest

def char? : Wildcard → Option Char
  | .char c => some c
  | _ => none

/-- The only name that a pattern without wildcards fits. -/
def literal? (wildcards : List Wildcard) : Option String := (wildcards.mapM char?).map String.ofList

/-- Whether a pattern stands for any run of directories. -/
def isPath : List Wildcard → Bool
  | [.anyPath] => true
  | _ => false

end Wildcard

end Specimen.Files
