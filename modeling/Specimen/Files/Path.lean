import Specimen.Text.Basic

/-! Paths as text. A path is cut at its slashes; empty pieces and single points say nothing, except
that a leading slash starts at the root and a leading point at the current directory. -/
namespace Specimen.Files

def pieces (path : String) : List String :=
  (Text.parts '/' path.toList).map String.ofList

def isAbsolute (path : String) : Bool := path.toList.head? = some '/'

/-- A step of a path, in the order in which paths are sorted. -/
inductive Component where
  | root
  | here
  | up
  | name (value : String)
  deriving DecidableEq

namespace Component

def rank : Component → Nat
  | .root => 0
  | .here => 1
  | .up => 2
  | .name _ => 3

def compare (a b : Component) : Ordering :=
  match a, b with
  | .name m, .name n => Ord.compare m n
  | a, b => Ord.compare a.rank b.rank

end Component

/-- What a piece says; a single point says something only at the start. -/
def component? (first : Bool) (piece : String) : Option Component :=
  if piece = "" then none
  else if piece = "." then (if first then some .here else none)
  else if piece = ".." then some .up
  else some (.name piece)

def components (path : String) : List Component :=
  if path = "" then []
  else match pieces path with
    | "" :: rest => .root :: rest.filterMap (component? false)
    | first :: rest => (component? true first).toList ++ rest.filterMap (component? false)
    | [] => []

def compareComponents : List Component → List Component → Ordering
  | [], [] => .eq
  | [], _ => .lt
  | _, [] => .gt
  | a :: as, b :: bs => (a.compare b).then (compareComponents as bs)

/-- Paths go by their components, a path before any that it begins. -/
def comparePaths (p q : String) : Ordering := compareComponents (components p) (components q)

/-- The last component, if it is a name. -/
def fileName? (path : String) : Option String :=
  match (components path).getLast? with
  | some (.name n) => some n
  | _ => none

/-- The characters before the last point, or all of them if it comes first or is missing. -/
def stem (name : String) : String :=
  match name.toList.reverse.dropWhile (· != '.') with
  | _ :: before => if before.isEmpty then name else String.ofList before.reverse
  | [] => name

def fileStem? (path : String) : Option String := (fileName? path).map stem

/-- A path below a directory. -/
def join (directory path : String) : String :=
  if isAbsolute path then path
  else if directory = "" || directory.toList.getLast? = some '/' then directory ++ path
  else directory ++ "/" ++ path

/-- Takes pieces that say nothing off the end. The very first piece always stays. -/
def dropSilent : List String → List String
  | [] => []
  | first :: rest => first :: (rest.reverse.dropWhile fun p => (component? false p).isNone).reverse

/-- The path without its last component, or `none` if it has none but the root. -/
def parent? (path : String) : Option String :=
  match (components path).reverse with
  | [] | [.root] => none
  | _ =>
    match dropSilent (dropSilent (pieces path)).dropLast with
    | [] => some ""
    | [""] => some (if isAbsolute path then "/" else "")
    | rest => some ("/".intercalate rest)

end Specimen.Files
