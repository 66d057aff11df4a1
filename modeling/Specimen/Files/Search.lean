import Specimen.Files.Host
import Specimen.Files.Path
import Specimen.Files.Pattern

/-! The paths that a pattern matches. A pattern is cut at its slashes; the search goes down from the
directory it starts in, one part of the pattern a level, and through all levels below where a part
is `**`. -/
namespace Specimen.Files

/-- Why a search fails: the pattern is none, or a directory cannot be listed. -/
inductive SearchError where
  | badPattern (cause : PatternError)
  | unlisted (directory : String) (cause : Fault)

/-- A path in a directory. The current directory is not mentioned in it. -/
def entryPath (directory name : String) : String :=
  if components directory = [.here] then name else join directory name

section
variable {m : Type → Type} [Monad m] [Host m]

def isDirectory (path : String) : ExceptT SearchError m Bool := do
  return (← (Host.isDirectory? path : m (Option Bool))) == some true

def exists? (path : String) : ExceptT SearchError m Bool := do
  return (← (Host.isDirectory? path : m (Option Bool))).isSome

def list (directory : String) : ExceptT SearchError m (List String) := do
  match ← (Host.list directory : m (Except Fault (List String))) with
  | .ok names => return names
  | .error fault => throw (.unlisted directory fault)

mutual

/-- The matches right in a directory or further down. The last argument but one is the path of the
directory; with `onlyDirectories` a match has to be one. -/
def below (onlyDirectories : Bool) : Nat → String → List (List Wildcard) →
    ExceptT SearchError m (List String)
  | 0, _, _ => return []
  | _ + 1, _, [] => return []
  | fuel + 1, path, wildcards :: rest => do
    match Wildcard.literal? wildcards with
    | some name =>
      -- A part without wildcards need not be looked for in the list of names.
      let next := entryPath path name
      let there ← if name = "." || name = ".." then isDirectory path else exists? next
      if there then goOn onlyDirectories fuel next rest else return []
    | none =>
      if ← isDirectory path then
        let inside ← (← list path).mapM fun name =>
          among onlyDirectories fuel (entryPath path name) name (wildcards :: rest)
        let special := [".", ".."].filter fun name =>
          (wildcards.head?.bind Wildcard.char?) == some '.' && Wildcard.fitAll wildcards name.toList
        let aside ← special.mapM fun name => goOn onlyDirectories fuel (join path name) rest
        return (inside ++ aside).flatten
      else return []

/-- The matches from a path whose own part of the pattern it fits. -/
def goOn (onlyDirectories : Bool) : Nat → String → List (List Wildcard) →
    ExceptT SearchError m (List String)
  | 0, _, _ => return []
  | _ + 1, path, [] => do
    if onlyDirectories && !(← isDirectory path) then return [] else return [path]
  | fuel + 1, path, rest => below onlyDirectories fuel path rest

/-- The matches among an entry and what is below it. -/
def among (onlyDirectories : Bool) : Nat → String → String → List (List Wildcard) →
    ExceptT SearchError m (List String)
  | 0, _, _, _ => return []
  | _ + 1, _, _, [] => return []
  | fuel + 1, path, name, wildcards :: rest => do
    if Wildcard.isPath wildcards then
      let rest := rest.dropWhile Wildcard.isPath
      let directory ← isDirectory path
      let inside ←
        if directory then below onlyDirectories fuel path (wildcards :: rest) else pure []
      let here ← match rest with
        | [] => pure (if directory then [path] else [])
        | part :: others =>
          if Wildcard.fitAll part name.toList then goOn onlyDirectories fuel path others
          else pure []
      return inside ++ here
    else if Wildcard.fitAll wildcards name.toList then goOn onlyDirectories fuel path rest
    else return []

end

/-- The parts of a pattern between slashes; a slash at the end starts no further part. -/
def patternParts (pattern : List Char) : List (List Char) :=
  let parts := Text.parts '/' pattern
  if parts.getLast? = some [] then parts.dropLast else parts

/-- No path is longer, and every level takes more of it than steps of the search. -/
def longestPath : Nat := 16384

def wildcardsOrThrow (pattern : List Char) : ExceptT SearchError m (List Wildcard) :=
  match wildcardsOf (String.ofList pattern) with
  | .ok wildcards => return wildcards
  | .error e => throw (.badPattern e)

/-- The paths that a pattern matches, sorted. -/
def search (pattern : String) : ExceptT SearchError m (List String) := do
  let cs := pattern.toList
  let _ ← wildcardsOrThrow cs
  let absolute := isAbsolute pattern
  let parts ← (patternParts (if absolute then cs.tail else cs)).mapM wildcardsOrThrow
  let found ← below (cs.getLast? = some '/') longestPath (if absolute then "/" else ".") parts
  return found.mergeSort fun p q => (comparePaths p q).isLE

end

end Specimen.Files
