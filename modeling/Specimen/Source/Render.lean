import Specimen.Source.TypeScript
import Specimen.Source.Rust

/-! Whole files of source code: every class of a model once, in model order. With a secondary
namespace the classes that are not the root come first, in a block of their own; if there are none,
that namespace is left out. -/
namespace Specimen.Source

inductive Language where
  | typescript
  | rust
  deriving DecidableEq

def Language.writer : Language → Writer
  | .typescript => TypeScript.writer
  | .rust => Rust.writer

def Language.ofName? (name : String) : Option Language :=
  if name = "typescript" then some .typescript
  else if name = "rust" then some .rust
  else none

/-- The settings without a secondary namespace that no class would be in. -/
def effectiveSettings (m : TypeModel) (s : Settings) : Settings :=
  if m.classes.all ClassDef.isRoot then { s with secondaryNamespace := none } else s

def blockLines (w : Writer) (m : TypeModel) (s : Settings) (classes : List ClassDef) (root : Bool) :
    List String :=
  w.blockStart s root ++ classes.flatMap (w.typeLines m s) ++ w.blockEnd s root

def fileLines (w : Writer) (m : TypeModel) (s : Settings) : List String :=
  let s := effectiveSettings m s
  let blocks :=
    if s.secondaryNamespace.isSome then
      blockLines w m s (m.classes.filter (!·.isRoot)) false ++
        blockLines w m s (m.classes.filter (·.isRoot)) true
    else blockLines w m s m.classes true
  w.fileStart ++ blocks ++ w.fileEnd

def render (language : Language) (m : TypeModel) (s : Settings) : String :=
  unlines (fileLines language.writer m s)

end Specimen.Source
