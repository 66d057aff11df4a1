import Specimen.Settings.Basic

/-! What a target language has to say to have source code written in it. All text is given as lines.
-/
namespace Specimen.Source

structure Writer where
  fileExtension : String
  displayName : String
  /-- A reference to a type. -/
  typeName : TypeModel → TypeNode → String
  /-- The definition of one class. -/
  typeLines : TypeModel → Settings → ClassDef → List String
  fileStart : List String
  fileEnd : List String
  /-- What opens and closes the block of the root class, or of the others. -/
  blockStart : Settings → Bool → List String
  blockEnd : Settings → Bool → List String

/-- Lines as text, each with its line feed. -/
def unlines (lines : List String) : String := String.join (lines.map (· ++ "\n"))

/-- The comment at the head of every file. -/
def headerLines : List String :=
  ["// Generated by json-classgen from sample JSON documents.",
   "// Edits will be lost when the file is regenerated."]

/-- One level of indentation. -/
def indentation : String := "    "

/-- Indents every line but the empty ones. -/
def indent (lines : List String) : List String :=
  lines.map fun line => if line.isEmpty then line else indentation ++ line

/-- Definitions stand one level deeper inside a namespace. -/
def inNamespace (s : Settings) (root : Bool) (lines : List String) : List String :=
  if (s.namespaceFor root).isSome then indent lines else lines

/-- The examples of a field that are to be shown. -/
def shownExamples (s : Settings) (f : FieldInfo) : List Json :=
  if s.examplesInDocumentation then f.examples.take s.exampleLimit else []

/-- The comment has examples to show, even if the limit leaves none of them. -/
def showsExamples (s : Settings) (f : FieldInfo) : Bool :=
  s.examplesInDocumentation && !f.examples.isEmpty

end Specimen.Source
