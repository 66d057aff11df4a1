import Specimen.Source.Writer
import Specimen.Json.Printer
import Specimen.Text.Snake
import Specimen.Text.Basic
import Specimen.Text.Quoted

/-! Structs in Rust with derived serialization. A field keeps its key by a rename, may be missing if
it was ever missing or null, and is boxed where the struct would otherwise contain itself. -/
namespace Specimen.Source

/-- Searches for `target` from the nodes of the stack along `next`, each node expanded once. The fuel
bounds the nodes taken off the stack. -/
def search {α : Type} [DecidableEq α] (next : α → List α) (target : α) :
    Nat → List α → List α → Bool
  | 0, _, _ => false
  | _ + 1, [], _ => false
  | fuel + 1, a :: stack, seen =>
    if a = target then true
    else if a ∈ seen then search next target fuel stack seen
    else search next target fuel (next a ++ stack) (a :: seen)

end Specimen.Source

namespace Specimen.Source.Rust
open Text

/-! ### Identifiers -/

/-- Words that name something else unless written as raw identifiers. -/
def strictKeywords : List String :=
  ["abstract", "as", "async", "await", "become", "box", "break", "const", "continue", "do", "dyn",
   "else", "enum", "extern", "false", "final", "fn", "for", "gen", "if", "impl", "in", "let",
   "loop", "macro", "match", "mod", "move", "mut", "override", "priv", "pub", "ref", "return",
   "static", "struct", "trait", "true", "try", "type", "typeof", "unsafe", "unsized", "use",
   "virtual", "where", "while", "yield"]

/-- Words that cannot be raw identifiers. -/
def pathKeywords : List String := ["crate", "self", "super", "Self"]

/-- An identifier, raw where it has to be. -/
structure Ident where
  bare : String
  raw : Bool
  deriving DecidableEq

def Ident.text (i : Ident) : String := if i.raw then "r#" ++ i.bare else i.bare

def escapeKeyword (word : String) : Ident :=
  if pathKeywords.contains word then ⟨word ++ "_", false⟩
  else ⟨word, strictKeywords.contains word⟩

/-- The spellings tried for an identifier: itself, then with a number from 2 on. -/
def numberedIdent (base : String) : Nat → String
  | 0 => base
  | n + 1 => base ++ "_" ++ decimal (n + 2)

/-- The first spelling that is not taken; one of the first `taken.length + 1` is free. -/
def freeIdent (taken : List String) (base : String) : String :=
  match (List.range (taken.length + 1)).find? fun n => !taken.contains (numberedIdent base n) with
  | some n => numberedIdent base n
  | none => base

/-- Distinct spellings for a list of keys, none of them taken. -/
def spellings (taken : List String) : List String → List String
  | [] => []
  | key :: keys =>
    let word := snakeCase key
    let spelling := freeIdent taken (if word.isEmpty then "field" else word)
    spelling :: spellings (spelling :: taken) keys

/-- The identifiers of the fields of a class. Keywords are escaped last. -/
def fieldIdents (c : ClassDef) : List Ident :=
  (spellings [] (c.fields.map FieldInfo.sourceName)).map escapeKeyword

def moduleName (space : String) : String :=
  let name := (escapeKeyword (snakeCase space)).text
  if name.isEmpty then "generated" else name

/-! ### Types -/

/-- The type of any JSON value. -/
def dynamicName : String := "serde_json::Value"

def leafName : Kind → String
  -- Dates stay texts, since the accepted formats are a matter of settings.
  | .string | .date | .nullableDate => "String"
  | .boolean | .nullableBoolean => "bool"
  | .integer | .nullableInteger => "i32"
  | .long | .nullableLong => "i64"
  | .float | .nullableFloat => "f64"
  | _ => dynamicName

/-- A null is admitted by an option, unless the type admits anything. -/
def orNone (nullable : Bool) (kind : Kind) (name : String) : String :=
  if (nullable || kind.isNullable) && !kind.isDynamic then "Option<" ++ name ++ ">" else name

/-- A type without the option that a null at its own position calls for. -/
def plainName (m : TypeModel) : TypeNode → String
  | .leaf kind _ => leafName kind
  | .array element _ => "Vec<" ++ orNone element.nullable element.kind (plainName m element) ++ ">"
  | .dictionary element _ =>
    "std::collections::HashMap<String, " ++
      orNone element.nullable element.kind (plainName m element) ++ ">"
  | .object id _ =>
    match m.class? id with
    | some c => c.name
    | none => dynamicName

def typeName (m : TypeModel) (type : TypeNode) : String :=
  orNone type.nullable type.kind (plainName m type)

/-- The classes that a struct holds directly. -/
def heldClasses (m : TypeModel) (id : ClassId) : List ClassId :=
  match m.class? id with
  | some c => c.fields.filterMap fun f => f.type.class?
  | none => []

/-- A struct of class `source` holds one of class `target`, directly or through others. -/
def reaches (m : TypeModel) (source target : ClassId) : Bool :=
  let fields := (m.classes.flatMap ClassDef.fields).length
  search (heldClasses m) target (fields + 1) [source] []

/-- A field whose struct leads back to the class is boxed. -/
def isBoxed (m : TypeModel) (c : ClassDef) (f : FieldInfo) : Bool :=
  f.type.class?.any fun held => reaches m held c.id

def fieldType (m : TypeModel) (c : ClassDef) (f : FieldInfo) : String :=
  let plain := plainName m f.type
  orNone f.nullable f.type.kind (if isBoxed m c f then "Box<" ++ plain ++ ">" else plain)

/-! ### Structs -/

def visibility (s : Settings) : String := if s.internalVisibility then "pub(crate) " else "pub "

/-- The attribute that lets a field be missing. -/
def missingLines (f : FieldInfo) (type : String) : List String :=
  if type.startsWith "Option<" then
    ["    #[serde(default, skip_serializing_if = \"Option::is_none\")]"]
  else if f.nullable then ["    #[serde(default)]"]
  else []

def fieldLines (m : TypeModel) (s : Settings) (c : ClassDef) (f : FieldInfo) (ident : Ident) :
    List String :=
  let type := fieldType m c f
  (if showsExamples s f then
    ["    /// Examples: " ++ String.intercalate ", " ((shownExamples s f).map Json.compact)]
    else []) ++
  (if ident.bare != f.sourceName then
    ["    #[serde(rename = " ++ quoted f.sourceName ++ ")]"] else []) ++
  missingLines f type ++
  ["    " ++ (if s.useProperties then "" else visibility s) ++ ident.text ++ ": " ++ type ++ ","]

/-- A method that gives a reference to the field, and one that replaces it. -/
def accessorLines (m : TypeModel) (s : Settings) (c : ClassDef) (f : FieldInfo) (ident : Ident) :
    List String :=
  let type := fieldType m c f
  ["    " ++ visibility s ++ "fn " ++ ident.text ++ "(&self) -> &" ++ type ++ " \x7b",
   "        &self." ++ ident.text,
   "    \x7d",
   "",
   "    " ++ visibility s ++ "fn set_" ++ ident.bare ++ "(&mut self, value: " ++ type ++ ") \x7b",
   "        self." ++ ident.text ++ " = value;",
   "    \x7d"]

def accessorBlock (m : TypeModel) (s : Settings) (c : ClassDef) : List String :=
  let accessors := (c.fields.zip (fieldIdents c)).map fun (f, ident) => accessorLines m s c f ident
  if s.useProperties && !accessors.isEmpty then
    ["", "impl " ++ c.name ++ " \x7b"] ++ List.intercalate [""] accessors ++ ["\x7d"]
  else []

def structLines (m : TypeModel) (s : Settings) (c : ClassDef) : List String :=
  ["#[derive(Debug, Clone, PartialEq, Serialize, Deserialize)]",
   visibility s ++ "struct " ++ c.name ++ " \x7b"] ++
    (c.fields.zip (fieldIdents c)).flatMap (fun (f, ident) => fieldLines m s c f ident) ++
    ["\x7d"] ++ accessorBlock m s c ++ [""]

/-! ### Modules -/

/-- The root's block imports the classes that are in a module of their own. -/
def importLines (s : Settings) (root : Bool) (own : Option String) : List String :=
  let secondary := s.secondaryNamespace.map moduleName
  match secondary with
  | some module =>
    if root && own != some module then
      let lines := ["#[allow(unused_imports)]",
        "use " ++ (if own.isSome then "super" else "self") ++ "::" ++ module ++ "::*;"]
      if own.isSome then indent lines else lines
    else []
  | none => []

def blockStart (s : Settings) (root : Bool) : List String :=
  let own := (s.namespaceFor root).map moduleName
  (match own with
    | some module => [visibility s ++ "mod " ++ module ++ " \x7b", "    use super::*;"]
    | none => []) ++
  importLines s root own ++ [""]

def blockEnd (s : Settings) (root : Bool) : List String :=
  if (s.namespaceFor root).isSome then ["\x7d", ""] else []

def writer : Writer where
  fileExtension := "rs"
  displayName := "Rust"
  typeName := typeName
  typeLines m s c := inNamespace s c.isRoot (structLines m s c)
  fileStart := headerLines ++ ["", "use serde::\x7bDeserialize, Serialize\x7d;", ""]
  fileEnd := []
  blockStart := blockStart
  blockEnd := blockEnd

end Specimen.Source.Rust
