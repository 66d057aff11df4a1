import Specimen.Proofs.Model.Conformance
import Specimen.Proofs.Model.References
import Specimen.Proofs.Source.Examples
import Specimen.Proofs.Source.Identifiers

/-! What is read from the definition of a class in Rust.

The types that are written are read as the expressions they stand for (`spells_fieldType`), a line as the
tokens in it, whether or not it is indented, and the definition of a class as the struct that has a field
for each field of the class, under its key (`readStruct_typeLines`). -/
namespace Specimen.Source.Rust
open Text

/-! ### Types -/

def scalarExpr : Scalar → TypeExpr
  | .boolean => .path ["bool"]
  | .integer => .path ["i32"]
  | .long => .path ["i64"]
  | .float => .path ["f64"]
  | .date | .string => .path ["String"]

/-- Where no scalar was seen, any value will do. -/
def leafExpr (kind : Kind) : TypeExpr :=
  match kind.scalar? with
  | some k => scalarExpr k
  | none => .path valuePath

def orNoneExpr (nullable : Bool) (kind : Kind) (e : TypeExpr) : TypeExpr :=
  if (nullable || kind.isNullable) && !kind.isDynamic then .apply ["Option"] e else e

def plainExpr (m : TypeModel) : TypeNode → TypeExpr
  | .leaf kind _ => leafExpr kind
  | .array element _ =>
    .apply ["Vec"] (orNoneExpr element.nullable element.kind (plainExpr m element))
  | .dictionary element _ =>
    .apply₂ mapPath (.path ["String"])
      (orNoneExpr element.nullable element.kind (plainExpr m element))
  | .object id _ =>
    match m.class? id with
    | some c => .path [c.name]
    | none => .path valuePath

def fieldExpr (m : TypeModel) (c : ClassDef) (f : FieldInfo) : TypeExpr :=
  let plain := plainExpr m f.type
  orNoneExpr f.nullable f.type.kind (if isBoxed m c f then .apply ["Box"] plain else plain)

/-- The text is read as the type wherever what follows does not go on with its last word. -/
structure Spells (text : String) (e : TypeExpr) : Prop where
  scan : ∀ {c}, EndsWord c → ∀ rest,
    scan .between (text.toList ++ c :: rest) = e.tokens ++ scan .between (c :: rest)
  wellFormed : e.WellFormed

namespace Spells
variable {text : String} {e : TypeExpr}

theorem word {w : String} (hw : IsIdentifierText w) : Spells w (.path [w]) where
  scan hc rest := scan_word hw.word hc rest
  wellFormed := .path (List.cons_ne_nil _ _) (List.forall_mem_singleton.mpr hw.identifier)

theorem value : Spells dynamicName (.path valuePath) where
  scan {c} hc rest := by
    have hchunk : Rust.scan .between (dynamicName.toList ++ c :: rest) =
        .word "serde_json" :: .mark ':' :: .mark ':' ::
          Rust.scan .between ("Value".toList ++ c :: rest) := rfl
    rw [hchunk, scan_word (by decide +kernel) hc]
    rfl
  wellFormed := .path (List.cons_ne_nil _ _) (by decide +kernel)

theorem apply (h : Spells text e) {w opening : String} (hopening : opening.toList = w.toList ++ ['<'])
    (hw : IsIdentifierText w) : Spells (opening ++ text ++ ">") (.apply [w] e) where
  scan {c} hc rest := by
    have htext : (opening ++ text ++ ">").toList ++ c :: rest =
        w.toList ++ '<' :: (text.toList ++ '>' :: c :: rest) := by
      simp [String.toList_append, hopening]
    have hopen : Rust.scan .between ('<' :: (text.toList ++ '>' :: c :: rest)) =
        .mark '<' :: Rust.scan .between (text.toList ++ '>' :: c :: rest) := rfl
    have hclose : Rust.scan .between ('>' :: c :: rest) = .mark '>' :: Rust.scan .between (c :: rest) := rfl
    rw [htext, scan_word hw.word ⟨by decide, by decide⟩, hopen, h.scan ⟨by decide, by decide⟩, hclose]
    simp [TypeExpr.tokens, pathTokens]
  wellFormed := .apply (List.cons_ne_nil _ _) (List.forall_mem_singleton.mpr hw.identifier) h.wellFormed

theorem map (h : Spells text e) : Spells ("std::collections::HashMap<String, " ++ text ++ ">")
    (.apply₂ mapPath (.path ["String"]) e) where
  scan {c} hc rest := by
    have htext : ("std::collections::HashMap<String, " ++ text ++ ">").toList ++ c :: rest =
        "std::collections::HashMap<String, ".toList ++ (text.toList ++ '>' :: c :: rest) := by
      simp [String.toList_append]
    have hopen (cs : List Char) : Rust.scan .between ("std::collections::HashMap<String, ".toList ++ cs) =
        pathTokens mapPath ++ .mark '<' :: .word "String" :: .mark ',' :: Rust.scan .between cs := rfl
    have hclose : Rust.scan .between ('>' :: c :: rest) = .mark '>' :: Rust.scan .between (c :: rest) := rfl
    rw [htext, hopen, h.scan ⟨by decide, by decide⟩, hclose]
    simp [TypeExpr.tokens, pathTokens]
  wellFormed := .apply₂ (List.cons_ne_nil _ _) (by decide +kernel)
    (.path (List.cons_ne_nil _ _) (by decide +kernel)) h.wellFormed

end Spells

theorem spells_leafName (kind : Kind) : Spells (leafName kind) (leafExpr kind) := by
  have hword : ∀ w ∈ ["String", "bool", "i32", "i64", "f64"], IsIdentifierText w := by decide +kernel
  have hspells {w : String} (hw : w ∈ ["String", "bool", "i32", "i64", "f64"]) : Spells w (.path [w]) :=
    .word (hword w hw)
  cases kind <;> first | exact hspells (by decide) | exact .value

theorem spells_orNone {text : String} {e : TypeExpr} (h : Spells text e) (nullable : Bool)
    (kind : Kind) : Spells (orNone nullable kind text) (orNoneExpr nullable kind e) := by
  unfold orNone orNoneExpr
  split
  · exact h.apply rfl (by decide +kernel)
  · exact h

section Types
variable {m : TypeModel} (hm : ∀ c ∈ m.classes, IsIdentifierText c.name)
include hm

theorem spells_plainName (type : TypeNode) : Spells (plainName m type) (plainExpr m type) := by
  induction type with
  | leaf kind n => exact spells_leafName kind
  | array element n ih =>
    exact (spells_orNone ih ..).apply rfl (by decide +kernel)
  | dictionary element n ih => exact (spells_orNone ih ..).map
  | object id n =>
    unfold plainName plainExpr
    cases hc : m.class? id with
    | none => exact .value
    | some c =>
      exact .word (hm c (TypeModel.mem_classes.mpr ⟨id, hc⟩))

theorem spells_fieldType (c : ClassDef) (f : FieldInfo) :
    Spells (fieldType m c f) (fieldExpr m c f) := by
  refine spells_orNone ?_ ..
  split
  · exact (spells_plainName hm f.type).apply rfl (by decide +kernel)
  · exact spells_plainName hm f.type

end Types

/-! ### Lines -/

/-- The line is scanned as the tokens. -/
def ScansTo (line : String) (tokens : List Token) : Prop :=
  ∀ rest, scan .between (line.toList ++ '\n' :: rest) = tokens ++ scan .between rest

/-- The lines are scanned as the tokens, each for itself. -/
inductive Scans : List String → List Token → Prop where
  | nil : Scans [] []
  | cons {line tokens lines more} (h : ScansTo line tokens) (hmore : Scans lines more) :
    Scans (line :: lines) (tokens ++ more)

namespace Scans
variable {lines lines' : List String} {tokens tokens' : List Token}

theorem single {line : String} (h : ScansTo line tokens) : Scans [line] tokens := by
  have := cons h nil
  rwa [List.append_nil] at this

theorem append (h : Scans lines tokens) (h' : Scans lines' tokens') :
    Scans (lines ++ lines') (tokens ++ tokens') := by
  induction h with
  | nil => exact h'
  | cons h _ ih =>
    rw [List.append_assoc]
    exact .cons h ih

theorem indent (h : Scans lines tokens) : Scans (Source.indent lines) tokens := by
  induction h with
  | nil => exact .nil
  | @cons line tokens lines more h _ ih =>
    refine .cons ?_ ih
    dsimp only
    split
    · exact h
    · intro rest
      have hspace : scan .between ((indentation ++ line).toList ++ '\n' :: rest) =
          scan .between (line.toList ++ '\n' :: rest) := by
        rw [String.toList_append, List.append_assoc]
        rfl
      rw [hspace, h rest]

theorem inNamespace (h : Scans lines tokens) (s : Settings) (root : Bool) :
    Scans (Source.inNamespace s root lines) tokens := by
  unfold Source.inNamespace
  split
  · exact h.indent
  · exact h

theorem unlines (h : Scans lines tokens) (after : List String) :
    scan .between (Source.unlines (lines ++ after)).toList =
      tokens ++ scan .between (Source.unlines after).toList := by
  induction h with
  | nil => rfl
  | @cons line tokens lines more h _ ih =>
    have htext : (Source.unlines (line :: lines ++ after)).toList =
        line.toList ++ '\n' :: (Source.unlines (lines ++ after)).toList := by
      simp [Source.unlines, String.join_cons, String.toList_append]
    rw [htext, h, ih, List.append_assoc]

end Scans

/-! ### Fields -/

/-- The attributes of a field, or none where there is nothing to say. -/
def attributes (items : List Item) : List Token :=
  if items = [] then [] else attributeTokens "serde" items

theorem reads_attributes {items more : List Item} {rest : List Token} {fields : List FieldDecl}
    (h : Reads (items ++ more) rest fields) : Reads items (attributes more ++ rest) fields := by
  unfold attributes
  split
  case isTrue hnil => simpa [hnil] using h
  case isFalse hne => exact .attributes hne h

def renameItems (f : FieldInfo) (ident : Ident) : List Item :=
  if ident.bare != f.sourceName then [("rename", some f.sourceName)] else []

def missingItems (f : FieldInfo) (type : String) : List Item :=
  if type.startsWith "Option<" then
    [("default", none), ("skip_serializing_if", some "Option::is_none")]
  else if f.nullable then [("default", none)]
  else []

/-- The tokens of a visibility. -/
def visibilityTokens (s : Settings) : List Token :=
  if s.internalVisibility then [.word "pub", .mark '(', .word "crate", .mark ')'] else [.word "pub"]

theorem visibilityTokens_mem (s : Settings) : visibilityTokens s ∈ visibilities := by
  unfold visibilityTokens
  split <;> simp [visibilities]

theorem scan_visibility (s : Settings) (rest : List Char) :
    scan .between ((visibility s).toList ++ rest) = visibilityTokens s ++ scan .between rest := by
  unfold visibility visibilityTokens
  split <;> rfl

/-- The field that is written for a field of a class. It may be missing if its type is written as an
option, or if it was ever missing. -/
def declOf (m : TypeModel) (c : ClassDef) (f : FieldInfo) : FieldDecl where
  key := f.sourceName
  mayBeMissing := (fieldType m c f).startsWith "Option<" || f.nullable
  type := fieldExpr m c f

theorem ofItems_eq (m : TypeModel) (c : ClassDef) (f : FieldInfo) (ident : Ident) :
    FieldDecl.ofItems (renameItems f ident ++ missingItems f (fieldType m c f)) ident.bare
      (fieldExpr m c f) = declOf m c f := by
  have hkey : ((renameItems f ident ++ missingItems f (fieldType m c f)).lookup "rename").join.getD
      ident.bare = f.sourceName := by
    unfold renameItems missingItems
    split_ifs <;> simp_all [List.lookup_cons]
  have hmissing : ((renameItems f ident ++ missingItems f (fieldType m c f)).lookup "default").isSome =
      ((fieldType m c f).startsWith "Option<" || f.nullable) := by
    unfold renameItems missingItems
    split_ifs <;> simp_all [List.lookup_cons]
  rw [FieldDecl.ofItems, hkey, hmissing, declOf]

theorem scansTo_examples (examples : List Json) :
    ScansTo ("    /// Examples: " ++ String.intercalate ", " (examples.map Json.compact)) [] := by
  have hline := (newline_not_mem_of_printed (printed_compact_examples examples)).1
  intro rest
  have hstart : scan .between (("    /// Examples: " ++
      String.intercalate ", " (examples.map Json.compact)).toList ++ '\n' :: rest) =
      scan .comment ((String.intercalate ", " (examples.map Json.compact)).toList ++ '\n' :: rest) := by
    rw [String.toList_append, List.append_assoc]
    rfl
  rw [hstart, scan_comment hline]
  rfl

theorem scansTo_rename (key : String) :
    ScansTo ("    #[serde(rename = " ++ quoted key ++ ")]")
      (attributeTokens "serde" [("rename", some key)]) := by
  intro rest
  have htext : ("    #[serde(rename = " ++ quoted key ++ ")]").toList ++ '\n' :: rest =
      "    #[serde(rename = ".toList ++ ((quoted key).toList ++ ')' :: ']' :: '\n' :: rest) := by
    simp [String.toList_append]
  have hopen (cs : List Char) : scan .between ("    #[serde(rename = ".toList ++ cs) =
      .mark '#' :: .mark '[' :: .word "serde" :: .mark '(' :: .word "rename" :: .mark '=' ::
        scan .between cs := rfl
  rw [htext, hopen, scan_quoted]
  rfl

theorem scans_missingLines (f : FieldInfo) (type : String) :
    Scans (missingLines f type) (attributes (missingItems f type)) := by
  unfold missingLines missingItems
  split
  · exact .single fun rest => rfl
  · split
    · exact .single fun rest => rfl
    · exact .nil

/-- A declaration is scanned up to its type, whatever comes then. -/
theorem scan_declaration (s : Settings) {ident : Ident} (hident : ident.Valid) (rest : List Char) :
    scan .between (("    " ++ (if s.useProperties then "" else visibility s) ++ ident.text ++ ": ").toList ++
        rest) =
      (if s.useProperties then [] else visibilityTokens s) ++
        ident.token :: .mark ':' :: scan .between rest := by
  have htext : ("    " ++ (if s.useProperties then "" else visibility s) ++ ident.text ++ ": ").toList ++
        rest =
      "    ".toList ++ ((if s.useProperties then "" else visibility s).toList ++
        (ident.text.toList ++ ':' :: ' ' :: rest)) := by
    simp [String.toList_append]
  have hspace (cs : List Char) : scan .between ("    ".toList ++ cs) = scan .between cs := rfl
  have hvis (cs : List Char) :
      scan .between ((if s.useProperties then "" else visibility s).toList ++ cs) =
        (if s.useProperties then [] else visibilityTokens s) ++ scan .between cs := by
    split
    · rfl
    · exact scan_visibility s cs
  have hcolon (cs : List Char) : scan .between (':' :: ' ' :: cs) = .mark ':' :: scan .between cs := rfl
  rw [htext, hspace, hvis, hident.scan_text ⟨by decide, by decide⟩, hcolon]

section Fields
variable {m : TypeModel} (hm : ∀ c ∈ m.classes, IsIdentifierText c.name) (s : Settings) (c : ClassDef)
include hm

theorem scansTo_declaration (f : FieldInfo) {ident : Ident} (hident : ident.Valid) :
    ScansTo ("    " ++ (if s.useProperties then "" else visibility s) ++ ident.text ++ ": " ++
        fieldType m c f ++ ",")
      ((if s.useProperties then [] else visibilityTokens s) ++
        ident.token :: .mark ':' :: (fieldExpr m c f).tokens ++ [.mark ',']) := by
  intro rest
  have hcomma : scan .between (",".toList ++ '\n' :: rest) = .mark ',' :: scan .between rest := rfl
  have htype : scan .between ((fieldType m c f).toList ++ (",".toList ++ '\n' :: rest)) =
      (fieldExpr m c f).tokens ++ scan .between (",".toList ++ '\n' :: rest) :=
    (spells_fieldType hm c f).scan ⟨by decide, by decide⟩ _
  rw [String.toList_append, String.toList_append, List.append_assoc, List.append_assoc,
    scan_declaration s hident, htype, hcomma]
  simp

/-- The tokens of a field with its attributes. -/
def fieldTokens (m : TypeModel) (s : Settings) (c : ClassDef) (p : FieldInfo × Ident) : List Token :=
  attributes (renameItems p.1 p.2) ++ attributes (missingItems p.1 (fieldType m c p.1)) ++
    ((if s.useProperties then [] else visibilityTokens s) ++
      p.2.token :: .mark ':' :: (fieldExpr m c p.1).tokens ++ [.mark ','])

theorem scans_fieldLines {p : FieldInfo × Ident} (hident : p.2.Valid) :
    Scans (fieldLines m s c p.1 p.2) (fieldTokens m s c p) := by
  have hexamples : Scans (if showsExamples s p.1 then
      ["    /// Examples: " ++ String.intercalate ", " ((shownExamples s p.1).map Json.compact)]
      else []) [] := by
    split
    · exact .single (scansTo_examples _)
    · exact .nil
  have hrename : Scans (if p.2.bare != p.1.sourceName then
      ["    #[serde(rename = " ++ quoted p.1.sourceName ++ ")]"] else [])
      (attributes (renameItems p.1 p.2)) := by
    unfold renameItems
    split
    · exact .single (scansTo_rename _)
    · exact .nil
  exact (((hexamples.append hrename).append (scans_missingLines p.1 _)).append
    (.single (scansTo_declaration hm s c p.1 hident)))

omit hm in
theorem reads_fieldTokens {p : FieldInfo × Ident} (hident : p.2.Valid)
    (htype : (fieldExpr m c p.1).WellFormed) {rest : List Token} {fields : List FieldDecl}
    (h : Reads [] rest fields) :
    Reads [] (fieldTokens m s c p ++ rest) (declOf m c p.1 :: fields) := by
  have hvis : (if s.useProperties then [] else visibilityTokens s) ∈ visibilities := by
    split
    · exact .head _
    · exact visibilityTokens_mem s
  have hfield : Reads (renameItems p.1 p.2 ++ missingItems p.1 (fieldType m c p.1))
      ((if s.useProperties then [] else visibilityTokens s) ++
        p.2.token :: .mark ':' :: ((fieldExpr m c p.1).tokens ++ .mark ',' :: rest))
      (declOf m c p.1 :: fields) := by
    rw [← ofItems_eq m c p.1 p.2]
    exact h.field hvis hident.fieldName htype
  have hall := reads_attributes (List.nil_append (renameItems p.1 p.2) ▸ reads_attributes hfield)
  simpa [fieldTokens] using hall

end Fields

/-! ### Structs -/

def structOf (m : TypeModel) (c : ClassDef) : StructDecl := ⟨c.name, c.fields.map (declOf m c)⟩

def deriveItems : List Item :=
  [("Debug", none), ("Clone", none), ("PartialEq", none), ("Serialize", none), ("Deserialize", none)]

theorem scan_structStart (s : Settings) (name : String) (rest : List Char) :
    scan .between ((visibility s ++ "struct " ++ name ++ " \x7b").toList ++ rest) =
      visibilityTokens s ++ .word "struct" :: scan .between (name.toList ++ ' ' :: '\x7b' :: rest) := by
  have htext : (visibility s ++ "struct " ++ name ++ " \x7b").toList ++ rest =
      (visibility s).toList ++ ("struct ".toList ++ (name.toList ++ ' ' :: '\x7b' :: rest)) := by
    simp [String.toList_append]
  have hstruct (cs : List Char) : scan .between ("struct ".toList ++ cs) =
      .word "struct" :: scan .between cs := rfl
  rw [htext, scan_visibility, hstruct]

theorem scansTo_structStart (s : Settings) {name : String} (hname : IsName name) :
    ScansTo (visibility s ++ "struct " ++ name ++ " \x7b")
      (visibilityTokens s ++ [.word "struct", .word name, .mark '\x7b']) := by
  intro rest
  have hbrace : scan .between (' ' :: '\x7b' :: '\n' :: rest) = .mark '\x7b' :: scan .between rest := rfl
  rw [scan_structStart, scan_word hname ⟨by decide, by decide⟩, hbrace]
  simp

section Structs
variable {m : TypeModel} (hm : ∀ c ∈ m.classes, IsIdentifierText c.name) (s : Settings) (c : ClassDef)
include hm

theorem scans_fields {fields : List (FieldInfo × Ident)} (hidents : ∀ p ∈ fields, p.2.Valid) :
    Scans (fields.flatMap fun (f, ident) => fieldLines m s c f ident)
      (fields.flatMap (fieldTokens m s c)) := by
  induction fields with
  | nil => exact .nil
  | cons p fields ih =>
    obtain ⟨hp, hfields⟩ := List.forall_mem_cons.mp hidents
    exact (scans_fieldLines hm s c hp).append (ih hfields)

theorem reads_fields {fields : List (FieldInfo × Ident)} (hidents : ∀ p ∈ fields, p.2.Valid)
    (rest : List Token) : Reads [] (fields.flatMap (fieldTokens m s c) ++ .mark '\x7d' :: rest)
      (fields.map fun p => declOf m c p.1) := by
  induction fields with
  | nil => exact .close rest
  | cons p fields ih =>
    obtain ⟨hp, hfields⟩ := List.forall_mem_cons.mp hidents
    rw [List.flatMap_cons, List.append_assoc, List.map_cons]
    exact reads_fieldTokens s c hp (spells_fieldType hm c p.1).wellFormed (ih hfields)

/-- The struct that is written for a class has its fields, under their keys. -/
theorem readStruct_typeLines (hc : IsIdentifierText c.name) :
    readStruct (unlines (writer.typeLines m s c)) = some (structOf m c) := by
  have hidents : ∀ p ∈ c.fields.zip (fieldIdents c), p.2.Valid := fun p hp => valid_of_mem_zip hp
  have hscans : Scans (["#[derive(Debug, Clone, PartialEq, Serialize, Deserialize)]",
        visibility s ++ "struct " ++ c.name ++ " \x7b"] ++
        (c.fields.zip (fieldIdents c)).flatMap (fun (f, ident) => fieldLines m s c f ident) ++ ["\x7d"])
      (attributeTokens "derive" deriveItems ++
        (visibilityTokens s ++ [.word "struct", .word c.name, .mark '\x7b']) ++
        (c.fields.zip (fieldIdents c)).flatMap (fieldTokens m s c) ++ [.mark '\x7d']) :=
    (((Scans.single fun _ => rfl).append (.single (scansTo_structStart s hc.word))).append
      (scans_fields hm s c hidents)).append (.single fun _ => rfl)
  have happend (lines after : List String) : inNamespace s c.isRoot (lines ++ after) =
      inNamespace s c.isRoot lines ++ inNamespace s c.isRoot after := by
    unfold inNamespace
    split
    · exact List.map_append
    · rfl
  have htext := (hscans.inNamespace s c.isRoot).unlines
    (inNamespace s c.isRoot (accessorBlock m s c ++ [""]))
  rw [← happend] at htext
  have hreads := reads_fields hm s c hidents
    (scan .between (unlines (inNamespace s c.isRoot (accessorBlock m s c ++ [""]))).toList)
  rw [map_zip_fieldIdents c (declOf m c)] at hreads
  have hderive : (deriveItems.lookup "Deserialize").isSome = true := rfl
  refine readStruct_of_scan ?_ (visibilityTokens_mem s) hderive hc.identifier hreads
  have hlines : writer.typeLines m s c = inNamespace s c.isRoot
      (["#[derive(Debug, Clone, PartialEq, Serialize, Deserialize)]",
        visibility s ++ "struct " ++ c.name ++ " \x7b"] ++
        (c.fields.zip (fieldIdents c)).flatMap (fun (f, ident) => fieldLines m s c f ident) ++
        ["\x7d"] ++ (accessorBlock m s c ++ [""])) := by
    rw [← List.append_assoc]
    rfl
  rw [hlines, htext]
  simp

end Structs

end Specimen.Source.Rust
