import Specimen.Source.Render

/-! The class names in the definition of a class.

The lines of a definition are taken apart into names of classes and the text between them. The parts
make up the lines that are written (`typeLines_eq`), and every name is that of the class itself or of a
class that a field leads to, with the namespace in front of it that the language writes there
(`exists_of_mentioned`). -/
namespace Specimen.Source

/-! ### Lists with separators -/

theorem map_intercalate {α β : Type} (f : α → β) (sep : List α) (l : List (List α)) :
    (List.intercalate sep l).map f = List.intercalate (sep.map f) (l.map (List.map f)) := by
  induction l with
  | nil => rfl
  | cons a l ih =>
    cases l with
    | nil => simp [List.intercalate]
    | cons b l => simpa [List.intercalate] using ih

theorem mem_intercalate {α : Type} {a : α} {sep : List α} {l : List (List α)}
    (h : a ∈ List.intercalate sep l) : a ∈ sep ∨ ∃ x ∈ l, a ∈ x := by
  induction l with
  | nil => cases h
  | cons x l ih =>
    cases l with
    | nil => exact .inr ⟨x, List.mem_cons_self, by simpa [List.intercalate] using h⟩
    | cons y l =>
      have h : a ∈ x ∨ a ∈ sep ∨ a ∈ List.intercalate sep (y :: l) := by
        simpa [List.intercalate] using h
      rcases h with h | h | h
      · exact .inr ⟨x, List.mem_cons_self, h⟩
      · exact .inl h
      · exact (ih h).imp_right fun ⟨z, hz, h⟩ => ⟨z, List.mem_cons_of_mem x hz, h⟩

/-! ### Pieces of lines -/

/-- The name of a class, as it is written in the definition of another one. -/
structure Mention where
  /-- The namespace in front of the name. -/
  space : Option String
  name : String
  /-- The class that is meant. -/
  id : ClassId

def Mention.shown (r : Mention) : String :=
  match r.space with
  | some space => space ++ "." ++ r.name
  | none => r.name

inductive Piece where
  | text (s : String)
  | mention (r : Mention)

def Piece.shown : Piece → String
  | .text s => s
  | .mention r => r.shown

/-- A line in pieces. -/
abbrev Line := List Piece

namespace Line

def shown : Line → String
  | [] => ""
  | p :: line => p.shown ++ shown line

@[simp] theorem shown_nil : shown [] = "" := rfl

@[simp] theorem shown_text (s : String) (line : Line) : shown (.text s :: line) = s ++ shown line := rfl

@[simp] theorem shown_mention (r : Mention) (line : Line) :
    shown (.mention r :: line) = r.shown ++ shown line := rfl

@[simp] theorem shown_append (a b : Line) : shown (a ++ b) = shown a ++ shown b := by
  induction a with
  | nil => simp
  | cons p a ih => simp [shown, ih, String.append_assoc]

/-- Lines without a name. -/
def plain (lines : List String) : List Line := lines.map fun line => [.text line]

@[simp] theorem map_shown_plain (lines : List String) : (plain lines).map shown = lines := by
  simp [plain, Function.comp_def]

/-- The name is somewhere in the lines. -/
def Mentioned (r : Mention) (lines : List Line) : Prop := ∃ line ∈ lines, .mention r ∈ line

section Mentioned
variable {r : Mention}

@[simp] theorem mentioned_nil : ¬Mentioned r [] := by
  simp [Mentioned]

@[simp] theorem mentioned_cons {line : Line} {lines : List Line} :
    Mentioned r (line :: lines) ↔ .mention r ∈ line ∨ Mentioned r lines := by
  simp [Mentioned]

@[simp] theorem mentioned_append {lines lines' : List Line} :
    Mentioned r (lines ++ lines') ↔ Mentioned r lines ∨ Mentioned r lines' := by
  simp [Mentioned, or_and_right, exists_or]

@[simp] theorem mentioned_plain {lines : List String} : ¬Mentioned r (plain lines) := by
  simp [Mentioned, plain]

@[simp] theorem mentioned_flatMap {α : Type} {l : List α} {f : α → List Line} :
    Mentioned r (l.flatMap f) ↔ ∃ a ∈ l, Mentioned r (f a) := by
  simp only [Mentioned, List.mem_flatMap]
  constructor
  · rintro ⟨line, ⟨a, ha, hline⟩, hr⟩
    exact ⟨a, ha, line, hline, hr⟩
  · rintro ⟨a, ha, line, hline, hr⟩
    exact ⟨line, ⟨a, ha, hline⟩, hr⟩

@[simp] theorem mentioned_map {α : Type} {l : List α} {f : α → Line} :
    Mentioned r (l.map f) ↔ ∃ a ∈ l, .mention r ∈ f a := by
  simp only [Mentioned, List.mem_map]
  constructor
  · rintro ⟨_, ⟨a, ha, rfl⟩, hr⟩
    exact ⟨a, ha, hr⟩
  · rintro ⟨a, ha, hr⟩
    exact ⟨_, ⟨a, ha, rfl⟩, hr⟩

theorem Mentioned.of_intercalate_plain {lines : List String} {l : List (List Line)}
    (h : Mentioned r (List.intercalate (plain lines) l)) : ∃ x ∈ l, Mentioned r x := by
  obtain ⟨line, hline, hr⟩ := h
  rcases mem_intercalate hline with hline | ⟨x, hx, hline⟩
  · exact absurd ⟨line, hline, hr⟩ mentioned_plain
  · exact ⟨x, hx, line, hline, hr⟩

end Mentioned

end Line

open Line (plain Mentioned)

/-! ### TypeScript -/

namespace TypeScript
variable (m : TypeModel) (s : Settings) (scope : Option String)

def orNullLine (element : TypeNode) (line : Line) : Line :=
  line ++ if element.nullable && !element.kind.isDynamic then [.text " | null"] else []

/-- The namespace in front of the name of a class. -/
def spaceBefore (d : ClassDef) : Option String := if d.isRoot then none else scope

def typeLine : TypeNode → Line
  | .leaf kind _ => [.text (leafName kind)]
  | .array element _ => [.text "Array<"] ++ orNullLine element (typeLine element) ++ [.text ">"]
  | .dictionary element _ =>
    [.text "\x7b [key: string]: "] ++ orNullLine element (typeLine element) ++ [.text "; \x7d"]
  | .object id _ =>
    match m.class? id with
    | some d => [.mention ⟨spaceBefore scope d, d.name, id⟩]
    | none => [.text "any"]

def defaultLine (type : TypeNode) : Line :=
  if type.kind = .object then [.text "new "] ++ typeLine m scope type ++ [.text "()"]
  else [.text (defaultValue m scope type)]

def memberLines (f : FieldInfo) : List Line :=
  plain (if showsExamples s f then
    ["", "    /**", "     * Examples: " ++ examplesText s f, "     */"] else []) ++
  [[.text ("    " ++ memberName f.sourceName ++ (if f.nullable then "?" else "") ++ ": ")] ++
    typeLine m scope f.type ++ [.text ";"]]

def assignmentLine (f : FieldInfo) : Line :=
  [.text ("        this" ++ memberAccess f.sourceName ++ " = data?" ++ optionalAccess f.sourceName ++
    " ?? ")] ++ (if f.nullable then [.text "null"] else defaultLine m scope f.type) ++ [.text ";"]

def definition (c : ClassDef) : List Line :=
  let scope := scopeOf s c
  let visible := !s.internalVisibility || s.secondaryNamespace.isSome
  [[.text ((if visible then "export " else "") ++ "class "), .mention ⟨none, c.name, c.id⟩,
    .text " \x7b"]] ++
    c.fields.flatMap (memberLines m s scope) ++
    plain ["", "    constructor(data?: any) \x7b"] ++
    c.fields.map (assignmentLine m scope) ++
    plain (["    \x7d", "", "    public toService(): any \x7b", "        const obj: any = \x7b\x7d;"] ++
      c.fields.map serviceLine ++ ["        return obj;", "    \x7d", "\x7d", ""])

variable {m s scope}

@[simp] theorem shown_orNullLine (element : TypeNode) (line : Line) :
    (orNullLine element line).shown = orNull element line.shown := by
  unfold orNullLine orNull
  split <;> simp

@[simp] theorem shown_typeLine (type : TypeNode) :
    (typeLine m scope type).shown = qualifiedName m scope type := by
  induction type with
  | leaf kind n => exact String.append_empty
  | array element n ih =>
    unfold qualifiedName
    simp [typeLine, ih, String.append_assoc]
  | dictionary element n ih =>
    unfold qualifiedName
    simp [typeLine, ih, String.append_assoc]
  | object id n =>
    unfold qualifiedName
    rw [typeLine]
    cases m.class? id with
    | none => simp
    | some d => cases scope <;> cases h : d.isRoot <;> simp [spaceBefore, h, Mention.shown]

@[simp] theorem shown_defaultLine (type : TypeNode) :
    (defaultLine m scope type).shown = defaultValue m scope type := by
  unfold defaultLine
  split
  case isTrue h => simp [defaultValue, h, String.append_assoc]
  case isFalse => simp

@[simp] theorem map_shown_memberLines (f : FieldInfo) :
    (memberLines m s scope f).map Line.shown = fieldLines m s scope f := by
  simp [memberLines, fieldLines, String.append_assoc]

@[simp] theorem shown_assignmentLine (f : FieldInfo) :
    (assignmentLine m scope f).shown = constructorLine m scope f := by
  unfold assignmentLine constructorLine
  split <;> simp [String.append_assoc]

theorem map_shown_definition (c : ClassDef) :
    (definition m s c).map Line.shown = classLines m s c := by
  simp [definition, classLines, List.map_flatMap, Function.comp_def, Mention.shown, String.append_assoc]

variable {r : Mention}

@[simp] theorem mem_orNullLine {element : TypeNode} {line : Line} :
    .mention r ∈ orNullLine element line ↔ .mention r ∈ line := by
  unfold orNullLine
  split <;> simp

/-- A type names the class that it leads to. -/
theorem exists_of_mem_typeLine {type : TypeNode} (h : .mention r ∈ typeLine m scope type) :
    ∃ id d, type.innermost? = some id ∧ m.class? id = some d ∧
      r = ⟨spaceBefore scope d, d.name, id⟩ := by
  induction type with
  | leaf kind n => simp [typeLine] at h
  | array element n ih => exact ih (by simpa [typeLine] using h)
  | dictionary element n ih => exact ih (by simpa [typeLine] using h)
  | object id n =>
    rw [typeLine] at h
    cases hd : m.class? id with
    | none => simp [hd] at h
    | some d => exact ⟨id, d, rfl, hd, by simpa [hd] using h⟩

theorem mem_typeLine_of_mem_assignmentLine {f : FieldInfo}
    (h : .mention r ∈ assignmentLine m scope f) : .mention r ∈ typeLine m scope f.type := by
  simp only [assignmentLine, defaultLine] at h
  split at h
  case isTrue => simp at h
  case isFalse =>
    split at h
    case isTrue => simpa using h
    case isFalse => simp at h

theorem eq_or_mem_of_mentioned {c : ClassDef} (h : Mentioned r (definition m s c)) :
    r = ⟨none, c.name, c.id⟩ ∨ ∃ f ∈ c.fields, .mention r ∈ typeLine m (scopeOf s c) f.type := by
  simp only [definition, memberLines, Line.mentioned_append, Line.mentioned_cons, Line.mentioned_nil,
    Line.mentioned_plain, Line.mentioned_flatMap, Line.mentioned_map, or_false, false_or] at h
  rcases h with (h | ⟨f, hf, h⟩) | ⟨f, hf, h⟩
  · exact .inl (by simpa using h)
  · exact .inr ⟨f, hf, by simpa using h⟩
  · exact .inr ⟨f, hf, mem_typeLine_of_mem_assignmentLine h⟩

end TypeScript

/-! ### Rust -/

namespace Rust
variable (m : TypeModel) (s : Settings) (c : ClassDef)

def orNoneLine (nullable : Bool) (kind : Kind) (line : Line) : Line :=
  if (nullable || kind.isNullable) && !kind.isDynamic then
    [.text "Option<"] ++ line ++ [.text ">"]
  else line

def plainLine : TypeNode → Line
  | .leaf kind _ => [.text (leafName kind)]
  | .array element _ =>
    [.text "Vec<"] ++ orNoneLine element.nullable element.kind (plainLine element) ++ [.text ">"]
  | .dictionary element _ =>
    [.text "std::collections::HashMap<String, "] ++
      orNoneLine element.nullable element.kind (plainLine element) ++ [.text ">"]
  | .object id _ =>
    match m.class? id with
    | some d => [.mention ⟨none, d.name, id⟩]
    | none => [.text dynamicName]

def fieldTypeLine (f : FieldInfo) : Line :=
  orNoneLine f.nullable f.type.kind
    (if isBoxed m c f then [.text "Box<"] ++ plainLine m f.type ++ [.text ">"]
      else plainLine m f.type)

def memberLines (f : FieldInfo) (ident : Ident) : List Line :=
  plain ((if showsExamples s f then
    ["    /// Examples: " ++ String.intercalate ", " ((shownExamples s f).map Json.compact)]
    else []) ++
  (if ident.bare != f.sourceName then
    ["    #[serde(rename = " ++ Text.quoted f.sourceName ++ ")]"] else []) ++
  missingLines f (fieldType m c f)) ++
  [[.text ("    " ++ (if s.useProperties then "" else visibility s) ++ ident.text ++ ": ")] ++
    fieldTypeLine m c f ++ [.text ","]]

def methodLines (f : FieldInfo) (ident : Ident) : List Line :=
  [[.text ("    " ++ visibility s ++ "fn " ++ ident.text ++ "(&self) -> &")] ++ fieldTypeLine m c f ++
    [.text " \x7b"]] ++
  plain ["        &self." ++ ident.text, "    \x7d", ""] ++
  [[.text ("    " ++ visibility s ++ "fn set_" ++ ident.bare ++ "(&mut self, value: ")] ++
    fieldTypeLine m c f ++ [.text ") \x7b"]] ++
  plain ["        self." ++ ident.text ++ " = value;", "    \x7d"]

def methodBlock : List Line :=
  let methods := (c.fields.zip (fieldIdents c)).map fun (f, ident) => methodLines m s c f ident
  if s.useProperties && !methods.isEmpty then
    plain [""] ++ [[.text "impl ", .mention ⟨none, c.name, c.id⟩, .text " \x7b"]] ++
      List.intercalate (plain [""]) methods ++ plain ["\x7d"]
  else []

def definition : List Line :=
  plain ["#[derive(Debug, Clone, PartialEq, Serialize, Deserialize)]"] ++
    [[.text (visibility s ++ "struct "), .mention ⟨none, c.name, c.id⟩, .text " \x7b"]] ++
    (c.fields.zip (fieldIdents c)).flatMap (fun (f, ident) => memberLines m s c f ident) ++
    plain ["\x7d"] ++ methodBlock m s c ++ plain [""]

variable {m s c}

@[simp] theorem shown_orNoneLine (nullable : Bool) (kind : Kind) (line : Line) :
    (orNoneLine nullable kind line).shown = orNone nullable kind line.shown := by
  unfold orNoneLine orNone
  split <;> simp [String.append_assoc]

@[simp] theorem shown_plainLine (type : TypeNode) :
    (plainLine m type).shown = plainName m type := by
  induction type with
  | leaf kind n => exact String.append_empty
  | array element n ih =>
    unfold plainName
    simp [plainLine, ih, String.append_assoc]
  | dictionary element n ih =>
    unfold plainName
    simp [plainLine, ih, String.append_assoc]
  | object id n =>
    unfold plainName
    rw [plainLine]
    cases m.class? id <;> simp [Mention.shown]

@[simp] theorem shown_fieldTypeLine (f : FieldInfo) :
    (fieldTypeLine m c f).shown = fieldType m c f := by
  unfold fieldTypeLine fieldType
  split <;> simp [String.append_assoc]

@[simp] theorem map_shown_memberLines (f : FieldInfo) (ident : Ident) :
    (memberLines m s c f ident).map Line.shown = fieldLines m s c f ident := by
  simp [memberLines, fieldLines, String.append_assoc]

@[simp] theorem map_shown_methodLines (f : FieldInfo) (ident : Ident) :
    (methodLines m s c f ident).map Line.shown = accessorLines m s c f ident := by
  simp [methodLines, accessorLines, String.append_assoc]

@[simp] theorem map_shown_methodBlock :
    (methodBlock m s c).map Line.shown = accessorBlock m s c := by
  unfold methodBlock accessorBlock
  simp only [List.isEmpty_map]
  split
  · simp [map_intercalate, Function.comp_def, Mention.shown, String.append_assoc]
  · rfl

theorem map_shown_definition : (definition m s c).map Line.shown = structLines m s c := by
  simp [definition, structLines, List.map_flatMap, Mention.shown, String.append_assoc]

variable {r : Mention}

@[simp] theorem mem_orNoneLine {nullable : Bool} {kind : Kind} {line : Line} :
    .mention r ∈ orNoneLine nullable kind line ↔ .mention r ∈ line := by
  unfold orNoneLine
  split <;> simp

theorem exists_of_mem_plainLine {type : TypeNode} (h : .mention r ∈ plainLine m type) :
    ∃ id d, type.innermost? = some id ∧ m.class? id = some d ∧ r = ⟨none, d.name, id⟩ := by
  induction type with
  | leaf kind n => simp [plainLine] at h
  | array element n ih => exact ih (by simpa [plainLine] using h)
  | dictionary element n ih => exact ih (by simpa [plainLine] using h)
  | object id n =>
    rw [plainLine] at h
    cases hd : m.class? id with
    | none => simp [hd] at h
    | some d => exact ⟨id, d, rfl, hd, by simpa [hd] using h⟩

@[simp] theorem mem_fieldTypeLine {f : FieldInfo} :
    .mention r ∈ fieldTypeLine m c f ↔ .mention r ∈ plainLine m f.type := by
  rw [fieldTypeLine, mem_orNoneLine]
  split <;> simp

theorem mem_plainLine_of_mentioned_methodLines {f : FieldInfo} {ident : Ident}
    (h : Mentioned r (methodLines m s c f ident)) : .mention r ∈ plainLine m f.type := by
  simpa [methodLines] using h

theorem eq_or_mem_of_mentioned_methodBlock (h : Mentioned r (methodBlock m s c)) :
    r = ⟨none, c.name, c.id⟩ ∨
      ∃ p ∈ c.fields.zip (fieldIdents c), .mention r ∈ plainLine m p.1.type := by
  unfold methodBlock at h
  dsimp only at h
  split at h
  case isFalse => exact absurd h Line.mentioned_nil
  case isTrue =>
    simp only [Line.mentioned_append, Line.mentioned_cons, Line.mentioned_nil, Line.mentioned_plain,
      or_false, false_or] at h
    rcases h with h | h
    · exact .inl (by simpa using h)
    · obtain ⟨_, hx, h⟩ := h.of_intercalate_plain
      obtain ⟨p, hp, rfl⟩ := List.mem_map.mp hx
      exact .inr ⟨p, hp, mem_plainLine_of_mentioned_methodLines h⟩

theorem eq_or_mem_of_mentioned (h : Mentioned r (definition m s c)) :
    r = ⟨none, c.name, c.id⟩ ∨ ∃ f ∈ c.fields, .mention r ∈ plainLine m f.type := by
  have hfield : ∀ p ∈ c.fields.zip (fieldIdents c), p.1 ∈ c.fields := fun _ hp =>
    (List.of_mem_zip hp).1
  simp only [definition, memberLines, Line.mentioned_append, Line.mentioned_cons,
    Line.mentioned_nil, Line.mentioned_plain, Line.mentioned_flatMap, or_false, false_or] at h
  rcases h with (h | ⟨p, hp, h⟩) | h
  · exact .inl (by simpa using h)
  · exact .inr ⟨p.1, hfield p hp, by simpa using h⟩
  · exact (eq_or_mem_of_mentioned_methodBlock h).imp_right fun ⟨p, hp, h⟩ => ⟨p.1, hfield p hp, h⟩

end Rust

/-! ### Both languages -/

variable (m : TypeModel) (s : Settings) (c : ClassDef)

/-- The definition of a class, in pieces. -/
def Language.definition : Language → List Line
  | .typescript => TypeScript.definition m s c
  | .rust => Rust.definition m s c

/-- The pieces make up what is written. -/
theorem typeLines_eq (language : Language) : language.writer.typeLines m s c =
    inNamespace s c.isRoot ((language.definition m s c).map Line.shown) := by
  cases language with
  | typescript => exact congrArg (inNamespace s c.isRoot) (TypeScript.map_shown_definition c).symm
  | rust => exact congrArg (inNamespace s c.isRoot) Rust.map_shown_definition.symm

/-- What stands in front of the name of `d` in the definition of `c`. -/
def Language.spaceBefore (d : ClassDef) : Language → Option String
  | .typescript => TypeScript.spaceBefore (TypeScript.scopeOf s c) d
  | .rust => none

variable {m s c}

/-- A definition names its class, and the classes that its fields lead to. -/
theorem exists_of_mentioned {language : Language} {r : Mention}
    (h : Mentioned r (language.definition m s c)) : r = ⟨none, c.name, c.id⟩ ∨
      ∃ f ∈ c.fields, ∃ id d, f.type.innermost? = some id ∧ m.class? id = some d ∧
        r = ⟨language.spaceBefore s c d, d.name, id⟩ := by
  cases language with
  | typescript =>
    exact (TypeScript.eq_or_mem_of_mentioned h).imp_right fun ⟨f, hf, h⟩ =>
      ⟨f, hf, TypeScript.exists_of_mem_typeLine h⟩
  | rust =>
    exact (Rust.eq_or_mem_of_mentioned h).imp_right fun ⟨f, hf, h⟩ =>
      ⟨f, hf, Rust.exists_of_mem_plainLine h⟩
end Specimen.Source
