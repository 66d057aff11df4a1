import Specimen.Proofs.Model.Dependencies
import Specimen.Proofs.Source.Scopes

/-! Where the classes of a model are in a file of source code.

The root class is the last of a model (`rootLast_inferValues`), so the blocks of a file have the classes in
model order, each once (`flatMap_classesIn`). A definition in a namespace is indented; any other begins at the
margin and closes each brace that it opens there. Whoever reads a file line by line and keeps in mind which line
at the margin has its brace open (`passLines`) is therefore at the line of its namespace whenever the definition
of a class begins, and again when it ends (`inBlocks_inferValues`). -/
namespace Specimen

section Freeze
variable {t : ClassTable} {root : Evidence ClassId} (names : Naming) (examples : ExamplePolicy)
  (ht : t.InRange) (hroot : root.RefersBelow t.entries.length)
include ht hroot

end Freeze

namespace Source

/-! ### Blocks and their classes -/

theorem namespaceFor_of_mem_classesIn {m : TypeModel} {s : Settings} {root : Bool} {c : ClassDef}
    (hc : c ∈ classesIn m s root) : s.namespaceFor c.isRoot = s.namespaceFor root := by
  have hblock : blockOf s c = root := eq_of_beq (List.mem_filter.mp hc).2
  rw [← namespaceFor_blockOf, hblock]

/-- The secondary namespace is left out just if no class would be in it, and nothing else is. -/
theorem effectiveSettings_eq (m : TypeModel) (s : Settings) : effectiveSettings m s =
    { s with secondaryNamespace :=
        if ∃ c ∈ m.classes, c.isRoot = false then s.secondaryNamespace else none } := by
  unfold effectiveSettings
  by_cases hall : m.classes.all ClassDef.isRoot = true
  · rw [if_pos hall, if_neg]
    rintro ⟨c, hc, hroot⟩
    rw [List.all_eq_true.mp hall c hc] at hroot
    cases hroot
  · rw [if_neg hall, if_pos]
    simpa using hall

/-! ### Braces at the margin -/

/-- The line begins at the margin and ends by opening a brace. -/
def opensBrace (line : String) : Bool :=
  line.toList.head? != some ' ' && line.toList.getLast? == some '\x7b'

/-- Reads a line. `around` is the line at the margin whose brace is open before it, and the result the one
whose brace is open after it. -/
def passLine (around : Option String) (line : String) : Option String :=
  if opensBrace line then some line else if line = "\x7d" then none else around

def passLines (around : Option String) (lines : List String) : Option String := lines.foldl passLine around

/-- The line is empty or begins with an indentation. -/
def Indented (line : String) : Prop := line = "" ∨ indentation.toList <+: line.toList

instance : DecidablePred Indented := fun _ => instDecidableOr

section PassLines
variable {around : Option String}

@[simp] theorem passLines_cons (line : String) (lines : List String) :
    passLines around (line :: lines) = passLines (passLine around line) lines := rfl

@[simp] theorem passLines_append (lines lines' : List String) :
    passLines around (lines ++ lines') = passLines (passLines around lines) lines' :=
  List.foldl_append

theorem passLine_of_opensBrace {line : String} (h : opensBrace line = true) :
    passLine around line = some line := if_pos h

@[simp] theorem passLine_close : passLine around "\x7d" = none := rfl

theorem passLine_of_indented {line : String} (h : Indented line) : passLine around line = around := by
  rcases h with rfl | ⟨rest, hline⟩
  · rfl
  · have hhead : line.toList.head? = some ' ' := by rw [← hline]; rfl
    have hopens : opensBrace line = false := by simp [opensBrace, hhead]
    have hcloses : line ≠ "\x7d" := by rintro rfl; cases hhead
    rw [passLine, hopens, if_neg hcloses]
    rfl

theorem passLine_of_getLast? {line : String} {c : Char} (hlast : line.toList.getLast? = some c)
    (hopens : c ≠ '\x7b') (hcloses : c ≠ '\x7d') : passLine around line = around := by
  have hno : opensBrace line = false := by simp [opensBrace, hlast, hopens]
  have hne : line ≠ "\x7d" := by rintro rfl; exact hcloses (Option.some.inj hlast).symm
  rw [passLine, hno, if_neg hne]
  rfl

theorem passLines_of_indented {lines : List String} (h : ∀ line ∈ lines, Indented line) :
    passLines around lines = around := by
  induction lines with
  | nil => rfl
  | cons line lines ih =>
    rw [passLines_cons, passLine_of_indented (h line List.mem_cons_self),
      ih fun line hline => h line (List.mem_cons_of_mem _ hline)]

theorem passLines_flatMap {α : Type} {f : α → List String} {l : List α}
    (h : ∀ a ∈ l, passLines around (f a) = around) : passLines around (l.flatMap f) = around := by
  induction l with
  | nil => rfl
  | cons a l ih =>
    rw [List.flatMap_cons, passLines_append, h a List.mem_cons_self,
      ih fun a ha => h a (List.mem_cons_of_mem _ ha)]

end PassLines

theorem indented_append {a b : String} (ha : indentation.toList <+: a.toList) : Indented (a ++ b) := by
  refine .inr ?_
  rw [String.toList_append]
  exact ha.trans (List.prefix_append _ _)

theorem not_indented_of_opensBrace {line : String} (h : opensBrace line = true) : ¬Indented line := by
  rintro (rfl | ⟨rest, hline⟩)
  · cases h
  · have hhead : line.toList.head? = some ' ' := by rw [← hline]; rfl
    simp [opensBrace, hhead] at h

theorem indented_of_mem_indent {lines : List String} : ∀ line ∈ indent lines, Indented line := by
  intro line hline
  obtain ⟨line, _, rfl⟩ := List.mem_map.mp hline
  by_cases hempty : line = ""
  · exact .inl (by simp [hempty])
  · exact .inr (by simp [hempty])

/-! ### Definitions -/

theorem getLast?_toList_append {a b : String} {c : Char} (h : b.toList.getLast? = some c) :
    (a ++ b).toList.getLast? = some c := by
  rw [String.toList_append, List.getLast?_append, h, Option.some_or]

theorem opensBrace_append {a b : String} (ha : a.toList.head?.any (· != ' ') = true)
    (hb : b.toList.getLast? = some '\x7b') : opensBrace (a ++ b) = true := by
  obtain ⟨x, hx, hne⟩ := (Option.any_eq_true _ _).mp ha
  have hhead : (a ++ b).toList.head? = some x := by
    rw [String.toList_append, List.head?_append, hx, Option.some_or]
  rw [opensBrace, hhead, getLast?_toList_append hb]
  simpa using hne

/-- A brace that is opened at the margin ends at the next one that is closed there. -/
theorem passLines_braced {around : Option String} {opening : String} {inner : List String}
    (hopening : opensBrace opening = true) (hinner : ∀ line ∈ inner, Indented line) (rest : List String) :
    passLines around (opening :: (inner ++ "\x7d" :: rest)) = passLines none rest := by
  rw [passLines_cons, passLines_append, passLine_of_opensBrace hopening, passLines_of_indented hinner,
    passLines_cons, passLine_close]

namespace TypeScript
variable (m : TypeModel) (s : Settings)

theorem indented_fieldLines (scope : Option String) (f : FieldInfo) :
    ∀ line ∈ fieldLines m s scope f, Indented line := by
  rw [fieldLines, List.forall_mem_append]
  constructor
  · split <;> simp [Indented, indentation]
  · simp [Indented, indentation]

theorem exists_classLines (c : ClassDef) : ∃ opening inner, opensBrace opening = true ∧
    (∀ line ∈ inner, Indented line) ∧ classLines m s c = opening :: (inner ++ "\x7d" :: [""]) := by
  have hopening (visible : Bool) :
      opensBrace ((if visible then "export " else "") ++ "class " ++ c.name ++ " \x7b") = true :=
    opensBrace_append (by cases visible <;> simp) rfl
  refine ⟨_, c.fields.flatMap (fieldLines m s (scopeOf s c)) ++
    ["", "    constructor(data?: any) \x7b"] ++ c.fields.map (constructorLine m (scopeOf s c)) ++
    ["    \x7d", "", "    public toService(): any \x7b", "        const obj: any = \x7b\x7d;"] ++
    c.fields.map serviceLine ++ ["        return obj;", "    \x7d"],
    hopening (!s.internalVisibility || s.secondaryNamespace.isSome), ?_, by simp [classLines]⟩
  simp only [List.forall_mem_append]
  refine ⟨⟨⟨⟨⟨?_, ?_⟩, ?_⟩, ?_⟩, ?_⟩, ?_⟩
  · intro line hline
    obtain ⟨f, _, hline⟩ := List.mem_flatMap.mp hline
    exact indented_fieldLines m s _ f line hline
  · decide
  · refine List.forall_mem_map.mpr fun f _ => ?_
    unfold constructorLine
    simp only [String.append_assoc]
    exact indented_append (by decide)
  · decide
  · refine List.forall_mem_map.mpr fun f _ => ?_
    unfold serviceLine
    simp only [String.append_assoc]
    exact indented_append (by decide)
  · decide

end TypeScript

namespace Rust
variable (m : TypeModel) (s : Settings)

theorem indented_fieldLines (c : ClassDef) (f : FieldInfo) (ident : Ident) :
    ∀ line ∈ fieldLines m s c f ident, Indented line := by
  simp only [fieldLines, missingLines, List.forall_mem_append]
  refine ⟨⟨⟨?_, ?_⟩, ?_⟩, ?_⟩
  · split <;> simp [Indented, indentation]
  · split <;> simp [Indented, indentation]
  · split
    · simp [Indented, indentation]
    · split <;> simp [Indented, indentation]
  · simp [Indented, indentation]

theorem indented_accessorLines (c : ClassDef) (f : FieldInfo) (ident : Ident) :
    ∀ line ∈ accessorLines m s c f ident, Indented line := by
  simp [accessorLines, Indented, indentation]

theorem opensBrace_impl (c : ClassDef) : opensBrace ("impl " ++ c.name ++ " \x7b") = true :=
  opensBrace_append (by simp) rfl

theorem accessorBlock_cases (c : ClassDef) : accessorBlock m s c = [] ∨ ∃ inner,
    (∀ line ∈ inner, Indented line) ∧
      accessorBlock m s c = "" :: ("impl " ++ c.name ++ " \x7b") :: (inner ++ "\x7d" :: []) := by
  simp only [accessorBlock]
  split
  case isTrue =>
    refine .inr ⟨_, fun line hline => ?_, rfl⟩
    rcases mem_intercalate hline with hline | ⟨lines, hlines, hline⟩
    · exact .inl (List.mem_singleton.mp hline)
    · obtain ⟨⟨f, ident⟩, _, rfl⟩ := List.mem_map.mp hlines
      exact indented_accessorLines m s c f ident line hline
  case isFalse => exact .inl rfl

theorem passLines_accessorBlock (c : ClassDef) : passLines none (accessorBlock m s c) = none := by
  rcases accessorBlock_cases m s c with heq | ⟨inner, hinner, heq⟩
  · rw [heq]
    rfl
  · rw [heq]
    exact passLines_braced (opensBrace_impl c) hinner []

theorem opensBrace_struct (c : ClassDef) :
    opensBrace (visibility s ++ "struct " ++ c.name ++ " \x7b") = true :=
  opensBrace_append (by unfold visibility; split <;> simp) rfl

theorem exists_structLines (c : ClassDef) : ∃ inner, (∀ line ∈ inner, Indented line) ∧
    structLines m s c = "#[derive(Debug, Clone, PartialEq, Serialize, Deserialize)]" ::
      (visibility s ++ "struct " ++ c.name ++ " \x7b") ::
        (inner ++ "\x7d" :: (accessorBlock m s c ++ [""])) := by
  refine ⟨(c.fields.zip (fieldIdents c)).flatMap fun field => fieldLines m s c field.1 field.2,
    fun line hline => ?_, by simp [structLines]⟩
  obtain ⟨⟨f, ident⟩, _, hline⟩ := List.mem_flatMap.mp hline
  exact indented_fieldLines m s c f ident line hline

/-- What a block takes over is said in lines that open and close nothing. -/
theorem passLines_useLines (around : Option String) (nested : Bool) (place : Option String) :
    passLines around (useLines nested place) = around := by
  cases place with
  | none => rfl
  | some module =>
    cases nested with
    | true => exact passLines_of_indented indented_of_mem_indent
    | false =>
      have hattribute : passLine around "#[allow(unused_imports)]" = around :=
        passLine_of_getLast? (c := ']') rfl (by decide) (by decide)
      have huse : passLine around ("use " ++ "self" ++ "::" ++ module ++ "::*;") = around :=
        passLine_of_getLast? (getLast?_toList_append (c := ';') rfl) (by decide) (by decide)
      exact (congrArg (passLine · _) hattribute).trans huse

end Rust

section Language
variable (language : Language) (m : TypeModel) (s : Settings)

/-- The line that opens the block of a namespace. -/
def Language.opening (space : String) : Language → String
  | .typescript => "export namespace " ++ space ++ " \x7b"
  | .rust => Rust.visibility s ++ "mod " ++ Rust.moduleName space ++ " \x7b"

theorem opensBrace_opening (space : String) : opensBrace (language.opening s space) = true := by
  cases language with
  | typescript => exact opensBrace_append (by simp) rfl
  | rust => exact opensBrace_append (by unfold Rust.visibility; split <;> simp) rfl

/-- The line that opens the block of the root class, or of the others, if they are in a namespace. -/
def Language.opening? (root : Bool) : Option String := (s.namespaceFor root).map (language.opening s ·)

theorem passLines_blockStart (root : Bool) :
    passLines none (language.writer.blockStart s root) = language.opening? s root := by
  cases language with
  | typescript =>
    change passLines none (TypeScript.blockStart s root) = _
    rw [TypeScript.blockStart, Language.opening?]
    cases s.namespaceFor root with
    | none => rfl
    | some space =>
      have hopening : passLine none _ = some _ :=
        passLine_of_opensBrace (opensBrace_opening .typescript s space)
      exact congrArg (passLine · "") hopening
  | rust =>
    change passLines none (Rust.blockStart s root) = _
    have himports (around : Option String) (nested : Bool) :
        passLines around ((Rust.imports s root).flatMap (Rust.useLines nested)) = around :=
      passLines_flatMap fun place _ => Rust.passLines_useLines around nested place
    rw [Rust.blockStart_eq, passLines_append, passLines_append, himports, Rust.moduleOf, Language.opening?]
    cases s.namespaceFor root with
    | none => rfl
    | some space => exact passLine_of_opensBrace (opensBrace_opening .rust s space)

theorem passLines_blockEnd (root : Bool) :
    passLines (language.opening? s root) (language.writer.blockEnd s root) = none := by
  have hend : language.writer.blockEnd s root =
      if (s.namespaceFor root).isSome then ["\x7d", ""] else [] := by cases language <;> rfl
  rw [hend, Language.opening?]
  cases s.namespaceFor root <;> rfl

theorem exists_typeLines (c : ClassDef) : ∃ lines,
    language.writer.typeLines m s c = inNamespace s c.isRoot lines ∧ passLines none lines = none ∧
      ∃ line ∈ lines, ¬Indented line := by
  cases language with
  | typescript =>
    obtain ⟨opening, inner, hopening, hinner, heq⟩ := TypeScript.exists_classLines m s c
    refine ⟨_, rfl, ?_, opening, ?_, not_indented_of_opensBrace hopening⟩
    · rw [heq, passLines_braced hopening hinner]
      rfl
    · rw [heq]
      exact List.mem_cons_self
  | rust =>
    obtain ⟨inner, hinner, heq⟩ := Rust.exists_structLines m s c
    have hopening := Rust.opensBrace_struct s c
    refine ⟨_, rfl, ?_, _, ?_, not_indented_of_opensBrace hopening⟩
    · rw [heq, passLines_cons, passLine_of_getLast? (c := ']') rfl (by decide) (by decide),
        passLines_braced hopening hinner, passLines_append, Rust.passLines_accessorBlock]
      rfl
    · rw [heq]
      exact List.mem_cons_of_mem _ List.mem_cons_self

theorem passLines_typeLines (c : ClassDef) :
    passLines (language.opening? s c.isRoot) (language.writer.typeLines m s c) =
      language.opening? s c.isRoot := by
  obtain ⟨lines, heq, hclosed, -⟩ := exists_typeLines language m s c
  rw [heq, inNamespace, Language.opening?]
  cases s.namespaceFor c.isRoot with
  | none => exact hclosed
  | some space => exact passLines_of_indented indented_of_mem_indent

theorem passLines_flatMap_typeLines {root : Bool} {classes : List ClassDef}
    (h : ∀ c ∈ classes, s.namespaceFor c.isRoot = s.namespaceFor root) :
    passLines (language.opening? s root) (classes.flatMap (language.writer.typeLines m s)) =
      language.opening? s root :=
  passLines_flatMap fun c hc => by
    have hspace : language.opening? s root = language.opening? s c.isRoot := by
      rw [Language.opening?, Language.opening?, h c hc]
    rw [hspace, passLines_typeLines]

def block (root : Bool) : List String := blockLines language.writer m s (classesIn m s root) root

/-- A block is closed where it ends. -/
theorem passLines_block (root : Bool) : passLines none (block language m s root) = none := by
  rw [block, blockLines, passLines_append, passLines_append, passLines_blockStart,
    passLines_flatMap_typeLines language m s fun c hc => namespaceFor_of_mem_classesIn hc,
    passLines_blockEnd]

end Language

end Source

end Specimen
