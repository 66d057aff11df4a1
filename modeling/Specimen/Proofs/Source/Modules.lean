import Specimen.Proofs.Source.Blocks
import Specimen.Proofs.Source.FieldNames

/-! The modules of a file of Rust source.

A file opens a module for each block that is in a namespace, and no other at its own level
(`modulesOf_fileLines`). A module is named after its namespace, by a word in which neither case nor
punctuation is left. Two namespaces with one word, be they equal or not, are opened as two modules by one
name (`modules_distinct_iff`). -/
namespace Specimen.Source.Rust
open Text

/-! ### Names of modules -/

/-- The word that a module is named by, before keywords are escaped. -/
def moduleWord (space : String) : String :=
  if (snakeCase space).isEmpty then "generated" else snakeCase space

def moduleIdent (space : String) : Ident := escapeKeyword (moduleWord space)

theorem moduleName_eq (space : String) : moduleName space = (moduleIdent space).text := by
  rw [moduleName, moduleIdent, moduleWord]
  by_cases hword : snakeCase space = ""
  · rw [hword]
    decide +kernel
  · have htext : (escapeKeyword (snakeCase space)).text ≠ "" := by
      rw [text_escapeKeyword]
      split
      · simp [String.append_eq_empty_iff]
      split
      · simp [String.append_eq_empty_iff]
      · exact hword
    simp [hword, htext]

theorem isFieldWord_moduleWord (space : String) : IsFieldWord (moduleWord space) := by
  unfold moduleWord
  split
  case isTrue => exact ⟨by decide, by decide +kernel⟩
  case isFalse hne => exact ⟨by simpa using hne, snakeCase_plain space⟩

theorem valid_moduleIdent (space : String) : (moduleIdent space).Valid :=
  valid_escapeKeyword (isFieldWord_moduleWord space)

theorem getLast?_moduleWord (space : String) : (moduleWord space).toList.getLast? ≠ some '_' := by
  unfold moduleWord
  split
  · decide +kernel
  · exact getLast?_snakeCase space

/-- Modules are one as they are written just if they are one as they are meant. -/
theorem bare_moduleIdent_eq_iff {a b : String} :
    (moduleIdent a).bare = (moduleIdent b).bare ↔ moduleName a = moduleName b := by
  rw [moduleName_eq, moduleName_eq]
  constructor
  · intro h
    have hword := bare_escapeKeyword_inj (getLast?_moduleWord a) (getLast?_moduleWord b) h
    rw [moduleIdent, moduleIdent, hword]
  · exact (valid_moduleIdent a).bare_eq_of_text_eq (valid_moduleIdent b)

/-! ### Modules, line by line -/

/-- The name of the module that is opened. -/
def opened? (tokens : List Token) : Option String :=
  match skipVisibility tokens with
  | .word "mod" :: ident :: .mark '\x7b' :: _ => fieldName? ident
  | _ => none

/-- The names of the modules that are opened where no line has its brace open. `around` is the line whose
brace is open before the first one. -/
def modulesFrom (around : Option String) : List String → List String
  | [] => []
  | line :: rest =>
    (if around.isNone then (opened? (lineTokens line)).toList else []) ++
      modulesFrom (passLine around line) rest

/-- The names of the modules that are opened at the level of the file. -/
def modulesOf (lines : List String) : List String := modulesFrom none lines

section ModulesFrom
variable {around : Option String}

theorem modulesFrom_append (lines lines' : List String) :
    modulesFrom around (lines ++ lines') =
      modulesFrom around lines ++ modulesFrom (passLines around lines) lines' := by
  induction lines generalizing around with
  | nil => rfl
  | cons line lines ih => rw [List.cons_append, modulesFrom, ih, modulesFrom, List.append_assoc, passLines_cons]

theorem modulesFrom_flatMap {α : Type} {f : α → List String} {l : List α}
    (h : ∀ a ∈ l, passLines around (f a) = around) :
    modulesFrom around (l.flatMap f) = l.flatMap fun a => modulesFrom around (f a) := by
  induction l with
  | nil => rfl
  | cons a l ih =>
    obtain ⟨ha, hl⟩ := List.forall_mem_cons.mp h
    rw [List.flatMap_cons, modulesFrom_append, ha, ih hl, List.flatMap_cons]

/-- Inside a brace that stays open, no line is at the level of the file. -/
theorem modulesFrom_of_indented {opening : String} {lines : List String} (h : ∀ line ∈ lines, Indented line) :
    modulesFrom (some opening) lines = [] := by
  induction lines with
  | nil => rfl
  | cons line lines ih =>
    obtain ⟨hline, hlines⟩ := List.forall_mem_cons.mp h
    rw [modulesFrom, passLine_of_indented hline, ih hlines]
    rfl

/-- Of a brace that is opened at the margin only the line that opens it is at the level of the file. -/
theorem modulesFrom_braced {opening : String} {inner : List String} (hopening : opensBrace opening = true)
    (hinner : ∀ line ∈ inner, Indented line) (rest : List String) :
    modulesFrom none (opening :: (inner ++ "\x7d" :: rest)) =
      (opened? (lineTokens opening)).toList ++ modulesFrom none rest := by
  rw [modulesFrom, passLine_of_opensBrace hopening, modulesFrom_append, modulesFrom_of_indented hinner,
    passLines_of_indented hinner, modulesFrom, passLine_close]
  rfl

end ModulesFrom

/-! ### What is written -/

section Lines
variable (m : TypeModel) (s : Settings)

theorem opened?_opening (space : String) :
    opened? (lineTokens (Language.rust.opening s space)) = some (moduleIdent space).bare := by
  have hends : EndsWord ' ' := ⟨by decide, by decide⟩
  have hline : Language.rust.opening s space =
      visibility s ++ "mod " ++ (moduleIdent space).text ++ " \x7b" := by
    rw [← moduleName_eq]
    rfl
  have htext : (Language.rust.opening s space).toList ++ ['\n'] = (visibility s).toList ++
      ("mod ".toList ++ ((moduleIdent space).text.toList ++ ' ' :: ['\x7b', '\n'])) := by
    rw [hline]
    simp [String.toList_append]
  have hmod (cs : List Char) : scan .between ("mod ".toList ++ cs) = .word "mod" :: scan .between cs := rfl
  have hbrace : scan .between [' ', '\x7b', '\n'] = [.mark '\x7b'] := rfl
  have hopened (ident : Token) :
      opened? (visibilityTokens s ++ .word "mod" :: ident :: [.mark '\x7b']) = fieldName? ident := by
    rw [opened?, skipVisibility_word (visibilityTokens_mem s) (by decide)]
    rfl
  rw [lineTokens, htext, scan_visibility, hmod, (valid_moduleIdent space).scan_text hends, hbrace, hopened,
    (valid_moduleIdent space).fieldName]

theorem opened?_struct (c : ClassDef) :
    opened? (lineTokens (visibility s ++ "struct " ++ c.name ++ " \x7b")) = none := by
  rw [lineTokens, scan_structStart, opened?, skipVisibility_word (visibilityTokens_mem s) (by decide)]
  rfl

theorem opened?_impl (c : ClassDef) : opened? (lineTokens ("impl " ++ c.name ++ " \x7b")) = none := by
  rw [lineTokens, String.append_assoc, String.toList_append]
  rfl

theorem modulesFrom_accessorBlock (c : ClassDef) : modulesFrom none (accessorBlock m s c) = [] := by
  rcases accessorBlock_cases m s c with heq | ⟨inner, hinner, heq⟩
  · rw [heq]
    rfl
  · have hempty (lines : List String) : modulesFrom none ("" :: lines) = modulesFrom none lines := rfl
    rw [heq, hempty, modulesFrom_braced (opensBrace_impl c) hinner, opened?_impl]
    rfl

theorem modulesFrom_structLines (c : ClassDef) : modulesFrom none (structLines m s c) = [] := by
  obtain ⟨inner, hinner, heq⟩ := exists_structLines m s c
  have hderive (lines : List String) :
      modulesFrom none ("#[derive(Debug, Clone, PartialEq, Serialize, Deserialize)]" :: lines) =
        modulesFrom none lines := rfl
  rw [heq, hderive, modulesFrom_braced (opensBrace_struct s c) hinner, opened?_struct, modulesFrom_append,
    modulesFrom_accessorBlock, passLines_accessorBlock]
  rfl

theorem modulesFrom_typeLines (c : ClassDef) :
    modulesFrom (Language.rust.opening? s c.isRoot) (Language.rust.writer.typeLines m s c) = [] := by
  change modulesFrom _ (inNamespace s c.isRoot (structLines m s c)) = _
  rw [inNamespace, Language.opening?]
  cases s.namespaceFor c.isRoot with
  | none => exact modulesFrom_structLines m s c
  | some space => exact modulesFrom_of_indented indented_of_mem_indent

/-- What a block takes over is said in lines that open no module. -/
theorem modulesFrom_useLines (around : Option String) (place : Option String) :
    modulesFrom around (useLines around.isSome place) = [] := by
  cases around with
  | some opening =>
    refine modulesFrom_of_indented ?_
    cases place with
    | none => simp [useLines, Indented, indentation]
    | some module => exact indented_of_mem_indent
  | none =>
    cases place with
    | none => rfl
    | some module =>
      have huse : opened? (lineTokens ("use " ++ "self" ++ "::" ++ module ++ "::*;")) = none := by
        simp only [lineTokens, String.append_assoc, String.toList_append]
        rfl
      change modulesFrom none ["#[allow(unused_imports)]", "use " ++ "self" ++ "::" ++ module ++ "::*;"] = []
      rw [modulesFrom, modulesFrom, huse]
      rfl

theorem modulesFrom_blockStart (root : Bool) : modulesFrom none (blockStart s root) =
    ((s.namespaceFor root).map fun space => (moduleIdent space).bare).toList := by
  have himports (around : Option String) :
      modulesFrom around ((imports s root).flatMap (useLines around.isSome)) = [] := by
    rw [modulesFrom_flatMap fun place _ => passLines_useLines around around.isSome place,
      List.flatMap_eq_nil_iff]
    exact fun place _ => modulesFrom_useLines around place
  have hempty (around : Option String) : modulesFrom around [""] = [] := by cases around <;> rfl
  rw [blockStart_eq, modulesFrom_append, modulesFrom_append, hempty, List.append_nil, moduleOf]
  cases s.namespaceFor root with
  | none => exact himports none
  | some space =>
    have hopens := opensBrace_opening .rust s space
    have hopened := opened?_opening s space
    change modulesFrom none [Language.rust.opening s space] ++
      modulesFrom (passLine none (Language.rust.opening s space)) ((imports s root).flatMap (useLines true)) =
        [(moduleIdent space).bare]
    generalize Language.rust.opening s space = opening at hopens hopened
    have hmodule : modulesFrom none [opening] = [(moduleIdent space).bare] := by
      rw [modulesFrom, hopened]
      rfl
    have hrest : modulesFrom (some opening) ((imports s root).flatMap (useLines true)) = [] :=
      himports (some opening)
    rw [hmodule, passLine_of_opensBrace hopens, hrest, List.append_nil]

theorem modulesFrom_block (root : Bool) : modulesFrom none (block .rust m s root) =
    ((s.namespaceFor root).map fun space => (moduleIdent space).bare).toList := by
  have hstart : passLines none (blockStart s root) = Language.rust.opening? s root :=
    passLines_blockStart .rust s root
  have hspace {c : ClassDef} (hc : c ∈ classesIn m s root) :
      Language.rust.opening? s c.isRoot = Language.rust.opening? s root := by
    rw [Language.opening?, Language.opening?, namespaceFor_of_mem_classesIn hc]
  have hclasses : modulesFrom (Language.rust.opening? s root)
      ((classesIn m s root).flatMap (Language.rust.writer.typeLines m s)) = [] := by
    rw [modulesFrom_flatMap fun c hc => hspace hc ▸ passLines_typeLines .rust m s c,
      List.flatMap_eq_nil_iff]
    exact fun c hc => hspace hc ▸ modulesFrom_typeLines m s c
  have hend (around : Option String) : modulesFrom around (blockEnd s root) = [] := by
    unfold blockEnd
    split <;> cases around <;> rfl
  change modulesFrom none (blockStart s root ++ _ ++ blockEnd s root) = _
  rw [modulesFrom_append, hend, List.append_nil, modulesFrom_append, hstart, hclasses, List.append_nil,
    modulesFrom_blockStart]

/-- A file opens the modules of the namespaces that its blocks are in. -/
theorem modulesOf_fileLines : modulesOf (fileLines writer m s) =
    (fileBlocks (effectiveSettings m s)).flatMap fun root =>
      (((effectiveSettings m s).namespaceFor root).map fun space => (moduleIdent space).bare).toList := by
  have hlines := fileLines_eq m s writer
  generalize effectiveSettings m s = s at *
  have hhead : modulesFrom none writer.fileStart = [] := rfl
  have hpass : passLines none writer.fileStart = none := rfl
  have hblocks : modulesFrom none ((fileBlocks s).flatMap (block .rust m s)) = _ :=
    modulesFrom_flatMap fun root _ => passLines_block .rust m s root
  rw [hlines, modulesOf]
  change modulesFrom none (writer.fileStart ++ (fileBlocks s).flatMap (block .rust m s) ++ []) = _
  rw [List.append_nil, modulesFrom_append, hhead, hpass, hblocks]
  exact List.flatMap_congr fun root _ => modulesFrom_block m s root

end Lines

/-! ### Names in common -/

/-- The modules of a file have distinct names unless the root and the other classes are in namespaces that
come to one word; both are opened only if there are other classes. -/
theorem modules_distinct_iff (m : TypeModel) (s : Settings) :
    (modulesOf (fileLines writer m s) = (fileBlocks (effectiveSettings m s)).flatMap fun root =>
      (((effectiveSettings m s).namespaceFor root).map fun space => (moduleIdent space).bare).toList) ∧
    ((modulesOf (fileLines writer m s)).Nodup ↔ ¬ ∃ main secondary, s.mainNamespace = some main ∧
      s.secondaryNamespace = some secondary ∧ moduleName main = moduleName secondary ∧
        ∃ c ∈ m.classes, c.isRoot = false) := by
  refine ⟨modulesOf_fileLines m s, ?_⟩
  rw [modulesOf_fileLines, effectiveSettings_eq]
  by_cases hother : ∃ c ∈ m.classes, c.isRoot = false
  · simp only [hother, if_true, and_true]
    cases s.mainNamespace <;> cases s.secondaryNamespace <;> simp [fileBlocks, Settings.namespaceFor]
    case some.some main secondary => rw [eq_comm, bare_moduleIdent_eq_iff]
  · cases s.mainNamespace <;> simp [fileBlocks, Settings.namespaceFor, hother]

/-- Namespaces that come to one word. -/
def oneWordNamespaces : Settings := { mainNamespace := "Api", secondaryNamespace := "api" }

/-- The module `api` is opened twice, once for the inner object and once for the document. -/
theorem not_nodup_modules_oneWordNamespaces :
    modulesOf (fileLines writer (inferValues oneWordNamespaces
      [.object [("a", .object [("b", .number (.int 1))])]]) oneWordNamespaces) = ["api", "api"] ∧
      ¬ ["api", "api"].Nodup := by
  decide +kernel

end Specimen.Source.Rust
