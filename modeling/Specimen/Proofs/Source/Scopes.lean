import Specimen.Proofs.Inference.Soundness
import Specimen.Proofs.Model.References
import Specimen.Proofs.Source.Mentions

/-! What the class names in a file of source code denote.

A file has a block for the root class and, with a secondary namespace, one before it for the other
classes (`fileLines_eq`). A name is looked up in the namespace around it and at the file level, in
TypeScript also in a namespace in front of it, in Rust also in what its block imports
(`Rust.blockStart_eq`). What is found is the class that is meant, unless that class is severed from the
one that names it: from outside its block, a root class that is in a namespace is never reached
(`denoted_inferValues`). -/
namespace Specimen.Source

section Blocks
variable (m : TypeModel) (s : Settings)

/-- A class is in the root's block, as all are without a secondary namespace, or in that of the
others. -/
def blockOf (c : ClassDef) : Bool := c.isRoot || s.secondaryNamespace.isNone

/-- The blocks of a file, the root's last. -/
def fileBlocks : List Bool := if s.secondaryNamespace.isSome then [false, true] else [true]

def classesIn (root : Bool) : List ClassDef := m.classes.filter (blockOf s · == root)

theorem fileLines_eq (w : Writer) : fileLines w m s = w.fileStart ++
    (fileBlocks (effectiveSettings m s)).flatMap (fun root =>
      blockLines w m (effectiveSettings m s) (classesIn m (effectiveSettings m s) root) root) ++
    w.fileEnd := by
  unfold fileLines
  generalize effectiveSettings m s = s
  cases hs : s.secondaryNamespace with
  | none => simp [fileBlocks, classesIn, blockOf, hs]
  | some space => simp [fileBlocks, classesIn, blockOf, hs]

/-- A class is written as it is in the namespace of its block. -/
theorem namespaceFor_blockOf (c : ClassDef) :
    s.namespaceFor (blockOf s c) = s.namespaceFor c.isRoot := by
  cases hs : s.secondaryNamespace <;> cases hc : c.isRoot <;>
    simp [blockOf, Settings.namespaceFor, hs, hc]

/-- The classes of the name in the blocks at a place, where a block is at `placeOf` it. -/
def declared (placeOf : Bool → Option String) (place : Option String) (name : String) :
    List ClassDef :=
  (m.classes.filter fun d => placeOf (blockOf s d) == place).filter (·.name == name)

end Blocks

/-! ### Looking up names -/

/-- A qualified name is one of the namespace, any other is one of the namespace around it, and only if
there is none there, one of the file level. -/
def TypeScript.denoted (m : TypeModel) (s : Settings) (c : ClassDef) (r : Mention) : List ClassDef :=
  match r.space with
  | some space => declared m s s.namespaceFor (some space) r.name
  | none =>
    let own := declared m s s.namespaceFor (s.namespaceFor (blockOf s c)) r.name
    if own.isEmpty then declared m s s.namespaceFor none r.name else own

namespace Rust
variable (m : TypeModel) (s : Settings) (root : Bool)

/-- The module that a block is. -/
def moduleOf : Option String := (s.namespaceFor root).map moduleName

/-- The modules whose names a block takes over, where none is the file itself. -/
def imports : List (Option String) :=
  (if (moduleOf s root).isSome then [none] else []) ++
    match s.secondaryNamespace.map moduleName with
    | some module => if root && moduleOf s root != some module then [some module] else []
    | none => []

/-- The lines that take over the names of a module, inside of a module or outside. -/
def useLines (nested : Bool) : Option String → List String
  | none => ["    use super::*;"]
  | some module =>
    let lines := ["#[allow(unused_imports)]",
      "use " ++ (if nested then "super" else "self") ++ "::" ++ module ++ "::*;"]
    if nested then indent lines else lines

theorem blockStart_eq : blockStart s root =
    (match moduleOf s root with
      | some module => [visibility s ++ "mod " ++ module ++ " \x7b"]
      | none => []) ++
    (imports s root).flatMap (useLines (moduleOf s root).isSome) ++ [""] := by
  have hown : (s.namespaceFor root).map moduleName = moduleOf s root := rfl
  simp only [blockStart, importLines, imports, hown]
  generalize moduleOf s root = own
  cases s.secondaryNamespace with
  | none => cases own <;> simp [useLines]
  | some space =>
    cases own with
    | none => cases root <;> simp [useLines]
    | some module =>
      simp only [Option.map_some, Option.isSome_some]
      split <;> simp [useLines]

/-- A name is one of the block around it, and only if there is none there, one that is imported. -/
def denoted (c : ClassDef) (r : Mention) : List ClassDef :=
  match r.space with
  | some _ => []
  | none =>
    let own := (classesIn m s (blockOf s c)).filter (·.name == r.name)
    if own.isEmpty then
      (imports s (blockOf s c)).flatMap fun place => declared m s (moduleOf s) place r.name
    else own

end Rust

namespace Language
variable (m : TypeModel) (s : Settings) (c : ClassDef) (r : Mention)

/-- The name is in the definition of the class, in the file of the model. -/
def Mentions (language : Language) : Prop :=
  Line.Mentioned r (language.definition m (effectiveSettings m s) c)

/-- The classes that a name in the definition of a class denotes, in the file of the model. -/
def denoted : Language → List ClassDef
  | .typescript => TypeScript.denoted m (effectiveSettings m s) c r
  | .rust => Rust.denoted m (effectiveSettings m s) c r

end Language

/-- No name in the definition of `c` reaches `d`. Of two namespaces only the root's reaches the other
one, and in Rust not even that one if both make the same module name. -/
def Language.severs (s : Settings) (c d : ClassDef) (language : Language) : Bool :=
  match s.mainNamespace, s.secondaryNamespace with
  | some main, some secondary =>
    match language with
    | .typescript => main != secondary && !c.isRoot && d.isRoot
    | .rust => (!c.isRoot && d.isRoot) ||
      (c.isRoot && !d.isRoot && Rust.moduleName main == Rust.moduleName secondary)
  | _, _ => false

/-! ### What is found -/

theorem filter_eq_singleton {α β : Type} [BEq β] [LawfulBEq β] {f : α → β} {l : List α}
    (h : (l.map f).Nodup) {a : α} (ha : a ∈ l) : l.filter (f · == f a) = [a] := by
  induction l with
  | nil => cases ha
  | cons b l ih =>
    rw [List.map_cons, List.nodup_cons] at h
    rcases List.mem_cons.mp ha with rfl | ha
    · have hrest : l.filter (f · == f a) = [] :=
        List.filter_eq_nil_iff.mpr fun c hc heq => h.1 (eq_of_beq heq ▸ List.mem_map_of_mem hc)
      simp [hrest]
    · rw [List.filter_cons_of_neg, ih h.2 ha]
      intro heq
      exact h.1 (eq_of_beq heq ▸ List.mem_map_of_mem ha)

section Denoted
variable {m : TypeModel} {s : Settings} {c d : ClassDef} (hm : m.Linked) (hd : d ∈ m.classes)
include hm hd

/-- Of the classes with some property, one at most has the name. -/
theorem filter_name (p : ClassDef → Bool) :
    (m.classes.filter p).filter (·.name == d.name) = if p d then [d] else [] := by
  rw [List.filter_comm, filter_eq_singleton hm.names hd, List.filter_singleton]
  cases p d <;> rfl

-- In each proof below the two namespaces and the two classes say which block each class is in. What
-- remains is the root class that names another one across two namespaces.

theorem TypeScript.denoted_eq (id : ClassId) :
    TypeScript.denoted m s c ⟨spaceBefore (scopeOf s c) d, d.name, id⟩ =
      if Language.severs s c d .typescript then [] else [d] := by
  simp only [TypeScript.denoted, declared, filter_name hm hd, namespaceFor_blockOf]
  cases hmain : s.mainNamespace <;> cases hsecondary : s.secondaryNamespace <;>
    cases hc : c.isRoot <;> cases hroot : d.isRoot <;>
    simp [spaceBefore, scopeOf, Language.severs, Settings.namespaceFor, *]
  case some.some.true.false main secondary =>
    by_cases hsame : main = secondary <;> simp [hsame]

theorem Rust.denoted_eq (id : ClassId) : Rust.denoted m s c ⟨none, d.name, id⟩ =
    if Language.severs s c d .rust then [] else [d] := by
  simp only [Rust.denoted, declared, classesIn, filter_name hm hd]
  cases hmain : s.mainNamespace <;> cases hsecondary : s.secondaryNamespace <;>
    cases hc : c.isRoot <;> cases hroot : d.isRoot <;>
    simp [blockOf, imports, moduleOf, Language.severs, Settings.namespaceFor, *]
  case some.some.true.false main secondary =>
    by_cases hsame : moduleName main = moduleName secondary <;> simp [hsame]

end Denoted

theorem spaceBefore_self (language : Language) (s : Settings) (c : ClassDef) :
    language.spaceBefore s c c = none := by
  cases language with
  | typescript =>
    cases hc : c.isRoot <;> simp [Language.spaceBefore, TypeScript.spaceBefore, TypeScript.scopeOf, hc]
  | rust => rfl

section Linked
variable {m : TypeModel} (s : Settings) (language : Language) {c d : ClassDef}

/-- A secondary namespace that no class would be in makes no difference. -/
theorem severs_effectiveSettings (hc : c ∈ m.classes) (hd : d ∈ m.classes) :
    language.severs (effectiveSettings m s) c d = language.severs s c d := by
  unfold effectiveSettings
  split
  case isTrue hall =>
    have hc := List.all_eq_true.mp hall c hc
    have hd := List.all_eq_true.mp hall d hd
    cases hmain : s.mainNamespace <;> cases hsecondary : s.secondaryNamespace <;> cases language <;>
      simp [Language.severs, hmain, hsecondary, hc, hd]
  case isFalse => rfl

theorem denoted_eq (hm : m.Linked) (hc : c ∈ m.classes) (hd : d ∈ m.classes) (id : ClassId) :
    language.denoted m s c ⟨language.spaceBefore (effectiveSettings m s) c d, d.name, id⟩ =
      if language.severs s c d then [] else [d] := by
  rw [← severs_effectiveSettings s language hc hd]
  cases language with
  | typescript => exact TypeScript.denoted_eq hm hd id
  | rust => exact Rust.denoted_eq hm hd id

/-- In a linked model a name denotes the class that it was written for, or nothing at all. -/
theorem denoted_of_linked (hm : m.Linked) (hc : c ∈ m.classes) {r : Mention}
    (hr : language.Mentions m s c r) : ∃ d ∈ m.classes, d.id = r.id ∧ d.name = r.name ∧
      language.denoted m s c r = if language.severs s c d then [] else [d] := by
  rcases exists_of_mentioned hr with rfl | ⟨f, hf, id, d, hid, hd, rfl⟩
  · refine ⟨c, hc, rfl, rfl, ?_⟩
    rw [← denoted_eq s language hm hc hc c.id, spaceBefore_self]
  · have hmem := TypeModel.mem_classes.mpr ⟨id, hd⟩
    exact ⟨d, hmem, hm.id hd, rfl, denoted_eq s language hm hc hmem id⟩

end Linked

theorem linked_inferValues (s : Settings) {documents : List Json}
    (h : ∀ x ∈ documents, x.DistinctKeys) : (inferValues s documents).Linked := by
  have hkeys := s.observer.distinctKeys_evidenceOf fun _ hx =>
    Inference.distinctKeys_of_mem_samplesOf h hx
  obtain ⟨hwf, hroot⟩ := ClassTable.wellFormed_internRoot hkeys
  rw [inferValues_eq_inferBy]
  exact linked_freeze s.examplePolicy hwf hroot s.rootName

/-- The pieces of the definition of a class of an inferred model make up what is written. A class name among
them denotes the class that it was written for, and nothing if that class is severed. -/
theorem denoted_inferValues (s s' : Settings) {documents : List Json}
    (h : ∀ x ∈ documents, x.DistinctKeys) (language : Language) {c : ClassDef}
    (hc : c ∈ (inferValues s documents).classes) :
    language.writer.typeLines (inferValues s documents)
        (effectiveSettings (inferValues s documents) s') c =
      inNamespace (effectiveSettings (inferValues s documents) s') c.isRoot
        ((language.definition (inferValues s documents)
          (effectiveSettings (inferValues s documents) s') c).map Line.shown) ∧
      ∀ r, language.Mentions (inferValues s documents) s' c r →
        ∃ d ∈ (inferValues s documents).classes, d.id = r.id ∧ d.name = r.name ∧
          language.denoted (inferValues s documents) s' c r =
            if language.severs s' c d then [] else [d] :=
  ⟨typeLines_eq _ _ c language,
    fun _ hr => denoted_of_linked s' language (linked_inferValues s h) hc hr⟩

def twoNamespaces : Settings where
  mainNamespace := some "Api"
  secondaryNamespace := some "ApiModels"

/-- The root class leads to a class that leads back to it. -/
def backReference : List Json := [.object [("a", .object [("b", .object [("a", .null)])])]]

theorem distinctKeys_backReference : ∀ x ∈ backReference, x.DistinctKeys := by
  intro x hx
  cases List.mem_singleton.mp hx
  simp [Json.distinctKeys_object, Json.DistinctKeys.null]

theorem denoted_inferValues_backReference :
    ∃ c ∈ (inferValues twoNamespaces backReference).classes, ∃ r,
      Language.typescript.Mentions (inferValues twoNamespaces backReference) twoNamespaces c r ∧
      ∃ d ∈ (inferValues twoNamespaces backReference).classes, d.name = "A" ∧
        Language.typescript.denoted (inferValues twoNamespaces backReference) twoNamespaces c r =
          [d] := by
  have hc : ∃ c, (inferValues twoNamespaces backReference).class? ⟨1⟩ = some c ∧ c.isRoot = true ∧
      Language.typescript.Mentions (inferValues twoNamespaces backReference) twoNamespaces c
        ⟨some "ApiModels", "A", ⟨0⟩⟩ :=
    ⟨_, rfl, rfl, _, List.mem_of_getElem? (i := 1) rfl, List.mem_of_getElem? (i := 1) rfl⟩
  obtain ⟨c, hc, hroot, hr⟩ := hc
  have hc := TypeModel.mem_classes.mpr ⟨_, hc⟩
  obtain ⟨d, hd, _, hname, hdenoted⟩ :=
    (denoted_inferValues twoNamespaces twoNamespaces distinctKeys_backReference .typescript hc).2 _ hr
  refine ⟨c, hc, _, hr, d, hd, hname, hdenoted.trans (if_neg ?_)⟩
  simp [Language.severs, twoNamespaces, hroot]

/-- The class outside of the root's namespace names the root class as if it were inside. -/
theorem denoted_eq_nil_backReference :
    ∃ c ∈ (inferValues twoNamespaces backReference).classes, ∃ r,
      Language.typescript.Mentions (inferValues twoNamespaces backReference) twoNamespaces c r ∧
      r.name = "Root" ∧
      Language.typescript.denoted (inferValues twoNamespaces backReference) twoNamespaces c r = [] :=
  ⟨_, TypeModel.mem_classes.mpr ⟨⟨0⟩, rfl⟩, _,
    ⟨_, List.mem_of_getElem? (i := 1) rfl, List.mem_of_getElem? (i := 1) rfl⟩, rfl, rfl⟩

end Specimen.Source
