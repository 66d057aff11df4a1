import Specimen.Inference
import Specimen.Proofs.Classes.Discovery
import Specimen.Proofs.Model.References
import Specimen.Proofs.Source.FieldNames
import Specimen.Proofs.Source.Scopes
import Specimen.Proofs.Text.Identifiers

/-! The names in Rust source as identifiers in the sense of Unicode.

Each class but those named after the root is named after a field that leads to it (`exists_namesake_freeze`), and
each field after its key. Its name is an identifier just if the key spells one
(`isUnicodeIdentifier_inferValues`): an underscore is put in front of a digit only if it is one of the ten of
ASCII, and characters are kept that are numbers but may not be in an identifier. -/
namespace Specimen
open Text

/-! ### What a class is named after -/

/-- What a class is named after that is reached through the field. -/
def FieldInfo.className (f : FieldInfo) : String :=
  if f.type.class?.isSome then pascalCase f.sourceName else singularize (pascalCase f.sourceName)

theorem className_freezeField (order : List ClassId) (examples : ExamplePolicy) (rootName : String)
    {g : Field ClassId} {c : ClassId} (hc : g.type.innermost? = some c) :
    (freezeField order examples g).className = Lead.base rootName ⟨some g.name, g.type⟩ := by
  rw [FieldInfo.className, Lead.base]
  change (if (freezeType order g.type).class?.isSome then _ else _) = _
  cases htype : g.type with
  | array item n => rfl
  | dictionary value n => rfl
  | object id n => rfl
  | _ => rw [htype] at hc; cases hc

/-- A class of a frozen table is named after the root, or after a field of a class that leads to it. -/
theorem exists_namesake_freeze {t : ClassTable} {root : Evidence ClassId} (ht : t.InRange)
    (hroot : root.RefersBelow t.entries.length) (rootName : String) (examples : ExamplePolicy) {c : ClassDef}
    (hc : c ∈ (freeze t root (assignNames t root rootName) examples).classes) : ∃ base n,
      c.name = numbered (stemName base) n ∧ (base = rootName ∨
        ∃ d ∈ (freeze t root (assignNames t root rootName) examples).classes, ∃ f ∈ d.fields,
          f.type.innermost? = some c.id ∧ base = f.className) := by
  obtain ⟨id, hc⟩ := TypeModel.mem_classes.mp hc
  obtain ⟨a, entry, ha, _, rfl⟩ := exists_of_class?_freeze _ examples ht hroot hc
  obtain ⟨name, hname⟩ := Option.isSome_iff_exists.mp (isSome_lookup_iff.mpr
    ((mem_assignNames ht hroot rootName).mpr (List.mem_of_getElem? ha)))
  obtain ⟨lead, n, hlead, htype, hspelling⟩ := exists_namesake ht hroot rootName hname
  refine ⟨lead.base rootName, n, ?_, ?_⟩
  · rw [freezeClass, hname, hspelling]
    rfl
  rcases hlead with rfl | ⟨b, hb, hlead⟩
  · exact .inl rfl
  · obtain ⟨entry, hentry⟩ := exists_entry_of_mem_emissionOrder ht hroot hb
    obtain ⟨g, hg, rfl⟩ := List.mem_map.mp hlead
    rw [ClassTable.fieldsOf_of_entry hentry] at hg
    have hd := TypeModel.mem_classes.mpr
      ⟨_, class?_freeze (assignNames t root rootName) examples ht hroot hb hentry⟩
    refine .inr ⟨_, hd, _, List.mem_map_of_mem hg, ?_, (className_freezeField _ examples rootName htype).symm⟩
    change (freezeType (emissionOrder t root) g.type).innermost? = _
    rw [innermost?_freezeType, htype]
    rfl

theorem exists_namesake_inferValues (s : Settings) {documents : List Json}
    (h : ∀ x ∈ documents, x.DistinctKeys) {c : ClassDef} (hc : c ∈ (inferValues s documents).classes) :
    ∃ base n, c.name = numbered (stemName base) n ∧ (base = s.rootName ∨
      ∃ d ∈ (inferValues s documents).classes, ∃ f ∈ d.fields,
        f.type.innermost? = some c.id ∧ base = f.className) := by
  have hkeys := s.observer.distinctKeys_evidenceOf fun _ hx =>
    Inference.distinctKeys_of_mem_samplesOf h hx
  obtain ⟨hwf, hroot⟩ := ClassTable.wellFormed_internRoot hkeys
  rw [inferValues_eq_inferBy] at hc ⊢
  exact exists_namesake_freeze hwf.inRange hroot s.rootName s.examplePolicy hc

/-! ### Classes -/

theorem isUnicodeIdentifier_suffixed_iff {base suffix : String} (hne : base ≠ "") (hunder : base ≠ "_")
    (hsuffix : ∀ c ∈ suffix.toList, isXidContinue c = true) :
    IsUnicodeIdentifier (base ++ suffix).toList ↔ IsUnicodeIdentifier base.toList := by
  have hunder : base.toList ≠ ['_'] := fun h => hunder (String.toList_inj.mp h)
  rw [String.toList_append]
  exact isUnicodeIdentifier_append_iff (by simpa using hne) hunder hsuffix

theorem isUnicodeIdentifier_numbered_iff {base : String} (hne : base ≠ "") (hunder : base ≠ "_") (n : Nat) :
    IsUnicodeIdentifier (numbered base n).toList ↔ IsUnicodeIdentifier base.toList := by
  cases n with
  | zero => rfl
  | succ n => exact isUnicodeIdentifier_suffixed_iff hne hunder fun c hc => isXidContinue_of_mem_decimal hc

theorem isUnicodeIdentifier_fallbackName : IsUnicodeIdentifier fallbackName.toList := by decide +kernel

/-- The name of a class that is reached through a field is an identifier just if the key of the field spells one,
whatever number it gets. -/
theorem isUnicodeIdentifier_className_iff (f : FieldInfo) (n : Nat) :
    IsUnicodeIdentifier (numbered (stemName f.className) n).toList ↔ SpellsName isCapitalLead f.sourceName := by
  have hcapital : IsCapitalized f.className.toList := by
    unfold FieldInfo.className
    split
    · exact pascalCase_capitalized f.sourceName
    · rw [singularize, String.toList_ofList]
      exact singularChars_capitalized (pascalCase_capitalized f.sourceName)
  have hunder : stemName f.className ≠ "_" := by
    unfold stemName
    split
    · decide
    · intro h
      rw [h] at hcapital
      exact hcapital.ne_underscore rfl
  rw [isUnicodeIdentifier_numbered_iff (stemName_ne_empty _) hunder, stemName]
  unfold FieldInfo.className
  by_cases hclass : f.type.class?.isSome = true
  · rw [if_pos hclass]
    exact isUnicodeIdentifier_pascalCase_iff isUnicodeIdentifier_fallbackName f.sourceName
  · rw [if_neg hclass]
    exact isUnicodeIdentifier_singularize_iff isUnicodeIdentifier_fallbackName f.sourceName

/-! ### Fields -/

namespace Source.Rust

theorem isUnicodeIdentifier_numberedIdent_iff {base : String} (hne : base ≠ "") (hunder : base ≠ "_") (n : Nat) :
    IsUnicodeIdentifier (numberedIdent base n).toList ↔ IsUnicodeIdentifier base.toList := by
  cases n with
  | zero => rfl
  | succ n =>
    have hcontinue : isXidContinue '_' = true := by decide +kernel
    rw [numberedIdent, String.append_assoc]
    refine isUnicodeIdentifier_suffixed_iff hne hunder fun c hc => ?_
    rw [String.toList_append] at hc
    rcases List.mem_cons.mp hc with rfl | hc
    · exact hcontinue
    · exact isXidContinue_of_mem_decimal hc

/-- An underscore after a keyword leaves it an identifier. -/
theorem isUnicodeIdentifier_escapeKeyword_iff (word : String) :
    IsUnicodeIdentifier (escapeKeyword word).bare.toList ↔ IsUnicodeIdentifier word.toList := by
  rw [bare_escapeKeyword]
  split
  case isTrue hpath =>
    have hall : ∀ word ∈ pathKeywords, IsUnicodeIdentifier (word ++ "_").toList ∧
        IsUnicodeIdentifier word.toList := by
      decide +kernel
    exact iff_of_true (hall word hpath).1 (hall word hpath).2
  case isFalse => rfl

theorem isUnicodeIdentifier_bare_iff {c : ClassDef} {p : FieldInfo × Ident}
    (hp : p ∈ c.fields.zip (fieldIdents c)) :
    IsUnicodeIdentifier p.2.bare.toList ↔ SpellsName isLead p.1.sourceName := by
  obtain ⟨n, hn⟩ := exists_of_mem_zip hp
  have hfallback : IsUnicodeIdentifier "field".toList := by decide +kernel
  have hne : stemWord p.1.sourceName ≠ "" := by
    unfold stemWord
    split
    case isTrue => decide
    case isFalse hempty => simpa using hempty
  have hunder : stemWord p.1.sourceName ≠ "_" := by
    intro h
    exact getLast?_stemWord p.1.sourceName (by rw [h]; rfl)
  rw [hn, isUnicodeIdentifier_escapeKeyword_iff, isUnicodeIdentifier_numberedIdent_iff hne hunder, stemWord]
  exact isUnicodeIdentifier_snakeCase_iff hfallback p.1.sourceName

/-! ### The names of a model -/

section Inferred
variable {s : Settings} (hroot : IsUnicodeIdentifier s.rootName.toList) {documents : List Json}
  (h : ∀ x ∈ documents, x.DistinctKeys)
include hroot h

theorem isUnicodeIdentifier_name_inferValues {c : ClassDef} (hc : c ∈ (inferValues s documents).classes) :
    (IsUnicodeIdentifier c.name.toList ∧ ∃ n, c.name = numbered s.rootName n) ∨
      ∃ d ∈ (inferValues s documents).classes, ∃ f ∈ d.fields, f.type.innermost? = some c.id ∧
        (∃ n, c.name = numbered (stemName f.className) n) ∧
        (IsUnicodeIdentifier c.name.toList ↔ SpellsName isCapitalLead f.sourceName) := by
  obtain ⟨base, n, hname, hbase⟩ := exists_namesake_inferValues s h hc
  rcases hbase with rfl | ⟨d, hd, f, hf, hleads, rfl⟩
  · have hne : s.rootName ≠ "" := by simpa using hroot.nonempty
    have hunder : s.rootName ≠ "_" := fun heq => hroot.underscore (by rw [heq]; rfl)
    rw [stemName, if_neg (by simpa using hne)] at hname
    exact .inl ⟨hname ▸ (isUnicodeIdentifier_numbered_iff hne hunder n).mpr hroot, n, hname⟩
  · exact .inr ⟨d, hd, f, hf, hleads, ⟨n, hname⟩, hname ▸ isUnicodeIdentifier_className_iff f n⟩

/-- Let the root have an identifier as its name. Then a class that is named after it has one, whatever number it
gets, and any other class just if the key of some field that leads to it spells one. The name of a field is one
just if its key spells one. So all names are identifiers just if all keys spell identifiers. -/
theorem isUnicodeIdentifier_inferValues :
    (∀ c ∈ (inferValues s documents).classes,
      (IsUnicodeIdentifier c.name.toList ∧ ∃ n, c.name = numbered s.rootName n) ∨
        ∃ d ∈ (inferValues s documents).classes, ∃ f ∈ d.fields, f.type.innermost? = some c.id ∧
          (∃ n, c.name = numbered (stemName f.className) n) ∧
          (IsUnicodeIdentifier c.name.toList ↔ SpellsName isCapitalLead f.sourceName)) ∧
    (∀ c ∈ (inferValues s documents).classes, ∀ p ∈ c.fields.zip (fieldIdents c),
      (IsUnicodeIdentifier p.2.bare.toList ↔ SpellsName isLead p.1.sourceName)) ∧
    ((∀ c ∈ (inferValues s documents).classes, IsUnicodeIdentifier c.name.toList ∧
        ∀ ident ∈ fieldIdents c, IsUnicodeIdentifier ident.bare.toList) ↔
      ∀ c ∈ (inferValues s documents).classes, ∀ f ∈ c.fields, SpellsName isLead f.sourceName) := by
  refine ⟨fun c hc => isUnicodeIdentifier_name_inferValues hroot h hc,
    fun c _ p hp => isUnicodeIdentifier_bare_iff hp, fun hall c hc f hf => ?_,
    fun hall c hc => ⟨?_, fun ident hident => ?_⟩⟩
  · rw [← List.map_fst_zip (length_fieldIdents c).ge] at hf
    obtain ⟨p, hp, rfl⟩ := List.mem_map.mp hf
    exact (isUnicodeIdentifier_bare_iff hp).mp ((hall c hc).2 p.2 (List.of_mem_zip hp).2)
  · rcases isUnicodeIdentifier_name_inferValues hroot h hc with ⟨hname, -⟩ | ⟨d, hd, f, hf, -, -, hiff⟩
    · exact hname
    · exact hiff.mpr (hall d hd f hf).capital
  · rw [← List.map_snd_zip (length_fieldIdents c).le] at hident
    obtain ⟨p, hp, rfl⟩ := List.mem_map.mp hident
    exact (isUnicodeIdentifier_bare_iff hp).mpr (hall c hc p.1 (List.of_mem_zip hp).1)

end Inferred

/-- Keys with a digit in front, with letters beyond ASCII, and that are keywords. -/
def spelledKeys : List Json :=
  [.object [("2fa settings", .object [("größe", .number (.int 1))]), ("self", .null)]]

theorem isUnicodeIdentifier_inferValues_spelledKeys :
    (inferValues {} spelledKeys).classes.map ClassDef.name = ["_2faSettings", "Root"] ∧
      (inferValues {} spelledKeys).classes.map (fun c => (fieldIdents c).map Ident.bare) =
        [["größe"], ["_2fa_settings", "self_"]] ∧
      ∀ c ∈ (inferValues {} spelledKeys).classes, IsUnicodeIdentifier c.name.toList ∧
        ∀ ident ∈ fieldIdents c, IsUnicodeIdentifier ident.bare.toList := by
  have hdistinct : ∀ x ∈ spelledKeys, x.DistinctKeys := by
    simp [spelledKeys, Json.distinctKeys_object, Json.DistinctKeys.null, Json.DistinctKeys.number]
  have hkeys : ∀ c ∈ (inferValues {} spelledKeys).classes, ∀ f ∈ c.fields,
      SpellsName isLead f.sourceName := by
    decide +kernel
  exact ⟨by decide +kernel, by decide +kernel,
    (isUnicodeIdentifier_inferValues (by decide +kernel) hdistinct).2.2.mpr hkeys⟩

/-- An object under a key that is a digit, but none of the ten of ASCII. -/
def digitKey : List Json := [.object [("٣", .object [("x", .number (.int 1))])]]

/-- The class and the field are named by the digit, which may not begin an identifier. -/
theorem not_isUnicodeIdentifier_digitKey :
    IsUnicodeIdentifier ({} : Settings).rootName.toList ∧
      (inferValues {} digitKey).classes.map ClassDef.name = ["٣", "Root"] ∧
      (inferValues {} digitKey).classes.map (fun c => (fieldIdents c).map Ident.bare) = [["x"], ["٣"]] ∧
      ¬ IsUnicodeIdentifier "٣".toList := by
  decide +kernel

end Source.Rust

end Specimen
