import Specimen.Proofs.Classes.Discovery
import Specimen.Proofs.Inference.Exactness
import Specimen.Proofs.Model.Coherence
import Specimen.Proofs.Source.Acceptance
import Specimen.Proofs.Source.Elements

/-! Where one writer admits a null, the other does.

Of an element one writer says by the flag that it may be null, the other by flag and kind. Both say the same
as long as kinds say of null what flags say (`admitsNull_element`), as they do in every inferred model. The
exception is a class by the name of the type of any value: one text stands for a class then, and the other
admits anything. The flag also makes a member optional in the one language, and gives a field its default in
the other. -/
namespace Specimen.Source

/-! ### Nulls among the elements -/

theorem TypeScript.not_admitsNull_of_ending {a s : String} (hs : s ≠ "")
    (h : s.toList.getLast? ≠ some 'l' ∧ s.toList.getLast? ≠ some 'y') : ¬ AdmitsNull (a ++ s) := by
  rintro (hany | ⟨u, hu⟩)
  · exact append_ne_of_ending (b := "") (t := "any") hs (by decide) h.2 (hany.trans String.empty_append.symm)
  · rw [← String.toList_ofList (l := u), ← String.toList_append, String.toList_inj] at hu
    exact append_ne_of_ending (s := " | null") (by decide) hs (fun heq => h.1 heq.symm) hu

/-- Leaves admit null in both languages, or in neither. -/
theorem admitsNull_leafName (kind : Kind) :
    (TypeScript.AdmitsNull (TypeScript.leafName kind) ↔ Rust.AdmitsNull (Rust.leafName kind)) ∧
      Rust.leafName kind ≠ "any" := by
  cases kind <;> decide +kernel

theorem admitsNull_neither {t u : String} (ht : ¬ TypeScript.AdmitsNull t) (hu : ¬ Rust.AdmitsNull u) :
    (TypeScript.AdmitsNull t ↔ Rust.AdmitsNull u) ↔ ¬ (t = "any" ∧ u = "any") :=
  iff_of_true (iff_of_false ht hu) fun h => ht (.inl h.1)

section AdmitsNull
variable {m : TypeModel} (hnames : ∀ c ∈ m.classes, Undelimited c.name) (scope : Option String)
include hnames

/-- Without a mark of null in either text, one text admits null where the other does, unless both are the name
of a class that is also the name of the type of any value. -/
theorem admitsNull_unmarked (τ : TypeNode) :
    (TypeScript.AdmitsNull (TypeScript.qualifiedName m scope τ) ↔
        Rust.AdmitsNull (Rust.plainName m τ)) ↔
      ¬ (TypeScript.qualifiedName m scope τ = "any" ∧ Rust.plainName m τ = "any") := by
  cases τ with
  | leaf kind n =>
    obtain ⟨hsame, hany⟩ := admitsNull_leafName kind
    exact iff_of_true hsame fun h => hany h.2
  | array element n =>
    refine admitsNull_neither ?_ ?_
    · rw [TypeScript.qualifiedName_array]
      exact TypeScript.not_admitsNull_of_ending (by decide) (by decide)
    · rw [Rust.admitsNull_plainName hnames, Rust.plainName_array]
      exact Rust.enclosed_ne (by decide +kernel) _
  | dictionary element n =>
    refine admitsNull_neither ?_ ?_
    · rw [TypeScript.qualifiedName_dictionary]
      exact TypeScript.not_admitsNull_of_ending (by decide) (by decide)
    · rw [Rust.admitsNull_plainName hnames, Rust.plainName_dictionary]
      exact Rust.enclosed_ne (by decide +kernel) _
  | object id n =>
    cases hc : m.class? id with
    | none =>
      have hts := TypeScript.qualifiedName_eq_any scope hc n
      have hrust := Rust.plainName_eq_dynamicName hc n
      rw [hts, hrust]
      exact iff_of_true (iff_of_true (.inl rfl) (.inl rfl)) fun h => absurd h.2 (by decide)
    | some c =>
      have hname := hnames c (TypeModel.mem_classes.mpr ⟨id, hc⟩)
      obtain ⟨p, htext, hp⟩ := TypeScript.exists_qualifiedName_eq scope hc n
      have hts : TypeScript.AdmitsNull (p ++ c.name) ↔ p ++ c.name = "any" :=
        or_iff_left (TypeScript.not_null_suffix hname hp)
      have hrust := Rust.admitsNull_plainName hnames (.object id n)
      rw [Rust.plainName_eq_name hc] at hrust
      have hnot : c.name ≠ Rust.dynamicName := fun h =>
        hname.chars ':' (h ▸ by decide +kernel) (by decide)
      have hsame : p ++ c.name = "any" → c.name = "any" := by
        rcases hp with rfl | ⟨space, rfl⟩
        · simp
        · intro h
          have hdot : '.' ∈ (space ++ "." ++ c.name).toList := by simp
          rw [h] at hdot
          exact absurd hdot (by decide)
      rw [htext, Rust.plainName_eq_name hc, hts, hrust, iff_false_right hnot]
      exact not_congr ⟨fun h => ⟨h, hsame h⟩, And.left⟩

/-- The same for elements, where the mark of null depends on the flag in the one language and on flag and kind
in the other. -/
theorem admitsNull_element {τ : TypeNode} (h : τ.kind.isNullable = true → τ.nullable = true) :
    (TypeScript.AdmitsNull (TypeScript.orNull τ (TypeScript.qualifiedName m scope τ)) ↔
        Rust.AdmitsNull (Rust.typeName m τ)) ↔
      ¬ (TypeScript.orNull τ (TypeScript.qualifiedName m scope τ) = "any" ∧
        Rust.typeName m τ = "any") := by
  rw [Rust.typeName, Rust.orNone_eq h, TypeScript.orNull]
  split
  case isTrue =>
    have hts (t : String) : TypeScript.AdmitsNull (t ++ " | null") :=
      .inr (by rw [String.toList_append]; exact List.suffix_append ..)
    have hrust (t : String) : Rust.AdmitsNull ("Option<" ++ t ++ ">") :=
      .inr (by rw [String.append_assoc, String.toList_append]; exact List.prefix_append ..)
    exact iff_of_true (iff_of_true (hts _) (hrust _)) fun h => Rust.enclosed_ne (by decide) _ h.2
  case isFalse => exact admitsNull_unmarked hnames scope τ

end AdmitsNull

/-! ### Members that may be missing -/

namespace TypeScript

/-- Among the lines is the declaration of an optional member for the key. -/
def MarksOptional (key : String) (lines : List String) : Prop :=
  ∃ line ∈ lines, ("    " ++ memberName key ++ "?").toList <+: line.toList

theorem exists_memberName_eq (key : String) :
    ∃ c cs, (memberName key).toList = c :: cs ∧ c ≠ ' ' ∧ c ≠ '/' := by
  unfold memberName
  split
  case isTrue h =>
    unfold isIdentifier at h
    split at h
    case h_1 => cases h
    case h_2 c cs hkey =>
      rw [Bool.and_eq_true] at h
      have hblank : isNameStart ' ' = false := by decide
      have hslash : isNameStart '/' = false := by decide
      refine ⟨c, cs, hkey, ?_, ?_⟩ <;> rintro rfl
      · exact absurd h.1 (by simp [hblank])
      · exact absurd h.1 (by simp [hslash])
  case isFalse => exact ⟨'\x27', _, String.toList_ofList, by decide, by decide⟩

/-- The member is optional just if the field is nullable. -/
theorem marksOptional_fieldLines (m : TypeModel) (s : Settings) (scope : Option String) (f : FieldInfo) :
    MarksOptional f.sourceName (fieldLines m s scope f) ↔ f.nullable = true := by
  obtain ⟨c, cs, hname, hblank, hslash⟩ := exists_memberName_eq f.sourceName
  have hmarked : ("    " ++ memberName f.sourceName ++ "?").toList =
      ' ' :: ' ' :: ' ' :: ' ' :: c :: (cs ++ ['?']) := by
    simp [String.toList_append, hname]
  -- The comment differs in the character after the indentation.
  have hcomment : ¬ ∃ line ∈ (if showsExamples s f then
      ["", "    /**", "     * Examples: " ++ examplesText s f, "     */"] else []),
      ("    " ++ memberName f.sourceName ++ "?").toList <+: line.toList := by
    rw [hmarked]
    split <;> simp [String.toList_append, List.cons_prefix_cons, hblank, hslash]
  simp only [MarksOptional, fieldLines, List.mem_append, or_and_right, exists_or, List.mem_singleton,
    exists_eq_left]
  rw [or_iff_right hcomment]
  cases f.nullable with
  | true =>
    refine iff_of_true ?_ rfl
    simp only [if_true, String.toList_append, List.append_assoc, List.prefix_append_right_inj]
    exact List.prefix_append ..
  | false =>
    refine iff_of_false ?_ (by decide)
    simp [String.toList_append, List.prefix_append_right_inj, List.cons_prefix_cons]

end TypeScript

namespace Rust

/-- Among the lines is an attribute by which the field has a default. -/
def MarksDefault (lines : List String) : Prop :=
  ∃ line ∈ lines, "    #[serde(default".toList <+: line.toList

theorem exists_identText_eq {ident : Ident} (h : ident.Valid) :
    ∃ c cs, ident.text.toList = c :: cs ∧ c ≠ '#' := by
  unfold Ident.text
  split
  case isTrue => exact ⟨'r', '#' :: ident.bare.toList, by simp [String.toList_append], by decide⟩
  case isFalse =>
    have hne : ident.bare.toList ≠ [] := by simpa using h.word.nonempty
    obtain ⟨c, cs, hbare⟩ := List.exists_cons_of_ne_nil hne
    refine ⟨c, cs, hbare, ?_⟩
    rintro rfl
    have hchar := h.word.chars '#' (by rw [hbare]; exact List.mem_cons_self ..)
    exact absurd hchar (by decide)

theorem marksDefault_missingLines (f : FieldInfo) (type : String) :
    MarksDefault (missingLines f type) ↔ "Option<".toList <+: type.toList ∨ f.nullable = true := by
  rw [← String.startsWith_string_iff, missingLines]
  split
  case isTrue h => exact iff_of_true ⟨_, List.mem_singleton_self _, by decide +kernel⟩ (.inl h)
  case isFalse h =>
    rw [or_iff_right h]
    split
    case isTrue hn => exact iff_of_true ⟨_, List.mem_singleton_self _, by decide +kernel⟩ hn
    case isFalse hn => exact iff_of_false (by simp [MarksDefault]) hn

/-- The field has a default if it is nullable or its type is an option. -/
theorem marksDefault_fieldLines (m : TypeModel) (s : Settings) (c : ClassDef) (f : FieldInfo) {ident : Ident}
    (hident : ident.Valid) : MarksDefault (fieldLines m s c f ident) ↔
      "Option<".toList <+: (fieldType m c f).toList ∨ f.nullable = true := by
  obtain ⟨d, ds, htext, hhash⟩ := exists_identText_eq hident
  have hcomment : ¬ ∃ line ∈ (if showsExamples s f then
      ["    /// Examples: " ++ String.intercalate ", " ((shownExamples s f).map Json.compact)] else []),
      "    #[serde(default".toList <+: line.toList := by
    split <;> simp [String.toList_append, List.cons_prefix_cons]
  have hrename : ¬ ∃ line ∈ (if ident.bare != f.sourceName then
      ["    #[serde(rename = " ++ Text.quoted f.sourceName ++ ")]"] else []),
      "    #[serde(default".toList <+: line.toList := by
    split <;> simp [String.toList_append, List.cons_prefix_cons]
  have hdeclaration : ¬ "    #[serde(default".toList <+:
      ("    " ++ (if s.useProperties then "" else visibility s) ++ ident.text ++ ": " ++ fieldType m c f ++
        ",").toList := by
    unfold visibility
    split
    · simp [String.toList_append, List.cons_prefix_cons, htext, Ne.symm hhash]
    · split <;> simp [String.toList_append, List.cons_prefix_cons]
  rw [← marksDefault_missingLines]
  simp only [MarksDefault, fieldLines, List.mem_append, or_and_right, exists_or, List.mem_singleton,
    exists_eq_left]
  rw [or_iff_right hcomment, or_iff_right hrename, or_iff_left hdeclaration]

end Rust

/-! ### Inferred models -/

/-- A field is optional in the one language and has a default in the other, or neither. At each depth of its
type there are elements in both, or in neither, and both admit null or neither does, unless both are written
as a class by the name of the type of any value. -/
structure Agree (m : TypeModel) (s : Settings) (c : ClassDef) (f : FieldInfo) (ident : Rust.Ident) :
    Prop where
  missing : TypeScript.MarksOptional f.sourceName
      (TypeScript.fieldLines m s (TypeScript.scopeOf s c) f) ↔
    Rust.MarksDefault (Rust.fieldLines m s c f ident)
  places : ∀ depth, (∃ e, Inside TypeScript.Element (depth + 1)
      (TypeScript.qualifiedName m (TypeScript.scopeOf s c) f.type) e) ↔
    ∃ r, Inside Rust.Element (depth + 1) (Rust.fieldType m c f) r
  nulls : ∀ {depth e r}, Inside TypeScript.Element (depth + 1)
      (TypeScript.qualifiedName m (TypeScript.scopeOf s c) f.type) e →
    Inside Rust.Element (depth + 1) (Rust.fieldType m c f) r →
    ((TypeScript.AdmitsNull e ↔ Rust.AdmitsNull r) ↔ ¬ (e = "any" ∧ r = "any"))

theorem agree_of_flags {m : TypeModel} (hnames : ∀ c ∈ m.classes, Undelimited c.name) (s : Settings)
    {c : ClassDef} {f : FieldInfo} {ident : Rust.Ident} (hident : ident.Valid)
    (hfield : f.nullable = f.type.nullable)
    (hflags : ∀ {depth σ}, f.type.inside? depth = some σ → σ.kind.isNullable = true → σ.nullable = true) :
    Agree m s c f ident := by
  have hts := inside_succ_iff (TypeScript.element_elementName hnames (TypeScript.scopeOf s c))
    (TypeScript.element_qualifiedName hnames (TypeScript.scopeOf s c) f.type)
  have hrust := inside_succ_iff (Rust.element_typeName hnames) (Rust.element_fieldType hnames c f)
  have hflags₀ (hkind : f.type.kind.isNullable = true) : f.nullable = true :=
    hfield.trans (hflags (show f.type.inside? 0 = some f.type from rfl) hkind)
  refine ⟨?_, fun depth => ?_, fun {depth e r} he hr => ?_⟩
  · rw [TypeScript.marksOptional_fieldLines, Rust.marksDefault_fieldLines m s c f hident]
    exact (or_iff_right_of_imp (Rust.nullable_of_option_opening hnames c hflags₀)).symm
  · simp only [hts, hrust]
    constructor <;> exact fun ⟨_, σ, hσ, _⟩ => ⟨_, σ, hσ, rfl⟩
  · obtain ⟨σ, hσ, rfl⟩ := (hts depth e).mp he
    obtain ⟨σ', hσ', rfl⟩ := (hrust depth r).mp hr
    cases hσ.symm.trans hσ'
    exact admitsNull_element hnames (TypeScript.scopeOf s c) (hflags hσ)

theorem exists_of_inside?_freezeType {order : List ClassId} {depth : Nat} {e : Evidence ClassId}
    {σ : TypeNode} (h : (freezeType order e).inside? depth = some σ) : ∃ e', σ = freezeType order e' := by
  induction depth generalizing e with
  | zero => exact ⟨e, (Option.some.inj h).symm⟩
  | succ depth ih =>
    cases e with
    | array item n => exact ih h
    | dictionary value n => exact ih h
    | anything n => cases n <;> cases h
    | scalar k n => cases n <;> cases h
    | _ => cases h

theorem isNameChar_of_mem_delimiters {c : Char} (h : c ∈ delimiters) : Text.isNameChar c = false := by
  have hall : (delimiters.all fun c => !Text.isNameChar c) = true := by decide +kernel
  simpa using List.all_eq_true.mp hall c h

theorem undelimited_of_nameChars {name : String} (hne : name ≠ "")
    (h : ∀ c ∈ name.toList, Text.isNameChar c = true) : Undelimited name := by
  refine ⟨hne, fun c hc hdelimiter => ?_⟩
  exact absurd (h c hc) (by simp [isNameChar_of_mem_delimiters hdelimiter])

theorem Undelimited.numbered {base : String} (h : Undelimited base) (n : Nat) :
    Undelimited (numbered base n) := by
  cases n with
  | zero => exact h
  | succ n =>
    refine ⟨numbered_ne_empty h.nonempty _, fun c hc hdelimiter => ?_⟩
    rw [Specimen.numbered, String.toList_append, List.mem_append] at hc
    rcases hc with hc | hc
    · exact h.chars c hc hdelimiter
    · exact absurd (Text.isNameChar_of_mem_decimal hc)
        (by simp [isNameChar_of_mem_delimiters hdelimiter])

/-- A number is put behind a name, so a name that no digit ends has none. -/
theorem eq_any_of_numbered {base : String} {n : Nat} (h : numbered base n = "any") : base = "any" := by
  cases n with
  | zero => exact h
  | succ n =>
    have hne : Text.decimal (n + 2) ≠ "" := by
      rw [Text.decimal, Ne, String.ofList_eq_empty_iff]
      exact List.ne_nil_of_length_pos Nat.length_toDigits_pos
    refine absurd (h.trans String.empty_append.symm)
      (append_ne_of_ending (b := "") (t := "any") hne (by decide) fun hlast => ?_)
    have hy : 'y' ∈ Text.digitsOf (n + 2) := by
      rw [← String.toList_ofList (l := Text.digitsOf (n + 2))]
      exact List.mem_of_getLast? hlast
    exact absurd (Text.isAsciiDigit_of_mem_digitsOf hy) (by decide)

/-- The name of a class has none of the characters that types are put together with, if the name of the root
has none. It is the type of any value only if the root is to be named so. -/
theorem undelimited_of_mem_assignNames {rootName : String} (hroot : ∀ c ∈ rootName.toList, c ∉ delimiters)
    {t : ClassTable} {root : Evidence ClassId} {name : String}
    (h : name ∈ (assignNames t root rootName).map Prod.snd) :
    Undelimited name ∧ (name = "any" → rootName = "any") := by
  rcases assignNames_spelled t root rootName name h with rfl | ⟨hcapital, hne⟩
  · obtain ⟨n, hname, _⟩ := freeName_least reservedNames rootName
    have hstem : Undelimited (stemName rootName) := by
      unfold stemName
      split
      case isTrue => decide +kernel
      case isFalse hne => exact ⟨by simpa using hne, hroot⟩
    rw [hname]
    refine ⟨hstem.numbered n, fun hany => ?_⟩
    have hstemany := eq_any_of_numbered hany
    unfold stemName at hstemany
    split at hstemany
    case isTrue => exact absurd hstemany (by decide)
    case isFalse => exact hstemany
  · refine ⟨undelimited_of_nameChars hne hcapital.chars, ?_⟩
    rintro rfl
    exact absurd hcapital (by decide +kernel)

section Inferred
variable {s : Settings} (hroot : ∀ c ∈ s.rootName.toList, c ∉ delimiters) {documents : List Json}
  (h : ∀ d ∈ documents, d.DistinctKeys)
include hroot h

theorem undelimited_inferValues {c : ClassDef} (hc : c ∈ (inferValues s documents).classes) :
    Undelimited c.name ∧ (c.name = "any" → s.rootName = "any") := by
  obtain ⟨_, _, hname⟩ := Rust.named_inferValues h hc
  exact undelimited_of_mem_assignNames hroot hname

omit hroot in
theorem flags_inferValues {c : ClassDef} (hc : c ∈ (inferValues s documents).classes) {f : FieldInfo}
    (hf : f ∈ c.fields) {depth : Nat} {σ : TypeNode} (hσ : f.type.inside? depth = some σ) :
    σ.kind.isNullable = true → σ.nullable = true := by
  obtain ⟨t, root, names, hwf, hrefers, _, _, hmodel⟩ := inferValues_eq_freeze s h
  rw [hmodel] at hc
  obtain ⟨id, hc⟩ := TypeModel.mem_classes.mp hc
  obtain ⟨_, entry, _, _, rfl⟩ := exists_of_class?_freeze names s.examplePolicy hwf hrefers hc
  obtain ⟨g, _, rfl⟩ := List.mem_map.mp hf
  obtain ⟨e, rfl⟩ := exists_of_inside?_freezeType hσ
  exact (coherent_freezeType _ e).nullable

/-- No type is written as the type of any value in Rust, unless the root is to be named so. -/
theorem typeName_ne_any (hany : s.rootName ≠ "any") (σ : TypeNode) :
    Rust.typeName (inferValues s documents) σ ≠ "any" := by
  have henclosed := Rust.enclosed_ne (s := "any") (by decide)
  unfold Rust.typeName Rust.orNone
  split
  case isTrue => exact henclosed _
  case isFalse =>
    cases σ with
    | leaf kind n => exact (admitsNull_leafName kind).2
    | array element n => exact henclosed _
    | dictionary element n => exact henclosed _
    | object id n =>
      cases hc : (inferValues s documents).class? id with
      | none =>
        rw [Rust.plainName_eq_dynamicName hc]
        decide
      | some c =>
        rw [Rust.plainName_eq_name hc]
        have hmem := TypeModel.mem_classes.mpr ⟨id, hc⟩
        exact fun heq => hany ((undelimited_inferValues hroot h hmem).2 heq)

end Inferred

/-- The two renderings of a field agree, whatever the settings of the writers, unless both write an element as
a class by the name `any`. If the root is not to be named so, there is no such element. -/
theorem writers_agree (s s' : Settings) (hroot : ∀ c ∈ s.rootName.toList, c ∉ delimiters)
    {documents : List Json} (h : ∀ d ∈ documents, d.DistinctKeys) {c : ClassDef}
    (hc : c ∈ (inferValues s documents).classes) {f : FieldInfo} {ident : Rust.Ident}
    (hf : (f, ident) ∈ c.fields.zip (Rust.fieldIdents c)) :
    Agree (inferValues s documents) s' c f ident ∧ (s.rootName ≠ "any" → ∀ depth e r,
      Inside TypeScript.Element (depth + 1)
        (TypeScript.qualifiedName (inferValues s documents) (TypeScript.scopeOf s' c) f.type) e →
      Inside Rust.Element (depth + 1) (Rust.fieldType (inferValues s documents) c f) r →
      (TypeScript.AdmitsNull e ↔ Rust.AdmitsNull r)) := by
  obtain ⟨hf, hident⟩ := List.of_mem_zip hf
  have hnames := fun c hc => (undelimited_inferValues hroot h (c := c) hc).1
  have hagree := agree_of_flags (c := c) hnames s' (Rust.valid_of_mem_fieldIdents hident)
    (nullable_field_inferValues s hc hf) (fun hσ => flags_inferValues h hc hf hσ)
  refine ⟨hagree, fun hany depth e r he hr => (hagree.nulls he hr).mpr fun hboth => ?_⟩
  have hrust := inside_succ_iff (Rust.element_typeName hnames) (Rust.element_fieldType hnames c f)
  obtain ⟨σ, _, rfl⟩ := (hrust depth r).mp hr
  exact typeName_ne_any hroot h hany σ hboth.2

/-- The class of the two objects. The items of the list under `b` may be null. -/
def sparseClass : ClassDef where
  id := ⟨0⟩
  name := "Root"
  fields := [⟨"a", .leaf .nullableInteger { nullable := true }, true, 2, []⟩,
    ⟨"b", .array (.leaf .nullableBoolean { nullable := true }) { nullable := true }, true, 1, []⟩]
  isRoot := true
  samples := 2

theorem writers_agree_sparse : (inferValues {} sparseDocuments).class? ⟨0⟩ = some sparseClass ∧
    ∃ f ident, (f, ident) ∈ sparseClass.fields.zip (Rust.fieldIdents sparseClass) ∧
      Inside TypeScript.Element 1
        (TypeScript.qualifiedName (inferValues {} sparseDocuments) none f.type) "boolean | null" ∧
      Inside Rust.Element 1 (Rust.fieldType (inferValues {} sparseDocuments) sparseClass f)
        "Option<bool>" ∧
      (TypeScript.AdmitsNull "boolean | null" ↔ Rust.AdmitsNull "Option<bool>") := by
  have hc : (inferValues {} sparseDocuments).class? ⟨0⟩ = some sparseClass := rfl
  have hmem := TypeModel.mem_classes.mpr ⟨_, hc⟩
  have hf := List.mem_of_getElem? (i := 1) (l := sparseClass.fields.zip (Rust.fieldIdents sparseClass)) rfl
  have hts : Inside TypeScript.Element 1 (TypeScript.qualifiedName (inferValues {} sparseDocuments) none
      (.array (.leaf .nullableBoolean ⟨true, false⟩) ⟨true, false⟩)) "boolean | null" :=
    ⟨_, .array _, (by decide +kernel : "boolean | null" = _)⟩
  have hrust : Inside Rust.Element 1 (Rust.fieldType (inferValues {} sparseDocuments) sparseClass
      ⟨"b", .array (.leaf .nullableBoolean ⟨true, false⟩) ⟨true, false⟩, true, 1, []⟩)
      "Option<bool>" :=
    ⟨_, .wrapper (List.mem_cons_self ..) (.container (List.mem_cons_self ..) _),
      (by decide +kernel : "Option<bool>" = _)⟩
  have hroot : Undelimited "Root" := by decide +kernel
  refine ⟨hc, _, _, hf, hts, hrust, ?_⟩
  exact (writers_agree {} {} hroot.chars distinctKeys_sparseDocuments hmem hf).2 (by decide) 0 _ _ hts hrust

/-- A tree of objects of one class, whose leaves have an empty list. -/
def nestedChildren : List Json := [.object [("children", .array [.object [("children", .array [])]])]]

/-- The class of all objects of the tree, under the name `any`. -/
def anyClass : ClassDef where
  id := ⟨0⟩
  name := "any"
  fields := [⟨"children", .array (.object ⟨0⟩ {}) {}, false, 2, []⟩]
  isRoot := true
  samples := 2

/-- Under the name `any` the items of the list are objects in Rust and anything in TypeScript. -/
theorem not_writers_agree_nestedChildren :
    (inferValues (Rust.named "any") nestedChildren).class? ⟨0⟩ = some anyClass ∧
      Rust.IsIdentifierText "any" ∧
      ∃ f ident, (f, ident) ∈ anyClass.fields.zip (Rust.fieldIdents anyClass) ∧
        Inside TypeScript.Element 1 (TypeScript.qualifiedName
          (inferValues (Rust.named "any") nestedChildren) (TypeScript.scopeOf {} anyClass) f.type) "any" ∧
        Inside Rust.Element 1 (Rust.fieldType
          (inferValues (Rust.named "any") nestedChildren) anyClass f) "any" ∧
        ¬ (TypeScript.AdmitsNull "any" ↔ Rust.AdmitsNull "any") := by
  have hf := List.mem_of_getElem? (i := 0) (l := anyClass.fields.zip (Rust.fieldIdents anyClass)) rfl
  refine ⟨rfl, by decide +kernel, _, _, hf, ⟨_, .array _, ?_⟩,
    ⟨_, .container (List.mem_cons_self ..) _, ?_⟩, by decide +kernel⟩ <;>
  · change "any" = _
    decide +kernel

end Specimen.Source
