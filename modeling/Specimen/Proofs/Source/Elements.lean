import Specimen.Proofs.Model.References
import Specimen.Source.Render

/-! The elements of a type, as they stand in its text.

The text that a writer gives for a type holds those of its elements, to any depth (`Inside`). There is no text
but one at each depth, and it is that of the element of the type there (`inside_iff`): what types are put
together with is not found in names. -/
namespace Specimen.Source

/-- What types are put together with. An identifier has none of these characters. -/
def delimiters : List Char := [' ', '<', '>', '}', ':']

/-- A text that may be the name of a class, whatever else it may be. -/
structure Undelimited (name : String) : Prop where
  nonempty : name ≠ ""
  chars : ∀ c ∈ name.toList, c ∉ delimiters

instance (name : String) : Decidable (Undelimited name) :=
  decidable_of_iff (name ≠ "" ∧ (name.toList.all fun c => decide (c ∉ delimiters)) = true)
    ⟨fun ⟨h₁, h₂⟩ => ⟨h₁, by simpa using h₂⟩, fun ⟨h₁, h₂⟩ => ⟨h₁, by simpa using h₂⟩⟩

/-! ### Beginnings and endings -/

theorem append_ne_of_ending {a b s t : String} (hs : s ≠ "") (ht : t ≠ "")
    (h : s.toList.getLast? ≠ t.toList.getLast?) : a ++ s ≠ b ++ t := by
  intro heq
  have hlast := congrArg (fun u : String => u.toList.getLast?) heq
  rw [String.toList_append, String.toList_append, List.getLast?_append_of_ne_nil _ (by simpa using hs),
    List.getLast?_append_of_ne_nil _ (by simpa using ht)] at hlast
  exact h hlast

theorem append_ne_of_beginning {a b s t : String} (hs : s ≠ "") (ht : t ≠ "")
    (h : s.toList.head? ≠ t.toList.head?) : s ++ a ≠ t ++ b := by
  intro heq
  have hhead := congrArg (fun u : String => u.toList.head?) heq
  rw [String.toList_append, String.toList_append, List.head?_append_of_ne_nil _ (by simpa using hs),
    List.head?_append_of_ne_nil _ (by simpa using ht)] at hhead
  exact h hhead

/-- What ends in the name of a class does not end in something else. -/
theorem Undelimited.append_ne {name : String} (h : Undelimited name) (p : String) {b t : String} {c : Char}
    (hc : t.toList.getLast? = some c) (hdelimiter : c ∈ delimiters) : p ++ name ≠ b ++ t := by
  refine append_ne_of_ending h.nonempty (by rintro rfl; cases hc) fun hlast => ?_
  rw [hc] at hlast
  exact h.chars c (List.mem_of_getLast? hlast) hdelimiter

/-! ### Elements -/

/-- From the text of a type to the text of an element at some depth. -/
def Inside (element : String → String → Prop) : Nat → String → String → Prop
  | 0, t, u => u = t
  | depth + 1, t, u => ∃ e, element t e ∧ Inside element depth e u

end Specimen.Source

namespace Specimen.TypeNode

/-- The element at a depth. -/
def inside? : Nat → TypeNode → Option TypeNode
  | 0, τ => some τ
  | depth + 1, τ => τ.element?.bind (inside? depth)

end Specimen.TypeNode

namespace Specimen.Source

/-- Where the element of each text is the text of the element, so it is at every depth. -/
theorem inside_iff {element : String → String → Prop} {text : TypeNode → String}
    (h : ∀ τ e, element (text τ) e ↔ ∃ σ, τ.element? = some σ ∧ e = text σ) (depth : Nat)
    (τ : TypeNode) (u : String) :
    Inside element depth (text τ) u ↔ ∃ σ, τ.inside? depth = some σ ∧ u = text σ := by
  induction depth generalizing τ with
  | zero => simp [Inside, TypeNode.inside?]
  | succ depth ih =>
    simp only [Inside, h, TypeNode.inside?]
    cases τ.element? with
    | none => simp
    | some σ => simp [ih]

/-- The text at the top may differ from that of the type, if it has the same element. -/
theorem inside_succ_iff {element : String → String → Prop} {text : TypeNode → String}
    (h : ∀ τ e, element (text τ) e ↔ ∃ σ, τ.element? = some σ ∧ e = text σ) {τ : TypeNode} {t : String}
    (ht : ∀ e, element t e ↔ ∃ σ, τ.element? = some σ ∧ e = text σ) (depth : Nat) (u : String) :
    Inside element (depth + 1) t u ↔ ∃ σ, τ.inside? (depth + 1) = some σ ∧ u = text σ := by
  rw [← inside_iff h, Inside, Inside]
  exact exists_congr fun e => and_congr_left' ((ht e).trans (h τ e).symm)

namespace TypeScript

/-- The text of a type, and that of its elements. A null may stand beside it. -/
inductive Element : String → String → Prop where
  | array (e) : Element ("Array<" ++ e ++ ">") e
  | dictionary (e) : Element ("\x7b [key: string]: " ++ e ++ "; \x7d") e
  | orNull {t e} (h : Element t e) : Element (t ++ " | null") e

/-- Among the values of the type there is null. -/
def AdmitsNull (t : String) : Prop := t = "any" ∨ " | null".toList <:+ t.toList

instance (t : String) : Decidable (AdmitsNull t) := instDecidableOr

theorem element_array {x e : String} : Element ("Array<" ++ x ++ ">") e ↔ e = x := by
  constructor
  · intro h
    generalize ht : "Array<" ++ x ++ ">" = t at h
    cases h with
    | array => simpa using ht.symm
    | dictionary => exact absurd ht (append_ne_of_ending (by decide) (by decide) (by decide))
    | orNull => exact absurd ht (append_ne_of_ending (by decide) (by decide) (by decide))
  · rintro rfl
    exact .array e

theorem element_dictionary {x e : String} :
    Element ("\x7b [key: string]: " ++ x ++ "; \x7d") e ↔ e = x := by
  constructor
  · intro h
    generalize ht : "\x7b [key: string]: " ++ x ++ "; \x7d" = t at h
    cases h with
    | array => exact absurd ht (append_ne_of_ending (by decide) (by decide) (by decide))
    | dictionary => simpa using ht.symm
    | orNull => exact absurd ht (append_ne_of_ending (by decide) (by decide) (by decide))
  · rintro rfl
    exact .dictionary e

theorem element_orNull {x e : String} : Element (x ++ " | null") e ↔ Element x e := by
  constructor
  · intro h
    generalize ht : x ++ " | null" = t at h
    cases h with
    | array => exact absurd ht (append_ne_of_ending (by decide) (by decide) (by decide))
    | dictionary => exact absurd ht (append_ne_of_ending (by decide) (by decide) (by decide))
    | orNull h =>
      cases (String.append_left_inj _).mp ht
      exact h
  · exact .orNull

theorem qualifiedName_array (m : TypeModel) (scope : Option String) (element : TypeNode)
    (flags : Flags) : qualifiedName m scope (.array element flags) =
      "Array<" ++ orNull element (qualifiedName m scope element) ++ ">" := rfl

theorem qualifiedName_dictionary (m : TypeModel) (scope : Option String) (element : TypeNode)
    (flags : Flags) : qualifiedName m scope (.dictionary element flags) =
      "\x7b [key: string]: " ++ orNull element (qualifiedName m scope element) ++ "; \x7d" := rfl

/-- A name is not followed by a null, nor is one in a namespace. -/
theorem not_null_suffix {name : String} (h : Undelimited name) {p : String}
    (hp : p = "" ∨ ∃ space, p = space ++ ".") : ¬ " | null".toList <:+ (p ++ name).toList := by
  intro hsuffix
  have hblank : ' ' ∉ name.toList := fun hmem => h.chars ' ' hmem (by decide)
  rw [String.toList_append] at hsuffix
  rcases List.suffix_or_suffix_of_suffix hsuffix (List.suffix_append p.toList name.toList) with hname | hname
  · exact hblank (hname.subset (by decide))
  · obtain ⟨u, hu⟩ := hsuffix
    obtain ⟨q, hq⟩ := hname
    rw [← hq, ← List.append_assoc] at hu
    have hu := List.append_cancel_right hu
    -- The space is in front of the name, and so the end of the namespace would be part of the suffix.
    rcases List.eq_nil_or_concat q with rfl | ⟨q, c, rfl⟩
    · exact hblank (by rw [← List.nil_append name.toList, hq]; decide)
    · rcases hp with rfl | ⟨space, rfl⟩
      · simp at hu
      · rw [List.concat_eq_append, String.toList_append, ← List.append_assoc] at hu
        have hc : [c] = ['.'] := List.append_inj_right' hu rfl
        cases hc
        have hdot : '.' ∈ " | null".toList := by rw [← hq]; simp
        exact absurd hdot (by decide)

theorem not_element_name {name : String} (h : Undelimited name) {p : String}
    (hp : p = "" ∨ ∃ space, p = space ++ ".") (e : String) : ¬ Element (p ++ name) e := by
  intro helement
  generalize ht : p ++ name = t at helement
  cases helement with
  | array => exact absurd ht (h.append_ne p rfl (by decide))
  | dictionary => exact absurd ht (h.append_ne p rfl (by decide))
  | @orNull t e helement =>
    refine not_null_suffix h hp ?_
    rw [ht, String.toList_append]
    exact List.suffix_append ..

theorem undelimited_leafName (kind : Kind) : Undelimited (leafName kind) := by
  cases kind <;> decide +kernel

/-- The name of a class, in its namespace or not. -/
theorem exists_qualifiedName_eq {m : TypeModel} (scope : Option String) {id : ClassId} {c : ClassDef}
    (hc : m.class? id = some c) (flags : Flags) :
    ∃ p, qualifiedName m scope (.object id flags) = p ++ c.name ∧ (p = "" ∨ ∃ space, p = space ++ ".") := by
  unfold qualifiedName
  rw [hc]
  cases scope with
  | none => exact ⟨"", by simp, .inl rfl⟩
  | some space =>
    dsimp only
    split
    · exact ⟨"", by simp, .inl rfl⟩
    · exact ⟨space ++ ".", rfl, .inr ⟨space, rfl⟩⟩

theorem qualifiedName_eq_any {m : TypeModel} (scope : Option String) {id : ClassId}
    (hc : m.class? id = none) (flags : Flags) : qualifiedName m scope (.object id flags) = "any" := by
  unfold qualifiedName
  rw [hc]

section Types
variable {m : TypeModel} (hnames : ∀ c ∈ m.classes, Undelimited c.name) (scope : Option String)
include hnames

theorem element_qualifiedName (τ : TypeNode) (e : String) : Element (qualifiedName m scope τ) e ↔
    ∃ σ, τ.element? = some σ ∧ e = orNull σ (qualifiedName m scope σ) := by
  cases τ with
  | leaf kind n =>
    have hnone := not_element_name (undelimited_leafName kind) (p := "") (.inl rfl) e
    rw [String.empty_append] at hnone
    exact iff_of_false hnone (by simp [TypeNode.element?])
  | array element n => simp [qualifiedName_array, element_array, TypeNode.element?]
  | dictionary element n => simp [qualifiedName_dictionary, element_dictionary, TypeNode.element?]
  | object id n =>
    refine iff_of_false ?_ (by simp [TypeNode.element?])
    cases hc : m.class? id with
    | none =>
      rw [qualifiedName_eq_any scope hc, ← String.empty_append (s := "any")]
      exact not_element_name (by decide +kernel) (.inl rfl) e
    | some c =>
      obtain ⟨p, htext, hp⟩ := exists_qualifiedName_eq scope hc n
      rw [htext]
      exact not_element_name (hnames c (TypeModel.mem_classes.mpr ⟨id, hc⟩)) hp e

theorem element_elementName (τ : TypeNode) (e : String) :
    Element (orNull τ (qualifiedName m scope τ)) e ↔
      ∃ σ, τ.element? = some σ ∧ e = orNull σ (qualifiedName m scope σ) := by
  rw [← element_qualifiedName hnames scope τ e, orNull]
  split
  · exact element_orNull
  · rfl

end Types

end TypeScript

namespace Rust

/-- What the text of a type with elements begins with. -/
def containers : List String := ["Vec<", "std::collections::HashMap<String, "]

/-- What may be put around a type without another being meant. -/
def wrappers : List String := ["Option<", "Box<"]

/-- The text of a type, and that of its elements. -/
inductive Element : String → String → Prop where
  | container {opening} (h : opening ∈ containers) (e) : Element (opening ++ e ++ ">") e
  | wrapper {opening t e} (h : opening ∈ wrappers) (ht : Element t e) : Element (opening ++ t ++ ">") e

/-- Among the values of the type there is null. -/
def AdmitsNull (t : String) : Prop := t = dynamicName ∨ "Option<".toList <+: t.toList

instance (t : String) : Decidable (AdmitsNull t) := instDecidableOr

/-- Openings are told apart by how they begin. -/
theorem enclosed_inj {a b x y : String} (ha : a ∈ containers ++ wrappers) (hb : b ∈ containers ++ wrappers)
    (h : a ++ x ++ ">" = b ++ y ++ ">") : a = b ∧ x = y := by
  have hopenings : ∀ a ∈ containers ++ wrappers, a ≠ "" ∧
      ∀ b ∈ containers ++ wrappers, a.toList.head? = b.toList.head? → a = b := by
    decide +kernel
  obtain ⟨hane, hall⟩ := hopenings a ha
  rw [String.append_left_inj] at h
  by_cases hhead : a.toList.head? = b.toList.head?
  · cases hall b hb hhead
    exact ⟨rfl, (String.append_right_inj _).mp h⟩
  · exact absurd h (append_ne_of_beginning hane (hopenings b hb).1 hhead)

theorem element_container {opening : String} (ho : opening ∈ containers) {x e : String} :
    Element (opening ++ x ++ ">") e ↔ e = x := by
  constructor
  · intro h
    generalize ht : opening ++ x ++ ">" = t at h
    cases h with
    | container ho' => exact (enclosed_inj (List.mem_append_left _ ho) (List.mem_append_left _ ho') ht).2.symm
    | wrapper ho' =>
      have hsame := (enclosed_inj (List.mem_append_left _ ho) (List.mem_append_right _ ho') ht).1
      have hapart : ∀ a ∈ containers, a ∉ wrappers := by decide
      exact absurd ho' (hsame ▸ hapart opening ho)
  · rintro rfl
    exact .container ho e

theorem element_wrapper {opening : String} (ho : opening ∈ wrappers) {x e : String} :
    Element (opening ++ x ++ ">") e ↔ Element x e := by
  constructor
  · intro h
    generalize ht : opening ++ x ++ ">" = t at h
    cases h with
    | container ho' =>
      have hsame := (enclosed_inj (List.mem_append_right _ ho) (List.mem_append_left _ ho') ht).1
      have hapart : ∀ a ∈ wrappers, a ∉ containers := by decide
      exact absurd ho' (hsame ▸ hapart opening ho)
    | wrapper ho' h =>
      cases (enclosed_inj (List.mem_append_right _ ho) (List.mem_append_right _ ho') ht).2
      exact h
  · exact .wrapper ho

theorem enclosed_ne {s : String} (h : s.toList.getLast? ≠ some '>') (t : String) : t ++ ">" ≠ s := by
  rintro rfl
  exact h (by simp)

theorem not_element_of_ending {t : String} (h : t.toList.getLast? ≠ some '>') (e : String) :
    ¬ Element t e := by
  intro helement
  generalize hu : t = u at helement
  cases helement with
  | container => exact enclosed_ne h _ hu.symm
  | wrapper => exact enclosed_ne h _ hu.symm

/-- Where the kind says nothing of null that the flag does not say, the flag decides. -/
theorem orNone_eq {nullable : Bool} {kind : Kind} (h : kind.isNullable = true → nullable = true)
    (t : String) : orNone nullable kind t =
      if nullable && !kind.isDynamic then "Option<" ++ t ++ ">" else t := by
  have hflag : (nullable || kind.isNullable) = nullable := by
    cases hkind : kind.isNullable with
    | false => exact Bool.or_false _
    | true => rw [h hkind]; rfl
  rw [orNone, hflag]

/-- An option does not change what the elements are. -/
theorem element_orNone {nullable : Bool} {kind : Kind} {t e : String} :
    Element (orNone nullable kind t) e ↔ Element t e := by
  unfold orNone
  split
  · exact element_wrapper (by decide)
  · rfl

theorem plainName_array (m : TypeModel) (element : TypeNode) (flags : Flags) :
    plainName m (.array element flags) = "Vec<" ++ typeName m element ++ ">" := rfl

theorem plainName_dictionary (m : TypeModel) (element : TypeNode) (flags : Flags) :
    plainName m (.dictionary element flags) =
      "std::collections::HashMap<String, " ++ typeName m element ++ ">" := rfl

theorem plainName_eq_dynamicName {m : TypeModel} {id : ClassId} (hc : m.class? id = none)
    (flags : Flags) : plainName m (.object id flags) = dynamicName := by
  unfold plainName
  rw [hc]

theorem plainName_eq_name {m : TypeModel} {id : ClassId} {c : ClassDef} (hc : m.class? id = some c)
    (flags : Flags) : plainName m (.object id flags) = c.name := by
  unfold plainName
  rw [hc]

theorem not_option_opening_append {s t : String} (hs : s ≠ "") (h : s.toList.head? ≠ some 'O') :
    ¬ "Option<".toList <+: (s ++ t).toList := by
  rintro ⟨u, hu⟩
  rw [← String.toList_ofList (l := u), ← String.toList_append, String.toList_inj] at hu
  exact append_ne_of_beginning (s := "Option<") (by decide) hs (fun heq => h heq.symm) hu

section Types
variable {m : TypeModel} (hnames : ∀ c ∈ m.classes, Undelimited c.name)
include hnames

/-- The name of a class, or that of any value. -/
theorem name_of_object (id : ClassId) (flags : Flags) : plainName m (.object id flags) = dynamicName ∨
    Undelimited (plainName m (.object id flags)) := by
  cases hc : m.class? id with
  | none => exact .inl (plainName_eq_dynamicName hc flags)
  | some c =>
    rw [plainName_eq_name hc]
    exact .inr (hnames c (TypeModel.mem_classes.mpr ⟨id, hc⟩))

theorem element_plainName (τ : TypeNode) (e : String) : Element (plainName m τ) e ↔
    ∃ σ, τ.element? = some σ ∧ e = typeName m σ := by
  cases τ with
  | leaf kind n =>
    have hends : (leafName kind).toList.getLast? ≠ some '>' := by cases kind <;> decide +kernel
    exact iff_of_false (not_element_of_ending hends e) (by simp [TypeNode.element?])
  | array element n =>
    rw [plainName_array, element_container (by decide)]
    simp [TypeNode.element?]
  | dictionary element n =>
    rw [plainName_dictionary, element_container (by decide)]
    simp [TypeNode.element?]
  | object id n =>
    refine iff_of_false (not_element_of_ending ?_ e) (by simp [TypeNode.element?])
    rcases name_of_object hnames id n with hname | hname
    · rw [hname]
      decide +kernel
    · exact fun hlast => hname.chars '>' (List.mem_of_getLast? hlast) (by decide)

theorem element_typeName (τ : TypeNode) (e : String) : Element (typeName m τ) e ↔
    ∃ σ, τ.element? = some σ ∧ e = typeName m σ :=
  element_orNone.trans (element_plainName hnames τ e)

theorem element_fieldType (c : ClassDef) (f : FieldInfo) (e : String) : Element (fieldType m c f) e ↔
    ∃ σ, f.type.element? = some σ ∧ e = typeName m σ := by
  rw [fieldType, element_orNone, ← element_plainName hnames]
  split
  · exact element_wrapper (by decide)
  · rfl

/-- A type without an option around it does not begin with one. -/
theorem not_option_opening (τ : TypeNode) : ¬ "Option<".toList <+: (plainName m τ).toList := by
  cases τ with
  | leaf kind n =>
    change ¬ "Option<".toList <+: (leafName kind).toList
    cases kind <;> decide +kernel
  | array element n =>
    rw [plainName_array, String.append_assoc]
    exact not_option_opening_append (by decide) (by decide)
  | dictionary element n =>
    rw [plainName_dictionary, String.append_assoc]
    exact not_option_opening_append (by decide) (by decide)
  | object id n =>
    rcases name_of_object hnames id n with hname | hname
    · rw [hname]
      decide +kernel
    · exact fun hstarts => hname.chars '<' (hstarts.subset (by decide)) (by decide)

/-- The type of a field is an option only if the field is nullable. -/
theorem nullable_of_option_opening (c : ClassDef) {f : FieldInfo}
    (hf : f.type.kind.isNullable = true → f.nullable = true)
    (h : "Option<".toList <+: (fieldType m c f).toList) : f.nullable = true := by
  rw [fieldType, orNone_eq hf] at h
  split at h
  case isTrue hmark => exact (Bool.and_eq_true_iff.mp hmark).1
  case isFalse =>
    split at h
    case isTrue =>
      rw [String.append_assoc] at h
      exact absurd h (not_option_opening_append (by decide) (by decide))
    case isFalse => exact absurd h (not_option_opening hnames f.type)

theorem admitsNull_plainName (τ : TypeNode) :
    AdmitsNull (plainName m τ) ↔ plainName m τ = dynamicName :=
  or_iff_left (not_option_opening hnames τ)

end Types

end Rust

end Specimen.Source
