import Specimen.Evidence.Shape

/-! Fields looked up by key, and induction over evidence of shapes.

A list of fields is used as a finite map from keys: `Field.find?` is its view, and what each
operation on lists of fields does to the view is said here once. `Evidence.shape_induction` is the
induction over a tree of evidence that goes from a shape to the types of its fields, and
`Evidence.DistinctKeys` says of a tree that no shape in it has two fields of one name. -/
namespace Specimen

namespace Field
variable {O P : Type}

@[simp] theorem find?_nil (name : String) : find? ([] : List (Field O)) name = none := rfl

theorem find?_cons (f : Field O) (fs : List (Field O)) (name : String) :
    find? (f :: fs) name = if f.name = name then some f else find? fs name := by
  by_cases h : f.name = name <;> simp [find?, h]

theorem find?_append (fs gs : List (Field O)) (name : String) :
    find? (fs ++ gs) name = (find? fs name).or (find? gs name) := by
  simp [find?]

theorem name_of_find? {fs : List (Field O)} {name : String} {f : Field O}
    (h : find? fs name = some f) : f.name = name := by
  simpa using List.find?_some h

theorem mem_of_find? {fs : List (Field O)} {name : String} {f : Field O}
    (h : find? fs name = some f) : f ∈ fs :=
  List.mem_of_find?_eq_some h

/-- Changing fields under their names changes what is found under each name. -/
theorem find?_map (g : Field O → Field P) (hg : ∀ f, (g f).name = f.name) (fs : List (Field O))
    (name : String) : find? (fs.map g) name = (find? fs name).map g := by
  induction fs with
  | nil => rfl
  | cons f fs ih =>
    simp only [List.map_cons, find?_cons, hg, ih]
    split <;> rfl

/-- Selecting fields by name leaves those under the selected names. -/
theorem find?_filter (p : String → Bool) (fs : List (Field O)) (name : String) :
    find? (fs.filter fun f => p f.name) name = if p name then find? fs name else none := by
  induction fs with
  | nil => simp
  | cons f fs ih =>
    rw [List.filter_cons, find?_cons]
    by_cases hn : f.name = name
    · subst hn
      by_cases hf : p f.name = true
      · rw [if_pos hf, find?_cons]
        simp [hf]
      · rw [if_neg hf, ih]
        simp [hf]
    · rw [if_neg hn, ← ih]
      by_cases hf : p f.name = true
      · rw [if_pos hf, find?_cons, if_neg hn]
      · rw [if_neg hf]

theorem find?_eq_none {fs : List (Field O)} {name : String} :
    find? fs name = none ↔ name ∉ fs.map Field.name := by
  simp only [find?, List.find?_eq_none, beq_iff_eq, List.mem_map, not_exists, not_and]

theorem isSome_find? {fs : List (Field O)} {name : String} :
    (find? fs name).isSome ↔ name ∈ fs.map Field.name := by
  simp [find?]

theorem exists_find? {fs : List (Field O)} {name : String} (h : name ∈ fs.map Field.name) :
    ∃ f, find? fs name = some f :=
  Option.isSome_iff_exists.mp (isSome_find?.mpr h)

theorem mem_names_of_find? {fs : List (Field O)} {name : String} {f : Field O}
    (h : find? fs name = some f) : name ∈ fs.map Field.name :=
  isSome_find?.mp (by rw [h]; rfl)

/-- Among fields with distinct names each is the one found under its name. -/
theorem find?_of_mem {fs : List (Field O)} (hd : (fs.map Field.name).Nodup) {f : Field O}
    (hf : f ∈ fs) : find? fs f.name = some f := by
  induction fs with
  | nil => cases hf
  | cons g fs ih =>
    rw [List.map_cons, List.nodup_cons] at hd
    rw [find?_cons]
    rcases List.mem_cons.mp hf with rfl | hf
    · simp
    · have hne : g.name ≠ f.name := fun h => hd.1 (h ▸ List.mem_map_of_mem hf)
      rw [if_neg hne, ih hd.2 hf]

end Field

section Induction
-- The parameters are shared by a mutual block, in which each theorem uses them through the others.
set_option linter.unusedSectionVars false
variable {P : Evidence Shape → Prop} (unknown : P .unknown) (null : P .null)
  (anything : ∀ nullable, P (.anything nullable))
  (scalar : ∀ kind nullable, P (.scalar kind nullable))
  (array : ∀ item nullable, P item → P (.array item nullable))
  (dictionary : ∀ value nullable, P value → P (.dictionary value nullable))
  (object : ∀ (s : Shape) nullable, (∀ f ∈ s.fields, P f.type) → P (.object s nullable))
include unknown null anything scalar array dictionary object

mutual

private theorem induction_of_shape : ∀ s : Shape, ∀ f ∈ s.fields, P f.type
  | ⟨fields, _⟩ => induction_of_fields fields
termination_by structural s => s

private theorem induction_of_fields : ∀ fs : List (Field Shape), ∀ f ∈ fs, P f.type
  | [] => fun _ hf => nomatch hf
  | ⟨_, type, _, _⟩ :: rest => by
    intro f hf
    rcases List.mem_cons.mp hf with rfl | hf
    · exact induction_of_evidence type
    · exact induction_of_fields rest f hf
termination_by structural fs => fs

private theorem induction_of_evidence : ∀ e : Evidence Shape, P e
  | .unknown => unknown
  | .null => null
  | .anything n => anything n
  | .scalar k n => scalar k n
  | .array item n => array item n (induction_of_evidence item)
  | .dictionary value n => dictionary value n (induction_of_evidence value)
  | .object s n => object s n (induction_of_shape s)
termination_by structural e => e

end

/-- To prove something of all evidence, prove it of an object from the types of its fields. -/
@[elab_as_elim]
theorem Evidence.shape_induction (e : Evidence Shape) : P e :=
  induction_of_evidence unknown null anything scalar array dictionary object e

end Induction

/-- No object in the tree has two fields of one name. -/
inductive Evidence.DistinctKeys : Evidence Shape → Prop where
  | unknown : DistinctKeys .unknown
  | null : DistinctKeys .null
  | anything (nullable) : DistinctKeys (.anything nullable)
  | scalar (kind nullable) : DistinctKeys (.scalar kind nullable)
  | array {item} (h : DistinctKeys item) (nullable) : DistinctKeys (.array item nullable)
  | dictionary {value} (h : DistinctKeys value) (nullable) :
    DistinctKeys (.dictionary value nullable)
  | object {s : Shape} (hd : (s.fields.map Field.name).Nodup)
    (h : ∀ f ∈ s.fields, DistinctKeys f.type) (nullable) : DistinctKeys (.object s nullable)

namespace Evidence

theorem DistinctKeys.of_array {item : Evidence Shape} {nullable : Bool}
    (h : (Evidence.array item nullable).DistinctKeys) : item.DistinctKeys := by
  cases h with
  | array h => exact h

theorem DistinctKeys.of_dictionary {value : Evidence Shape} {nullable : Bool}
    (h : (Evidence.dictionary value nullable).DistinctKeys) : value.DistinctKeys := by
  cases h with
  | dictionary h => exact h

theorem distinctKeys_object {s : Shape} {nullable : Bool} :
    (object s nullable).DistinctKeys ↔
      (s.fields.map Field.name).Nodup ∧ ∀ f ∈ s.fields, f.type.DistinctKeys := by
  constructor
  · intro h
    cases h with
    | object hd h => exact ⟨hd, h⟩
  · exact fun h => .object h.1 h.2 nullable

end Evidence

end Specimen
