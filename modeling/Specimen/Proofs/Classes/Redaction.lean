import Specimen.Model.Freeze
import Specimen.Proofs.Classes.Growth
import Specimen.Proofs.Evidence.Redaction

/-! Classes with the counts or the examples blotted out.

Which class a shape joins, what the classes are called and in which order they are emitted is told from the
names and the types of their fields alone. So a run on redacted evidence goes step by step like the run on
the evidence, to the redacted model (`model_freeze`). -/
namespace Specimen

attribute [ext] ClassEntry ClassTable

namespace Redaction
variable (r : Redaction)

/-! ### The table -/

def classFields (fields : List (Field ClassId)) : List (Field ClassId) := fields.map (r.field id)

def entry (e : ClassEntry) : ClassEntry where
  fields := r.classFields e.fields
  samples := r.count e.samples
  isRoot := e.isRoot

def table (t : ClassTable) : ClassTable where
  entries := t.entries.map r.entry
  byKeys := t.byKeys

theorem find?_classFields (fields : List (Field ClassId)) (name : String) :
    Field.find? (r.classFields fields) name = (Field.find? fields name).map (r.field id) :=
  Field.find?_map (r.field id) (fun _ => rfl) fields name

theorem sortedKeys_classFields (fields : List (Field ClassId)) :
    sortedKeys (r.classFields fields) = sortedKeys fields := by
  simp only [sortedKeys, classFields, List.map_map]
  rfl

theorem entry?_table (t : ClassTable) (id : ClassId) :
    ClassTable.entry? (r.table t) id = (t.entry? id).map r.entry :=
  List.getElem?_map ..

theorem fieldsOf_table (t : ClassTable) (id : ClassId) :
    (r.table t).fieldsOf id = r.classFields (t.fieldsOf id) := by
  unfold ClassTable.fieldsOf
  rw [entry?_table]
  cases t.entry? id <;> rfl

theorem accepts_entry (e : ClassEntry) (fields : List (Field ClassId)) :
    (r.entry e).accepts (r.classFields fields) = e.accepts fields := by
  rw [Bool.eq_iff_iff, ClassEntry.accepts_iff, ClassEntry.accepts_iff]
  refine and_congr (by simp [entry, classFields])
    (List.forall_mem_map.trans (forall₂_congr fun theirs _ => ?_))
  change (∃ ours, Field.find? (r.classFields e.fields) theirs.name = some ours ∧
    ours.type.isCompatible theirs.type = true) ↔ _
  rw [find?_classFields]
  cases Field.find? e.fields theirs.name with
  | none => simp
  | some ours => simp [field]

theorem entry_absorb (e : ClassEntry) (fields : List (Field ClassId)) (seen : Nat) :
    r.entry (e.absorb fields seen) = (r.entry e).absorb (r.classFields fields) (r.count seen) := by
  refine ClassEntry.ext ?_ (r.count_add _ _) rfl
  simp only [entry, ClassEntry.absorb, find?_classFields]
  rw [classFields, classFields, List.map_map, List.map_map]
  refine List.map_congr_left fun ours _ => ?_
  have hname : (r.field id ours).name = ours.name := rfl
  simp only [Function.comp_apply, hname]
  cases Field.find? fields ours.name with
  | none => rfl
  | some theirs => exact Field.ext rfl rfl (r.count_add _ _) (r.list_keepAll _ _)

theorem accepting?_table (t : ClassTable) (keys : List String) (fields : List (Field ClassId)) :
    (r.table t).accepting? keys (r.classFields fields) = t.accepting? keys fields := by
  unfold ClassTable.accepting?
  congr 1
  funext id
  rw [entry?_table]
  cases t.entry? id with
  | none => rfl
  | some e => exact r.accepts_entry e fields

/-- Changing an entry that is redacted is redacting the changed one. -/
theorem entries_modify (entries : List ClassEntry) (i : Nat) {f g : ClassEntry → ClassEntry}
    (h : ∀ e, r.entry (f e) = g (r.entry e)) :
    (entries.modify i f).map r.entry = (entries.map r.entry).modify i g := by
  refine List.ext_getElem? fun k => ?_
  simp only [List.getElem?_map, List.getElem?_modify]
  cases entries[k]? with
  | none => rfl
  | some e =>
    simp only [Option.map_some]
    split
    · exact congrArg some (h e)
    · rfl

theorem register_table (fields : List (Field ClassId)) (seen : Nat) (t : ClassTable) :
    ClassTable.register (r.classFields fields) (r.count seen) (r.table t) =
      ((ClassTable.register fields seen t).1, r.table (ClassTable.register fields seen t).2) := by
  have hacc := r.accepting?_table t (sortedKeys fields) fields
  unfold ClassTable.register
  simp only [sortedKeys_classFields, hacc]
  cases t.accepting? (sortedKeys fields) fields with
  | some id =>
    have hmodify := r.entries_modify t.entries id.index (f := (·.absorb fields seen))
      (g := (·.absorb (r.classFields fields) (r.count seen))) fun e => r.entry_absorb e fields seen
    exact Prod.ext rfl (ClassTable.ext hmodify.symm rfl)
  | none =>
    refine Prod.ext ?_ (ClassTable.ext ?_ ?_)
    · simp [table]
    · simp [table, entry]
    · simp [table]

/-- Interning redacted evidence leaves the redacted table. -/
theorem intern_table (e : Evidence Shape) (t : ClassTable) :
    ClassTable.intern (r.evidence e) (r.table t) =
      ((ClassTable.intern e t).1, r.table (ClassTable.intern e t).2) := by
  refine ClassTable.intern_induction
    (P := fun e t τ u => ClassTable.intern (r.evidence e) (r.table t) = (τ, r.table u))
    (Q := fun fs t gs u => ClassTable.internFields (fs.map (r.field r.evidence)) (r.table t) =
      (r.classFields gs, r.table u))
    ?_ ?_ ?_ ?_ ?_ ?_ ?_ ?_ ?_ e t
  · exact fun t => rfl
  · exact fun t => rfl
  · exact fun n t => rfl
  · exact fun k n t => rfl
  · intro x n t y u ih
    simp only [evidence, ClassTable.intern, ih]
  · intro x n t y u ih
    simp only [evidence, ClassTable.intern, ih]
  · intro s n t fs u ih
    rw [evidence, ClassTable.intern_object, fields_shape, seen_shape, ih, register_table]
  · exact fun t => rfl
  · intro f rest t y u fs v ihf ihrest
    rw [List.map_cons, ClassTable.internFields_cons]
    simp only [field, ihf, ihrest]
    rfl

theorem internRoot_table (e : Evidence Shape) (t : ClassTable) :
    ClassTable.internRoot (r.evidence e) (r.table t) =
      ((ClassTable.internRoot e t).1, r.table (ClassTable.internRoot e t).2) := by
  rw [ClassTable.internRoot_eq, ClassTable.internRoot_eq, intern_table]
  cases (ClassTable.intern e t).1 with
  | object id n =>
    have hmodify := r.entries_modify (ClassTable.intern e t).2.entries id.index
      (f := fun entry => { entry with isRoot := true })
      (g := fun entry => { entry with isRoot := true }) fun _ => rfl
    exact Prod.ext rfl (ClassTable.ext hmodify.symm rfl)
  | _ => rfl

/-! ### Names and order -/

theorem visit_naming (t : ClassTable) (depth : Nat) (type : Evidence ClassId) (hint : NameHint)
    (given : Naming) :
    Naming.visit (r.table t) depth type hint given = Naming.visit t depth type hint given := by
  induction depth generalizing type hint given with
  | zero => rfl
  | succ depth ih =>
    simp only [Naming.visit, fieldsOf_table, classFields, List.foldl_map, ih]
    rfl

theorem assignNames_table (t : ClassTable) (root : Evidence ClassId) (rootName : String) :
    assignNames (r.table t) root rootName = assignNames t root rootName := by
  rw [assignNames, visit_naming, table, List.length_map]
  rfl

theorem visit_emission (t : ClassTable) (depth : Nat) (type : Evidence ClassId)
    (walk : EmissionWalk) :
    EmissionWalk.visit (r.table t) depth type walk = EmissionWalk.visit t depth type walk := by
  induction depth generalizing type walk with
  | zero => rfl
  | succ depth ih =>
    simp only [EmissionWalk.visit, fieldsOf_table, classFields, List.foldl_map, ih]
    rfl

theorem emissionOrder_table (t : ClassTable) (root : Evidence ClassId) :
    emissionOrder (r.table t) root = emissionOrder t root := by
  rw [emissionOrder, visit_emission, table, List.length_map]
  rfl

/-! ### The model -/

def fieldInfo (f : FieldInfo) : FieldInfo :=
  { f with presentIn := r.count f.presentIn, examples := r.list f.examples }

def classDef (c : ClassDef) : ClassDef :=
  { c with fields := c.fields.map r.fieldInfo, samples := r.count c.samples }

def model (m : TypeModel) : TypeModel := { m with classes := m.classes.map r.classDef }

theorem list_select (policy : ExamplePolicy) (xs : List Json) :
    r.list (policy.select xs) = policy.select (r.list xs) := by
  unfold list ExamplePolicy.select
  split
  · rw [List.take_nil, ite_self]
  · rfl

theorem classDef_freezeClass (order : List ClassId) (names : Naming) (examples : ExamplePolicy)
    (id : ClassId) (e : ClassEntry) :
    r.classDef (freezeClass order names examples id e) =
      freezeClass order names examples id (r.entry e) := by
  have hfields : (e.fields.map (freezeField order examples)).map r.fieldInfo =
      (r.classFields e.fields).map (freezeField order examples) := by
    rw [classFields, List.map_map, List.map_map]
    refine List.map_congr_left fun f _ => ?_
    simp only [Function.comp_apply, fieldInfo, freezeField, field, list_select]
    rfl
  simp only [classDef, freezeClass, hfields]
  rfl

theorem model_freeze (t : ClassTable) (root : Evidence ClassId) (names : Naming)
    (examples : ExamplePolicy) :
    r.model (freeze t root names examples) = freeze (r.table t) root names examples := by
  simp only [model, freeze, emissionOrder_table, List.map_filterMap, entry?_table, Option.map_map,
    Function.comp_def, classDef_freezeClass]

end Redaction

end Specimen
