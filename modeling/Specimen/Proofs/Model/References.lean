import Specimen.Proofs.Classes.Naming
import Specimen.Proofs.Model.Nodes

/-! What a model refers to.

The classes of a frozen table are found under their numbers, have names of their own, and the classes
that their fields lead to are among them (`linked_freeze`). -/
namespace Specimen

theorem innermost?_freezeType (order : List ClassId) (e : Evidence ClassId) :
    (freezeType order e).innermost? = e.innermost?.map (renumber order) := by
  induction e with
  | anything n => cases n <;> rfl
  | scalar k n => cases n <;> rfl
  | array item n ih => exact ih
  | dictionary value n ih => exact ih
  | _ => rfl

theorem TypeNode.exists_of_class? {type : TypeNode} {id : ClassId} (h : type.class? = some id) :
    ∃ k, type = .object id k := by
  cases type with
  | object b k =>
    cases h
    exact ⟨k, rfl⟩
  | _ => cases h

theorem TypeNode.kind_of_class? {type : TypeNode} {id : ClassId} (h : type.class? = some id) :
    type.kind = .object := by
  obtain ⟨k, rfl⟩ := TypeNode.exists_of_class? h
  rfl

/-- No leaf of a frozen table is an object. -/
theorem exists_class_freezeType {order : List ClassId} {e : Evidence ClassId}
    (h : (freezeType order e).kind = .object) : ∃ id, (freezeType order e).class? = some id := by
  cases e with
  | anything n => cases n <;> cases h
  | scalar k n => cases k <;> cases n <;> cases h
  | object id n => exact ⟨_, rfl⟩
  | _ => cases h

/-- A name is given to one class only. -/
theorem Naming.Distinct.eq_of_lookup {given : Naming} (h : given.Distinct) {b c : ClassId}
    {name : String} (hb : given.lookup b = some name) (hc : given.lookup c = some name) : b = c := by
  have hb := (lookup_eq_some_iff_mem h.ids).mp hb
  have hc := (lookup_eq_some_iff_mem h.ids).mp hc
  exact congrArg Prod.fst (List.inj_on_of_nodup_map h.names hb hc rfl)

namespace TypeModel

theorem mem_classes {m : TypeModel} {c : ClassDef} :
    c ∈ m.classes ↔ ∃ id, m.class? id = some c := by
  rw [List.mem_iff_getElem?]
  exact ⟨fun ⟨i, h⟩ => ⟨⟨i⟩, h⟩, fun ⟨id, h⟩ => ⟨id.index, h⟩⟩

/-- Every reference leads to a class, and every class can be told by its number and by its name. -/
structure Linked (m : TypeModel) : Prop where
  id : ∀ {id c}, m.class? id = some c → c.id = id
  names : (m.classes.map ClassDef.name).Nodup
  target : ∀ {c f id}, c ∈ m.classes → f ∈ c.fields → f.type.innermost? = some id →
    ∃ d, m.class? id = some d

end TypeModel

/-- Where no key is there twice, a field is found under its key. -/
theorem ClassDef.field?_of_mem {c : ClassDef} (hd : (c.fields.map FieldInfo.sourceName).Nodup)
    {f : FieldInfo} (hf : f ∈ c.fields) : c.field? f.sourceName = some f := by
  have hsome : (c.fields.find? (·.sourceName == f.sourceName)).isSome = true :=
    List.find?_isSome.mpr ⟨f, hf, by simp⟩
  obtain ⟨g, hg⟩ := Option.isSome_iff_exists.mp hsome
  have hkey : g.sourceName = f.sourceName := by simpa using List.find?_some hg
  rw [ClassDef.field?, hg, List.inj_on_of_nodup_map hd (List.mem_of_find?_eq_some hg) hf hkey]

section Freeze
variable {t : ClassTable} {root : Evidence ClassId} (examples : ExamplePolicy) (ht : t.InRange)
  (hroot : root.RefersBelow t.entries.length)
include ht hroot

theorem names_freeze (names : Naming) : (freeze t root names examples).classes.map ClassDef.name =
    (emissionOrder t root).map fun c => (names.lookup c).getD "" := by
  rw [freeze, List.map_filterMap, ← List.filterMap_eq_map]
  refine List.filterMap_congr fun c hc => ?_
  obtain ⟨entry, hentry⟩ := exists_entry_of_mem_emissionOrder ht hroot hc
  rw [hentry]
  rfl

theorem id_of_class?_freeze (names : Naming) {id : ClassId} {d : ClassDef}
    (hd : (freeze t root names examples).class? id = some d) : d.id = id := by
  obtain ⟨c, _, hc, _, rfl⟩ := exists_of_class?_freeze names examples ht hroot hd
  exact (ClassTable.renumber_eq_iff ht hroot hc (List.mem_of_getElem? hc)).mpr rfl

/-- A class that is led to from an emitted class is emitted as well. -/
theorem mem_emissionOrder_of_leadsTo {b c : ClassId} (hb : b ∈ emissionOrder t root)
    (hc : t.LeadsTo b c) : c ∈ emissionOrder t root := by
  obtain ⟨f, hf, hc⟩ := hc
  exact (mem_emissionOrder ht hroot).mpr (((mem_emissionOrder ht hroot).mp hb).snoc hf hc)

omit ht hroot in
/-- The field of a frozen class leads to the new number of a class that the class of the table leads to. -/
theorem exists_leadsTo_of_freezeClass {names : Naming} {c : ClassId} {entry : ClassEntry}
    (hentry : t.entry? c = some entry) {f : FieldInfo} {id : ClassId}
    (hf : f ∈ (freezeClass (emissionOrder t root) names examples c entry).fields)
    (hid : f.type.innermost? = some id) :
    ∃ b, t.LeadsTo c b ∧ renumber (emissionOrder t root) b = id := by
  obtain ⟨g, hg, rfl⟩ := List.mem_map.mp hf
  obtain ⟨b, hb, rfl⟩ := Option.map_eq_some_iff.mp ((innermost?_freezeType _ _).symm.trans hid)
  exact ⟨b, ⟨g, ClassTable.fieldsOf_of_entry hentry ▸ hg, hb⟩, rfl⟩

/-- A frozen table is linked when its classes are named by the walk from the root. -/
theorem linked_freeze (rootName : String) :
    (freeze t root (assignNames t root rootName) examples).Linked where
  id hd := id_of_class?_freeze examples ht hroot _ hd
  names := by
    rw [names_freeze examples ht hroot]
    refine (nodup_emissionOrder ht hroot).map_on fun b hb c hc hbc => ?_
    have hnamed : ∀ c ∈ emissionOrder t root, ∃ name,
        (assignNames t root rootName).lookup c = some name := fun c hc =>
      Option.isSome_iff_exists.mp (isSome_lookup_iff.mpr ((mem_assignNames ht hroot rootName).mpr hc))
    obtain ⟨name, hname⟩ := hnamed b hb
    obtain ⟨name', hname'⟩ := hnamed c hc
    rw [hname, hname'] at hbc
    cases hbc
    exact (distinct_assignNames t root rootName).eq_of_lookup hname hname'
  target {d f id} hd hf hid := by
    obtain ⟨place, hd⟩ := TypeModel.mem_classes.mp hd
    obtain ⟨c, entry, hc, hentry, rfl⟩ := exists_of_class?_freeze _ examples ht hroot hd
    obtain ⟨b, hb, rfl⟩ := exists_leadsTo_of_freezeClass examples hentry hf hid
    have hb := mem_emissionOrder_of_leadsTo ht hroot (List.mem_of_getElem? hc) hb
    obtain ⟨entry', hentry'⟩ := exists_entry_of_mem_emissionOrder ht hroot hb
    exact ⟨_, class?_freeze _ examples ht hroot hb hentry'⟩

/-- The name of a class is one of those that were given. -/
theorem name_mem_assignNames (rootName : String) {c : ClassDef}
    (hc : c ∈ (freeze t root (assignNames t root rootName) examples).classes) :
    c.name ∈ (assignNames t root rootName).map Prod.snd := by
  obtain ⟨id, hc⟩ := TypeModel.mem_classes.mp hc
  obtain ⟨b, entry, hb, _, rfl⟩ := exists_of_class?_freeze _ examples ht hroot hc
  obtain ⟨name, hname⟩ := Option.isSome_iff_exists.mp (isSome_lookup_iff.mpr
    ((mem_assignNames ht hroot rootName).mpr (List.mem_of_getElem? hb)))
  rw [freezeClass, hname]
  exact List.mem_map_of_mem ((lookup_eq_some_iff_mem (distinct_assignNames t root rootName).ids).mp hname)

end Freeze

theorem nodup_sourceNames_freeze {t : ClassTable} {root : Evidence ClassId} (examples : ExamplePolicy)
    (ht : t.WellFormed) (hroot : root.RefersBelow t.entries.length) (names : Naming) {c : ClassDef}
    (hc : c ∈ (freeze t root names examples).classes) : (c.fields.map FieldInfo.sourceName).Nodup := by
  obtain ⟨id, hc⟩ := TypeModel.mem_classes.mp hc
  obtain ⟨_, entry, _, hentry, rfl⟩ := exists_of_class?_freeze names examples ht hroot hc
  have hnames : (entry.fields.map (freezeField (emissionOrder t root) examples)).map
      FieldInfo.sourceName = entry.fields.map Field.name := by
    rw [List.map_map]
    rfl
  rw [freezeClass, hnames]
  exact ht.distinct hentry

end Specimen
