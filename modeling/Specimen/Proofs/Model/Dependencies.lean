import Specimen.Proofs.Model.References

/-! A model lists its classes after those that they refer to.

The number of a class is its place in the list, and what a field leads to has no greater number, unless it
leads back to the class that the field is of (`TypeModel.Ordered`). Numbers are places in the emission order,
so this is what is known of the order (`leadsBack_emissionOrder`), told of the model
(`ordered_freeze`). -/
namespace Specimen

namespace TypeModel
variable (m : TypeModel)

/-- A field of the first class leads to the second. -/
def LeadsTo (b c : ClassId) : Prop :=
  ∃ d, m.class? b = some d ∧ ∃ f ∈ d.fields, f.type.innermost? = some c

/-- Classes are numbered in order, and come after the classes that their fields lead to unless those lead
back to them. -/
structure Ordered (m : TypeModel) : Prop where
  id : ∀ {place : Nat} {c : ClassDef}, m.classes[place]? = some c → c.id = ⟨place⟩
  target : ∀ {c f b}, c ∈ m.classes → f ∈ c.fields → f.type.innermost? = some b →
    (∃ d, m.class? b = some d) ∧ (b.index ≤ c.id.index ∨ Relation.TransGen m.LeadsTo b c.id)

end TypeModel

section Freeze
variable {t : ClassTable} {root : Evidence ClassId} (names : Naming) (examples : ExamplePolicy)
  (ht : t.InRange) (hroot : root.RefersBelow t.entries.length)
include ht hroot

theorem leadsTo_freeze {b c : ClassId} (hb : b ∈ emissionOrder t root) (hc : t.LeadsTo b c) :
    (freeze t root names examples).LeadsTo (renumber (emissionOrder t root) b)
      (renumber (emissionOrder t root) c) := by
  obtain ⟨entry, hentry⟩ := exists_entry_of_mem_emissionOrder ht hroot hb
  obtain ⟨f, hf, hc⟩ := hc
  rw [ClassTable.fieldsOf_of_entry hentry] at hf
  refine ⟨_, class?_freeze names examples ht hroot hb hentry, _, List.mem_map_of_mem hf, ?_⟩
  rw [freezeField, innermost?_freezeType, hc, Option.map_some]

theorem transGen_leadsTo_freeze {b c : ClassId} (hb : b ∈ emissionOrder t root)
    (hc : Relation.TransGen t.LeadsTo b c) :
    Relation.TransGen (freeze t root names examples).LeadsTo (renumber (emissionOrder t root) b)
      (renumber (emissionOrder t root) c) := by
  suffices h : c ∈ emissionOrder t root ∧
      Relation.TransGen (freeze t root names examples).LeadsTo (renumber (emissionOrder t root) b)
        (renumber (emissionOrder t root) c) from h.2
  induction hc with
  | single hstep =>
    exact ⟨mem_emissionOrder_of_leadsTo ht hroot hb hstep,
      .single (leadsTo_freeze names examples ht hroot hb hstep)⟩
  | tail _ hstep ih =>
    exact ⟨mem_emissionOrder_of_leadsTo ht hroot ih.1 hstep,
      ih.2.tail (leadsTo_freeze names examples ht hroot ih.1 hstep)⟩

/-- The new number of a class is how many classes are emitted before it. -/
theorem renumber_eq_length {before after : List ClassId} {c : ClassId}
    (horder : emissionOrder t root = before ++ c :: after) :
    renumber (emissionOrder t root) c = ⟨before.length⟩ := by
  have hplace : (emissionOrder t root)[(⟨before.length⟩ : ClassId).index]? = some c := by
    simp [horder]
  exact (ClassTable.renumber_eq_iff ht hroot hplace (List.mem_of_getElem? hplace)).mpr rfl

theorem ordered_freeze : (freeze t root names examples).Ordered where
  id {place d} hd := by
    have hd : (freeze t root names examples).class? ⟨place⟩ = some d := hd
    exact id_of_class?_freeze examples ht hroot names hd
  target {d f id} hd hf hid := by
    obtain ⟨place, hd⟩ := TypeModel.mem_classes.mp hd
    obtain ⟨c, entry, hc, hentry, rfl⟩ := exists_of_class?_freeze names examples ht hroot hd
    obtain ⟨b, hb, rfl⟩ := exists_leadsTo_of_freezeClass examples hentry hf hid
    have hcmem := List.mem_of_getElem? hc
    have hbmem := mem_emissionOrder_of_leadsTo ht hroot hcmem hb
    obtain ⟨entry', hentry'⟩ := exists_entry_of_mem_emissionOrder ht hroot hbmem
    refine ⟨⟨_, class?_freeze names examples ht hroot hbmem hentry'⟩, ?_⟩
    obtain ⟨before, after, horder⟩ := List.append_of_mem hcmem
    have hplace := renumber_eq_length ht hroot horder
    rcases leadsBack_emissionOrder ht hroot horder hb with hbefore | rfl | hback
    · obtain ⟨first, between, rfl⟩ := List.append_of_mem hbefore
      rw [List.append_assoc, List.cons_append] at horder
      refine .inl ?_
      rw [freezeClass, hplace, renumber_eq_length ht hroot horder, List.length_append]
      exact Nat.le_add_right _ _
    · exact .inl (Nat.le_refl _)
    · exact .inr (transGen_leadsTo_freeze names examples ht hroot hbmem hback)

/-- The model has a class for each that is emitted. -/
theorem length_classes_freeze :
    (freeze t root names examples).classes.length = (emissionOrder t root).length := by
  have hnames := congrArg List.length (names_freeze examples ht hroot names)
  rwa [List.length_map, List.length_map] at hnames

/-- If the root is an object, its class is the last one, and the root of the model is of that class. -/
theorem root_freeze {c : ClassId} {n : Bool} (hobject : root = .object c n) :
    (emissionOrder t root).getLast? = some c ∧
      ∃ last, (freeze t root names examples).classes.getLast? = some last ∧
        (freeze t root names examples).root = .object last.id ⟨n, true⟩ := by
  have hlast := getLast?_emissionOrder ht hroot (c := c) (by rw [hobject]; rfl)
  have hc := List.mem_of_getLast? hlast
  obtain ⟨entry, hentry⟩ := exists_entry_of_mem_emissionOrder ht hroot hc
  refine ⟨hlast, freezeClass (emissionOrder t root) names examples c entry, ?_, ?_⟩
  · obtain ⟨before, horder⟩ := List.getLast?_eq_some_iff.mp hlast
    have hlength := length_classes_freeze names examples ht hroot
    rw [horder, List.length_append, List.length_singleton] at hlength
    have hclass := class?_freeze names examples ht hroot hc hentry
    rw [renumber_eq_length ht hroot horder] at hclass
    rw [List.getLast?_eq_getElem?, hlength]
    exact hclass
  · rw [freeze, hobject]
    rfl

/-- The walk through the classes ends, whatever cycles there are. It lists the classes that the root leads to,
each once and each after those that it refers to unless they lead back to it, the root's own class last. -/
theorem classes_in_emission_order :
    (∃ w, w.order = emissionOrder t root ∧ ∀ v, EmissionWalk.Walks t [root] {} v ↔ v = w) ∧
      (emissionOrder t root).Nodup ∧ (∀ c, c ∈ emissionOrder t root ↔ t.Reaches root c) ∧
      (freeze t root names examples).classes.length = (emissionOrder t root).length ∧
      (freeze t root names examples).Ordered ∧
      ∀ c n, root = .object c n → (emissionOrder t root).getLast? = some c ∧
        ∃ last, (freeze t root names examples).classes.getLast? = some last ∧
          (freeze t root names examples).root = .object last.id ⟨n, true⟩ := by
  have hwalk := walks_emissionOrder ht hroot
  refine ⟨⟨_, rfl, fun v => ⟨fun hv => hv.unique hwalk, fun hv => hv ▸ hwalk⟩⟩,
    nodup_emissionOrder ht hroot, fun c => mem_emissionOrder ht hroot, ?_, ?_, ?_⟩
  · exact length_classes_freeze names examples ht hroot
  · exact ordered_freeze names examples ht hroot
  · exact fun c n => root_freeze names examples ht hroot

end Freeze

/-- Two classes that lead to each other, the second one through a list. -/
def mutualClasses : ClassTable where
  entries := [⟨[⟨"parent", .object ⟨1⟩ true, 1, []⟩], 1, false⟩,
    ⟨[⟨"children", .array (.object ⟨0⟩ false) false, 1, []⟩], 1, true⟩]

theorem inRange_mutualClasses : mutualClasses.InRange := .of_all (by decide)

/-- The class that is emitted first refers to the second one, which leads back to it. -/
theorem classes_in_emission_order_mutual :
    emissionOrder mutualClasses (.object ⟨1⟩ false) = [⟨0⟩, ⟨1⟩] ∧
      Relation.TransGen (freeze mutualClasses (.object ⟨1⟩ false) [] ⟨false, 0⟩).LeadsTo ⟨1⟩ ⟨0⟩ := by
  have hroot : (Evidence.object (⟨1⟩ : ClassId) false).RefersBelow mutualClasses.entries.length := by
    intro c hc
    cases hc
    decide
  obtain ⟨_, _, _, _, hordered, _⟩ :=
    classes_in_emission_order [] ⟨false, 0⟩ inRange_mutualClasses hroot
  refine ⟨by decide, ?_⟩
  have hfirst : (freeze mutualClasses (.object ⟨1⟩ false) [] ⟨false, 0⟩).class? ⟨0⟩ =
      some ⟨⟨0⟩, "", [⟨"parent", .object ⟨1⟩ ⟨true, false⟩, true, 1, []⟩], false, 1⟩ := rfl
  have htarget := hordered.target (TypeModel.mem_classes.mpr ⟨_, hfirst⟩) (List.mem_singleton_self _) rfl
  exact htarget.2.resolve_left (by decide)

end Specimen
