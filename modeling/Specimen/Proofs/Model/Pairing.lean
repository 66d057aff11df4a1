import Specimen.Proofs.Model.Conformance
import Specimen.Proofs.Model.Nodes

/-! What is paired with a node is a value of its type.

A value that a type admits is entered at types that admit its parts (`admits_of_mem_children`), so that the
walk meets nothing else (`admits_of_mem_walk`). -/
namespace Specimen.TypeModel
variable {m : TypeModel} {isDate : String → Bool}

/-- The value is of the type that is at the node. -/
def AdmitsAt (m : TypeModel) (isDate : String → Bool) (n : Node) (x : Json) : Prop :=
  ∃ τ, m.node? n = some τ ∧ m.admits isDate x τ = true

theorem admits_object {members : List (String × Json)} {id : ClassId} {k : Flags}
    (h : m.admits isDate (.object members) (.object id k) = true) :
    ∃ c, m.class? id = some c ∧
      (∀ x ∈ members, ∃ f, c.field? x.1 = some f ∧ m.admits isDate x.2 f.type = true) ∧
      ∀ f ∈ c.fields, f.sourceName ∉ members.map Prod.fst → f.nullable = true := by
  rw [admits] at h
  cases hc : m.class? id with
  | none =>
    rw [hc] at h
    cases h
  | some c =>
    rw [hc] at h
    simp only [Bool.and_eq_true, admitsMembers_iff] at h
    refine ⟨c, rfl, fun x hx => ?_, fun f hf habsent => ?_⟩
    · obtain ⟨_, htype, hadmits⟩ := h.1 x hx
      obtain ⟨f, hf, rfl⟩ := Option.map_eq_some_iff.mp htype
      exact ⟨f, hf, hadmits⟩
    · have hor := List.all_eq_true.mp h.2 f hf
      rw [Bool.or_eq_true] at hor
      refine hor.resolve_right fun hany => habsent ?_
      obtain ⟨x, hx, hkey⟩ := List.any_eq_true.mp hany
      exact List.mem_map.mpr ⟨x, hx, by simpa using hkey⟩

theorem admits_of_mem_children {n : Node} {y : Json} (hy : m.AdmitsAt isDate n y) {d : Node × Json}
    (hd : d ∈ m.lockstep.children n y) : m.AdmitsAt isDate d.1 d.2 := by
  obtain ⟨τ, hτ, hadmits⟩ := hy
  obtain ⟨n', x⟩ := d
  cases n' with
  | root => exact absurd hd not_mem_children_root
  | field id key =>
    obtain ⟨⟨k, hnode⟩, _, members, rfl, hx⟩ := mem_children_field.mp hd
    cases hτ.symm.trans hnode
    obtain ⟨c, hc, hvalues, _⟩ := admits_object hadmits
    obtain ⟨f, hf, hvalue⟩ := hvalues _ hx
    exact ⟨f.type, by simp [node?, hc, hf], hvalue⟩
  | element n' =>
    obtain ⟨rfl, ⟨⟨element, k, hnode⟩, hx⟩ | ⟨⟨element, k, hnode⟩, hx⟩⟩ := mem_children_element.mp hd
    · cases hτ.symm.trans hnode
      refine ⟨element, by simp [node?, hnode, TypeNode.element?], ?_⟩
      cases y with
      | array items => exact admitsItems_iff.mp hadmits x hx
      | _ => cases hx
    · cases hτ.symm.trans hnode
      refine ⟨element, by simp [node?, hnode, TypeNode.element?], ?_⟩
      cases y with
      | object members =>
        obtain ⟨y, hy, rfl⟩ := List.mem_map.mp hx
        obtain ⟨_, htype, hvalue⟩ := admitsMembers_iff.mp hadmits y hy
        cases htype
        exact hvalue
      | _ => cases hx

theorem admits_of_mem_walk {n : Node} {x : Json} (hx : m.AdmitsAt isDate n x) {d : Node × Json}
    (hd : d ∈ m.lockstep.walk n x) : m.AdmitsAt isDate d.1 d.2 := by
  induction x using Json.parts_induction generalizing n with
  | h x ihi ihm =>
    rw [Lockstep.walk_eq] at hd
    rcases List.mem_cons.mp hd with rfl | hd
    · exact hx
    · obtain ⟨b, hb, hd⟩ := List.mem_flatMap.mp hd
      have hadmits := admits_of_mem_children hx hb
      rcases m.lockstep.part_of_mem_children hb with hpart | hpart
      · exact ihi b.2 hpart hadmits hd
      · exact ihm b.2 hpart hadmits hd

/-- An object that is paired with a class is one of its values. -/
theorem admits_of_mem_objectsOf {samples : List Json}
    (h : ∀ x ∈ samples, m.admits isDate x m.root = true) {id : ClassId}
    {members : List (String × Json)} (hm : members ∈ m.objectsOf samples id) :
    ∃ k, m.admits isDate (.object members) (.object id k) = true := by
  obtain ⟨n, hmem, hclass⟩ := m.lockstep.mem_objects.mp hm
  obtain ⟨x, hx, hwalk⟩ := List.mem_flatMap.mp hmem
  obtain ⟨τ, hτ, hadmits⟩ := admits_of_mem_walk ⟨m.root, rfl, h x hx⟩ hwalk
  have hclass : τ.class? = some id := by simpa [lockstep, hτ] using hclass
  cases τ <;> cases hclass
  exact ⟨_, hadmits⟩

end Specimen.TypeModel
