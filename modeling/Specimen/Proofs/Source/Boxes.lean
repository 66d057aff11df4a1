import Mathlib.Data.Finset.Card
import Specimen.Proofs.Source.Reach
import Specimen.Proofs.Source.Scopes

/-! Boxes in structs.

A struct holds another one for each field that is an object. The type of such a field is boxed just if the
other struct leads back, so that the field is on a cycle of structs (`boxed_iff`). What is left without a box
leads to fewer structs at each step (`rank_lt_of_embeds`): no struct takes up itself, directly, in an option
or through others, and sizes can be given to all of them (`hasSizes`). -/
namespace Specimen

namespace TypeModel

/-- A field of the first class is an object of the second. -/
def Holds (m : TypeModel) (a b : ClassId) : Prop :=
  ∃ c, m.class? a = some c ∧ ∃ f ∈ c.fields, f.type.kind = .object ∧ f.type.class? = some b

/-- The field of a class is an object of a class that leads back to it. -/
def OnCycle (m : TypeModel) (c : ClassId) (f : FieldInfo) : Prop :=
  ∃ b, f.type.kind = .object ∧ f.type.class? = some b ∧ Relation.ReflTransGen m.Holds b c

def ids (m : TypeModel) : List ClassId := (List.range m.classes.length).map ClassId.mk

theorem nodup_ids (m : TypeModel) : m.ids.Nodup :=
  List.nodup_range.map fun _ _ h => congrArg ClassId.index h

theorem mem_ids_of_class? {m : TypeModel} {id : ClassId} {c : ClassDef} (h : m.class? id = some c) :
    id ∈ m.ids :=
  List.mem_map_of_mem (List.mem_range.mpr (List.getElem?_eq_some_iff.mp h).1)

end TypeModel

end Specimen

namespace Specimen.Source.Rust

/-! ### The search -/

section Search
variable {m : TypeModel}

theorem heldClasses_eq (id : ClassId) : heldClasses m id =
    (m.class? id).elim [] fun c => c.fields.filterMap fun f => f.type.class? := by
  unfold heldClasses
  cases m.class? id <;> rfl

theorem mem_heldClasses {a b : ClassId} : b ∈ heldClasses m a ↔ m.Holds a b := by
  rw [heldClasses_eq, TypeModel.Holds]
  cases m.class? a with
  | none => simp
  | some c =>
    simp only [Option.elim_some, List.mem_filterMap, Option.some.injEq, exists_eq_left']
    refine exists_congr fun f => and_congr_right fun _ => ?_
    exact ⟨fun h => ⟨TypeNode.kind_of_class? h, h⟩, And.right⟩

theorem edge_heldClasses : Edge (heldClasses m) = m.Holds := by
  funext a b
  exact propext mem_heldClasses

theorem heldClasses_of_not_mem {id : ClassId} (h : id ∉ m.ids) : heldClasses m id = [] := by
  rw [heldClasses_eq]
  cases hc : m.class? id with
  | none => rfl
  | some c => exact absurd (TypeModel.mem_ids_of_class? hc) h

/-- What structs hold is held in their fields. -/
theorem flatMap_heldClasses : m.ids.flatMap (heldClasses m) =
    (m.classes.flatMap ClassDef.fields).filterMap fun f => f.type.class? := by
  have hclasses : (List.range m.classes.length).map (m.classes[·]?) = m.classes.map some := by
    refine List.ext_getElem? fun i => ?_
    by_cases hi : i < m.classes.length
    · simp [hi]
    · simp [hi]
  rw [TypeModel.ids, List.flatMap_map, List.filterMap_flatMap]
  calc (List.range m.classes.length).flatMap (fun i => heldClasses m ⟨i⟩)
      = ((List.range m.classes.length).map (m.classes[·]?)).flatMap fun c? =>
          c?.elim [] fun c => c.fields.filterMap fun f => f.type.class? := by
        simp only [heldClasses_eq, List.flatMap_map]
        rfl
    _ = _ := by
        rw [hclasses, List.flatMap_map]
        rfl

theorem length_flatMap_heldClasses : (m.ids.flatMap (heldClasses m)).length <
    (m.classes.flatMap ClassDef.fields).length + 1 := by
  rw [flatMap_heldClasses]
  exact Nat.lt_succ_of_le (List.length_filterMap_le _ _)

theorem reaches_iff {a b : ClassId} :
    reaches m a b = true ↔ Relation.ReflTransGen m.Holds a b := by
  rw [← edge_heldClasses]
  exact search_eq_true_iff m.nodup_ids (fun _ => heldClasses_of_not_mem) length_flatMap_heldClasses

/-- In whatever order the structs that a struct holds are visited, the search ends with the same answer. -/
theorem searches_iff_reaches {next : ClassId → List ClassId}
    (h : ∀ id, (next id).Perm (heldClasses m id)) {source target : ClassId} {answer : Bool} :
    Searches next target [source] [] answer ↔ answer = reaches m source target :=
  searches_iff_of_perm m.nodup_ids (fun _ => heldClasses_of_not_mem) length_flatMap_heldClasses h

end Search

/-! ### The types of fields -/

/-- The type of a field with a box or without, in an option if it may be null. -/
def fieldTypeWith (m : TypeModel) (f : FieldInfo) (boxed : Bool) : String :=
  orNone f.nullable f.type.kind (if boxed then "Box<" ++ plainName m f.type ++ ">" else plainName m f.type)

theorem fieldType_eq (m : TypeModel) (c : ClassDef) (f : FieldInfo) :
    fieldType m c f = fieldTypeWith m f (isBoxed m c f) := rfl

theorem length_orNone_lt {nullable : Bool} {kind : Kind} {name name' : String}
    (h : name.length < name'.length) :
    (orNone nullable kind name).length < (orNone nullable kind name').length := by
  unfold orNone
  split
  · simp only [String.length_append]
    omega
  · exact h

theorem length_fieldTypeWith (m : TypeModel) (f : FieldInfo) :
    (fieldTypeWith m f false).length < (fieldTypeWith m f true).length := by
  refine length_orNone_lt ?_
  have hbox : "Box<".length = 4 := rfl
  simp only [if_true, Bool.false_eq_true, if_false, String.length_append]
  omega

/-- With a box the type is written differently. -/
theorem fieldTypeWith_inj {m : TypeModel} {f : FieldInfo} {boxed boxed' : Bool} :
    fieldTypeWith m f boxed = fieldTypeWith m f boxed' ↔ boxed = boxed' := by
  have hlength := length_fieldTypeWith m f
  have hne : fieldTypeWith m f false ≠ fieldTypeWith m f true := fun h =>
    Nat.ne_of_lt hlength (congrArg String.length h)
  cases boxed <;> cases boxed' <;> simp [hne, hne.symm]

theorem isBoxed_iff {m : TypeModel} {c : ClassDef} {f : FieldInfo} :
    isBoxed m c f = true ↔ m.OnCycle c.id f := by
  rw [isBoxed, Option.any_eq_true]
  refine exists_congr fun b => ?_
  rw [reaches_iff]
  exact ⟨fun ⟨hb, hback⟩ => ⟨TypeNode.kind_of_class? hb, hb, hback⟩, And.right⟩

/-- A field is boxed just if it is on a cycle. -/
theorem boxed_iff (m : TypeModel) (c : ClassDef) (f : FieldInfo) :
    (fieldType m c f = fieldTypeWith m f true ↔ m.OnCycle c.id f) ∧
      (fieldType m c f = fieldTypeWith m f false ↔ ¬ m.OnCycle c.id f) := by
  rw [fieldType_eq, fieldTypeWith_inj, fieldTypeWith_inj, ← isBoxed_iff, Bool.not_eq_true]
  exact ⟨Iff.rfl, Iff.rfl⟩

/-! ### Structs inside structs -/

/-- The struct of the first class takes up that of the second, bare or in an option. -/
def Embeds (m : TypeModel) (a b : ClassId) : Prop :=
  ∃ c, m.class? a = some c ∧ ∃ f ∈ c.fields, f.type.kind = .object ∧ f.type.class? = some b ∧
    fieldType m c f = fieldTypeWith m f false

/-- How many structs there are that a struct leads to, itself included. -/
def rank (m : TypeModel) (a : ClassId) : Nat := (m.ids.toFinset.filter (reaches m a ·)).card

section Linked
variable {m : TypeModel} (hm : m.Linked)
include hm

theorem not_leads_back_of_embeds {a b : ClassId} (h : Embeds m a b) :
    m.Holds a b ∧ ¬ Relation.ReflTransGen m.Holds b a := by
  obtain ⟨c, hc, f, hf, hkind, hb, hplain⟩ := h
  refine ⟨⟨c, hc, f, hf, hkind, hb⟩, fun hback => ?_⟩
  rw [← hm.id hc] at hback
  exact (boxed_iff m c f).2.mp hplain ⟨b, hkind, hb, hback⟩

/-- A struct that is taken up leads to fewer structs than the one that takes it up. -/
theorem rank_lt_of_embeds {a b : ClassId} (h : Embeds m a b) : rank m b < rank m a := by
  obtain ⟨hab, hback⟩ := not_leads_back_of_embeds hm h
  have hsubset : m.ids.toFinset.filter (reaches m b ·) ⊆ m.ids.toFinset.filter (reaches m a ·) := by
    intro x hx
    obtain ⟨hid, hx⟩ := Finset.mem_filter.mp hx
    exact Finset.mem_filter.mpr ⟨hid, reaches_iff.mpr ((reaches_iff.mp hx).head hab)⟩
  refine Finset.card_lt_card ((Finset.ssubset_iff_of_subset hsubset).mpr ⟨a, ?_, fun ha => ?_⟩)
  · obtain ⟨c, hc, _⟩ := hab
    exact Finset.mem_filter.mpr
      ⟨List.mem_toFinset.mpr (TypeModel.mem_ids_of_class? hc), reaches_iff.mpr .refl⟩
  · exact hback (reaches_iff.mp (Finset.mem_filter.mp ha).2)

/-- To follow structs into the structs that they take up comes to an end. -/
theorem wellFounded_embeds : WellFounded fun b a => Embeds m a b :=
  Subrelation.wf (fun h => rank_lt_of_embeds hm h) (measure (rank m)).wf

theorem not_embeds_self (id : ClassId) : ¬ Relation.TransGen (Embeds m) id id := by
  intro hcycle
  have hback : Relation.TransGen (fun b a => Embeds m a b) id id := Relation.transGen_swap.mpr hcycle
  exact (wellFounded_embeds hm).transGen.asymmetric id id hback hback

end Linked

/-! ### Sizes -/

/-- What a field takes: a whole struct if there is no box around it, and a unit otherwise. -/
def fieldSize (m : TypeModel) (size : ClassId → Nat) (c : ClassDef) (f : FieldInfo) : Nat :=
  match f.type.class? with
  | some b => if fieldType m c f = fieldTypeWith m f false then size b else 1
  | none => 1

/-- A unit and what the fields take. -/
def structSize (m : TypeModel) (size : ClassId → Nat) (id : ClassId) : Nat :=
  match m.class? id with
  | some c => (c.fields.map (fieldSize m size c)).foldl (· + ·) 1
  | none => 1

/-- Sizes of structs inside structs, down to the given depth. -/
def sizeTo (m : TypeModel) : Nat → ClassId → Nat
  | 0, _ => 0
  | depth + 1, id => structSize m (sizeTo m depth) id

/-- The size of a struct depends on those of the structs that it takes up. -/
theorem structSize_congr {m : TypeModel} {size size' : ClassId → Nat} {a : ClassId}
    (h : ∀ b, Embeds m a b → size b = size' b) : structSize m size a = structSize m size' a := by
  unfold structSize
  cases hc : m.class? a with
  | none => rfl
  | some c =>
    have hfields : ∀ f ∈ c.fields, fieldSize m size c f = fieldSize m size' c f := by
      intro f hf
      unfold fieldSize
      cases hb : f.type.class? with
      | none => rfl
      | some b =>
        dsimp only
        split
        case isTrue hplain => exact h b ⟨c, hc, f, hf, TypeNode.kind_of_class? hb, hb, hplain⟩
        case isFalse => rfl
    dsimp only
    rw [List.map_congr_left hfields]

/-- No struct needs more depth than it leads to structs. -/
theorem sizeTo_eq {m : TypeModel} (hm : m.Linked) {depth depth' : Nat} {a : ClassId}
    (h : rank m a < depth) (h' : rank m a < depth') : sizeTo m depth a = sizeTo m depth' a := by
  induction depth generalizing depth' a with
  | zero => exact absurd h (Nat.not_lt_zero _)
  | succ depth ih =>
    obtain ⟨depth', rfl⟩ := Nat.exists_eq_add_of_le' (Nat.one_le_of_lt h')
    refine structSize_congr fun b hb => ?_
    have hlt := rank_lt_of_embeds hm hb
    exact ih (by omega) (by omega)

theorem hasSizes {m : TypeModel} (hm : m.Linked) :
    ∃ size : ClassId → Nat, ∀ id, size id = structSize m size id := by
  refine ⟨fun id => sizeTo m (rank m id + 1) id, fun id => structSize_congr fun b hb => ?_⟩
  exact sizeTo_eq hm (rank_lt_of_embeds hm hb) (Nat.lt_succ_self _)

/-- In every inferred model a field is boxed just if it is on a cycle of structs, and without the boxed ones no
cycle is left: every struct has a finite size. The search for cycles ends on all models. -/
theorem boxes_break_cycles (s : Settings) {documents : List Json}
    (h : ∀ d ∈ documents, d.DistinctKeys) :
    (∀ c ∈ (inferValues s documents).classes, ∀ f ∈ c.fields,
      (fieldType (inferValues s documents) c f = fieldTypeWith (inferValues s documents) f true ↔
        (inferValues s documents).OnCycle c.id f) ∧
      (fieldType (inferValues s documents) c f = fieldTypeWith (inferValues s documents) f false ↔
        ¬ (inferValues s documents).OnCycle c.id f)) ∧
    (∀ id, ¬ Relation.TransGen (Embeds (inferValues s documents)) id id) ∧
    (∃ size : ClassId → Nat, ∀ id, size id = structSize (inferValues s documents) size id) ∧
    ∀ (m : TypeModel) (next : ClassId → List ClassId), (∀ id, (next id).Perm (heldClasses m id)) →
      ∀ source target answer,
        Searches next target [source] [] answer ↔ answer = reaches m source target := by
  have hlinked := linked_inferValues s h
  refine ⟨fun c _ f _ => boxed_iff _ c f, not_embeds_self hlinked, hasSizes hlinked, ?_⟩
  exact fun m next hnext source target answer => searches_iff_reaches hnext

/-- Of two classes that lead to each other, the one that comes first is on a cycle by its only field, and the
other one by an option. -/
theorem boxes_break_cycles_backReference :
    (∀ c ∈ (inferValues {} backReference).classes, ∀ f ∈ c.fields,
      (inferValues {} backReference).OnCycle c.id f) ∧
      Searches (heldClasses (inferValues {} backReference)) ⟨0⟩ [⟨1⟩] [] true := by
  obtain ⟨hboxed, _, _, hends⟩ := boxes_break_cycles {} distinctKeys_backReference
  refine ⟨fun c hc f hf => (hboxed c hc f hf).1.mp ?_, ?_⟩
  · have hall : ∀ c ∈ (inferValues {} backReference).classes, ∀ f ∈ c.fields,
        fieldType (inferValues {} backReference) c f =
          fieldTypeWith (inferValues {} backReference) f true := by decide
    exact hall c hc f hf
  · exact (hends _ _ (fun _ => .refl _) _ _ _).mpr rfl

end Specimen.Source.Rust
