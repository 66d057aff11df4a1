import Specimen.Model.Schema
import Specimen.Proofs.Json.Lockstep
import Specimen.Proofs.Model.Nodes

/-! What the parts of a node have to do with each other, and where they are in the document of a model.

Kind and nullability of a frozen type come from the same evidence, and so do kind and content
(`coherent_freezeType`). In the document each node is found by the names of members, as the node of the model
that it is (`nodeIn?_json`), with its flags (`member?_flags_json`). -/
namespace Specimen

/-! ### Nodes -/

namespace TypeNode

/-- Kinds that have another one for values that may be null. -/
def plainKinds : List Kind := [.integer, .long, .float, .boolean, .date, .anything]

/-- The kind of a node agrees with what is inside it and with its nullability. -/
structure Coherent (τ : TypeNode) : Prop where
  element : τ.element?.isSome = true ↔ τ.kind = .array ∨ τ.kind = .dictionary
  object : τ.class?.isSome = true ↔ τ.kind = .object
  nullable : τ.kind.isNullable = true → τ.nullable = true
  plain : τ.nullable = true → τ.kind ∉ plainKinds

theorem coherent_leaf {kind : Kind} {flags : Flags} (hkind : kind ∉ [.array, .dictionary, .object])
    (hnullable : kind.isNullable = true → flags.nullable = true)
    (hplain : flags.nullable = true → kind ∉ plainKinds) : (leaf kind flags).Coherent where
  element := iff_of_false nofun fun h => hkind (by rcases h with rfl | rfl <;> decide)
  object := iff_of_false nofun fun h => hkind (by cases h; decide)
  nullable := hnullable
  plain := hplain

theorem Coherent.withRoot {τ : TypeNode} (h : τ.Coherent) (isRoot : Bool) :
    (τ.withRoot isRoot).Coherent where
  element := by simpa using h.element
  object := by simpa using h.object
  nullable := by simpa using h.nullable
  plain := by simpa using h.plain

end TypeNode

theorem coherent_freezeType (order : List ClassId) (e : Evidence ClassId) :
    (freezeType order e).Coherent := by
  cases e with
  | unknown => exact TypeNode.coherent_leaf (by decide) (by decide) (by decide)
  | null => exact TypeNode.coherent_leaf (by decide) (by decide) (by decide)
  | anything n =>
    cases n <;> exact TypeNode.coherent_leaf (by decide) (by decide) (by decide)
  | scalar k n =>
    cases n <;> cases k <;> exact TypeNode.coherent_leaf (by decide) (by decide) (by decide)
  | array item n => exact ⟨iff_of_true rfl (.inl rfl), iff_of_false nofun nofun, nofun, fun _ => nofun⟩
  | dictionary value n =>
    exact ⟨iff_of_true rfl (.inr rfl), iff_of_false nofun nofun, nofun, fun _ => nofun⟩
  | object id n => exact ⟨iff_of_false nofun nofun, iff_of_true rfl rfl, nofun, fun _ => nofun⟩

/-! ### The document of a model -/

/-- The member of the list that has the text under the key. -/
def Json.find? (key text : String) (xs : List Json) : Option Json :=
  xs.find? fun x =>
    match x.member? key with
    | some (.string s) => s == text
    | _ => false

/-- The node at its place in the document of a model. -/
def nodeIn? (x : Json) : Node → Option Json
  | .root => x.member? "root"
  | .field id key => do
    let classes ← x.member? "classes"
    let c ← classes.items[id.index]?
    let fields ← c.member? "fields"
    let f ← Json.find? "source_name" key fields.items
    f.member? "type"
  | .element n => (nodeIn? x n).bind (Json.member? "element")

theorem member?_element_json (τ : TypeNode) :
    τ.json.member? "element" = τ.element?.map TypeNode.json := by
  obtain ⟨kind, n, r⟩ | ⟨element, n, r⟩ | ⟨element, n, r⟩ | ⟨id, n, r⟩ := τ <;> cases n <;> cases r <;> rfl

/-- A flag is a member of the document of a node just if it is set. -/
theorem member?_flags_json (τ : TypeNode) :
    (τ.json.member? "nullable").isSome = τ.nullable ∧ (τ.json.member? "is_root").isSome = τ.isRoot := by
  obtain ⟨kind, n, r⟩ | ⟨element, n, r⟩ | ⟨element, n, r⟩ | ⟨id, n, r⟩ := τ <;> cases n <;> cases r <;>
    exact ⟨rfl, rfl⟩

theorem find?_json (key : String) (fields : List FieldInfo) :
    Json.find? "source_name" key (fields.map FieldInfo.json) =
      (fields.find? (·.sourceName == key)).map FieldInfo.json :=
  List.find?_map ..

theorem nodeIn?_json (m : TypeModel) (n : Node) :
    nodeIn? m.json n = (m.node? n).map TypeNode.json := by
  induction n with
  | root => rfl
  | field id key =>
    have hclasses : m.json.member? "classes" = some (.array (m.classes.map ClassDef.json)) := rfl
    have hfields : ∀ c : ClassDef, c.json.member? "fields" = some (.array (c.fields.map FieldInfo.json)) :=
      fun _ => rfl
    have htype : ∀ f : FieldInfo, f.json.member? "type" = some f.type.json := fun _ => rfl
    rw [nodeIn?, hclasses]
    simp only [Option.bind_eq_bind, Option.bind_some, Json.items, List.getElem?_map, TypeModel.node?,
      TypeModel.class?]
    cases m.classes[id.index]? with
    | none => rfl
    | some c =>
      simp only [Option.map_some, Option.bind_some, hfields, find?_json, ClassDef.field?]
      cases c.fields.find? (·.sourceName == key) with
      | none => rfl
      | some f => exact htype f
  | element n ih =>
    rw [nodeIn?, ih, TypeModel.node?]
    cases m.node? n with
    | none => rfl
    | some τ => exact member?_element_json τ

end Specimen
