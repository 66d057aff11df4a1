import Specimen.Proofs.Classes.Ledger
import Specimen.Proofs.Model.Freeze

/-! The nodes of a model, and the values that are paired with them.

A node is the type of the documents, the type of a field of a class, or the element of another node.
Walking the samples in lockstep with the model pairs each value in them with a node
(`TypeModel.valuesAt`), and each object with a class (`TypeModel.objectsOf`). The walk of a frozen table
is the walk by the table (`objectsOf_freeze`), so the type of each node is a tally of the values paired
with it (`exists_pairing`). -/
namespace Specimen

/-- A node of a model. -/
inductive Node where
  | root
  | field (id : ClassId) (key : String)
  | element (container : Node)
  deriving DecidableEq

def Node.isRoot : Node → Bool
  | .root => true
  | _ => false

theorem Node.isRoot_iff {n : Node} : n.isRoot = true ↔ n = .root := by
  cases n <;> simp [isRoot]

namespace TypeModel
variable (m : TypeModel)

/-- The type that is at the node. -/
def node? : Node → Option TypeNode
  | .root => some m.root
  | .field id key => ((m.class? id).bind fun c => c.field? key).map FieldInfo.type
  | .element n => (node? n).bind TypeNode.element?

/-- The nodes of a model, as a system of types to walk values with. Arrays and dictionaries lead to their
element, objects by key to the fields of their class; nothing else leads anywhere. -/
def lockstep : Lockstep Node where
  item? n :=
    match m.node? n with
    | some (.array _ _) => some (.element n)
    | _ => none
  member? n key :=
    match m.node? n with
    | some (.dictionary _ _) => some (.element n)
    | some (.object id _) =>
      if (m.node? (.field id key)).isSome then some (.field id key) else none
    | _ => none
  class? n := (m.node? n).bind TypeNode.class?

/-- The values in the samples that are paired with the node. -/
def valuesAt (samples : List Json) (n : Node) : List Json :=
  (samples.flatMap (m.lockstep.walk .root)).filterMap fun c => if c.1 = n then some c.2 else none

/-- The objects in the samples that are paired with a node of the class. -/
def objectsOf (samples : List Json) (id : ClassId) : List (List (String × Json)) :=
  m.lockstep.objects id .root samples

variable {m} {samples : List Json}

theorem mem_valuesAt {n : Node} {x : Json} :
    x ∈ m.valuesAt samples n ↔ (n, x) ∈ samples.flatMap (m.lockstep.walk .root) := by
  rw [valuesAt, List.mem_filterMap]
  constructor
  · rintro ⟨⟨n', y⟩, hc, h⟩
    split at h
    case isTrue hn =>
      cases h
      exact hn ▸ hc
    case isFalse => cases h
  · exact fun h => ⟨_, h, if_pos rfl⟩

/-- Apart from the samples, what is paired with a node is met below something. -/
theorem mem_valuesAt_iff_child {n : Node} (hn : n ≠ .root) {x : Json} :
    x ∈ m.valuesAt samples n ↔
      ∃ n' y, y ∈ m.valuesAt samples n' ∧ (n, x) ∈ m.lockstep.children n' y := by
  simp only [mem_valuesAt, List.mem_flatMap]
  constructor
  · rintro ⟨sample, hsample, h⟩
    rcases m.lockstep.eq_or_child_of_mem_walk h with h | ⟨⟨n', y⟩, hb, hc⟩
    · cases h
      exact absurd rfl hn
    · exact ⟨n', y, ⟨sample, hsample, hb⟩, hc⟩
  · rintro ⟨n', y, ⟨sample, hsample, hb⟩, hc⟩
    exact ⟨sample, hsample, m.lockstep.mem_walk_of_child hb hc⟩

theorem not_mem_children_root {n : Node} {x y : Json} : (.root, x) ∉ m.lockstep.children n y := by
  intro h
  cases y with
  | array items =>
    obtain ⟨z, _, hz⟩ := List.mem_filterMap.mp h
    simp only [lockstep] at hz
    split at hz <;> cases hz
  | object members =>
    obtain ⟨z, _, hz⟩ := List.mem_filterMap.mp h
    simp only [lockstep] at hz
    split at hz
    · cases hz
    · split at hz <;> cases hz
    · cases hz
  | _ => cases h

theorem mem_valuesAt_root {x : Json} : x ∈ m.valuesAt samples .root ↔ x ∈ samples := by
  rw [mem_valuesAt, List.mem_flatMap]
  constructor
  · rintro ⟨sample, hsample, h⟩
    rcases m.lockstep.eq_or_child_of_mem_walk h with h | ⟨b, _, hc⟩
    · cases h
      exact hsample
    · exact absurd hc not_mem_children_root
  · exact fun h => ⟨x, h, m.lockstep.mem_walk_self _ _⟩

theorem mem_children_element {n n' : Node} {x y : Json} :
    (.element n, x) ∈ m.lockstep.children n' y ↔ n' = n ∧
      ((∃ element k, m.node? n = some (.array element k)) ∧ x ∈ y.items ∨
        (∃ element k, m.node? n = some (.dictionary element k)) ∧ x ∈ y.memberValues) := by
  constructor
  · intro h
    cases y with
    | array items =>
      obtain ⟨z, hz, hc⟩ := List.mem_filterMap.mp h
      simp only [lockstep] at hc
      split at hc <;> cases hc
      exact ⟨rfl, .inl ⟨⟨_, _, ‹_›⟩, hz⟩⟩
    | object members =>
      obtain ⟨z, hz, hc⟩ := List.mem_filterMap.mp h
      simp only [lockstep] at hc
      split at hc
      · cases hc
        exact ⟨rfl, .inr ⟨⟨_, _, ‹_›⟩, List.mem_map_of_mem hz⟩⟩
      · split at hc <;> cases hc
      · cases hc
    | _ => cases h
  · rintro ⟨rfl, ⟨⟨e, k, hnode⟩, hx⟩ | ⟨⟨e, k, hnode⟩, hx⟩⟩
    · cases y with
      | array items => exact List.mem_filterMap.mpr ⟨x, hx, by simp only [lockstep, hnode]; rfl⟩
      | _ => cases hx
    · cases y with
      | object members =>
        obtain ⟨z, hz, rfl⟩ := List.mem_map.mp hx
        exact List.mem_filterMap.mpr ⟨z, hz, by simp only [lockstep, hnode]; rfl⟩
      | _ => cases hx

theorem mem_children_field {id : ClassId} {key : String} {n : Node} {x y : Json} :
    (.field id key, x) ∈ m.lockstep.children n y ↔ (∃ k, m.node? n = some (.object id k)) ∧
      (m.node? (.field id key)).isSome = true ∧ ∃ members, y = .object members ∧ (key, x) ∈ members := by
  constructor
  · intro h
    cases y with
    | array items =>
      obtain ⟨z, _, hc⟩ := List.mem_filterMap.mp h
      simp only [lockstep] at hc
      split at hc <;> cases hc
    | object members =>
      obtain ⟨⟨key', z⟩, hz, hc⟩ := List.mem_filterMap.mp h
      simp only [lockstep] at hc
      split at hc
      · cases hc
      · split at hc
        case isTrue hsome =>
          cases hc
          exact ⟨⟨_, ‹_›⟩, hsome, members, rfl, hz⟩
        case isFalse => cases hc
      · cases hc
    | _ => cases h
  · rintro ⟨⟨k, hnode⟩, hsome, members, rfl, hx⟩
    exact List.mem_filterMap.mpr ⟨_, hx, by simp only [lockstep, hnode, if_pos hsome]; rfl⟩

/-- What is paired with the element of an array are the items of what is paired with the array. -/
theorem mem_valuesAt_items {n : Node} {element : TypeNode} {k : Flags}
    (hn : m.node? n = some (.array element k)) {x : Json} :
    x ∈ m.valuesAt samples (.element n) ↔ ∃ y ∈ m.valuesAt samples n, x ∈ y.items := by
  rw [mem_valuesAt_iff_child (n := .element n) nofun]
  simp only [mem_children_element, hn]
  constructor
  · rintro ⟨_, y, hy, rfl, ⟨_, hx⟩ | ⟨⟨_, _, h⟩, _⟩⟩
    · exact ⟨y, hy, hx⟩
    · cases h
  · rintro ⟨y, hy, hx⟩
    exact ⟨n, y, hy, rfl, .inl ⟨⟨_, _, rfl⟩, hx⟩⟩

theorem mem_valuesAt_memberValues {n : Node} {element : TypeNode} {k : Flags}
    (hn : m.node? n = some (.dictionary element k)) {x : Json} :
    x ∈ m.valuesAt samples (.element n) ↔ ∃ y ∈ m.valuesAt samples n, x ∈ y.memberValues := by
  rw [mem_valuesAt_iff_child (n := .element n) nofun]
  simp only [mem_children_element, hn]
  constructor
  · rintro ⟨_, y, hy, rfl, ⟨⟨_, _, h⟩, _⟩ | ⟨_, hx⟩⟩
    · cases h
    · exact ⟨y, hy, hx⟩
  · rintro ⟨y, hy, hx⟩
    exact ⟨n, y, hy, rfl, .inr ⟨⟨_, _, rfl⟩, hx⟩⟩

/-- What is paired with a field are the values of its key in the objects of the class. -/
theorem mem_valuesAt_field {id : ClassId} {key : String} (hn : (m.node? (.field id key)).isSome = true)
    {x : Json} : x ∈ m.valuesAt samples (.field id key) ↔
      ∃ members ∈ m.objectsOf samples id, (key, x) ∈ members := by
  rw [mem_valuesAt_iff_child (n := .field id key) nofun]
  simp only [mem_children_field, objectsOf, Lockstep.mem_objects, mem_valuesAt]
  constructor
  · rintro ⟨n, _, hy, ⟨k, hnode⟩, _, members, rfl, hx⟩
    exact ⟨members, ⟨n, hy, by simp only [lockstep, hnode]; rfl⟩, hx⟩
  · rintro ⟨members, ⟨n, hmem, hclass⟩, hx⟩
    obtain ⟨τ, hτ, hclass⟩ := Option.bind_eq_some_iff.mp hclass
    cases τ <;> cases hclass
    exact ⟨n, _, hmem, ⟨_, hτ⟩, hn, members, rfl, hx⟩

theorem nodup_keys_of_mem_objectsOf (h : ∀ x ∈ samples, x.DistinctKeys) {id : ClassId}
    {members : List (String × Json)} (hm : members ∈ m.objectsOf samples id) :
    (members.map Prod.fst).Nodup := by
  obtain ⟨n, hmem, _⟩ := m.lockstep.mem_objects.mp hm
  obtain ⟨x, hx, hmem⟩ := List.mem_flatMap.mp hmem
  exact (Json.distinctKeys_object.mp (m.lockstep.distinctKeys_of_mem_walk (h x hx) hmem)).1

/-- The values are those that are paired with the node, and some nulls for keys that are missing. -/
structure Pairs (m : TypeModel) (samples : List Json) (n : Node) (xs : List Json) : Prop where
  paired : ∀ x ∈ m.valuesAt samples n, x ∈ xs
  only : ∀ x ∈ xs, x ∈ m.valuesAt samples n ∨ x = .null
  nonempty : xs ≠ [] → m.valuesAt samples n ≠ []

theorem Pairs.of_mem_iff {n : Node} {xs : List Json} (h : ∀ x, x ∈ m.valuesAt samples n ↔ x ∈ xs) :
    m.Pairs samples n xs where
  paired x hx := (h x).mp hx
  only x hx := .inl ((h x).mpr hx)
  nonempty hne := by
    obtain ⟨x, hx⟩ := List.exists_mem_of_ne_nil _ hne
    exact List.ne_nil_of_mem ((h x).mpr hx)

/-- Where nulls have no parts of the kind, the parts of the one are the parts of the other. -/
theorem Pairs.mem_parts {n : Node} {xs : List Json} (h : m.Pairs samples n xs)
    {parts : Json → List Json} (hnull : parts .null = []) (x : Json) :
    (∃ y ∈ m.valuesAt samples n, x ∈ parts y) ↔ x ∈ xs.flatMap parts := by
  rw [List.mem_flatMap]
  constructor
  · rintro ⟨y, hy, hx⟩
    exact ⟨y, h.paired y hy, hx⟩
  · rintro ⟨y, hy, hx⟩
    rcases h.only y hy with hy | rfl
    · exact ⟨y, hy, hx⟩
    · rw [hnull] at hx
      cases hx

end TypeModel

/-! ### The walk by the table -/

namespace ClassTable
variable (t : ClassTable) (root : Evidence ClassId)

/-- The type of the table that becomes the type at a node. -/
def type? : Node → Option (Evidence ClassId)
  | .root => some root
  | .field id key => (emissionOrder t root)[id.index]?.bind fun c =>
    (Field.find? (t.fieldsOf c) key).map Field.type
  | .element n => (type? n).bind (Evidence.step? t.fieldsOf .element)

variable {t root}

theorem mem_emissionOrder_of_type? (ht : t.InRange) (hroot : root.RefersBelow t.entries.length)
    {n : Node} {τ : Evidence ClassId} (hτ : t.type? root n = some τ) {c : ClassId}
    (hc : τ.innermost? = some c) : c ∈ emissionOrder t root := by
  induction n generalizing τ with
  | root =>
    cases hτ
    exact (mem_emissionOrder ht hroot).mpr (.here hc)
  | field id key =>
    obtain ⟨b, hb, hτ⟩ := Option.bind_eq_some_iff.mp hτ
    obtain ⟨f, hf, rfl⟩ := Option.map_eq_some_iff.mp hτ
    have hreach := (mem_emissionOrder ht hroot).mp (List.mem_of_getElem? hb)
    exact (mem_emissionOrder ht hroot).mpr (hreach.snoc (Field.mem_of_find? hf) hc)
  | element n ih =>
    obtain ⟨σ, hσ, hτ⟩ := Option.bind_eq_some_iff.mp hτ
    cases σ <;> cases hτ
    · exact ih hσ hc
    · exact ih hσ hc

section Freeze
variable (names : Naming) (examples : ExamplePolicy) (ht : t.InRange)
  (hroot : root.RefersBelow t.entries.length)
include ht hroot

/-- At each node the model has the frozen type of the table, and only the first node is marked as the root. -/
theorem node?_freeze (n : Node) : (freeze t root names examples).node? n =
    (t.type? root n).map fun τ => (freezeType (emissionOrder t root) τ).withRoot n.isRoot := by
  induction n with
  | root => rfl
  | field id key =>
    simp only [Node.isRoot, withRoot_freezeType]
    simp only [TypeModel.node?, type?, class?_freeze_eq names examples ht hroot]
    cases hid : (emissionOrder t root)[id.index]? with
    | none => rfl
    | some c =>
      obtain ⟨entry, hentry⟩ :=
        exists_entry_of_mem_emissionOrder ht hroot (List.mem_of_getElem? hid)
      simp only [Option.bind_some, hentry, Option.map_some, field?_freezeClass,
        fieldsOf_of_entry hentry, Option.map_map]
      rfl
  | element n ih =>
    simp only [TypeModel.node?, type?, ih, Node.isRoot, withRoot_freezeType]
    cases t.type? root n with
    | none => rfl
    | some τ =>
      cases τ with
      | anything k => cases k <;> rfl
      | scalar j k => cases k <;> rfl
      | _ => rfl

theorem exists_type_of_node?_freeze {n : Node} {τ : TypeNode}
    (hτ : (freeze t root names examples).node? n = some τ) : ∃ σ, t.type? root n = some σ ∧
      τ = (freezeType (emissionOrder t root) σ).withRoot n.isRoot := by
  rw [node?_freeze names examples ht hroot] at hτ
  obtain ⟨σ, hσ, rfl⟩ := Option.map_eq_some_iff.mp hτ
  exact ⟨σ, hσ, rfl⟩

/-- The number of a class is its place in the emission order. -/
theorem renumber_eq_iff {id c b : ClassId} (hid : (emissionOrder t root)[id.index]? = some c)
    (hb : b ∈ emissionOrder t root) : renumber (emissionOrder t root) b = id ↔ b = c := by
  have hplace := getElem?_renumber hb
  constructor
  · rintro rfl
    rw [hplace] at hid
    exact Option.some.inj hid
  · rintro rfl
    obtain ⟨hlt, hget⟩ := List.getElem?_eq_some_iff.mp hplace
    obtain ⟨hlt', hget'⟩ := List.getElem?_eq_some_iff.mp hid
    have hindex := (nodup_emissionOrder ht hroot).getElem_inj_iff.mp (hget.trans hget'.symm)
    cases id
    generalize renumber (emissionOrder t root) b = c at hindex
    cases c
    exact congrArg ClassId.mk hindex

/-- The model meets an object at a class where the table does. -/
theorem objectsOf_freeze {id c : ClassId} (hid : (emissionOrder t root)[id.index]? = some c)
    (samples : List Json) : (freeze t root names examples).objectsOf samples id =
      t.lockstep.objects c root samples := by
  refine List.flatMap_congr fun x _ => ?_
  refine Lockstep.objectsIn_eq_of_related (R := fun n τ _ => t.type? root n = some τ) ?_ ?_ ?_ rfl
  · intro n τ _ hτ
    simp only [TypeModel.lockstep, node?_freeze names examples ht hroot, hτ, Option.map_some,
      Option.bind_some, TypeNode.class?_withRoot]
    cases τ with
    | object b k =>
      have hb := mem_emissionOrder_of_type? ht hroot hτ (c := b) rfl
      simp only [freezeType, TypeNode.class?, lockstep, Option.some.injEq]
      exact renumber_eq_iff ht hroot hid hb
    | anything k => cases k <;> simp [freezeType, TypeNode.class?, lockstep]
    | scalar j k => cases k <;> simp [freezeType, TypeNode.class?, lockstep]
    | _ => simp [freezeType, TypeNode.class?, lockstep]
  · intro n τ items hτ x _
    simp only [TypeModel.lockstep, node?_freeze names examples ht hroot, hτ, Option.map_some]
    cases τ with
    | array y k => exact .some (by simp only [type?, hτ]; rfl)
    | anything k => cases k <;> exact .none
    | scalar j k => cases k <;> exact .none
    | _ => exact .none
  · intro n τ members hτ m _
    simp only [TypeModel.lockstep, node?_freeze names examples ht hroot, hτ, Option.map_some]
    cases τ with
    | dictionary y k => exact .some (by simp only [type?, hτ]; rfl)
    | object b k =>
      have hb := mem_emissionOrder_of_type? ht hroot hτ (c := b) rfl
      have hfield : t.type? root (.field (renumber (emissionOrder t root) b) m.1) =
          (Field.find? (t.fieldsOf b) m.1).map Field.type := by
        simp only [type?, getElem?_renumber hb, Option.bind_some]
      simp only [freezeType, TypeNode.withRoot, Option.isSome_map, hfield, lockstep]
      cases hf : Field.find? (t.fieldsOf b) m.1 with
      | none => exact .none
      | some f => exact .some (hfield.trans (congrArg _ hf))
    | anything k => cases k <;> exact .none
    | scalar j k => cases k <;> exact .none
    | _ => exact .none

/-- The type of a class is a tally of the values under the key in the objects of the class. -/
theorem pairs_field {samples : List Json} (hsamples : ∀ x ∈ samples, x.DistinctKeys) {o : Observer}
    {id c : ClassId} (hid : (emissionOrder t root)[id.index]? = some c) {key : String}
    {f : Field ClassId} (hf : Field.find? (t.fieldsOf c) key = some f)
    {os : List (List (String × Json))} (hos : os.Perm (t.lockstep.objects c root samples))
    {seen : Nat} (hrecords : Records o Uncounted (t.fieldsOf c) seen os) :
    (freeze t root names examples).Pairs samples (.field id key) (valuesUnder key os) := by
  have hobjects := objectsOf_freeze names examples ht hroot hid samples
  have hmem : ∀ members, members ∈ os ↔
      members ∈ (freeze t root names examples).objectsOf samples id :=
    fun members => by rw [hobjects, hos.mem_iff]
  have hsome : ((freeze t root names examples).node? (.field id key)).isSome = true := by
    simp only [node?_freeze names examples ht hroot, type?, hid, Option.bind_some, hf,
      Option.map_some, Option.isSome_some]
  have hlookup : ∀ members ∈ os, ∀ x, members.lookup key = some x ↔ (key, x) ∈ members :=
    fun members hm x =>
      lookup_eq_some_iff_mem (TypeModel.nodup_keys_of_mem_objectsOf hsamples ((hmem members).mp hm))
  have hvalue : ∀ members ∈ os, ∀ x, members.lookup key = some x →
      x ∈ (freeze t root names examples).valuesAt samples (.field id key) :=
    fun members hm x hx => (TypeModel.mem_valuesAt_field hsome).mpr
      ⟨members, (hmem members).mp hm, (hlookup members hm x).mp hx⟩
  refine ⟨fun x hx => ?_, fun x hx => ?_, fun _ => ?_⟩
  · obtain ⟨members, hm, hx⟩ := (TypeModel.mem_valuesAt_field hsome).mp hx
    have hm := (hmem members).mpr hm
    refine List.mem_map.mpr ⟨members, hm, ?_⟩
    rw [(hlookup members hm x).mpr hx]
    rfl
  · obtain ⟨members, hm, rfl⟩ := List.mem_map.mp hx
    cases h : members.lookup key with
    | none => exact .inr rfl
    | some x => exact .inl (hvalue members hm x h)
  · obtain ⟨members, hm, hpresent⟩ := (hrecords.keys key).mp (by rw [hf]; rfl)
    obtain ⟨x, hx⟩ := Option.isSome_iff_exists.mp hpresent
    exact List.ne_nil_of_mem (hvalue members hm x hx)

/-- The type at a node is a tally of what is paired with the node. -/
theorem exists_pairing {samples : List Json} (hsamples : ∀ x ∈ samples, x.DistinctKeys) {o : Observer}
    (htally : Tallies o Uncounted true samples root)
    (hledger : Ledger o t fun id => t.lockstep.objects id root samples) {n : Node}
    {τ : Evidence ClassId} (hτ : t.type? root n = some τ) :
    ∃ xs, Tallies o Uncounted n.isRoot xs τ ∧ (freeze t root names examples).Pairs samples n xs := by
  induction n generalizing τ with
  | root =>
    cases hτ
    exact ⟨samples, htally, .of_mem_iff fun _ => TypeModel.mem_valuesAt_root⟩
  | field id key =>
    obtain ⟨c, hid, hτ⟩ := Option.bind_eq_some_iff.mp hτ
    obtain ⟨f, hf, rfl⟩ := Option.map_eq_some_iff.mp hτ
    obtain ⟨entry, hentry, hf'⟩ := exists_entry_of_find? hf
    obtain ⟨os, hos, hrecords⟩ := hledger.records hentry
    refine ⟨valuesUnder key os, hrecords.types hf', ?_⟩
    rw [← fieldsOf_of_entry hentry] at hrecords
    exact pairs_field names examples ht hroot hsamples hid hf hos hrecords
  | element n ih =>
    obtain ⟨σ, hσ, hτ⟩ := Option.bind_eq_some_iff.mp hτ
    obtain ⟨ys, hys, hpairs⟩ := ih hσ
    have hnode := node?_freeze names examples ht hroot n
    rw [hσ, Option.map_some] at hnode
    cases hys with
    | array _ hitems =>
      cases hτ
      exact ⟨_, hitems, .of_mem_iff fun x =>
        (TypeModel.mem_valuesAt_items hnode).trans (hpairs.mem_parts rfl x)⟩
    | dictionary _ hvalues =>
      cases hτ
      exact ⟨_, hvalues, .of_mem_iff fun x =>
        (TypeModel.mem_valuesAt_memberValues hnode).trans (hpairs.mem_parts rfl x)⟩
    | _ => cases hτ

end Freeze

end ClassTable

end Specimen
