import Specimen.Proofs.Inference.Exactness
import Specimen.Proofs.Model.Coherence

/-! Every model that inference gives is well formed.

Most of it is how a table is frozen. That a type of which nothing was seen is the type of the documents or of
the items of an array is known from the values that are paired with it (`ClassTable.place_of_unknown`): a class
has objects, each of its keys is in one of them, and no object without keys is taken for a dictionary. -/
namespace Specimen

/-- An object that is taken for a dictionary has values. -/
theorem Shows.memberValues_ne_nil {O : Type} {o : Observer} {atRoot : Bool} {xs : List Json}
    {y : Evidence O} {n : Bool} (h : Shows o atRoot xs (.dictionary y n)) :
    xs.flatMap Json.memberValues ≠ [] := by
  have hamounts := h.head
  cases hamounts with
  | kind _ hmem _ =>
    obtain ⟨x, hx, hhead⟩ := hmem
    cases x with
    | object members =>
      simp only [Observer.headOf] at hhead
      split at hhead
      case isTrue htakes =>
        rw [Bool.and_eq_true, Observer.takesForDictionary_iff] at htakes
        obtain ⟨-, hkeys, -⟩ := htakes
        intro hnil
        have hmembers : members.map Prod.snd = [] := List.flatMap_eq_nil_iff.mp hnil _ hx
        rw [List.map_eq_nil_iff] at hmembers
        simp [DictionaryPolicy.admitsKeys, hmembers] at hkeys
      case isFalse => cases hhead
    | _ => cases hhead

/-- Nothing was seen of the documents if there were none, and of the items of an array if it was always
empty. Of everything else something was seen. -/
theorem ClassTable.place_of_unknown {t : ClassTable} {root : Evidence ClassId} (ht : t.InRange)
    (hroot : root.RefersBelow t.entries.length) {samples : List Json}
    (hsamples : ∀ x ∈ samples, x.DistinctKeys) {o : Observer}
    (htally : Tallies o Uncounted true samples root)
    (hledger : Ledger o t fun id => t.lockstep.objects id root samples) {n : Node}
    (hn : t.type? root n = some .unknown) :
    n = .root ∨ ∃ n' item k, n = .element n' ∧ t.type? root n' = some (.array item k) := by
  cases n with
  | root => exact .inl rfl
  | field id key =>
    obtain ⟨c, hid, hn⟩ := Option.bind_eq_some_iff.mp hn
    obtain ⟨f, hf, hunknown⟩ := Option.map_eq_some_iff.mp hn
    obtain ⟨entry, hentry, hf⟩ := exists_entry_of_find? hf
    obtain ⟨os, _, hrecords⟩ := hledger.records hentry
    have hshows := (hrecords.types hf).shows
    rw [hunknown] at hshows
    exact absurd (List.map_eq_nil_iff.mp hshows.eq_nil_of_unknown) hrecords.nonempty
  | element n' =>
    obtain ⟨σ, hσ, hn⟩ := Option.bind_eq_some_iff.mp hn
    obtain ⟨xs, hxs, _⟩ := exists_pairing [] ⟨false, 0⟩ ht hroot hsamples htally hledger hσ
    cases hxs with
    | array => exact .inr ⟨n', _, _, rfl, hσ⟩
    | dictionary hshows hvalues =>
      cases hn
      exact absurd hvalues.shows.eq_nil_of_unknown hshows.memberValues_ne_nil
    | _ => cases hn

/-- What can be relied on of a model. -/
structure TypeModel.WellFormed (m : TypeModel) : Prop where
  coherent : ∀ {n τ}, m.node? n = some τ → τ.Coherent
  linked : ∀ {n τ id}, m.node? n = some τ → τ.class? = some id → id.index < m.classes.length
  nonConstrained : ∀ {n τ}, m.node? n = some τ → τ.kind = .nonConstrained →
    n = .root ∨ ∃ n' σ, n = .element n' ∧ m.node? n' = some σ ∧ σ.kind = .array
  flags : ∀ {c f}, c ∈ m.classes → f ∈ c.fields → f.nullable = f.type.nullable ∧
    f.json.member? "nullable" = some (.bool (f.type.json.member? "nullable").isSome)
  keys : ∀ {c}, c ∈ m.classes → (c.fields.map FieldInfo.sourceName).Nodup
  rootNode : ∀ {n τ}, m.node? n = some τ → (τ.isRoot = true ↔ n = .root)
  rootDocument : ∀ {n x}, nodeIn? m.json n = some x → ((x.member? "is_root").isSome = true ↔ n = .root)
  rootClass : ∀ {id c}, m.class? id = some c →
    (c.isRoot = true ↔ m.root.kind = .object ∧ m.root.class? = some id)

theorem eq_unknown_of_nonConstrained {order : List ClassId} {e : Evidence ClassId}
    (h : (freezeType order e).kind = .nonConstrained) : e = .unknown := by
  cases e with
  | unknown => rfl
  | anything n => cases n <;> cases h
  | scalar k n => cases n <;> cases k <;> cases h
  | _ => cases h

section Freeze
variable {t : ClassTable} {root : Evidence ClassId} (names : Naming) (examples : ExamplePolicy)
  (ht : t.WellFormed) (hroot : root.RefersBelow t.entries.length)
include ht hroot

theorem coherent_node_freeze {n : Node} {τ : TypeNode}
    (hτ : (freeze t root names examples).node? n = some τ) : τ.Coherent := by
  obtain ⟨σ, _, rfl⟩ := ClassTable.exists_type_of_node?_freeze names examples ht hroot hτ
  exact (coherent_freezeType _ σ).withRoot _

theorem linked_node_freeze {n : Node} {τ : TypeNode}
    (hτ : (freeze t root names examples).node? n = some τ) {id : ClassId} (hid : τ.class? = some id) :
    id.index < (freeze t root names examples).classes.length := by
  obtain ⟨σ, hσ, rfl⟩ := ClassTable.exists_type_of_node?_freeze names examples ht hroot hτ
  cases σ with
  | object c k =>
    cases hid
    have hc := ClassTable.mem_emissionOrder_of_type? ht.inRange hroot hσ (c := c) rfl
    obtain ⟨entry, hentry⟩ := exists_entry_of_mem_emissionOrder ht.inRange hroot hc
    exact (List.getElem?_eq_some_iff.mp (class?_freeze names examples ht hroot hc hentry)).1
  | anything k => cases k <;> cases hid
  | scalar j k => cases k <;> cases hid
  | _ => cases hid

/-- Of all nodes the first one is marked as the root. -/
theorem isRoot_node_freeze {n : Node} {τ : TypeNode}
    (hτ : (freeze t root names examples).node? n = some τ) : τ.isRoot = true ↔ n = .root := by
  obtain ⟨σ, _, rfl⟩ := ClassTable.exists_type_of_node?_freeze names examples ht hroot hτ
  rw [TypeNode.isRoot_withRoot, Node.isRoot_iff]

/-- A class is marked as the root in the model just if it is in the table. -/
theorem rootClass_freeze (hmark : ∀ {c entry}, t.entry? c = some entry →
      (entry.isRoot = true ↔ ∃ k, root = .object c k)) {id : ClassId} {d : ClassDef}
    (hd : (freeze t root names examples).class? id = some d) :
    d.isRoot = true ↔ (freeze t root names examples).root.kind = .object ∧
      (freeze t root names examples).root.class? = some id := by
  obtain ⟨c, entry, hc, hentry, rfl⟩ := exists_of_class?_freeze names examples ht hroot hd
  change entry.isRoot = true ↔ ((freezeType (emissionOrder t root) root).withRoot true).kind = .object ∧
    ((freezeType (emissionOrder t root) root).withRoot true).class? = some id
  rw [hmark hentry, TypeNode.kind_withRoot, TypeNode.class?_withRoot]
  cases hobject : root with
  | object b k =>
    have hb : b ∈ emissionOrder t root := (mem_emissionOrder ht hroot).mpr (.here (by rw [hobject]; rfl))
    have hplace := ClassTable.renumber_eq_iff ht hroot hc hb
    rw [hobject] at hplace
    simp [freezeType, TypeNode.kind, TypeNode.class?, hplace]
  | anything k => cases k <;> simp [freezeType, TypeNode.class?]
  | scalar j k => cases k <;> simp [freezeType, TypeNode.class?]
  | _ => simp [freezeType, TypeNode.class?]

end Freeze

/-- Whatever the settings, the model of any documents is well formed. -/
theorem inferValues_wellFormed (s : Settings) {documents : List Json}
    (h : ∀ d ∈ documents, d.DistinctKeys) : (inferValues s documents).WellFormed := by
  have hsamples := fun x hx => Inference.distinctKeys_of_mem_samplesOf h (x := x) hx
  have hkeys : (s.evidenceOf documents).DistinctKeys := s.observer.distinctKeys_evidenceOf hsamples
  obtain ⟨hwf, hroot⟩ := ClassTable.wellFormed_internRoot hkeys
  obtain ⟨htally, hledger⟩ :=
    ClassTable.ledger_internRoot (e := s.evidenceOf documents) hsamples rfl hkeys
  have hmark : ∀ {c entry}, ClassTable.entry? _ c = some entry → (entry.isRoot = true ↔ _) :=
    ClassTable.isRoot_internRoot hkeys
  obtain ⟨names, hmodel⟩ := inferValues_eq s documents
  rw [hmodel]
  generalize ClassTable.internRoot (s.evidenceOf documents) {} = interned at *
  obtain ⟨root, t⟩ := interned
  constructor
  case coherent => exact fun hτ => coherent_node_freeze names s.examplePolicy hwf hroot hτ
  case linked => exact fun hτ hid => linked_node_freeze names s.examplePolicy hwf hroot hτ hid
  case nonConstrained =>
    intro n τ hτ hkind
    obtain ⟨σ, hσ, rfl⟩ := ClassTable.exists_type_of_node?_freeze names s.examplePolicy hwf hroot hτ
    cases eq_unknown_of_nonConstrained (by simpa using hkind)
    refine (ClassTable.place_of_unknown hwf hroot hsamples htally hledger hσ).imp_right ?_
    rintro ⟨n', item, k, rfl, hn'⟩
    have harray := ClassTable.node?_freeze names s.examplePolicy hwf hroot n'
    rw [hn', Option.map_some] at harray
    exact ⟨n', _, rfl, harray, rfl⟩
  case flags =>
    intro c f hc hf
    have hflag := nullable_field_freeze names s.examplePolicy hc hf
    exact ⟨hflag, by rw [(member?_flags_json f.type).1, ← hflag]; rfl⟩
  case keys => exact fun hc => nodup_sourceNames_freeze s.examplePolicy hwf hroot names hc
  case rootNode => exact fun hτ => isRoot_node_freeze names s.examplePolicy hwf hroot hτ
  case rootDocument =>
    intro n x hx
    rw [nodeIn?_json] at hx
    obtain ⟨τ, hτ, rfl⟩ := Option.map_eq_some_iff.mp hx
    rw [(member?_flags_json τ).2]
    exact isRoot_node_freeze names s.examplePolicy hwf hroot hτ
  case rootClass => exact fun hd => rootClass_freeze names s.examplePolicy hwf hroot hmark hd

/-- A list that is always empty, directly and as a value of a dictionary. -/
def emptyLists : List Json :=
  [.object [("tags", .array []), ("scores", .object [("17", .array [])]), ("next", .null)]]

theorem distinctKeys_emptyLists : ∀ d ∈ emptyLists, d.DistinctKeys := by
  simp [emptyLists, Json.distinctKeys_object, Json.distinctKeys_array, Json.DistinctKeys.null]

/-- The field that holds the null. -/
def nextField : FieldInfo := ⟨"next", .leaf .nullableSomething { nullable := true }, true, 1, []⟩

theorem inferValues_wellFormed_emptyLists :
    (∃ σ, (inferValues {} emptyLists).node? (.element (.field ⟨0⟩ "scores")) = some σ ∧
      σ.kind = .array) ∧
      ∃ c, (inferValues {} emptyLists).class? ⟨0⟩ = some c ∧ c.isRoot = true ∧
        ∃ f ∈ c.fields, (inferValues {} emptyLists).node? (.field ⟨0⟩ "next") = some f.type ∧
          f.nullable = true ∧ f.type.nullable = true ∧ f.type.isRoot = false := by
  have hwf := inferValues_wellFormed {} distinctKeys_emptyLists
  constructor
  · have hitems : (inferValues {} emptyLists).node? (.element (.element (.field ⟨0⟩ "scores"))) =
        some (.leaf .nonConstrained {}) := rfl
    obtain hroot | ⟨n', σ, hn', hσ, hkind⟩ := hwf.nonConstrained hitems rfl
    · cases hroot
    · cases hn'
      exact ⟨σ, hσ, hkind⟩
  · obtain ⟨c, hc, hf⟩ : ∃ c, (inferValues {} emptyLists).class? ⟨0⟩ = some c ∧ nextField ∈ c.fields :=
      ⟨_, rfl, List.mem_of_getElem? (i := 2) rfl⟩
    have hnode : (inferValues {} emptyLists).node? (.field ⟨0⟩ "next") = some nextField.type := rfl
    refine ⟨c, hc, (hwf.rootClass hc).mpr ⟨rfl, rfl⟩, nextField, hf, hnode, rfl, ?_, ?_⟩
    · exact (hwf.flags (TypeModel.mem_classes.mpr ⟨_, hc⟩) hf).1.symm
    · exact Bool.eq_false_iff.mpr fun h => nomatch (hwf.rootNode hnode).mp h

end Specimen
