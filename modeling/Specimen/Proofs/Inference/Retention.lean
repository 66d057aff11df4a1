import Specimen.Proofs.Inference.Exactness

/-! The examples that a model shows.

While evidence is joined and classes take in shapes, lists of examples are merged and cut to what is kept at
most. None of this loses an example that is missed at the end: the list of a field stays one of all literals
that its objects hold, each once, until it is full (`Exemplifies.keepAll`, `ClassTable.Ledger`). So a model
shows as many different literals as it may, or all there are (`inferValues_examples`). -/
namespace Specimen

theorem mem_heldUnder {key : String} {objects : List (List (String × Json))} {x : Json} :
    x ∈ heldUnder key objects ↔ ∃ members ∈ objects, members.lookup key = some x :=
  List.mem_filterMap

/-- The fields have different literals that the objects hold as examples, up to the limit and to 64 as many
as there are. -/
structure ClassDef.ExamplesOf (c : ClassDef) (limit : Nat) (objects : List (List (String × Json))) :
    Prop where
  different : ∀ f ∈ c.fields, f.examples.Pairwise fun x y => x.same y = false
  held : ∀ f ∈ c.fields, ∀ x ∈ f.examples, x.isLiteral = true ∧
    ∃ members ∈ objects, members.lookup f.sourceName = some x
  length : ∀ f ∈ c.fields, f.examples.length =
    min limit (min 64 (differentLiterals (heldUnder f.sourceName objects)).length)

theorem ExamplePolicy.select_of_shown {policy : ExamplePolicy} (h : policy.shown = true)
    (examples : List Json) : policy.select examples = examples.take policy.limit := if_pos h

theorem ExamplePolicy.select_of_hidden {policy : ExamplePolicy} (h : policy.shown = false)
    (examples : List Json) : policy.select examples = [] := by
  rw [select, h]
  rfl

/-- A class of the model has the examples of the objects that are paired with it. -/
theorem examplesOf_freeze {t : ClassTable} {root : Evidence ClassId} (names : Naming)
    (policy : ExamplePolicy) (hshown : policy.shown = true) (ht : t.WellFormed)
    (hroot : root.RefersBelow t.entries.length) {o : Observer} (hkeeps : o.keepsExamples = true)
    {samples : List Json}
    (hledger : ClassTable.Ledger o t fun id => t.lockstep.objects id root samples) {id : ClassId}
    {c : ClassDef} (hc : (freeze t root names policy).class? id = some c) :
    c.ExamplesOf policy.limit ((freeze t root names policy).objectsOf samples id) := by
  obtain ⟨b, entry, hb, hentry, rfl⟩ := exists_of_class?_freeze names policy ht hroot hc
  rw [ClassTable.objectsOf_freeze names policy ht hroot hb]
  obtain ⟨os, hos, hrecords⟩ := hledger.records hentry
  have hexamples : ∀ f ∈ entry.fields, Exemplifies f.examples
      (heldUnder f.name (t.lockstep.objects b root samples)) := fun f hf =>
    (hrecords.examples hkeeps (Field.find?_of_mem (ht.distinct hentry) hf)).congr
      fun x => (hos.filterMap _).mem_iff
  have hselect : ∀ f ∈ entry.fields, (freezeField (emissionOrder t root) policy f).examples =
      f.examples.take policy.limit := fun f _ => ExamplePolicy.select_of_shown hshown _
  refine ⟨List.forall_mem_map.mpr fun f hf => ?_, List.forall_mem_map.mpr fun f hf => ?_,
    List.forall_mem_map.mpr fun f hf => ?_⟩
  · rw [hselect f hf]
    exact (hexamples f hf).kept.different.sublist (List.take_sublist _ _)
  · rw [hselect f hf]
    intro x hx
    obtain ⟨hheld, hl⟩ := (hexamples f hf).literal x (List.mem_of_mem_take hx)
    exact ⟨hl, mem_heldUnder.mp hheld⟩
  · rw [hselect f hf, List.length_take, (hexamples f hf).length_eq]
    rfl

/-- Every field shows examples of the literals that it holds in the objects paired with its class: with a
limit of its own and one of 64, as many different ones as there are. With examples off there are none. -/
theorem inferValues_examples (s : Settings) {documents : List Json}
    (h : ∀ d ∈ documents, d.DistinctKeys) {id : ClassId} {c : ClassDef}
    (hc : (inferValues s documents).class? id = some c) :
    (s.examplesInDocumentation = true → c.ExamplesOf s.exampleLimit
      ((inferValues s documents).objectsOf (Inference.samplesOf documents) id)) ∧
      (s.examplesInDocumentation = false → ∀ f ∈ c.fields, f.examples = []) := by
  obtain ⟨t, root, names, hwf, hroot, _, hledger, hmodel⟩ := inferValues_eq_freeze s h
  rw [hmodel] at hc ⊢
  constructor
  · exact fun hon => examplesOf_freeze names s.examplePolicy hon hwf hroot hon hledger hc
  · intro hoff
    obtain ⟨b, entry, _, _, rfl⟩ := exists_of_class?_freeze names s.examplePolicy hwf hroot hc
    exact List.forall_mem_map.mpr fun f _ => ExamplePolicy.select_of_hidden hoff _

/-- Objects with the same keys at two places, four numbers under their key, of which two are equal. -/
def twinDocuments : List Json :=
  [.object [("p", .object [("a", .number (.int 1))]), ("q", .object [("a", .number (.int 2))])],
    .object [("p", .object [("a", .number (.int 1))]), ("q", .object [("a", .number (.int 3))])]]

theorem distinctKeys_twinDocuments : ∀ d ∈ twinDocuments, d.DistinctKeys := by
  simp [twinDocuments, Json.distinctKeys_object, Json.DistinctKeys.number]

/-- Two examples of each field are shown. -/
def showingTwo : Settings := { examplesInDocumentation := true, exampleLimit := 2 }

/-- The class of both places shows two of its three different numbers. -/
theorem inferValues_examples_twin :
    ∃ c, (inferValues showingTwo twinDocuments).class? ⟨0⟩ = some c ∧
      c.fields.map FieldInfo.examples = [[.number (.int 1), .number (.int 2)]] ∧
      c.ExamplesOf 2
        ((inferValues showingTwo twinDocuments).objectsOf (Inference.samplesOf twinDocuments) ⟨0⟩) := by
  obtain ⟨c, hc, hshown⟩ : ∃ c, (inferValues showingTwo twinDocuments).class? ⟨0⟩ = some c ∧
      c.fields.map FieldInfo.examples = [[.number (.int 1), .number (.int 2)]] := ⟨_, rfl, rfl⟩
  exact ⟨c, hc, hshown, (inferValues_examples showingTwo distinctKeys_twinDocuments hc).1 rfl⟩

end Specimen
