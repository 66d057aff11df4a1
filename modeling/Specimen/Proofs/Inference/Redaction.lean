import Specimen.Proofs.Classes.Redaction
import Specimen.Proofs.Evidence.Tally
import Specimen.Proofs.Inference.Exactness

/-! What inference does not look at.

A run on redacted evidence goes like the run on the evidence, to the redacted model (`Redaction.model_solve`).
With the examples redacted this says that how code is to be written never gets into a model: whether literals
are kept, and how many of them are shown, is seen in the lists of examples alone, and the name of the root
class in the names of the classes alone (`inferValues_independent`). -/
namespace Specimen
open Redaction (ofExamples)

/-- The redacted model of a run is the model of the redacted evidence. -/
theorem Redaction.model_solve (r : Redaction) (s : Settings) (run : Inference) :
    r.model (run.solve s) = Inference.solve s { seen := r.evidence run.seen } := by
  have htable : r.table {} = {} := rfl
  have hroot := r.internRoot_table run.seen {}
  rw [htable] at hroot
  unfold Inference.solve
  simp only [hroot, assignNames_table, model_freeze]

/-! ### Literals that are not kept -/

namespace Observer
variable (o : Observer)

/-- The same reading, without the literals. -/
def forgetful : Observer := { o with keepsExamples := false }

theorem evidence_observeMembers {members : List (String × Json)}
    (h : ∀ m ∈ members, ofExamples.evidence (o.observe m.2) = o.forgetful.observe m.2) :
    ofExamples.evidence (.object ⟨o.observeMembers members, 1⟩ false) =
      .object ⟨o.forgetful.observeMembers members, 1⟩ false := by
  refine congrArg (Evidence.object · false) (Shape.ext ?_ rfl)
  rw [Redaction.fields_shape, observeMembers_eq, observeMembers_eq, List.map_map]
  exact List.map_congr_left fun m hm => Field.ext rfl (h m hm) rfl rfl

/-- Keeping literals changes nothing of what is read but the literals. In particular whether an object is
taken for a dictionary depends on the kinds of its values, not on what is kept of them. -/
theorem evidence_observe (x : Json) :
    ofExamples.evidence (o.observe x) = o.forgetful.observe x := by
  induction x using Json.parts_induction with
  | h x hitems hvalues =>
    cases x with
    | array items =>
      rw [observe_array, observe_array, Redaction.evidence, Redaction.evidence_joinAll, List.map_map]
      exact congrArg (Evidence.array · false) (congrArg Evidence.joinAll (List.map_congr_left hitems))
    | object members =>
      have hmembers : ∀ m ∈ members, ofExamples.evidence (o.observe m.2) = o.forgetful.observe m.2 :=
        fun m hm => hvalues m.2 (List.mem_map_of_mem hm)
      have hjoin : ofExamples.evidence (.joinAll (members.map fun m => o.observe m.2)) =
          .joinAll (members.map fun m => o.forgetful.observe m.2) := by
        rw [Redaction.evidence_joinAll, List.map_map]
        exact congrArg Evidence.joinAll (List.map_congr_left hmembers)
      have htakes : o.forgetful.takesForDictionary members = o.takesForDictionary members := by
        rw [Bool.eq_iff_iff, takesForDictionary_iff, takesForDictionary_iff, ← hjoin,
          Redaction.isAnything_evidence]
        rfl
      rw [observe_object, observe_object, htakes]
      split
      · rw [Redaction.evidence, hjoin]
      · exact o.evidence_observeMembers hmembers
    | _ => rfl

theorem evidence_observeRoot (x : Json) :
    ofExamples.evidence (o.observeRoot x) = o.forgetful.observeRoot x := by
  cases x with
  | object members => exact o.evidence_observeMembers fun m _ => o.evidence_observe m.2
  | _ => exact o.evidence_observe _

theorem evidence_evidenceOf (samples : List Json) :
    ofExamples.evidence (o.evidenceOf samples) = o.forgetful.evidenceOf samples := by
  rw [evidenceOf, evidenceOf, Redaction.evidence_joinAll, List.map_map]
  exact congrArg Evidence.joinAll (List.map_congr_left fun x _ => o.evidence_observeRoot x)

end Observer

/-! ### Examples that are not shown -/

theorem ExamplePolicy.select_nil (policy : ExamplePolicy) : policy.select [] = [] := by
  rw [select, List.take_nil, ite_self]

/-- A table without examples is frozen in one way, however many examples are to be shown. -/
theorem freeze_ofExamples (t : ClassTable) (root : Evidence ClassId) (names : Naming)
    (policy policy' : ExamplePolicy) :
    freeze (ofExamples.table t) root names policy = freeze (ofExamples.table t) root names policy' := by
  have hclass : ∀ order id (e : ClassEntry), freezeClass order names policy id (ofExamples.entry e) =
      freezeClass order names policy' id (ofExamples.entry e) := by
    intro order id e
    have hfields : (ofExamples.classFields e.fields).map (freezeField order policy) =
        (ofExamples.classFields e.fields).map (freezeField order policy') := by
      rw [Redaction.classFields, List.map_map, List.map_map]
      refine List.map_congr_left fun f _ => ?_
      simp only [Function.comp_apply, freezeField, Redaction.field, Redaction.list, ofExamples, if_true,
        ExamplePolicy.select_nil]
    unfold freezeClass
    rw [Redaction.entry, hfields]
  simp only [freeze, Redaction.entry?_table, Option.map_map, Function.comp_def, hclass]

theorem Inference.solve_ofExamples {s s' : Settings} (h : s.rootName = s'.rootName)
    (seen : Evidence Shape) : Inference.solve s { seen := ofExamples.evidence seen } =
      Inference.solve s' { seen := ofExamples.evidence seen } := by
  have htable : ofExamples.table {} = {} := rfl
  have hroot := ofExamples.internRoot_table seen {}
  rw [htable] at hroot
  unfold solve
  simp only [hroot, h]
  exact freeze_ofExamples _ _ _ _ _

/-! ### Names that are left out -/

/-- The model with no class named. -/
def TypeModel.anonymous (m : TypeModel) : TypeModel :=
  { m with classes := m.classes.map fun c => { c with name := "" } }

theorem anonymous_freeze (t : ClassTable) (root : Evidence ClassId) (names : Naming)
    (policy : ExamplePolicy) :
    (freeze t root names policy).anonymous = (freeze t root [] policy).anonymous := by
  simp only [TypeModel.anonymous, freeze, List.map_filterMap, Option.map_map]
  rfl

theorem anonymous_solve {s s' : Settings} (h : s.examplePolicy = s'.examplePolicy) (run : Inference) :
    (run.solve s).anonymous = (run.solve s').anonymous := by
  unfold Inference.solve
  rw [anonymous_freeze, h]
  exact (anonymous_freeze _ _ _ _).symm

/-! ### Settings for the writers -/

/-- The settings that inference goes by, and all others as they are by default. -/
def Settings.forInference (s : Settings) : Settings where
  rootName := s.rootName
  dateFormats := s.dateFormats
  dictionaries := s.dictionaries

/-- But for its examples, a model is what the settings for inference make of the documents. -/
theorem ofExamples_inferValues (s : Settings) (documents : List Json) :
    ofExamples.model (inferValues s documents) = inferValues s.forInference documents := by
  have hobserver : s.observer.forgetful = s.forInference.observer := rfl
  have hroot : s.rootName = s.forInference.rootName := rfl
  rw [inferValues_eq_inferBy, inferValues_eq_inferBy, inferBy, inferBy, Redaction.model_solve,
    Inference.solve_ofExamples hroot, Observer.evidence_evidenceOf, hobserver]

/-- Runs that differ in how code is to be written infer one model, but for the examples in it; and if the
root class is to be called otherwise, but for the names of the classes as well. -/
theorem inferValues_independent (s s' : Settings) (hdates : s.dateFormats = s'.dateFormats)
    (hdictionaries : s.dictionaries = s'.dictionaries) (documents : List Json) :
    (s.rootName = s'.rootName →
      ofExamples.model (inferValues s documents) = ofExamples.model (inferValues s' documents)) ∧
    (ofExamples.model (inferValues s documents)).anonymous =
      (ofExamples.model (inferValues s' documents)).anonymous := by
  simp only [ofExamples_inferValues]
  constructor
  · intro hroot
    rw [Settings.forInference, Settings.forInference, hroot, hdates, hdictionaries]
  · have hobserver : s.forInference.observer = s'.forInference.observer := by
      rw [Settings.forInference, Settings.forInference, hdates, hdictionaries]
      rfl
    have hpolicy : s.forInference.examplePolicy = s'.forInference.examplePolicy := rfl
    rw [inferValues_eq_inferBy, inferValues_eq_inferBy, inferBy, inferBy, hobserver]
    exact anonymous_solve hpolicy _

/-- Settings that ask for literals and namespaces, and call the root class otherwise. -/
def settingsForDisplay : Settings where
  rootName := "Sample"
  mainNamespace := some "Api"
  secondaryNamespace := some "Models"
  internalVisibility := true
  useProperties := true
  examplesInDocumentation := true
  exampleLimit := 1

theorem inferValues_independent_display :
    ofExamples.model (inferValues { settingsForDisplay with rootName := "Root" } sparseDocuments) =
        ofExamples.model (inferValues {} sparseDocuments) ∧
      (ofExamples.model (inferValues settingsForDisplay sparseDocuments)).anonymous =
        (ofExamples.model (inferValues {} sparseDocuments)).anonymous :=
  ⟨(inferValues_independent { settingsForDisplay with rootName := "Root" } {} rfl rfl
      sparseDocuments).1 rfl,
    (inferValues_independent settingsForDisplay {} rfl rfl sparseDocuments).2⟩

end Specimen
