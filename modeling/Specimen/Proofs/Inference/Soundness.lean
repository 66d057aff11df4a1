import Specimen.Inference
import Specimen.Proofs.Classes.Folding
import Specimen.Proofs.Evidence.Observation
import Specimen.Proofs.Model.Conformance

/-! Soundness of inference: the samples are values of the model inferred from them.

A sample is among the values of the evidence read off it; what joins other samples to it, folds shapes
into classes, lets a class take in further shapes or renumbers classes only ever adds values
(`inferValues_sound`). -/
namespace Specimen

namespace Inference

/-- The samples of the root that some documents hold. -/
def samplesOf (documents : List Json) : List Json := documents.flatMap Observer.rootSamples

theorem distinctKeys_of_mem_samplesOf {documents : List Json}
    (h : ∀ d ∈ documents, d.DistinctKeys) {x : Json} (hx : x ∈ samplesOf documents) :
    x.DistinctKeys := by
  obtain ⟨d, hmem, hx⟩ := List.mem_flatMap.mp hx
  cases h d hmem with
  | array hitems => exact hitems x hx
  | object hd h =>
    cases List.mem_singleton.mp hx
    exact .object hd h
  | _ =>
    cases List.mem_singleton.mp hx
    constructor

theorem seen_observeSamples (s : Settings) (run : Inference) (samples : List Json) :
    (samples.foldl (observeSample s) run).seen =
      (samples.map s.observer.observeRoot).foldl Evidence.join run.seen := by
  induction samples generalizing run with
  | nil => rfl
  | cons x rest ih => exact ih _

/-- Documents are observed sample by sample. -/
theorem observeValues_eq_foldl (s : Settings) (run : Inference) (documents : List Json) :
    observeValues s run documents = (samplesOf documents).foldl (observeSample s) run := by
  rw [samplesOf, List.foldl_flatMap]
  rfl

/-- What a run has seen is what the samples show, joined in their order. -/
theorem seen_observeValues (s : Settings) (documents : List Json) :
    (observeValues s {} documents).seen =
      .joinAll ((samplesOf documents).map s.observer.observeRoot) := by
  rw [observeValues_eq_foldl, seen_observeSamples]
  rfl

end Inference

/-- The evidence of a whole list of samples. -/
def Observer.evidenceOf (o : Observer) (samples : List Json) : Evidence Shape :=
  .joinAll (samples.map o.observeRoot)

/-- The evidence of a run. -/
def Settings.evidenceOf (s : Settings) (documents : List Json) : Evidence Shape :=
  s.observer.evidenceOf (Inference.samplesOf documents)

/-- What inference makes of the documents by an observer of one's own, to which any texts may be
dates. -/
def inferBy (s : Settings) (o : Observer) (documents : List Json) : TypeModel :=
  Inference.solve s { seen := o.evidenceOf (Inference.samplesOf documents) }

theorem inferValues_eq_inferBy (s : Settings) (documents : List Json) :
    inferValues s documents = inferBy s s.observer documents := by
  unfold inferValues inferBy Inference.solve
  rw [Inference.seen_observeValues]
  rfl

/-- Inference is interning the evidence and freezing the table, under whatever names. -/
theorem inferBy_eq (s : Settings) (o : Observer) (documents : List Json) :
    ∃ names, inferBy s o documents =
      freeze (ClassTable.internRoot (o.evidenceOf (Inference.samplesOf documents)) {}).2
        (ClassTable.internRoot (o.evidenceOf (Inference.samplesOf documents)) {}).1 names
        s.examplePolicy :=
  ⟨_, rfl⟩

theorem inferValues_eq (s : Settings) (documents : List Json) :
    ∃ names, inferValues s documents =
      freeze (ClassTable.internRoot (s.evidenceOf documents) {}).2
        (ClassTable.internRoot (s.evidenceOf documents) {}).1 names s.examplePolicy := by
  rw [inferValues_eq_inferBy]
  exact inferBy_eq s s.observer documents

/-- The flag of a field is that of its type. -/
theorem nullable_field_inferValues (s : Settings) {documents : List Json} {c : ClassDef}
    (hc : c ∈ (inferValues s documents).classes) {f : FieldInfo} (hf : f ∈ c.fields) :
    f.nullable = f.type.nullable := by
  obtain ⟨names, hmodel⟩ := inferValues_eq s documents
  rw [hmodel] at hc
  exact nullable_field_freeze names s.examplePolicy hc hf

section Samples
variable (o : Observer) {samples : List Json} (h : ∀ x ∈ samples, x.DistinctKeys)
include h

theorem Observer.distinctKeys_evidenceOf : (o.evidenceOf samples).DistinctKeys :=
  .joinAll (List.forall_mem_map.mpr fun x hx => o.distinctKeys_observeRoot (h x hx))

/-- Whatever counts as a date, a sample is a value of the frozen table. -/
theorem admits_freeze_internRoot (names : Naming) (examples : ExamplePolicy) {x : Json}
    (hx : x ∈ samples) :
    (freeze (ClassTable.internRoot (o.evidenceOf samples) {}).2
      (ClassTable.internRoot (o.evidenceOf samples) {}).1 names examples).admits o.isDate x
      (freeze (ClassTable.internRoot (o.evidenceOf samples) {}).2
        (ClassTable.internRoot (o.evidenceOf samples) {}).1 names examples).root = true := by
  have hkeys := o.distinctKeys_evidenceOf h
  have hseen : Evidence.Admits Shape.fields o.isDate x (o.evidenceOf samples) :=
    (o.admits_observeRoot (h x hx)).of_le (Evidence.le_joinAll (List.mem_map_of_mem hx))
  have htable := ClassTable.admits_of_fits hseen (ClassTable.internRoot_fits hkeys {})
  obtain ⟨hwf, hroot⟩ := ClassTable.wellFormed_internRoot hkeys
  refine (TypeModel.admits_withRoot ..).trans (admits_freeze names examples hwf hroot htable fun c hc => ?_)
  exact (mem_emissionOrder hwf hroot).mpr (.here hc)

end Samples

theorem admits_inferBy (s : Settings) (o : Observer) {documents : List Json}
    (h : ∀ d ∈ documents, d.DistinctKeys) {x : Json} (hx : x ∈ Inference.samplesOf documents) :
    (inferBy s o documents).admits o.isDate x (inferBy s o documents).root = true := by
  have hsamples := fun x hx => Inference.distinctKeys_of_mem_samplesOf h (x := x) hx
  obtain ⟨names, heq⟩ := inferBy_eq s o documents
  rw [heq]
  exact admits_freeze_internRoot o hsamples names s.examplePolicy hx

theorem admits_inferValues (s : Settings) {documents : List Json}
    (h : ∀ d ∈ documents, d.DistinctKeys) {x : Json} (hx : x ∈ Inference.samplesOf documents) :
    (inferValues s documents).admits s.isDateText x (inferValues s documents).root = true := by
  rw [inferValues_eq_inferBy]
  exact admits_inferBy s s.observer h hx

/-- Every sample of the root is a value of the model inferred from the documents, and would be whatever
texts were dates. -/
theorem inferValues_sound (s : Settings) {documents : List Json}
    (h : ∀ d ∈ documents, d.DistinctKeys) :
    ∀ x ∈ Inference.samplesOf documents,
      (inferValues s documents).admits s.isDateText x (inferValues s documents).root = true ∧
        ∀ o : Observer,
          (inferBy s o documents).admits o.isDate x (inferBy s o documents).root = true :=
  fun _ hx => ⟨admits_inferValues s h hx, fun o => admits_inferBy s o h hx⟩

/-- An object used as a dictionary beside a list that has ended. -/
def sampleWithDates : Json :=
  .object [("next", .null), ("ids", .object [("17", .string "2024-01-31")])]

/-- A list that becomes a class of its own kind, a dictionary, keys that are missing once, and numbers of
different width. -/
def mixedDocuments : List Json :=
  [.array [.object [("next", .object [("next", .null)]), ("tags", .array [.number (.int 1), .null])],
      sampleWithDates],
    .object [("next", .null), ("tags", .array [.number (.int 4294967296)])]]

theorem inferValues_sound_sampleWithDates :
    (inferValues {} mixedDocuments).admits ({} : Settings).isDateText sampleWithDates
      (inferValues {} mixedDocuments).root = true := by
  refine (inferValues_sound {} ?_ sampleWithDates ?_).1
  · simp [mixedDocuments, sampleWithDates, Json.distinctKeys_array, Json.distinctKeys_object,
      Json.DistinctKeys.null, Json.DistinctKeys.number, Json.DistinctKeys.string]
  · simp [Inference.samplesOf, mixedDocuments, Observer.rootSamples]

/-! ### Texts -/

theorem distinctKeys_of_parseDocument {origin text : String} {x : Json}
    (h : parseDocument origin text = .ok x) : x.DistinctKeys := by
  unfold parseDocument at h
  cases hparse : Json.parse text with
  | error e =>
    rw [hparse] at h
    cases h
  | ok y =>
    rw [hparse] at h
    cases h
    exact Json.distinctKeys_of_parse hparse

theorem distinctKeys_of_parseDocuments {texts : List (String × String)} {documents : List Json}
    (h : texts.mapM (fun (origin, text) => parseDocument origin text) = .ok documents) :
    ∀ d ∈ documents, d.DistinctKeys := by
  induction texts generalizing documents with
  | nil =>
    cases h
    exact List.forall_mem_nil _
  | cons first rest ih =>
    rw [List.mapM_cons] at h
    obtain ⟨y, hy, h⟩ := Json.bind_eq_ok_iff.mp h
    obtain ⟨ys, hys, h⟩ := Json.bind_eq_ok_iff.mp h
    cases h
    exact List.forall_mem_cons.mpr ⟨distinctKeys_of_parseDocument hy, ih hys⟩

/-- Every sample that some texts hold is a value of the model inferred from the texts. -/
theorem inferTexts_sound (s : Settings) {texts : List (String × String)} {m : TypeModel}
    (h : inferTexts s texts = .ok m) :
    ∃ documents, texts.mapM (fun (origin, text) => parseDocument origin text) = .ok documents ∧
      ∀ x ∈ Inference.samplesOf documents, m.admits s.isDateText x m.root = true := by
  obtain ⟨documents, hread, hm⟩ := Json.bind_eq_ok_iff.mp h
  cases hm
  exact ⟨documents, hread, fun x hx =>
    admits_inferValues s (distinctKeys_of_parseDocuments hread) hx⟩

end Specimen
