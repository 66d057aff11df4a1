import Specimen.Proofs.Inference.Exactness
import Specimen.Proofs.Inference.Redaction
import Specimen.Proofs.Inference.Streams

/-! Documents that are there already.

To observe a document once more changes counts and nothing else (`inferValues_repeated`): neither the order
of classes and fields, nor names, kinds, nulls or examples. The evidence stays as it is up to counts, and
what is made of evidence does not look at them. -/
namespace Specimen

namespace Settings
variable (s : Settings)

theorem evidenceOf_append (ds rs : List Json) : s.evidenceOf (ds ++ rs) =
    .joinAll ((Inference.samplesOf ds).map s.observer.observeRoot ++
      (Inference.samplesOf rs).map s.observer.observeRoot) := by
  rw [evidenceOf, Observer.evidenceOf, Inference.samplesOf_append, List.map_append]

/-- Documents that are there already add nothing but counts to the evidence. -/
theorem evidenceOf_repeated {ds rs : List Json} (h : ∀ d ∈ ds, d.DistinctKeys)
    (hrs : ∀ r ∈ rs, r ∈ ds) : Redaction.ofCounts.evidence (s.evidenceOf (ds ++ rs)) =
      Redaction.ofCounts.evidence (s.evidenceOf ds) := by
  have hsamples : Inference.samplesOf rs ⊆ Inference.samplesOf ds := by
    intro x hx
    obtain ⟨r, hr, hx⟩ := List.mem_flatMap.mp hx
    exact List.mem_flatMap.mpr ⟨r, hrs r hr, hx⟩
  rw [evidenceOf_append]
  refine Redaction.evidence_joinAll_append (List.forall_mem_map.mpr fun x hx => ⟨?_, ?_⟩)
    (List.map_subset _ hsamples)
  · exact s.observer.distinctKeys_observeRoot (Inference.distinctKeys_of_mem_samplesOf h hx)
  · exact s.observer.keepsExamples_observeRoot x

end Settings

/-- Documents that are there already change only the counts of the model. -/
theorem inferValues_repeated (s : Settings) {ds rs : List Json} (h : ∀ d ∈ ds, d.DistinctKeys)
    (hrs : ∀ r ∈ rs, r ∈ ds) : Redaction.ofCounts.model (inferValues s (ds ++ rs)) =
      Redaction.ofCounts.model (inferValues s ds) := by
  have hseen : ∀ documents,
      Redaction.ofCounts.model (inferValues s documents) =
        Inference.solve s { seen := Redaction.ofCounts.evidence (s.evidenceOf documents) } := by
    intro documents
    rw [inferValues_eq_inferBy]
    exact Redaction.ofCounts.model_solve s _
  rw [hseen, hseen, s.evidenceOf_repeated h hrs]

theorem inferValues_repeated_sparse :
    Redaction.ofCounts.model (inferValues {} (sparseDocuments ++ sparseDocuments.reverse)) =
      Redaction.ofCounts.model (inferValues {} sparseDocuments) :=
  inferValues_repeated {} distinctKeys_sparseDocuments fun _ hr => List.mem_reverse.mp hr

end Specimen
