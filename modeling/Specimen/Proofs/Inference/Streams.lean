import Specimen.Proofs.Evidence.Composition
import Specimen.Proofs.Inference.Soundness

/-! Documents in parts.

What a run has seen after some documents and then some others is what it sees of the ones joined with what
it sees of the others, to the last example (`seen_observeValues_append`): the evidence is a list of samples
joined one after another, and joining is associative. -/
namespace Specimen

namespace Inference
variable (s : Settings)

theorem samplesOf_append (ds ds' : List Json) :
    samplesOf (ds ++ ds') = samplesOf ds ++ samplesOf ds' :=
  List.flatMap_append

theorem keepsExamples_samples (samples : List Json) :
    ∀ e ∈ samples.map s.observer.observeRoot, e.KeepsExamples :=
  List.forall_mem_map.mpr fun x _ => s.observer.keepsExamples_observeRoot x

/-- The examples that a run keeps are as they are to be. -/
theorem keepsExamples_observeValues (ds : List Json) :
    (observeValues s {} ds).seen.KeepsExamples := by
  rw [seen_observeValues]
  exact .joinAll (keepsExamples_samples s _)

theorem seen_observeValues_append (ds ds' : List Json) :
    (observeValues s {} (ds ++ ds')).seen =
      (observeValues s {} ds).seen.join (observeValues s {} ds').seen := by
  simp only [seen_observeValues, samplesOf_append, List.map_append]
  exact Evidence.joinAll_append (keepsExamples_samples s _) (keepsExamples_samples s _)

end Inference

/-- Joining is associative on evidence that keeps its examples well, with no evidence as its identity.
Evidence that is read off documents does so, and that of a stream is that of its parts, joined. -/
theorem evidence_composes :
    (∀ e : Evidence Shape, Evidence.unknown.join e = e ∧ e.join .unknown = e) ∧
      (∀ a b c : Evidence Shape, a.KeepsExamples → b.KeepsExamples → c.KeepsExamples →
        (a.join b).join c = a.join (b.join c)) ∧
      ∀ (s : Settings) (ds ds' : List Json),
        (Inference.observeValues s {} ds).seen.KeepsExamples ∧
          (Inference.observeValues s {} (ds ++ ds')).seen =
            (Inference.observeValues s {} ds).seen.join (Inference.observeValues s {} ds').seen :=
  ⟨fun e => ⟨Evidence.unknown_join e, Evidence.join_unknown e⟩,
    fun _ _ _ => Evidence.join_assoc,
    fun s ds ds' => ⟨Inference.keepsExamples_observeValues s ds,
      Inference.seen_observeValues_append s ds ds'⟩⟩

/-- Two objects of which the first lacks a key, and a list of one with the keys in another order. -/
theorem evidence_composes_sparse :
    let o : Observer := { ({} : Settings).observer with keepsExamples := true }
    let a := o.observeRoot (.object [("x", .number (.int 1)), ("y", .null)])
    let b := o.observeRoot (.object [("z", .string "on"), ("x", .number (.int 1))])
    let c := o.observeRoot (.object [("y", .bool true), ("z", .array [.string "off"])])
    (a.join b).join c = a.join (b.join c) :=
  evidence_composes.2.1 _ _ _ (Observer.keepsExamples_observeRoot _ _)
    (Observer.keepsExamples_observeRoot _ _) (Observer.keepsExamples_observeRoot _ _)

end Specimen
