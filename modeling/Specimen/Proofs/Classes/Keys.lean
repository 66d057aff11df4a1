import Mathlib.Data.List.Perm.Subperm
import Specimen.Classes.Table
import Specimen.Proofs.Evidence.Fields

/-! Sets of keys as the table sees them.

The index of the table goes by sorted lists of keys. For fields with distinct names such a list is
the set of names in one spelling (`sortedKeys_eq_iff`). `ClassEntry.accepts` compares sets of names as
well, by counting (`mem_names_of_accepts`). -/
namespace Specimen

theorem perm_insertSorted (s : String) (l : List String) : (insertSorted s l).Perm (s :: l) := by
  induction l with
  | nil => exact .refl _
  | cons t rest ih =>
    simp only [insertSorted]
    split
    · exact .refl _
    · exact (ih.cons t).trans (.swap s t rest)

theorem pairwise_insertSorted (s : String) {l : List String} (h : l.Pairwise (· ≤ ·)) :
    (insertSorted s l).Pairwise (· ≤ ·) := by
  induction l with
  | nil => exact List.pairwise_singleton _ _
  | cons t rest ih =>
    rw [List.pairwise_cons] at h
    simp only [insertSorted]
    split
    case isTrue hst =>
      rw [List.pairwise_cons, List.pairwise_cons]
      refine ⟨fun u hu => ?_, h⟩
      rcases List.mem_cons.mp hu with rfl | hu
      · exact hst
      · exact String.le_trans hst (h.1 u hu)
    case isFalse hst =>
      rw [List.pairwise_cons]
      refine ⟨fun u hu => ?_, ih h.2⟩
      rcases List.mem_cons.mp ((perm_insertSorted s rest).subset hu) with rfl | hu
      · exact (String.le_total u t).resolve_left hst
      · exact h.1 u hu

theorem perm_sortedKeys (fs : List (Field ClassId)) :
    (sortedKeys fs).Perm (fs.map Field.name) := by
  unfold sortedKeys
  induction fs.map Field.name with
  | nil => exact .refl _
  | cons s l ih => exact (perm_insertSorted s _).trans (ih.cons s)

theorem pairwise_sortedKeys (fs : List (Field ClassId)) :
    (sortedKeys fs).Pairwise (· ≤ ·) := by
  unfold sortedKeys
  induction fs.map Field.name with
  | nil => exact .nil
  | cons s l ih => exact pairwise_insertSorted s ih

theorem nodup_sortedKeys {fs : List (Field ClassId)} (hf : (fs.map Field.name).Nodup) :
    (sortedKeys fs).Nodup :=
  (perm_sortedKeys fs).nodup_iff.mpr hf

/-- The sorted names of distinct fields are the names in order. -/
theorem sortedKeys_eq_iff_of_sorted {fs : List (Field ClassId)} (hf : (fs.map Field.name).Nodup)
    {keys : List String} (hsorted : keys.Pairwise (· ≤ ·)) (hk : keys.Nodup) :
    sortedKeys fs = keys ↔ ∀ name, name ∈ fs.map Field.name ↔ name ∈ keys := by
  rw [← List.perm_ext_iff_of_nodup hf hk]
  constructor
  · rintro rfl
    exact (perm_sortedKeys fs).symm
  · intro h
    exact List.Perm.eq_of_pairwise (fun _ _ _ _ => String.le_antisymm) (pairwise_sortedKeys fs)
      hsorted ((perm_sortedKeys fs).trans h)

/-- Sorted, the names of two lists of distinct fields agree just if they are the same names. -/
theorem sortedKeys_eq_iff {fs gs : List (Field ClassId)} (hf : (fs.map Field.name).Nodup)
    (hg : (gs.map Field.name).Nodup) :
    sortedKeys fs = sortedKeys gs ↔
      ∀ name, name ∈ fs.map Field.name ↔ name ∈ gs.map Field.name := by
  rw [sortedKeys_eq_iff_of_sorted hf (pairwise_sortedKeys gs) (nodup_sortedKeys hg)]
  simp only [(perm_sortedKeys gs).mem_iff]

namespace ClassEntry
variable {entry : ClassEntry} {fields : List (Field ClassId)}

/-- What it takes to be accepted, besides the number of fields. -/
theorem accepts_iff : entry.accepts fields = true ↔
    entry.fields.length = fields.length ∧ ∀ theirs ∈ fields, ∃ ours,
      Field.find? entry.fields theirs.name = some ours ∧
        ours.type.isCompatible theirs.type = true := by
  simp only [accepts, Bool.and_eq_true, beq_iff_eq, List.all_eq_true]
  refine and_congr_right fun _ => forall₂_congr fun theirs _ => ?_
  cases Field.find? entry.fields theirs.name with
  | none => simp
  | some ours => simp

/-- Accepted fields have the names of the entry. -/
theorem mem_names_of_accepts (hd : (fields.map Field.name).Nodup)
    (h : entry.accepts fields = true) (name : String) :
    name ∈ fields.map Field.name ↔ name ∈ entry.fields.map Field.name := by
  obtain ⟨hlength, hfields⟩ := accepts_iff.mp h
  have hsub : fields.map Field.name ⊆ entry.fields.map Field.name := by
    intro s hs
    obtain ⟨theirs, ht, rfl⟩ := List.mem_map.mp hs
    obtain ⟨ours, ho, _⟩ := hfields theirs ht
    exact Field.mem_names_of_find? ho
  have hperm := (List.subperm_of_subset hd hsub).perm_of_length_le (by simp [hlength])
  exact hperm.mem_iff

theorem isCompatible_of_accepts (h : entry.accepts fields = true) {name : String}
    {ours theirs : Field ClassId} (ho : Field.find? entry.fields name = some ours)
    (ht : Field.find? fields name = some theirs) :
    ours.type.isCompatible theirs.type = true := by
  obtain ⟨ours', ho', hc⟩ := (accepts_iff.mp h).2 theirs (Field.mem_of_find? ht)
  rw [Field.name_of_find? ht, ho] at ho'
  cases ho'
  exact hc

/-- Fields that are refused although the names are the same have a type that does not fit. -/
theorem exists_incompatible (he : (entry.fields.map Field.name).Nodup)
    (hd : (fields.map Field.name).Nodup) (h : entry.accepts fields = false)
    (hkeys : ∀ name, name ∈ entry.fields.map Field.name ↔ name ∈ fields.map Field.name) :
    ∃ name ours theirs, Field.find? entry.fields name = some ours ∧
      Field.find? fields name = some theirs ∧ ours.type.isCompatible theirs.type = false := by
  by_contra hno
  have hlength : entry.fields.length = fields.length := by
    simpa using ((List.perm_ext_iff_of_nodup he hd).mpr hkeys).length_eq
  have : entry.accepts fields = true := by
    refine accepts_iff.mpr ⟨hlength, fun theirs ht => ?_⟩
    obtain ⟨ours, ho⟩ := Field.exists_find? ((hkeys theirs.name).mpr (List.mem_map_of_mem ht))
    refine ⟨ours, ho, ?_⟩
    cases hc : ours.type.isCompatible theirs.type with
    | true => rfl
    | false => exact absurd ⟨_, ours, theirs, ho, Field.find?_of_mem hd ht, hc⟩ hno
  rw [h] at this
  cases this

end ClassEntry

end Specimen
