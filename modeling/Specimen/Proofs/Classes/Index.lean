import Mathlib.Data.List.Find
import Specimen.Proofs.Classes.Separation

/-! The index of the table against a scan of the table.

In every table that calls of interning lead to, the index has the classes of each set of keys under the keys
in order, all of them and in order of discovery (`lookup_byKeys_iff`). A class that accepts some fields has
their keys, so that the first one to accept them under their keys is the first in the whole table
(`accepting?_eq_scan?`). Interning could do without the index: it gives each shape the class that a scan finds
(`internShape_scans`). -/
namespace Specimen

namespace ClassTable
variable {t u : ClassTable} {fields : List (Field ClassId)} {seen : Nat} {id : ClassId}

/-! ### What the index lists -/

/-- The classes are those with exactly the given keys, in order of discovery, and there is one. The keys are
in order, each once. -/
structure Lists (t : ClassTable) (keys : List String) (ids : List ClassId) : Prop where
  sorted : keys.Pairwise (· ≤ ·)
  distinct : keys.Nodup
  nonempty : ids ≠ []
  discovered : ids.Pairwise fun i j => i.index < j.index
  mem_iff : ∀ id, id ∈ ids ↔
    id ∈ t.ids ∧ ∀ name, name ∈ (t.fieldsOf id).map Field.name ↔ name ∈ keys

/-- There is a class under every list of keys that the index has. -/
def Filled (t : ClassTable) : Prop := ∀ keys, t.byKeys.lookup keys ≠ some []

theorem Registers.filled (h : Registers fields seen t id u) (ht : t.Filled) : u.Filled := by
  cases h with
  | absorb => exact ht
  | enlist =>
    intro keys
    simp only [ClassTable.enlist, lookup_indexUnder]
    split
    · simp
    · exact ht keys

theorem Grows.filled (h : t.Grows u) (ht : t.Filled) : u.Filled := by
  induction h with
  | refl => exact ht
  | register _ _ _ hr ih => exact hr.filled ih

theorem Run.filled (h : ({} : ClassTable).Run t) : t.Filled :=
  h.induction Grows.filled (fun _ hu => hu) nofun

theorem pairwise_ids (t : ClassTable) : t.ids.Pairwise fun i j => i.index < j.index :=
  List.pairwise_map.mpr List.pairwise_lt_range

theorem nodup_names (ht : t.WellFormed) (hid : id ∈ t.ids) :
    ((t.fieldsOf id).map Field.name).Nodup := by
  obtain ⟨entry, hentry⟩ := exists_entry hid
  rw [fieldsOf_of_entry hentry]
  exact ht.distinct hentry

/-- What is under the keys of some class is all classes with these keys. -/
theorem lists_indexed (ht : t.WellFormed) {keys : List String} (hne : t.indexed keys ≠ []) :
    t.Lists keys (t.indexed keys) := by
  obtain ⟨id, hid⟩ := List.exists_mem_of_ne_nil _ hne
  rw [ht.indexed, List.mem_filter, decide_eq_true_eq] at hid
  obtain ⟨hid, rfl⟩ := hid
  have hsorted := pairwise_sortedKeys (t.fieldsOf id)
  have hdistinct := nodup_sortedKeys (nodup_names ht hid)
  refine ⟨hsorted, hdistinct, hne, ?_, fun i => ?_⟩
  · rw [ht.indexed]
    exact (pairwise_ids t).filter _
  · rw [ht.indexed, List.mem_filter, decide_eq_true_eq]
    exact and_congr_right fun hi =>
      sortedKeys_eq_iff_of_sorted (nodup_names ht hi) hsorted hdistinct

/-- The keys tell which classes are listed. -/
theorem Lists.unique {keys : List String} {ids ids' : List ClassId} (h : t.Lists keys ids)
    (h' : t.Lists keys ids') : ids = ids' := by
  have hnodup {l : List ClassId} (hl : l.Pairwise fun i j => i.index < j.index) : l.Nodup :=
    hl.imp fun hlt heq => absurd (heq ▸ hlt) (Nat.lt_irrefl _)
  have hperm : ids.Perm ids' :=
    (List.perm_ext_iff_of_nodup (hnodup h.discovered) (hnodup h'.discovered)).mpr fun id =>
      (h.mem_iff id).trans (h'.mem_iff id).symm
  exact hperm.eq_of_pairwise (fun _ _ _ _ hlt hgt => absurd hlt (Nat.lt_asymm hgt)) h.discovered
    h'.discovered

/-- The index maps the keys of a class in order to the classes that have them, and nothing else to
anything. -/
theorem lookup_byKeys_iff (ht : ({} : ClassTable).Run t) {keys : List String} {ids : List ClassId} :
    t.byKeys.lookup keys = some ids ↔ t.Lists keys ids := by
  have hwf := ht.wellFormed .empty
  constructor
  · intro h
    have hindexed : t.indexed keys = ids := by rw [indexed, h, Option.getD_some]
    have hne : ids ≠ [] := by
      rintro rfl
      exact ht.filled keys h
    exact hindexed ▸ lists_indexed hwf (hindexed ▸ hne)
  · intro h
    obtain ⟨id, hid⟩ := List.exists_mem_of_ne_nil _ h.nonempty
    obtain ⟨hmem, hkeys⟩ := (h.mem_iff id).mp hid
    have hid : id ∈ t.indexed keys := by
      rw [hwf.indexed, List.mem_filter, decide_eq_true_eq]
      exact ⟨hmem, (sortedKeys_eq_iff_of_sorted (nodup_names hwf hmem) h.sorted h.distinct).mpr hkeys⟩
    rw [h.unique (lists_indexed hwf (List.ne_nil_of_mem hid))]
    unfold indexed at hid ⊢
    cases hlookup : t.byKeys.lookup keys with
    | none => simp [hlookup] at hid
    | some _ => rfl

/-! ### Scanning -/

/-- The first class in order of discovery that accepts the fields. -/
def scan? (t : ClassTable) (fields : List (Field ClassId)) : Option ClassId :=
  (t.entries.findIdx? (·.accepts fields)).map ClassId.mk

/-- The class that a scan finds, or else a new one. -/
def registerByScan (fields : List (Field ClassId)) (seen : Nat) (t : ClassTable) :
    ClassId × ClassTable :=
  match t.scan? fields with
  | some id => (id, t.absorbAt id fields seen)
  | none => (⟨t.entries.length⟩, t.enlist fields seen)

/-- The class is in the table and accepts the fields. -/
def acceptsAt (t : ClassTable) (fields : List (Field ClassId)) (id : ClassId) : Bool :=
  match t.entry? id with
  | some entry => entry.accepts fields
  | none => false

theorem acceptsAt_eq_getElem {i : Nat} (hi : i < t.entries.length) :
    t.acceptsAt fields ⟨i⟩ = t.entries[i].accepts fields := by
  simp [acceptsAt, entry?, hi]

theorem scan?_eq_find? (t : ClassTable) (fields : List (Field ClassId)) :
    t.scan? fields = t.ids.find? (t.acceptsAt fields) := by
  rw [scan?, ids, List.find?_map]
  congr 1
  cases h : t.entries.findIdx? (·.accepts fields) with
  | none =>
    symm
    rw [List.find?_eq_none]
    intro i hi
    rw [List.mem_range] at hi
    rw [Function.comp, acceptsAt_eq_getElem hi]
    exact Bool.eq_false_iff.mp (List.findIdx?_eq_none_iff.mp h _ (List.getElem_mem hi))
  | some i =>
    symm
    obtain ⟨hi, hacc, hfirst⟩ := List.findIdx?_eq_some_iff_getElem.mp h
    refine List.find?_range_eq_some.mpr ⟨?_, List.mem_range.mpr hi, fun j hj => ?_⟩
    · rwa [Function.comp, acceptsAt_eq_getElem hi]
    · rw [Function.comp, acceptsAt_eq_getElem (Nat.lt_trans hj hi), Bool.not_eq_true']
      exact Bool.eq_false_iff.mpr (hfirst j hj)

/-- A class that accepts the fields has their keys. -/
theorem sortedKeys_of_acceptsAt (ht : t.WellFormed) (hd : (fields.map Field.name).Nodup)
    (h : t.acceptsAt fields id = true) : sortedKeys (t.fieldsOf id) = sortedKeys fields := by
  unfold acceptsAt at h
  split at h
  case h_1 entry hentry =>
    rw [fieldsOf_of_entry hentry, sortedKeys_eq_iff (ht.distinct hentry) hd]
    exact fun name => (ClassEntry.mem_names_of_accepts hd h name).symm
  case h_2 => cases h

/-- The first class under the keys that accepts the fields is the first in the table that does. -/
theorem accepting?_eq_scan? (ht : t.WellFormed) (hd : (fields.map Field.name).Nodup) :
    t.accepting? (sortedKeys fields) fields = t.scan? fields := by
  rw [scan?_eq_find?]
  change (t.indexed (sortedKeys fields)).find? (t.acceptsAt fields) = _
  rw [ht.indexed, List.find?_filter]
  refine List.find?_congr fun id _ => ?_
  cases h : t.acceptsAt fields id with
  | false => simp only [Bool.false_eq_true, and_false, decide_false]
  | true => simp [sortedKeys_of_acceptsAt ht hd h]

theorem register_eq_registerByScan (ht : t.WellFormed) (hd : (fields.map Field.name).Nodup) :
    register fields seen t = registerByScan fields seen t := by
  rw [register, registerByScan, accepting?_eq_scan? ht hd]
  cases t.scan? fields with
  | some _ => rfl
  | none => rfl

theorem mem_ids_of_scan? (h : t.scan? fields = some id) : id ∈ t.ids := by
  rw [scan?_eq_find?] at h
  exact List.mem_of_find?_eq_some h

/-- The class is a new one just if the scan finds none. -/
theorem registerByScan_not_mem_ids :
    (registerByScan fields seen t).1 ∉ t.ids ↔ t.scan? fields = none := by
  unfold registerByScan
  split
  case h_1 id h => exact iff_of_false (not_not_intro (mem_ids_of_scan? h)) (by simp [h])
  case h_2 h => exact iff_of_true (fun hmem => Nat.lt_irrefl _ (mem_ids.mp hmem)) h

/-! ### Interning by scanning -/

/-- The fields of a shape are interned by calls one after another. -/
theorem Run.internFields (h : t.Run u) {fs : List (Field Shape)}
    (hfs : ∀ f ∈ fs, f.type.DistinctKeys) : t.Run (internFields fs u).2 := by
  induction fs generalizing u with
  | nil => exact h
  | cons f rest ih =>
    rw [internFields_cons]
    exact ih (.intern h (hfs f (List.mem_cons_self ..))) fun g hg =>
      hfs g (List.mem_cons_of_mem f hg)

/-- In every table that calls of interning lead to, the index has under each list of keys all classes
with these keys, in order of discovery, so that interning a shape gives it the class that a scan of the
whole table finds for its fields, and a new one just if the scan finds none. The tables that interning the
children of a shape leads to are such tables as well. -/
theorem internShape_scans (ht : ({} : ClassTable).Run t) :
    (∀ keys ids, t.byKeys.lookup keys = some ids ↔ t.Lists keys ids) ∧
      ∀ s : Shape, (Evidence.object s false).DistinctKeys →
        ({} : ClassTable).Run (internFields s.fields t).2 ∧
        internShape s t =
          registerByScan (internFields s.fields t).1 s.seen (internFields s.fields t).2 ∧
        ((internShape s t).1 ∉ (internFields s.fields t).2.ids ↔
          (internFields s.fields t).2.scan? (internFields s.fields t).1 = none) := by
  refine ⟨fun keys ids => lookup_byKeys_iff ht, fun s hs => ?_⟩
  obtain ⟨hd, hfields⟩ := Evidence.distinctKeys_object.mp hs
  rw [← names_internFields s.fields t] at hd
  have hrun := ht.internFields hfields
  rw [internShape_eq, register_eq_registerByScan (hrun.wellFormed .empty) hd]
  exact ⟨hrun, rfl, registerByScan_not_mem_ids⟩

/-- One object whose only key is that of the links of a list. -/
def linkTo (type : Evidence Shape) : Shape := ⟨[⟨"next", type, 1, []⟩], 1⟩

/-- Of the two classes with that key the first refuses a number and the second takes it; a string is of a
new class. -/
theorem internShape_scans_linkTo :
    (internShape (linkTo (.scalar .integer false)) (internRoot linksAndNumber {}).2).1 = ⟨1⟩ ∧
      (internShape (linkTo (.scalar .boolean false)) (internRoot linksAndNumber {}).2).1 ∉
        (internRoot linksAndNumber {}).2.ids := by
  have hrun : ({} : ClassTable).Run (internRoot linksAndNumber {}).2 :=
    .internRoot .refl distinctKeys_linksAndNumber
  have hdistinct (kind) : (Evidence.object (linkTo (.scalar kind false)) false).DistinctKeys :=
    Evidence.distinctKeys_object.mpr ⟨by simp [linkTo], by simp [linkTo, Evidence.DistinctKeys.scalar]⟩
  obtain ⟨_, hnumber, _⟩ := (internShape_scans hrun).2 _ (hdistinct .integer)
  obtain ⟨_, _, hnew⟩ := (internShape_scans hrun).2 _ (hdistinct .boolean)
  exact ⟨by rw [hnumber]; decide, hnew.mpr (by decide)⟩

end ClassTable

end Specimen
