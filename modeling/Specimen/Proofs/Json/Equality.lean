import Specimen.Proofs.Json.Lockstep

/-! Equality of values, up to the order of members and the sign of zero.

`Json.same` compares the members of an object key by key in one direction only. Where no object has a key
twice, as many members on both sides make that enough: among such values `same` is an equivalence
(`same_refl`, `same_symm`, `same_trans`). -/
namespace Specimen

/-! ### Numbers -/

namespace Binary64

theorem same_iff {x y : Binary64} :
    x.same y = true ↔ x = y ∨ x.isZero = true ∧ y.isZero = true := by
  simp [same]

theorem same_symm {x y : Binary64} (h : x.same y = true) : y.same x = true := by
  rw [same_iff] at h ⊢
  exact h.imp Eq.symm And.symm

theorem same_trans {x y z : Binary64} (hxy : x.same y = true) (hyz : y.same z = true) :
    x.same z = true := by
  rw [same_iff] at hxy hyz ⊢
  rcases hxy with rfl | ⟨hx, hy⟩
  · exact hyz
  · rcases hyz with rfl | ⟨_, hz⟩
    · exact .inr ⟨hx, hy⟩
    · exact .inr ⟨hx, hz⟩

end Binary64

namespace Json

namespace Number

theorem same_refl (n : Number) : n.same n = true := by
  cases n with
  | int n => exact beq_self_eq_true n
  | float x => exact Binary64.same_iff.mpr (.inl rfl)

theorem same_symm {m n : Number} (h : m.same n = true) : n.same m = true := by
  cases m with
  | int m =>
    cases n with
    | int n => rwa [same, beq_iff_eq, eq_comm, ← beq_iff_eq] at h
    | float y => cases h
  | float x =>
    cases n with
    | int n => cases h
    | float y => exact Binary64.same_symm h

theorem same_trans {m n p : Number} (hmn : m.same n = true) (hnp : n.same p = true) :
    m.same p = true := by
  cases n with
  | int n =>
    cases m with
    | int m => exact eq_of_beq hmn ▸ hnp
    | float x => cases hmn
  | float y =>
    cases m with
    | int m => cases hmn
    | float x =>
      cases p with
      | int p => cases hnp
      | float z => exact Binary64.same_trans hmn hnp

end Number

/-! ### Values -/

theorem sameItems_iff {xs ys : List Json} :
    sameItems xs ys = true ↔ List.Forall₂ (fun x y => x.same y = true) xs ys := by
  induction xs generalizing ys with
  | nil => cases ys <;> simp [sameItems]
  | cons x xs ih => cases ys <;> simp [sameItems, ih]

theorem sameMembers_iff {ms ns : List (String × Json)} :
    sameMembers ms ns = true ↔
      ∀ m ∈ ms, ∃ x, ns.lookup m.1 = some x ∧ m.2.same x = true := by
  induction ms with
  | nil => simp [sameMembers]
  | cons m ms ih =>
    obtain ⟨key, x⟩ := m
    rw [sameMembers, Bool.and_eq_true, ih, List.forall_mem_cons]
    cases ns.lookup key <;> simp

theorem same_array {xs ys : List Json} :
    (array xs).same (array ys) = true ↔ List.Forall₂ (fun x y => x.same y = true) xs ys :=
  sameItems_iff

theorem same_object {ms ns : List (String × Json)} :
    (object ms).same (object ns) = true ↔ ms.length = ns.length ∧
      ∀ m ∈ ms, ∃ x, ns.lookup m.1 = some x ∧ m.2.same x = true := by
  rw [same, Bool.and_eq_true, beq_iff_eq, sameMembers_iff]

theorem same_refl {x : Json} (hx : x.DistinctKeys) : x.same x = true := by
  induction hx with
  | null => rfl
  | bool b => exact beq_self_eq_true b
  | number n => exact n.same_refl
  | string s => exact beq_self_eq_true s
  | array _ ih => exact same_array.mpr (List.forall₂_same.mpr ih)
  | object hd _ ih =>
    exact same_object.mpr ⟨rfl, fun m hm => ⟨m.2, (lookup_eq_some_iff_mem hd).mpr hm, ih m hm⟩⟩

/-- A member of either object has an equal one in the other: there are as many, all of different keys. -/
theorem exists_same_member {ms ns : List (String × Json)} (hms : (ms.map Prod.fst).Nodup)
    (hns : (ns.map Prod.fst).Nodup) (h : (object ms).same (object ns) = true) {n : String × Json}
    (hn : n ∈ ns) : ∃ m ∈ ms, m.1 = n.1 ∧ m.2.same n.2 = true := by
  obtain ⟨hlength, hmembers⟩ := same_object.mp h
  have hsub : ms.map Prod.fst ⊆ ns.map Prod.fst := by
    intro key hkey
    obtain ⟨m, hm, rfl⟩ := List.mem_map.mp hkey
    obtain ⟨x, hx, _⟩ := hmembers m hm
    exact isSome_lookup_iff.mp (by rw [hx]; rfl)
  have hperm : (ms.map Prod.fst).Perm (ns.map Prod.fst) :=
    (List.subperm_of_subset hms hsub).perm_of_length_le (by simp [hlength])
  obtain ⟨m, hm, hkey⟩ := List.mem_map.mp (hperm.mem_iff.mpr (List.mem_map_of_mem hn))
  obtain ⟨x, hx, hsame⟩ := hmembers m hm
  rw [hkey, (lookup_eq_some_iff_mem hns).mpr hn] at hx
  cases hx
  exact ⟨m, hm, hkey, hsame⟩

theorem same_symm {x y : Json} (hx : x.DistinctKeys) (hy : y.DistinctKeys)
    (h : x.same y = true) : y.same x = true := by
  induction hx generalizing y with
  | null => cases y <;> first | rfl | cases h
  | bool b =>
    cases y with
    | bool c => rwa [same, beq_iff_eq, eq_comm, ← beq_iff_eq] at h
    | _ => cases h
  | number n =>
    cases y with
    | number p => exact Number.same_symm h
    | _ => cases h
  | string s =>
    cases y with
    | string t => rwa [same, beq_iff_eq, eq_comm, ← beq_iff_eq] at h
    | _ => cases h
  | @array xs _ ih =>
    cases y with
    | array ys =>
      rw [distinctKeys_array] at hy
      rw [same_array, List.forall₂_iff_get] at h ⊢
      refine ⟨h.1.symm, fun i hy' hx' => ?_⟩
      exact ih _ (List.getElem_mem hx') (hy _ (List.getElem_mem hy')) (h.2 i hx' hy')
    | _ => cases h
  | @object ms hd _ ih =>
    cases y with
    | object ns =>
      obtain ⟨hns, hvalues⟩ := distinctKeys_object.mp hy
      refine same_object.mpr ⟨(same_object.mp h).1.symm, fun n hn => ?_⟩
      obtain ⟨m, hm, hkey, hsame⟩ := exists_same_member hd hns h hn
      exact ⟨m.2, hkey ▸ (lookup_eq_some_iff_mem hd).mpr hm, ih m hm (hvalues n hn) hsame⟩
    | _ => cases h

theorem same_trans {x y z : Json} (hxy : x.same y = true) (hyz : y.same z = true) :
    x.same z = true := by
  induction x using Json.parts_induction generalizing y z with
  | h x ihi ihm =>
    cases x with
    | null => cases y <;> first | exact hyz | cases hxy
    | bool b =>
      cases y with
      | bool c => exact eq_of_beq hxy ▸ hyz
      | _ => cases hxy
    | number n =>
      cases y with
      | number p =>
        cases z with
        | number q => exact Number.same_trans hxy hyz
        | _ => cases hyz
      | _ => cases hxy
    | string s =>
      cases y with
      | string t => exact eq_of_beq hxy ▸ hyz
      | _ => cases hxy
    | array xs =>
      cases y with
      | array ys =>
        cases z with
        | array zs =>
          rw [same_array, List.forall₂_iff_get] at hxy hyz ⊢
          refine ⟨hxy.1.trans hyz.1, fun i hx hz => ?_⟩
          exact ihi _ (List.getElem_mem hx) (hxy.2 i hx (hxy.1 ▸ hx)) (hyz.2 i (hxy.1 ▸ hx) hz)
        | _ => cases hyz
      | _ => cases hxy
    | object ms =>
      cases y with
      | object ns =>
        cases z with
        | object os =>
          rw [same_object] at hxy hyz ⊢
          refine ⟨hxy.1.trans hyz.1, fun m hm => ?_⟩
          obtain ⟨x, hx, hmx⟩ := hxy.2 m hm
          have hmem : (m.1, x) ∈ ns := by
            obtain ⟨a, b, rfl, _⟩ := List.lookup_eq_some_iff.mp hx
            simp
          obtain ⟨w, hw, hxw⟩ := hyz.2 _ hmem
          exact ⟨w, hw, ihm _ (List.mem_map_of_mem hm) hmx hxw⟩
        | _ => cases hyz
      | _ => cases hxy

/-- A value cannot equal both of two different ones. -/
theorem differs_or_differs {x z : Json} (h : x.same z = false) (y : Json) :
    x.same y = false ∨ y.same z = false := by
  cases hxy : x.same y with
  | false => exact .inl rfl
  | true =>
    cases hyz : y.same z with
    | false => exact .inr rfl
    | true =>
      rw [same_trans hxy hyz] at h
      cases h

end Json

end Specimen
