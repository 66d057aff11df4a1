import Mathlib.Data.List.Nodup
import Specimen.Proofs.Evidence.Fields
import Specimen.Proofs.Evidence.Join

/-! What merging two shapes does to their fields.

`Shape.merge` recurs down to a depth that it computes from the first shape. `Shape.mergeTo_eq` says
that any larger depth gives the same, and `Shape.find?_merge` is the equation that this leaves: a key
that both shapes have is absorbed, a key of one of them is made nullable. Nothing else opens the
recursion. -/
namespace Specimen

namespace Shape

theorem depthOfFields_lt_depth (s : Shape) : depthOfFields s.fields < s.depth := by
  cases s with
  | mk fields seen => exact Nat.lt_succ_self _

theorem depthOfEvidence_le {fs : List (Field Shape)} {f : Field Shape} (hf : f ∈ fs) :
    depthOfEvidence f.type ≤ depthOfFields fs := by
  induction fs with
  | nil => cases hf
  | cons g fs ih =>
    simp only [depthOfFields]
    rcases List.mem_cons.mp hf with rfl | hf
    · exact Nat.le_max_left _ _
    · exact Nat.le_trans (ih hf) (Nat.le_max_right _ _)

theorem depth_of_innermost {e : Evidence Shape} {s : Shape} (h : e.innermost? = some s) :
    s.depth = depthOfEvidence e := by
  induction e with
  | array x n ih => exact ih h
  | dictionary x n ih => exact ih h
  | object x n =>
    cases h
    rfl
  | _ => cases h

/-- The union of both field lists, with a given way to merge the objects in them. -/
def mergeWith (m : Shape → Shape → Option Shape) (ours theirs : Shape) : Shape where
  fields :=
    (ours.fields.map fun f =>
      match Field.find? theirs.fields f.name with
      | some g => f.absorbWith m g
      | none => f.intoNullable) ++
    (theirs.fields.filter fun g => (Field.find? ours.fields g.name).isNone).map Field.intoNullable
  seen := ours.seen + theirs.seen

theorem mergeTo_succ (depth : Nat) (ours theirs : Shape) :
    mergeTo (depth + 1) ours theirs =
      mergeWith (fun x y => some (mergeTo depth x y)) ours theirs := rfl

/-- Only shapes that are nested less deeply than the first are merged inside it. -/
theorem mergeWith_congr {m m' : Shape → Shape → Option Shape} (ours theirs : Shape)
    (h : ∀ x : Shape, x.depth < ours.depth → ∀ y, m x y = m' x y) :
    mergeWith m ours theirs = mergeWith m' ours theirs := by
  unfold mergeWith
  congr 2
  apply List.map_congr_left
  intro f hf
  have hd := depthOfEvidence_le hf
  have hs := depthOfFields_lt_depth ours
  cases Field.find? theirs.fields f.name with
  | none => rfl
  | some g =>
    simp only [Field.absorbWith]
    congr 1
    apply Evidence.joinWith_congr
    intro x hx
    have := depth_of_innermost hx
    exact h x (by omega)

/-- Merging goes no deeper than the first shape is nested. -/
theorem mergeTo_eq {m n : Nat} {ours theirs : Shape} (hm : ours.depth ≤ m) (hn : ours.depth ≤ n) :
    mergeTo m ours theirs = mergeTo n ours theirs := by
  have hpos := depthOfFields_lt_depth ours
  induction m generalizing n ours theirs with
  | zero => omega
  | succ m ih =>
    obtain ⟨n, rfl⟩ : ∃ k, n = k + 1 := ⟨n - 1, by omega⟩
    rw [mergeTo_succ, mergeTo_succ]
    apply mergeWith_congr
    intro x hx y
    exact congrArg some (ih (by omega) (by omega) (depthOfFields_lt_depth x))

/-- The merge as an equation, with the objects inside merged in turn. -/
theorem merge_eq (ours theirs : Shape) :
    merge ours theirs = mergeWith Mergeable.merge ours theirs := by
  have hpos := depthOfFields_lt_depth ours
  obtain ⟨depth, hdepth⟩ : ∃ k, ours.depth = k + 1 := ⟨ours.depth - 1, by omega⟩
  rw [merge, hdepth, mergeTo_succ]
  apply mergeWith_congr
  intro x hx y
  exact congrArg some (mergeTo_eq (by omega) (Nat.le_refl _))

/-- What a merged shape has under a key. -/
theorem find?_merge (ours theirs : Shape) (name : String) :
    Field.find? (merge ours theirs).fields name =
      match Field.find? ours.fields name, Field.find? theirs.fields name with
      | some f, some g => some (f.absorb g)
      | some f, none => some f.intoNullable
      | none, some g => some g.intoNullable
      | none, none => none := by
  have hmap := Field.find?_map (P := Shape) (fun f =>
    match Field.find? theirs.fields f.name with
    | some g => f.absorbWith Mergeable.merge g
    | none => f.intoNullable) (by intro f; split <;> rfl) ours.fields name
  rw [merge_eq, mergeWith, Field.find?_append, hmap, Field.find?_map Field.intoNullable (fun _ => rfl),
    Field.find?_filter (fun n => (Field.find? ours.fields n).isNone)]
  cases hf : Field.find? ours.fields name with
  | none => cases Field.find? theirs.fields name <;> simp
  | some f =>
    rw [← Field.name_of_find? hf]
    cases hg : Field.find? theirs.fields f.name <;> simp [hg, Field.absorb]

theorem names_merge (ours theirs : Shape) :
    (merge ours theirs).fields.map Field.name = ours.fields.map Field.name ++
      (theirs.fields.map Field.name).filter fun name => (Field.find? ours.fields name).isNone := by
  rw [merge_eq, mergeWith, List.map_append, List.map_map, List.map_map, List.filter_map]
  congr 1
  apply List.map_congr_left
  intro f _
  simp only [Function.comp]
  split <;> rfl

theorem nodup_names_merge {ours theirs : Shape} (ho : (ours.fields.map Field.name).Nodup)
    (ht : (theirs.fields.map Field.name).Nodup) :
    ((merge ours theirs).fields.map Field.name).Nodup := by
  rw [names_merge]
  refine List.Nodup.append ho (ht.filter _) fun name hours htheirs => ?_
  have hnone := (List.mem_filter.mp htheirs).2
  rw [Option.isNone_iff_eq_none, Field.find?_eq_none] at hnone
  exact hnone hours

end Shape

namespace Evidence

theorem join_objects (s t : Shape) (m n : Bool) :
    (Evidence.object s m).join (.object t n) = .object (Shape.merge s t) (m || n) := rfl

/-! ### Keys stay distinct -/

theorem DistinctKeys.intoNullable {e : Evidence Shape} (h : e.DistinctKeys) :
    e.intoNullable.DistinctKeys := by
  cases h with
  | unknown => exact .null
  | null => exact .null
  | anything _ => exact .anything _
  | scalar _ _ => exact .scalar _ _
  | array h _ => exact .array h _
  | dictionary h _ => exact .dictionary h _
  | object hd h _ => exact .object hd h _

theorem DistinctKeys.join {a b : Evidence Shape} (ha : a.DistinctKeys) (hb : b.DistinctKeys) :
    (a.join b).DistinctKeys := by
  induction ha generalizing b with
  | unknown =>
    rw [unknown_join]
    exact hb
  | null =>
    rw [null_join]
    exact hb.intoNullable
  | anything m => cases hb <;> exact .anything _
  | scalar j m =>
    cases hb with
    | scalar k n =>
      simp only [Evidence.join, joinWith]
      cases j.join k with
      | none => exact .anything _
      | some kind => exact .scalar _ _
    | unknown => exact .scalar j m
    | null => exact .scalar j true
    | _ => exact .anything _
  | array hx m ih =>
    cases hb with
    | array hy n => exact .array (ih hy) _
    | unknown => exact .array hx m
    | null => exact .array hx true
    | _ => exact .anything _
  | dictionary hx m ih =>
    cases hb with
    | dictionary hy n => exact .dictionary (ih hy) _
    | unknown => exact .dictionary hx m
    | null => exact .dictionary hx true
    | _ => exact .anything _
  | @object s hd h m ih =>
    cases hb with
    | @object t hd' h' n =>
      have hmerged := Shape.nodup_names_merge hd hd'
      rw [join_objects]
      refine .object hmerged (fun f hf => ?_) _
      have hfound := Field.find?_of_mem hmerged hf
      rw [Shape.find?_merge] at hfound
      split at hfound <;> cases hfound
      case h_1 g g' hs ht => exact ih g (Field.mem_of_find? hs) (h' g' (Field.mem_of_find? ht))
      case h_2 g hs _ => exact (h g (Field.mem_of_find? hs)).intoNullable
      case h_3 g _ ht => exact (h' g (Field.mem_of_find? ht)).intoNullable
    | unknown => exact .object hd h m
    | null => exact .object hd h true
    | _ => exact .anything _

theorem DistinctKeys.joinAll {es : List (Evidence Shape)} (h : ∀ e ∈ es, e.DistinctKeys) :
    (joinAll es).DistinctKeys := by
  suffices hfold : ∀ start : Evidence Shape, start.DistinctKeys →
      (es.foldl Evidence.join start).DistinctKeys from hfold _ .unknown
  induction es with
  | nil => exact fun _ hs => hs
  | cons e es ih =>
    rw [List.forall_mem_cons] at h
    exact fun start hs => ih h.2 _ (hs.join h.1)

end Evidence

end Specimen
