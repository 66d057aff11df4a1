import Specimen.Proofs.Evidence.Alike
import Specimen.Proofs.Evidence.Counts
import Specimen.Proofs.Inference.Exactness
import Specimen.Proofs.Inference.Streams

/-! Documents in another order.

The order of the documents, of the items of an array and of the members of an object leaves the evidence of a
run as it is, but for the order of fields and the examples (`observeValues_reordered`). An object is taken
for a dictionary by its keys as a set and by whether its values agree, and so are all objects that match it
in the other order. -/
namespace Specimen
open Evidence (Alike AlikeFields AlikeShapes)

/-! ### Dictionaries -/

theorem DictionaryPolicy.admitsKeys_perm (policy : DictionaryPolicy) (isDate : String → Bool)
    {keys keys' : List String} (h : keys.Perm keys') :
    policy.admitsKeys isDate keys = policy.admitsKeys isDate keys' := by
  rw [admitsKeys, admitsKeys, h.isEmpty_eq, h.length_eq, h.all_eq]

namespace Observer
variable (o : Observer)

/-! ### Values in another order -/

/-- Members of two objects that match, with what is read off their values. -/
def MatchedMembers (ms ns : List (String × Json)) : Prop :=
  Matched (fun m n => m.1 = n.1 ∧ (o.observe m.2).Alike (o.observe n.2)) ms ns

section Members
variable {o} {ms ns : List (String × Json)} (h : o.MatchedMembers ms ns)
  (hms : ∀ m ∈ ms, m.2.DistinctKeys)
include h

theorem MatchedMembers.keys : (ms.map Prod.fst).Perm (ns.map Prod.fst) := by
  obtain ⟨ls, hperm, hls⟩ := h
  have hkeys : ls.map Prod.fst = ns.map Prod.fst :=
    List.forall₂_eq_eq_eq ▸ List.forall₂_map_left_iff.mpr
      (List.forall₂_map_right_iff.mpr (hls.imp fun _ _ h => h.1))
  exact hkeys ▸ hperm.map Prod.fst

theorem MatchedMembers.record (hd : (ms.map Prod.fst).Nodup) :
    AlikeShapes ⟨o.observeMembers ms, 1⟩ ⟨o.observeMembers ns, 1⟩ where
  names := by
    rw [names_observeMembers, names_observeMembers]
    exact h.keys
  seen := rfl
  fields name := by
    have hd' : (ns.map Prod.fst).Nodup := h.keys.nodup_iff.mp hd
    refine .intro ?_ fun f g hf hg => ?_
    · rw [Field.isSome_find?, Field.isSome_find?, names_observeMembers, names_observeMembers]
      exact h.keys.mem_iff
    · obtain ⟨m, hm, rfl, _⟩ := o.exists_member_of_find? hf
      obtain ⟨n, hn, hkey, hvalue⟩ := h.exists_mem hm
      rw [o.find?_observeMembers hd hm] at hf
      rw [hkey, o.find?_observeMembers hd' hn] at hg
      cases hf
      cases hg
      exact ⟨rfl, hvalue⟩

include hms

theorem MatchedMembers.values : (Evidence.joinAll (ms.map fun m => o.observe m.2)).Alike
    (.joinAll (ns.map fun m => o.observe m.2)) := by
  refine Alike.joinAll (List.forall_mem_map.mpr fun m hm => ⟨?_, o.keepsExamples_observe m.2⟩) ?_
  · exact o.distinctKeys_observe (hms m hm)
  · exact h.map fun _ _ _ h => h.2

theorem MatchedMembers.takesForDictionary :
    o.takesForDictionary ms = o.takesForDictionary ns := by
  rw [Bool.eq_iff_iff, o.takesForDictionary_iff, o.takesForDictionary_iff,
    o.dictionaries.admitsKeys_perm o.isDate h.keys, (h.values hms).isAnything_eq]

end Members

/-- What is read off a value in another order is the same, up to the order of fields. -/
theorem observe_reordered {x y : Json} (h : x.Reordered y) (hx : x.DistinctKeys) :
    (o.observe x).Alike (o.observe y) := by
  refine h.matched_induction (P := fun x y => x.DistinctKeys → (o.observe x).Alike (o.observe y))
    ?_ ?_ ?_ hx
  · exact fun x _ => .refl _
  · intro xs ys h hx
    have hxs := Json.distinctKeys_array.mp hx
    rw [observe_array, observe_array]
    refine .array (.joinAll (List.forall_mem_map.mpr fun x hx => ?_) ?_) false
    · exact ⟨o.distinctKeys_observe (hxs x hx), o.keepsExamples_observe x⟩
    · exact h.map fun x hx y ⟨_, hxy⟩ => hxy (hxs x hx)
  · intro ms ns h hx
    obtain ⟨hd, hms⟩ := Json.distinctKeys_object.mp hx
    have hmembers : o.MatchedMembers ms ns :=
      h.imp fun m hm n ⟨hkey, _, hvalue⟩ => ⟨hkey, hvalue (hms m hm)⟩
    rw [observe_object, observe_object, hmembers.takesForDictionary hms]
    split
    · exact .dictionary (hmembers.values hms) false
    · exact Evidence.alike_object.mpr (hmembers.record hd)

theorem matchedMembers_of_reordered {ms ns : List (String × Json)}
    (h : Matched (fun m n => m.1 = n.1 ∧ m.2.Reordered n.2) ms ns)
    (hms : ∀ m ∈ ms, m.2.DistinctKeys) : o.MatchedMembers ms ns :=
  h.imp fun m hm _ h => ⟨h.1, o.observe_reordered h.2 (hms m hm)⟩

theorem observeRoot_reordered {x y : Json} (h : x.Reordered y) (hx : x.DistinctKeys) :
    (o.observeRoot x).Alike (o.observeRoot y) := by
  have hinner := o.observe_reordered h hx
  cases x with
  | object ms =>
    obtain ⟨ns, rfl, hmembers⟩ := h.of_object
    obtain ⟨hd, hms⟩ := Json.distinctKeys_object.mp hx
    exact Evidence.alike_object.mpr ((o.matchedMembers_of_reordered hmembers hms).record hd)
  | array xs =>
    obtain ⟨ys, rfl, _⟩ := h.of_array
    exact hinner
  | _ =>
    cases h
    exact hinner

/-- A value in another order is of the same category: an object is taken for a dictionary in both. -/
theorem category_reordered (atRoot : Bool) {x y : Json} (h : x.Reordered y) (hx : x.DistinctKeys) :
    o.category? atRoot x = o.category? atRoot y := by
  cases x with
  | object ms =>
    obtain ⟨ns, rfl, hmembers⟩ := h.of_object
    have hms := (Json.distinctKeys_object.mp hx).2
    rw [category?, category?, (o.matchedMembers_of_reordered hmembers hms).takesForDictionary hms]
  | array xs =>
    obtain ⟨ys, rfl, _⟩ := h.of_array
    rfl
  | _ =>
    cases h
    rfl

end Observer

/-! ### Documents in another order -/

namespace Inference

theorem samplesOf_reordered {ds ds' : List Json} (h : Matched Json.Reordered ds ds') :
    Matched Json.Reordered (samplesOf ds) (samplesOf ds') := by
  refine h.flatMap fun d _ d' h => ?_
  cases d with
  | array xs =>
    obtain ⟨ys, rfl, hitems⟩ := h.of_array
    exact hitems
  | object ms =>
    obtain ⟨ns, rfl, _⟩ := h.of_object
    exact .singleton h
  | _ =>
    cases h
    exact .singleton (.refl _)

/-- All values that occur in some documents, and whether they are samples of the root. -/
def occurrences (documents : List Json) : List (Bool × Json) :=
  (samplesOf documents).flatMap fun x => (true, x) :: x.inside.map (false, ·)

/-- Documents in another order give the same evidence, up to the order of fields and the examples, and the
values that occur in them match one by one in place and category. -/
theorem observeValues_reordered (s : Settings) {ds ds' : List Json}
    (h : Matched Json.Reordered ds ds') (hds : ∀ d ∈ ds, d.DistinctKeys) :
    (observeValues s {} ds).seen.Alike (observeValues s {} ds').seen ∧
      Matched (fun a b => a.1 = b.1 ∧ a.2.Reordered b.2 ∧
        s.observer.category? a.1 a.2 = s.observer.category? b.1 b.2)
        (occurrences ds) (occurrences ds') := by
  have hsamples := samplesOf_reordered h
  have hkeys := fun x hx => distinctKeys_of_mem_samplesOf hds (x := x) hx
  constructor
  · rw [seen_observeValues, seen_observeValues]
    refine .joinAll (List.forall_mem_map.mpr fun x hx => ?_) ?_
    · exact ⟨s.observer.distinctKeys_observeRoot (hkeys x hx), s.observer.keepsExamples_observeRoot x⟩
    · exact hsamples.map fun x hx y hxy => s.observer.observeRoot_reordered hxy (hkeys x hx)
  · refine hsamples.flatMap fun x hx y hxy => .cons ?_ ?_
    · exact ⟨rfl, hxy, s.observer.category_reordered true hxy (hkeys x hx)⟩
    · refine hxy.inside.map fun z hz w hzw => ⟨rfl, hzw, ?_⟩
      exact s.observer.category_reordered false hzw ((hkeys x hx).of_mem_inside hz)

/-- The documents of `sparseDocuments` with everything in them in another order. -/
def shuffledDocuments : List Json :=
  [.object [("a", .null)], .object [("b", .array [.bool true, .null]), ("a", .number (.int 1))]]

theorem matched_shuffledDocuments : Matched Json.Reordered sparseDocuments shuffledDocuments := by
  have hlist : Json.Reordered (.array [.null, .bool true]) (.array [.bool true, .null]) :=
    .array (.swap _ _ _) rfl fun p hp => by
      rcases List.mem_pair.mp hp with rfl | rfl <;> exact .refl _
  have hobject : Json.Reordered (.object [("a", .number (.int 1)), ("b", .array [.null, .bool true])])
      (.object [("b", .array [.bool true, .null]), ("a", .number (.int 1))]) := by
    refine .object (.swap _ _ _) rfl (fun p hp => ?_) fun p hp => ?_
    · rcases List.mem_pair.mp hp with rfl | rfl <;> rfl
    · rcases List.mem_pair.mp hp with rfl | rfl
      · exact hlist
      · exact .refl _
  exact ⟨_, .swap _ _ _, .cons (.refl _) (.cons hobject .nil)⟩

theorem observeValues_reordered_shuffled :
    (observeValues {} {} sparseDocuments).seen.Alike
      (observeValues {} {} shuffledDocuments).seen :=
  (observeValues_reordered {} matched_shuffledDocuments distinctKeys_sparseDocuments).1

end Inference

end Specimen
