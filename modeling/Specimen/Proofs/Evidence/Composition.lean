import Specimen.Proofs.Evidence.Counts
import Specimen.Proofs.Evidence.Examples

/-! Evidence is put together piece by piece.

Joining is associative to the letter: kinds, nulls, counts, the order of fields and the examples
(`join_assoc`). Only the lists of examples have to be as they are kept everywhere, which is
`Evidence.KeepsExamples`; all evidence that is read off values is so (`keepsExamples_observe`), and what is
joined stays so. Hence evidence may be gathered in parts (`joinAll_append`). -/
namespace Specimen

/-! ### Nulls -/

namespace Evidence

theorem intoNullable_intoNullable {O : Type} (a : Evidence O) :
    a.intoNullable.intoNullable = a.intoNullable := by
  cases a <;> rfl

section Nulls
variable {O : Type} [Mergeable O]

theorem intoNullable_join (a b : Evidence O) :
    a.intoNullable.join b = (a.join b).intoNullable := by
  cases a with
  | scalar j m =>
    cases b with
    | scalar k n =>
      simp only [join, joinWith, intoNullable]
      cases j.join k <;> simp
    | _ => simp [join, joinWith, intoNullable, isNullable]
  | object x m =>
    cases b with
    | object y n =>
      simp only [join, joinWith, intoNullable]
      cases Mergeable.merge x y <;> simp
    | _ => simp [join, joinWith, intoNullable, isNullable]
  | _ => cases b <;> simp [join, joinWith, intoNullable, isNullable]

theorem join_intoNullable (a b : Evidence O) :
    a.join b.intoNullable = (a.join b).intoNullable := by
  cases a with
  | scalar j m =>
    cases b with
    | scalar k n =>
      simp only [join, joinWith, intoNullable]
      cases j.join k <;> simp
    | _ => simp [join, joinWith, intoNullable, isNullable]
  | object x m =>
    cases b with
    | object y n =>
      simp only [join, joinWith, intoNullable]
      cases Mergeable.merge x y <;> simp
    | _ => simp [join, joinWith, intoNullable, isNullable]
  | _ => cases b <;> simp [join, joinWith, intoNullable, isNullable]

end Nulls

end Evidence

/-! ### Fields of merged shapes -/

attribute [ext] Field Shape

namespace Field
variable {O : Type}

theorem name_intoNullable (f : Field O) : f.intoNullable.name = f.name := rfl

theorem intoNullable_intoNullable (f : Field O) : f.intoNullable.intoNullable = f.intoNullable :=
  Field.ext rfl (Evidence.intoNullable_intoNullable f.type) rfl rfl

variable [Mergeable O]

/-- A field after a merge with what the other side has under its key. -/
def joined (f : Field O) : Option (Field O) → Field O
  | some g => f.absorb g
  | none => f.intoNullable

theorem name_joined (f : Field O) (g? : Option (Field O)) : (f.joined g?).name = f.name := by
  cases g? <;> rfl

theorem merged?_some (f : Field O) (g? : Option (Field O)) :
    merged? (some f) g? = some (f.joined g?) := by
  cases g? <;> rfl

theorem intoNullable_absorb (f g : Field O) :
    f.intoNullable.absorb g = (f.absorb g).intoNullable :=
  Field.ext rfl (Evidence.intoNullable_join f.type g.type) rfl rfl

theorem absorb_intoNullable (f g : Field O) :
    f.absorb g.intoNullable = (f.absorb g).intoNullable :=
  Field.ext rfl (Evidence.join_intoNullable f.type g.type) rfl rfl

theorem intoNullable_joined (f : Field O) (g? : Option (Field O)) :
    f.intoNullable.joined g? = (f.joined g?).intoNullable := by
  cases g? with
  | none => rfl
  | some g => exact f.intoNullable_absorb g

/-- Taking in one field after the other is taking in the two together. -/
theorem joined_joined {f : Field O} {g? h? : Option (Field O)}
    (hboth : ∀ g h, g? = some g → h? = some h → (f.absorb g).absorb h = f.absorb (g.absorb h)) :
    (f.joined g?).joined h? = f.joined (merged? g? h?) := by
  cases g? with
  | none =>
    cases h? with
    | none => exact f.intoNullable_intoNullable
    | some h => exact (f.intoNullable_absorb h).trans (f.absorb_intoNullable h).symm
  | some g =>
    cases h? with
    | none => exact (f.absorb_intoNullable g).symm
    | some h => exact hboth g h rfl rfl

end Field

namespace Shape

theorem find?_merge_eq (s t : Shape) (name : String) : Field.find? (merge s t).fields name =
    Field.merged? (Field.find? s.fields name) (Field.find? t.fields name) := by
  rw [find?_merge]
  cases Field.find? s.fields name <;> cases Field.find? t.fields name <;> rfl

theorem fields_merge (s t : Shape) : (merge s t).fields =
    (s.fields.map fun f => f.joined (Field.find? t.fields f.name)) ++
      (t.fields.filter fun g => (Field.find? s.fields g.name).isNone).map Field.intoNullable := by
  rw [merge_eq]
  dsimp only [mergeWith]
  congr 2
  funext f
  cases Field.find? t.fields f.name <;> rfl

theorem seen_merge (s t : Shape) : (merge s t).seen = s.seen + t.seen := by
  rw [merge_eq]
  rfl

/-- Merging in one shape after the other is merging in the two together. -/
theorem merge_assoc {s t u : Shape}
    (h : ∀ f ∈ s.fields, ∀ g ∈ t.fields, ∀ h ∈ u.fields,
      (f.absorb g).absorb h = f.absorb (g.absorb h)) :
    (s.merge t).merge u = s.merge (t.merge u) := by
  have hkept : ∀ f ∈ s.fields,
      (f.joined (Field.find? t.fields f.name)).joined (Field.find? u.fields f.name) =
        f.joined (Field.find? (t.merge u).fields f.name) := by
    intro f hf
    rw [find?_merge_eq]
    exact Field.joined_joined fun g h' hg hh =>
      h f hf g (Field.mem_of_find? hg) h' (Field.mem_of_find? hh)
  have hnew : ∀ name, (Field.find? (s.merge t).fields name).isNone =
      ((Field.find? s.fields name).isNone && (Field.find? t.fields name).isNone) := by
    intro name
    rw [find?_merge_eq]
    cases Field.find? s.fields name <;> cases Field.find? t.fields name <;> rfl
  refine Shape.ext ?_ ?_
  · rw [fields_merge (s.merge t), fields_merge s (t.merge u), ← List.map_congr_left hkept]
    simp only [hnew]
    rw [fields_merge s t, fields_merge t u]
    simp only [List.map_append, List.map_map, List.filter_append, List.filter_map, List.filter_filter,
      List.append_assoc, Function.comp_def, Field.name_joined, Field.name_intoNullable,
      Field.intoNullable_joined, Field.intoNullable_intoNullable]
  · simp only [seen_merge, Nat.add_assoc]

end Shape

/-! ### Lists of examples -/

namespace Evidence

/-- All lists of examples in the evidence are as they are kept. -/
inductive KeepsExamples : Evidence Shape → Prop where
  | unknown : KeepsExamples .unknown
  | null : KeepsExamples .null
  | anything (nullable) : KeepsExamples (.anything nullable)
  | scalar (kind nullable) : KeepsExamples (.scalar kind nullable)
  | array {item} (h : KeepsExamples item) (nullable) : KeepsExamples (.array item nullable)
  | dictionary {value} (h : KeepsExamples value) (nullable) :
    KeepsExamples (.dictionary value nullable)
  | object {s : Shape} (hexamples : ∀ f ∈ s.fields, KeptExamples f.examples)
    (h : ∀ f ∈ s.fields, KeepsExamples f.type) (nullable) : KeepsExamples (.object s nullable)

namespace KeepsExamples

theorem of_array {item : Evidence Shape} {n : Bool} (h : (Evidence.array item n).KeepsExamples) :
    item.KeepsExamples := by
  cases h with
  | array h => exact h

theorem of_dictionary {value : Evidence Shape} {n : Bool}
    (h : (Evidence.dictionary value n).KeepsExamples) : value.KeepsExamples := by
  cases h with
  | dictionary h => exact h

theorem of_object {s : Shape} {n : Bool} (h : (Evidence.object s n).KeepsExamples) :
    ∀ f ∈ s.fields, KeptExamples f.examples ∧ f.type.KeepsExamples := by
  cases h with
  | object hexamples h => exact fun f hf => ⟨hexamples f hf, h f hf⟩

theorem intoNullable {e : Evidence Shape} (h : e.KeepsExamples) : e.intoNullable.KeepsExamples := by
  cases h with
  | unknown => exact .null
  | null => exact .null
  | anything n => exact .anything true
  | scalar k n => exact .scalar k true
  | array h n => exact .array h true
  | dictionary h n => exact .dictionary h true
  | object hexamples h n => exact .object hexamples h true

theorem join {a b : Evidence Shape} (ha : a.KeepsExamples) (hb : b.KeepsExamples) :
    (a.join b).KeepsExamples := by
  induction a using Evidence.shape_induction generalizing b with
  | unknown =>
    rw [unknown_join]
    exact hb
  | null =>
    rw [null_join]
    exact hb.intoNullable
  | anything m => cases b <;> exact .anything _
  | scalar j m =>
    cases b with
    | scalar k n =>
      simp only [Evidence.join, joinWith]
      cases j.join k with
      | none => exact .anything _
      | some l => exact .scalar l _
    | _ => constructor
  | array x m ih =>
    cases b with
    | array y n => exact .array (ih ha.of_array hb.of_array) _
    | unknown => exact ha
    | null => exact ha.intoNullable
    | _ => exact .anything _
  | dictionary x m ih =>
    cases b with
    | dictionary y n => exact .dictionary (ih ha.of_dictionary hb.of_dictionary) _
    | unknown => exact ha
    | null => exact ha.intoNullable
    | _ => exact .anything _
  | object s m ih =>
    cases b with
    | object t n =>
      have hs := ha.of_object
      have ht := hb.of_object
      rw [join_objects]
      suffices h : ∀ f ∈ (s.merge t).fields, KeptExamples f.examples ∧ f.type.KeepsExamples from
        .object (fun f hf => (h f hf).1) (fun f hf => (h f hf).2) _
      intro f hf
      rw [Shape.fields_merge, List.mem_append] at hf
      rcases hf with hf | hf
      · obtain ⟨g, hg, rfl⟩ := List.mem_map.mp hf
        cases hfound : Field.find? t.fields g.name with
        | none => exact ⟨(hs g hg).1, (hs g hg).2.intoNullable⟩
        | some h =>
          have hh := ht h (Field.mem_of_find? hfound)
          exact ⟨(hs g hg).1.keepAll hh.1, ih g hg (hs g hg).2 hh.2⟩
      · obtain ⟨g, hg, rfl⟩ := List.mem_map.mp hf
        have hg := ht g (List.mem_filter.mp hg).1
        exact ⟨hg.1, hg.2.intoNullable⟩
    | unknown => exact ha
    | null => exact ha.intoNullable
    | _ => exact .anything _

theorem joinAll {es : List (Evidence Shape)} (h : ∀ e ∈ es, e.KeepsExamples) :
    (Evidence.joinAll es).KeepsExamples := by
  suffices hfold : ∀ e : Evidence Shape, e.KeepsExamples → (es.foldl Evidence.join e).KeepsExamples from
    hfold _ .unknown
  induction es with
  | nil => exact fun _ he => he
  | cons x es ih =>
    obtain ⟨hx, hes⟩ := List.forall_mem_cons.mp h
    exact fun e he => ih hes _ (he.join hx)

end KeepsExamples

/-! ### Associativity -/

namespace Head

/-- The kind alone says all there is to say, nulls aside. -/
def flat : Head → Bool
  | .anything => true
  | .scalar _ => true
  | _ => false

theorem flat_join {g : Head} (hg : g.flat = true) (h : Head) : (g.join h).flat = true := by
  cases g with
  | anything => rw [anything_join, flat]
  | scalar j =>
    cases h with
    | scalar k => cases j <;> cases k <;> rfl
    | _ => rfl
  | _ => cases hg

/-- Every kind there is. -/
def all : List Head :=
  [.unknown, .null, .anything, .array, .dictionary, .object] ++
    [Scalar.boolean, .integer, .long, .float, .date, .string].map .scalar

theorem mem_all (h : Head) : h ∈ all := by
  cases h with
  | scalar kind => cases kind <;> decide
  | _ => decide

theorem join_assoc (a b c : Head) : (a.join b).join c = a.join (b.join c) :=
  have hall : ∀ a ∈ all, ∀ b ∈ all, ∀ c ∈ all, (a.join b).join c = a.join (b.join c) := by
    decide +kernel
  hall a a.mem_all b b.mem_all c c.mem_all

theorem join_comm (a b : Head) : a.join b = b.join a :=
  have hall : ∀ a ∈ all, ∀ b ∈ all, a.join b = b.join a := by decide
  hall a a.mem_all b b.mem_all

theorem join_join_self (a b : Head) : (a.join b).join a = a.join b :=
  have hall : ∀ a ∈ all, ∀ b ∈ all, (a.join b).join a = a.join b := by decide
  hall a a.mem_all b b.mem_all

end Head

theorem head_join (a b : Evidence Shape) : (a.join b).head = a.head.join b.head :=
  head_joinWith a b fun _ _ _ _ => rfl

theorem eq_of_flat {a b : Evidence Shape} (ha : a.head.flat = true) (hhead : a.head = b.head)
    (hnull : a.isNullable = b.isNullable) : a = b := by
  cases a with
  | anything m =>
    cases b with
    | anything n => exact congrArg anything hnull
    | _ => cases hhead
  | scalar j m =>
    cases b with
    | scalar k n =>
      cases hhead
      exact congrArg (scalar j) hnull
    | _ => cases hhead
  | _ => cases ha

/-- Where the kind of the result leaves nothing open, kinds and nulls are enough to compare. -/
theorem join_assoc_of_flat {a b c : Evidence Shape}
    (h : ((a.head.join b.head).join c.head).flat = true) : (a.join b).join c = a.join (b.join c) := by
  refine eq_of_flat ?_ ?_ ?_
  · rwa [head_join, head_join]
  · simp only [head_join, Head.join_assoc]
  · simp only [isNullable_join, Bool.or_assoc]

theorem join_assoc_of_empty {a b c : Evidence Shape}
    (h : b = .unknown ∨ b = .null ∨ c = .unknown ∨ c = .null) :
    (a.join b).join c = a.join (b.join c) := by
  rcases h with rfl | rfl | rfl | rfl
  · rw [join_unknown, unknown_join]
  · rw [join_null, null_join, intoNullable_join, join_intoNullable]
  · rw [join_unknown, join_unknown]
  · rw [join_null, join_null, join_intoNullable]

/-- Joining in one piece of evidence after the other is joining in the two together. -/
theorem join_assoc {a b c : Evidence Shape} (ha : a.KeepsExamples) (hb : b.KeepsExamples)
    (hc : c.KeepsExamples) : (a.join b).join c = a.join (b.join c) := by
  induction a using Evidence.shape_induction generalizing b c with
  | unknown => rw [unknown_join, unknown_join]
  | null => rw [null_join, null_join, intoNullable_join]
  | anything m => exact join_assoc_of_flat (Head.flat_join (Head.flat_join rfl _) _)
  | scalar j m => exact join_assoc_of_flat (Head.flat_join (Head.flat_join rfl _) _)
  | array x m ih =>
    cases b with
    | unknown => exact join_assoc_of_empty (.inl rfl)
    | null => exact join_assoc_of_empty (.inr (.inl rfl))
    | array y n =>
      cases c with
      | unknown => exact join_assoc_of_empty (.inr (.inr (.inl rfl)))
      | null => exact join_assoc_of_empty (.inr (.inr (.inr rfl)))
      | array z p =>
        change Evidence.array ((x.join y).join z) (m || n || p) =
          .array (x.join (y.join z)) (m || (n || p))
        rw [ih ha.of_array hb.of_array hc.of_array, Bool.or_assoc]
      | _ => exact join_assoc_of_flat rfl
    | _ => exact join_assoc_of_flat (Head.flat_join rfl _)
  | dictionary x m ih =>
    cases b with
    | unknown => exact join_assoc_of_empty (.inl rfl)
    | null => exact join_assoc_of_empty (.inr (.inl rfl))
    | dictionary y n =>
      cases c with
      | unknown => exact join_assoc_of_empty (.inr (.inr (.inl rfl)))
      | null => exact join_assoc_of_empty (.inr (.inr (.inr rfl)))
      | dictionary z p =>
        change Evidence.dictionary ((x.join y).join z) (m || n || p) =
          .dictionary (x.join (y.join z)) (m || (n || p))
        rw [ih ha.of_dictionary hb.of_dictionary hc.of_dictionary, Bool.or_assoc]
      | _ => exact join_assoc_of_flat rfl
    | _ => exact join_assoc_of_flat (Head.flat_join rfl _)
  | object s m ih =>
    cases b with
    | unknown => exact join_assoc_of_empty (.inl rfl)
    | null => exact join_assoc_of_empty (.inr (.inl rfl))
    | object t n =>
      cases c with
      | unknown => exact join_assoc_of_empty (.inr (.inr (.inl rfl)))
      | null => exact join_assoc_of_empty (.inr (.inr (.inr rfl)))
      | object u p =>
        have hmerge : (s.merge t).merge u = s.merge (t.merge u) := by
          refine Shape.merge_assoc fun f hf g hg h hh => ?_
          obtain ⟨hfx, hft⟩ := ha.of_object f hf
          obtain ⟨hgx, hgt⟩ := hb.of_object g hg
          obtain ⟨hhx, hht⟩ := hc.of_object h hh
          exact Field.ext rfl (ih f hf hft hgt hht) (Nat.add_assoc ..) (hfx.keepAll_assoc hgx hhx)
        rw [join_objects, join_objects, join_objects, join_objects, hmerge, Bool.or_assoc]
      | _ => exact join_assoc_of_flat rfl
    | _ => exact join_assoc_of_flat (Head.flat_join rfl _)

/-! ### Evidence in parts -/

theorem foldl_join_eq {e : Evidence Shape} {es : List (Evidence Shape)} (he : e.KeepsExamples)
    (hes : ∀ x ∈ es, x.KeepsExamples) : es.foldl join e = e.join (joinAll es) := by
  induction es generalizing e with
  | nil => exact (join_unknown e).symm
  | cons x es ih =>
    obtain ⟨hx, hes⟩ := List.forall_mem_cons.mp hes
    have hrest : joinAll (x :: es) = x.join (joinAll es) := by
      rw [joinAll, List.foldl_cons, unknown_join, ih hx hes]
    rw [List.foldl_cons, ih (he.join hx) hes, hrest, join_assoc he hx (.joinAll hes)]

theorem joinAll_cons {x : Evidence Shape} {es : List (Evidence Shape)} (hx : x.KeepsExamples)
    (hes : ∀ x ∈ es, x.KeepsExamples) : joinAll (x :: es) = x.join (joinAll es) := by
  rw [joinAll, List.foldl_cons, unknown_join, foldl_join_eq hx hes]

/-- The evidence of two lists is that of the one joined with that of the other. -/
theorem joinAll_append {es fs : List (Evidence Shape)} (hes : ∀ x ∈ es, x.KeepsExamples)
    (hfs : ∀ x ∈ fs, x.KeepsExamples) :
    joinAll (es ++ fs) = (joinAll es).join (joinAll fs) := by
  rw [joinAll, List.foldl_append, ← joinAll, foldl_join_eq (.joinAll hes) hfs]

end Evidence

/-! ### Evidence of values -/

namespace Observer
variable (o : Observer)

theorem keptExamples_examplesOf (x : Json) : KeptExamples (o.examplesOf x) := by
  unfold examplesOf
  split
  case isTrue h =>
    have hx : x.isLiteral = true := (Bool.and_eq_true _ _ ▸ h).2
    exact .singleton (distinctKeys_of_isLiteral hx)
  case isFalse => exact .nil

theorem keepsExamples_record {members : List (String × Json)}
    (h : ∀ m ∈ members, (o.observe m.2).KeepsExamples) :
    (Evidence.object ⟨o.observeMembers members, 1⟩ false).KeepsExamples := by
  rw [observeMembers_eq]
  refine .object (fun f hf => ?_) (fun f hf => ?_) false
  · obtain ⟨m, _, rfl⟩ := List.mem_map.mp hf
    exact o.keptExamples_examplesOf m.2
  · obtain ⟨m, hm, rfl⟩ := List.mem_map.mp hf
    exact h m hm

/-- The examples that are read off a value are as they are kept. -/
theorem keepsExamples_observe (x : Json) : (o.observe x).KeepsExamples := by
  induction x using Json.parts_induction with
  | h x ihi ihm =>
    cases x with
    | null => exact .null
    | bool b => exact .scalar _ _
    | number n => exact .scalar _ _
    | string s => exact .scalar _ _
    | array items =>
      rw [observe_array]
      exact .array (.joinAll (List.forall_mem_map.mpr ihi)) false
    | object members =>
      have hvalues : ∀ m ∈ members, (o.observe m.2).KeepsExamples :=
        fun m hm => ihm m.2 (List.mem_map_of_mem hm)
      rw [observe]
      rcases o.objectEvidence_eq (o.observeMembers members) with h | h <;> rw [h]
      · rw [types_observeMembers]
        exact .dictionary (.joinAll (List.forall_mem_map.mpr hvalues)) false
      · exact o.keepsExamples_record hvalues

theorem keepsExamples_observeRoot (x : Json) : (o.observeRoot x).KeepsExamples := by
  cases x with
  | object members => exact o.keepsExamples_record fun m _ => o.keepsExamples_observe m.2
  | _ => exact o.keepsExamples_observe _

end Observer

end Specimen
