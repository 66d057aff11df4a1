import Specimen.Proofs.Evidence.Composition
import Specimen.Proofs.Json.Rearrangement

/-! Evidence up to the order of fields and the examples.

`Evidence.Alike` compares everything else: kinds, nulls, which keys a shape has, how many objects there were
and how many had each key. Joining respects it and does not depend on the order, so that a list of evidence
may be joined in any order (`Alike.joinAll`). -/
namespace Specimen.Evidence

/-- The same up to the order of fields and the examples. -/
inductive Alike : Evidence Shape → Evidence Shape → Prop where
  | unknown : Alike .unknown .unknown
  | null : Alike .null .null
  | anything (nullable) : Alike (.anything nullable) (.anything nullable)
  | scalar (kind nullable) : Alike (.scalar kind nullable) (.scalar kind nullable)
  | array {a b} (h : Alike a b) (nullable) : Alike (.array a nullable) (.array b nullable)
  | dictionary {a b} (h : Alike a b) (nullable) :
    Alike (.dictionary a nullable) (.dictionary b nullable)
  | object {s t : Shape} (names : (s.fields.map Field.name).Perm (t.fields.map Field.name))
    (seen : s.seen = t.seen)
    (present : ∀ name f g, Field.find? s.fields name = some f → Field.find? t.fields name = some g →
      f.presentIn = g.presentIn)
    (types : ∀ name f g, Field.find? s.fields name = some f → Field.find? t.fields name = some g →
      Alike f.type g.type) (nullable) : Alike (.object s nullable) (.object t nullable)

namespace Alike

@[refl]
theorem refl (a : Evidence Shape) : a.Alike a := by
  induction a using Evidence.shape_induction with
  | unknown => exact .unknown
  | null => exact .null
  | anything n => exact .anything n
  | scalar k n => exact .scalar k n
  | array x n ih => exact .array ih n
  | dictionary x n ih => exact .dictionary ih n
  | object s n ih =>
    have hsame : ∀ {name f g}, Field.find? s.fields name = some f →
        Field.find? s.fields name = some g → f = g :=
      fun hf hg => Option.some.inj (hf.symm.trans hg)
    refine .object (.refl _) rfl (fun name f g hf hg => ?_) (fun name f g hf hg => ?_) n
    · rw [hsame hf hg]
    · rw [← hsame hf hg]
      exact ih f (Field.mem_of_find? hf)

theorem trans {a b c : Evidence Shape} (hab : a.Alike b) (hbc : b.Alike c) : a.Alike c := by
  induction hab generalizing c with
  | unknown => exact hbc
  | null => exact hbc
  | anything n => exact hbc
  | scalar k n => exact hbc
  | array _ n ih =>
    cases hbc with
    | array h _ => exact .array (ih h) n
  | dictionary _ n ih =>
    cases hbc with
    | dictionary h _ => exact .dictionary (ih h) n
  | @object s t hnames hseen hpresent _ n ih =>
    cases hbc with
    | @object _ u hnames' hseen' hpresent' htypes' =>
      have hmiddle : ∀ {name f}, Field.find? s.fields name = some f →
          ∃ g, Field.find? t.fields name = some g :=
        fun hf => Field.exists_find? (hnames.subset (Field.mem_names_of_find? hf))
      refine .object (hnames.trans hnames') (hseen.trans hseen') (fun name f h hf hh => ?_)
        (fun name f h hf hh => ?_) n
      · obtain ⟨g, hg⟩ := hmiddle hf
        exact (hpresent name f g hf hg).trans (hpresent' name g h hg hh)
      · obtain ⟨g, hg⟩ := hmiddle hf
        exact ih name f g hf hg (htypes' name g h hg hh)

theorem head_eq {a b : Evidence Shape} (h : a.Alike b) : a.head = b.head := by
  cases h <;> rfl

theorem isNullable_eq {a b : Evidence Shape} (h : a.Alike b) : a.isNullable = b.isNullable := by
  cases h <;> rfl

theorem isAnything_eq {a b : Evidence Shape} (h : a.Alike b) : a.isAnything = b.isAnything := by
  cases h <;> rfl

theorem intoNullable {a b : Evidence Shape} (h : a.Alike b) :
    a.intoNullable.Alike b.intoNullable := by
  cases h with
  | unknown => exact .null
  | null => exact .null
  | anything n => exact .anything true
  | scalar k n => exact .scalar k true
  | array h n => exact .array h true
  | dictionary h n => exact .dictionary h true
  | object hnames hseen hpresent htypes n => exact .object hnames hseen hpresent htypes true

/-- Where the kind leaves nothing open, kinds and nulls are enough to compare. -/
theorem of_flat {a b : Evidence Shape} (ha : a.head.flat = true) (hhead : a.head = b.head)
    (hnull : a.isNullable = b.isNullable) : a.Alike b :=
  eq_of_flat ha hhead hnull ▸ .refl a

end Alike

/-! ### Shapes -/

/-- What two shapes have under a key: nothing, or fields of as many objects and with types that are
alike. -/
def AlikeFields : Option (Field Shape) → Option (Field Shape) → Prop :=
  Option.Rel fun f g => f.presentIn = g.presentIn ∧ f.type.Alike g.type

namespace AlikeFields
variable {f? f'? g? g'? : Option (Field Shape)}

theorem intro (hsome : f?.isSome = true ↔ g?.isSome = true)
    (h : ∀ f g, f? = some f → g? = some g → f.presentIn = g.presentIn ∧ f.type.Alike g.type) :
    AlikeFields f? g? := by
  cases f? with
  | none =>
    cases g? with
    | none => exact .none
    | some g => cases hsome.mpr rfl
  | some f =>
    cases g? with
    | none => cases hsome.mp rfl
    | some g => exact .some (h f g rfl rfl)

theorem isSome_eq (h : AlikeFields f? g?) : f?.isSome = g?.isSome := by
  cases h <;> rfl

theorem merged (hf : AlikeFields f? f'?) (hg : AlikeFields g? g'?)
    (hjoin : ∀ f f', f? = some f → f'? = some f' →
      ∀ b b' : Evidence Shape, b.Alike b' → (f.type.join b).Alike (f'.type.join b')) :
    AlikeFields (Field.merged? f? g?) (Field.merged? f'? g'?) := by
  cases hf with
  | none =>
    cases hg with
    | none => exact .none
    | some hg => exact .some ⟨hg.1, hg.2.intoNullable⟩
  | some hf =>
    cases hg with
    | none => exact .some ⟨hf.1, hf.2.intoNullable⟩
    | some hg => exact .some ⟨congrArg₂ (· + ·) hf.1 hg.1, hjoin _ _ rfl rfl _ _ hg.2⟩

theorem merged_comm (h : ∀ f g, f? = some f → g? = some g →
      (f.type.join g.type).Alike (g.type.join f.type)) :
    AlikeFields (Field.merged? f? g?) (Field.merged? g? f?) := by
  cases f? with
  | none =>
    cases g? with
    | none => exact .none
    | some g => exact .some ⟨rfl, .refl _⟩
  | some f =>
    cases g? with
    | none => exact .some ⟨rfl, .refl _⟩
    | some g => exact .some ⟨Nat.add_comm .., h f g rfl rfl⟩

end AlikeFields

/-- Two shapes up to the order of fields and the examples. -/
structure AlikeShapes (s t : Shape) : Prop where
  names : (s.fields.map Field.name).Perm (t.fields.map Field.name)
  seen : s.seen = t.seen
  fields : ∀ name, AlikeFields (Field.find? s.fields name) (Field.find? t.fields name)

theorem alike_object {s t : Shape} {n : Bool} :
    (object s n).Alike (.object t n) ↔ AlikeShapes s t := by
  constructor
  · intro h
    cases h with
    | object hnames hseen hpresent htypes =>
      refine ⟨hnames, hseen, fun name => .intro ?_ fun f g hf hg =>
        ⟨hpresent name f g hf hg, htypes name f g hf hg⟩⟩
      exact Field.isSome_find?.trans (hnames.mem_iff.trans Field.isSome_find?.symm)
  · intro ⟨hnames, hseen, hfields⟩
    have hboth : ∀ name f g, Field.find? s.fields name = some f → Field.find? t.fields name = some g →
        f.presentIn = g.presentIn ∧ f.type.Alike g.type := by
      intro name f g hf hg
      have h := hfields name
      rw [hf, hg] at h
      cases h with
      | some h => exact h
    exact .object hnames hseen (fun name f g hf hg => (hboth name f g hf hg).1)
      (fun name f g hf hg => (hboth name f g hf hg).2) n

namespace AlikeShapes
variable {s s' t t' : Shape}

/-- Merged shapes are alike if the shapes are, given that joining respects it for the fields of the
first. -/
theorem merge (hs : AlikeShapes s s') (ht : AlikeShapes t t')
    (hjoin : ∀ name f f', Field.find? s.fields name = some f → Field.find? s'.fields name = some f' →
      ∀ b b' : Evidence Shape, b.Alike b' → (f.type.join b).Alike (f'.type.join b')) :
    AlikeShapes (s.merge t) (s'.merge t') where
  names := by
    have hnone : ∀ name, (Field.find? s.fields name).isNone = (Field.find? s'.fields name).isNone := by
      intro name
      rw [← Option.not_isSome, ← Option.not_isSome, (hs.fields name).isSome_eq]
    rw [Shape.names_merge, Shape.names_merge]
    simp only [hnone]
    exact hs.names.append (ht.names.filter _)
  seen := by rw [Shape.seen_merge, Shape.seen_merge, hs.seen, ht.seen]
  fields name := by
    rw [Shape.find?_merge_eq, Shape.find?_merge_eq]
    exact (hs.fields name).merged (ht.fields name) (hjoin name)

/-- Two shapes may be merged in either order, if that holds of the types of their fields. -/
theorem merge_comm (hs : (s.fields.map Field.name).Nodup) (ht : (t.fields.map Field.name).Nodup)
    (htypes : ∀ f ∈ s.fields, ∀ g ∈ t.fields, (f.type.join g.type).Alike (g.type.join f.type)) :
    AlikeShapes (s.merge t) (t.merge s) := by
  have hfields : ∀ name, AlikeFields (Field.find? (s.merge t).fields name)
      (Field.find? (t.merge s).fields name) := by
    intro name
    rw [Shape.find?_merge_eq, Shape.find?_merge_eq]
    exact .merged_comm fun f g hf hg =>
      htypes f (Field.mem_of_find? hf) g (Field.mem_of_find? hg)
  refine ⟨?_, by rw [Shape.seen_merge, Shape.seen_merge, Nat.add_comm], hfields⟩
  rw [List.perm_ext_iff_of_nodup (Shape.nodup_names_merge hs ht) (Shape.nodup_names_merge ht hs)]
  intro name
  rw [← Field.isSome_find?, ← Field.isSome_find?, (hfields name).isSome_eq]

end AlikeShapes

/-! ### Joining -/

namespace Alike

theorem join_of_flat {a a' b b' : Evidence Shape} (ha : a.Alike a') (hb : b.Alike b')
    (h : (a.head.join b.head).flat = true) : (a.join b).Alike (a'.join b') := by
  refine .of_flat ?_ ?_ ?_
  · rwa [head_join]
  · rw [head_join, head_join, ha.head_eq, hb.head_eq]
  · rw [isNullable_join, isNullable_join, ha.isNullable_eq, hb.isNullable_eq]

theorem join {a a' b b' : Evidence Shape} (ha : a.Alike a') (hb : b.Alike b') :
    (a.join b).Alike (a'.join b') := by
  induction ha generalizing b b' with
  | unknown =>
    rw [unknown_join, unknown_join]
    exact hb
  | null =>
    rw [null_join, null_join]
    exact hb.intoNullable
  | anything m => exact join_of_flat (.anything m) hb (Head.flat_join rfl _)
  | scalar j m => exact join_of_flat (.scalar j m) hb (Head.flat_join rfl _)
  | array h m ih =>
    cases hb with
    | unknown => exact .array h m
    | null => exact .array h true
    | array h' n => exact .array (ih h') (m || n)
    | _ => exact .refl _
  | dictionary h m ih =>
    cases hb with
    | unknown => exact .dictionary h m
    | null => exact .dictionary h true
    | dictionary h' n => exact .dictionary (ih h') (m || n)
    | _ => exact .refl _
  | @object s s' hnames hseen hpresent htypes m ih =>
    have hs : (Evidence.object s m).Alike (.object s' m) :=
      .object hnames hseen hpresent htypes m
    cases hb with
    | unknown => exact hs
    | null => exact hs.intoNullable
    | @object t t' hnames' hseen' hpresent' htypes' n =>
      have ht : (Evidence.object t n).Alike (.object t' n) :=
        .object hnames' hseen' hpresent' htypes' n
      refine alike_object.mpr ((alike_object.mp hs).merge (alike_object.mp ht) ?_)
      exact fun name f f' hf hf' b b' hb => ih name f f' hf hf' hb
    | _ => exact .refl _

theorem join_comm_of_flat {a b : Evidence Shape} (h : (a.head.join b.head).flat = true) :
    (a.join b).Alike (b.join a) := by
  refine .of_flat ?_ ?_ ?_
  · rwa [head_join]
  · rw [head_join, head_join, Head.join_comm]
  · rw [isNullable_join, isNullable_join, Bool.or_comm]

theorem join_comm {a b : Evidence Shape} (ha : a.DistinctKeys) (hb : b.DistinctKeys) :
    (a.join b).Alike (b.join a) := by
  induction a using Evidence.shape_induction generalizing b with
  | unknown => rw [unknown_join, join_unknown]
  | null => rw [null_join, join_null]
  | anything m => exact join_comm_of_flat (Head.flat_join rfl _)
  | scalar j m => exact join_comm_of_flat (Head.flat_join rfl _)
  | array x m ih =>
    cases b with
    | array y n =>
      change (Evidence.array (x.join y) (m || n)).Alike (.array (y.join x) (n || m))
      rw [Bool.or_comm n m]
      exact .array (ih ha.of_array hb.of_array) _
    | unknown => rfl
    | null => rfl
    | _ => exact join_comm_of_flat rfl
  | dictionary x m ih =>
    cases b with
    | dictionary y n =>
      change (Evidence.dictionary (x.join y) (m || n)).Alike (.dictionary (y.join x) (n || m))
      rw [Bool.or_comm n m]
      exact .dictionary (ih ha.of_dictionary hb.of_dictionary) _
    | unknown => rfl
    | null => rfl
    | _ => exact join_comm_of_flat rfl
  | object s m ih =>
    cases b with
    | object t n =>
      obtain ⟨hs, hstypes⟩ := distinctKeys_object.mp ha
      obtain ⟨ht, httypes⟩ := distinctKeys_object.mp hb
      rw [join_objects, join_objects, Bool.or_comm n m]
      refine alike_object.mpr (.merge_comm hs ht fun f hf g hg => ?_)
      exact ih f hf (hstypes f hf) (httypes g hg)
    | unknown => rfl
    | null => rfl
    | _ => exact join_comm_of_flat rfl

/-! ### Lists of evidence -/

theorem foldl_join {a b : Evidence Shape} (h : a.Alike b) {es fs : List (Evidence Shape)}
    (hes : List.Forall₂ Alike es fs) :
    (es.foldl Evidence.join a).Alike (fs.foldl Evidence.join b) := by
  induction hes generalizing a b with
  | nil => exact h
  | cons hx _ ih => exact ih (h.join hx)

/-- Of two pieces of evidence that are joined one after the other, either may come first. -/
theorem join_right_comm {a b c : Evidence Shape} (ha : a.KeepsExamples)
    (hb : b.DistinctKeys ∧ b.KeepsExamples) (hc : c.DistinctKeys ∧ c.KeepsExamples) :
    ((a.join b).join c).Alike ((a.join c).join b) := by
  rw [join_assoc ha hb.2 hc.2, join_assoc ha hc.2 hb.2]
  exact (Alike.refl a).join (join_comm hb.1 hc.1)

theorem foldl_join_perm {a : Evidence Shape} (ha : a.KeepsExamples) {es fs : List (Evidence Shape)}
    (hes : ∀ e ∈ es, e.DistinctKeys ∧ e.KeepsExamples) (h : es.Perm fs) :
    (es.foldl Evidence.join a).Alike (fs.foldl Evidence.join a) := by
  induction h generalizing a with
  | nil => rfl
  | cons x _ ih =>
    obtain ⟨hx, hes⟩ := List.forall_mem_cons.mp hes
    exact ih (ha.join hx.2) hes
  | swap x y l =>
    obtain ⟨hy, hx, -⟩ := List.forall_mem_cons.mp hes |>.imp_right List.forall_mem_cons.mp
    exact foldl_join (join_right_comm ha hy hx) (List.forall₂_same.mpr fun _ _ => .refl _)
  | trans h _ ih ih' => exact (ih ha hes).trans (ih' ha fun e he => hes e (h.mem_iff.mpr he))

/-- Evidence may be joined in any order. -/
theorem joinAll {es fs : List (Evidence Shape)}
    (hes : ∀ e ∈ es, e.DistinctKeys ∧ e.KeepsExamples) (h : Matched Alike es fs) :
    (Evidence.joinAll es).Alike (Evidence.joinAll fs) := by
  obtain ⟨gs, hperm, hgs⟩ := h
  exact (foldl_join_perm .unknown hes hperm).trans (foldl_join .unknown hgs)

end Alike

end Specimen.Evidence
