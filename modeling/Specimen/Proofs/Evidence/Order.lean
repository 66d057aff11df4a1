import Specimen.Proofs.Evidence.Merge
import Specimen.Proofs.Evidence.Paths

/-! The order of evidence, in which joining takes the least upper bound.

`a.Le b` says that `b` has seen all that `a` has: nothing is below everything, everything is below
`anything`, a null is below what admits null, and an object is below one that has its keys with larger
types and in which every other key may be missing. Counts, examples and the order of fields play no
part, and nothing else is left out: evidence is below each other just if the same is seen at every place
(`le_le_iff`). Joining is the least widening (`join_isLeast`), made of `le_join` and `join_le`; since a
least upper bound does not ask for an order, neither does what has been seen (`joinAll_le_of_subset`). -/
namespace Specimen

namespace Evidence

inductive Le : Evidence Shape → Evidence Shape → Prop where
  | unknown {b} : Le .unknown b
  | null {b} (hn : b.isNullable = true) : Le .null b
  | anything {a n} (hn : a.isNullable = true → n = true) : Le a (.anything n)
  | scalar {j k m n} (hk : j.le k = true) (hn : m = true → n = true) :
    Le (.scalar j m) (.scalar k n)
  | array {x y m n} (hx : Le x y) (hn : m = true → n = true) : Le (.array x m) (.array y n)
  | dictionary {x y m n} (hx : Le x y) (hn : m = true → n = true) :
    Le (.dictionary x m) (.dictionary y n)
  | object {s t : Shape} {m n}
    (hkept : ∀ {name f}, Field.find? s.fields name = some f → ∃ g, Field.find? t.fields name = some g)
    (htypes : ∀ {name f g}, Field.find? s.fields name = some f → Field.find? t.fields name = some g →
      Le f.type g.type)
    (hnew : ∀ {name g}, Field.find? s.fields name = none → Field.find? t.fields name = some g →
      g.type.isNullable = true)
    (hn : m = true → n = true) : Le (.object s m) (.object t n)

theorem Le.isNullable {a b : Evidence Shape} (h : a.Le b) (ha : a.isNullable = true) :
    b.isNullable = true := by
  cases h with
  | unknown => cases ha
  | null hn => exact hn
  | _ => rename_i hn; exact hn ha

theorem Le.refl (e : Evidence Shape) : e.Le e := by
  induction e using Evidence.shape_induction with
  | unknown => exact .unknown
  | null => exact .null rfl
  | anything n => exact .anything id
  | scalar k n => exact .scalar k.le_refl id
  | array x n ih => exact .array ih id
  | dictionary x n ih => exact .dictionary ih id
  | object s n ih =>
    refine .object (fun hf => ⟨_, hf⟩) (fun hf hg => ?_) (fun hf hg => ?_) id
    · rw [hf] at hg
      cases hg
      exact ih _ (Field.mem_of_find? hf)
    · rw [hf] at hg
      cases hg

theorem Le.trans {a b c : Evidence Shape} (hab : a.Le b) (hbc : b.Le c) : a.Le c := by
  induction hab generalizing c with
  | unknown => exact .unknown
  | null hn => exact .null (hbc.isNullable hn)
  | anything hn =>
    cases hbc with
    | anything hn' => exact .anything (hn' ∘ hn)
  | scalar hk hn =>
    cases hbc with
    | anything hn' => exact .anything (hn' ∘ hn)
    | scalar hk' hn' => exact .scalar (Scalar.le_trans hk hk') (hn' ∘ hn)
  | array _ hn ih =>
    cases hbc with
    | anything hn' => exact .anything (hn' ∘ hn)
    | array hx' hn' => exact .array (ih hx') (hn' ∘ hn)
  | dictionary _ hn ih =>
    cases hbc with
    | anything hn' => exact .anything (hn' ∘ hn)
    | dictionary hx' hn' => exact .dictionary (ih hx') (hn' ∘ hn)
  | @object s t m n hkept htypes hnew hn ih =>
    cases hbc with
    | anything hn' => exact .anything (hn' ∘ hn)
    | object hkept' htypes' hnew' hn' =>
      refine .object (fun hf => ?_) (fun hf hh => ?_) (fun hf hh => ?_) (hn' ∘ hn)
      · obtain ⟨g, hg⟩ := hkept hf
        exact hkept' hg
      · obtain ⟨g, hg⟩ := hkept hf
        exact ih hf hg (htypes' hg hh)
      · rename_i name h
        cases hg : Field.find? t.fields name with
        | none => exact hnew' hg hh
        | some g => exact (htypes' hg hh).isNullable (hnew hf hg)

/-- Evidence that has seen the same shows the same. -/
theorem head_eq_of_le_le {a b : Evidence Shape} (hab : a.Le b) (hba : b.Le a) :
    a.head = b.head ∧ a.isNullable = b.isNullable := by
  constructor
  · cases hab with
    | unknown =>
      cases hba with
      | unknown => rfl
      | null hn => cases hn
    | null hn =>
      cases hba with
      | unknown => cases hn
      | null _ => rfl
    | anything _ =>
      cases hba
      rfl
    | scalar hjk _ =>
      cases hba with
      | scalar hkj _ => exact congrArg Head.scalar (Scalar.le_antisymm hjk hkj)
    | _ => rfl
  · exact Bool.eq_iff_iff.mpr ⟨hab.isNullable, hba.isNullable⟩

/-- Evidence that has seen the same has the same places, and has seen the same there. -/
theorem at?_of_le_le {a b x : Evidence Shape} (hab : a.Le b) (hba : b.Le a) {p : Path}
    (hx : a.at? Shape.fields p = some x) :
    ∃ y, b.at? Shape.fields p = some y ∧ x.Le y ∧ y.Le x := by
  induction p generalizing a b with
  | nil =>
    cases hx
    exact ⟨b, rfl, hab, hba⟩
  | cons s p ih =>
    obtain ⟨a', ha', hx⟩ := Option.bind_eq_some_iff.mp hx
    suffices hstep : ∃ b', b.step? Shape.fields s = some b' ∧ a'.Le b' ∧ b'.Le a' by
      obtain ⟨b', hb', hab', hba'⟩ := hstep
      obtain ⟨y, hy, hxy⟩ := ih hab' hba' hx
      exact ⟨y, by rw [at?, hb', Option.bind_some, hy], hxy⟩
    cases hab with
    | array hxy _ =>
      cases s <;> cases ha'
      cases hba with
      | array hyx _ => exact ⟨_, rfl, hxy, hyx⟩
    | dictionary hxy _ =>
      cases s <;> cases ha'
      cases hba with
      | dictionary hyx _ => exact ⟨_, rfl, hxy, hyx⟩
    | object hkept htypes _ _ =>
      cases s with
      | element => cases ha'
      | field name =>
        obtain ⟨f, hf, rfl⟩ := Option.map_eq_some_iff.mp ha'
        obtain ⟨g, hg⟩ := hkept hf
        cases hba with
        | object _ htypes' _ _ =>
          exact ⟨g.type, by rw [step?, hg, Option.map_some], htypes hf hg, htypes' hg hf⟩
    | anything _ =>
      cases hba
      cases s <;> cases ha'
    | _ => cases s <;> cases ha'

/-- What is seen at a place: the kind, and whether it may be null. -/
def seenAt (e : Evidence Shape) (p : Path) : Option (Head × Bool) :=
  (e.at? Shape.fields p).map fun x => (x.head, x.isNullable)

theorem seenAt_cons (s : Step) (p : Path) (e : Evidence Shape) :
    e.seenAt (s :: p) = (e.step? Shape.fields s).bind (·.seenAt p) := by
  simp only [seenAt, at?]
  cases e.step? Shape.fields s <;> rfl

theorem seenAt_of_le_le {a b : Evidence Shape} (hab : a.Le b) (hba : b.Le a) (p : Path) :
    a.seenAt p = b.seenAt p := by
  cases ha : a.at? Shape.fields p with
  | some x =>
    obtain ⟨y, hb, hxy, hyx⟩ := at?_of_le_le hab hba ha
    obtain ⟨hhead, hnull⟩ := head_eq_of_le_le hxy hyx
    rw [seenAt, seenAt, ha, hb, Option.map_some, Option.map_some, hhead, hnull]
  | none =>
    cases hb : b.at? Shape.fields p with
    | none => rw [seenAt, seenAt, ha, hb]
    | some y =>
      obtain ⟨x, hx, _⟩ := at?_of_le_le hba hab hb
      cases ha.symm.trans hx

section SeenAlike
variable {a b : Evidence Shape} (h : ∀ p, a.seenAt p = b.seenAt p)
include h

theorem head_eq_of_seenAt_eq : a.head = b.head :=
  congrArg Prod.fst (Option.some.inj (h []))

theorem isNullable_of_seenAt_eq (ha : a.isNullable = true) : b.isNullable = true := by
  have hnull : a.isNullable = b.isNullable := congrArg Prod.snd (Option.some.inj (h []))
  rw [← hnull, ha]

/-- After a step into both, the same is seen at every place again. -/
theorem exists_step?_of_seenAt_eq {s : Step} {x : Evidence Shape}
    (hx : a.step? Shape.fields s = some x) :
    ∃ y, b.step? Shape.fields s = some y ∧ ∀ p, x.seenAt p = y.seenAt p := by
  have hstep : ∀ p, (some x).bind (·.seenAt p) = (b.step? Shape.fields s).bind (·.seenAt p) :=
    fun p => by rw [← hx, ← seenAt_cons, ← seenAt_cons, h (s :: p)]
  cases hy : b.step? Shape.fields s with
  | none =>
    have hnone := hstep []
    rw [hy] at hnone
    cases hnone
  | some y =>
    rw [hy] at hstep
    exact ⟨y, rfl, hstep⟩

end SeenAlike

theorem exists_field_of_seenAt_eq {s t : Shape} {m n : Bool}
    (h : ∀ p, (object s m).seenAt p = (object t n).seenAt p) {name : String} {f : Field Shape}
    (hf : Field.find? s.fields name = some f) :
    ∃ g, Field.find? t.fields name = some g ∧ ∀ p, f.type.seenAt p = g.type.seenAt p := by
  have hx : (object s m).step? Shape.fields (.field name) = some f.type := by
    rw [step?, hf, Option.map_some]
  obtain ⟨y, hy, hfy⟩ := exists_step?_of_seenAt_eq h hx
  obtain ⟨g, hg, rfl⟩ := Option.map_eq_some_iff.mp hy
  exact ⟨g, hg, hfy⟩

theorem le_of_seenAt_eq {a b : Evidence Shape} (h : ∀ p, a.seenAt p = b.seenAt p) : a.Le b := by
  have hhead := head_eq_of_seenAt_eq h
  have hnull := isNullable_of_seenAt_eq h
  induction a using Evidence.shape_induction generalizing b with
  | unknown => exact .unknown
  | null => exact .null (hnull rfl)
  | anything m =>
    cases b with
    | anything n => exact .anything hnull
    | _ => cases hhead
  | scalar j m =>
    cases b with
    | scalar k n =>
      cases hhead
      exact .scalar j.le_refl hnull
    | _ => cases hhead
  | array x m ih =>
    cases b with
    | array y n =>
      obtain ⟨_, hy, hxy⟩ := exists_step?_of_seenAt_eq (s := .element) h rfl
      cases hy
      exact .array (ih hxy (head_eq_of_seenAt_eq hxy) (isNullable_of_seenAt_eq hxy)) hnull
    | _ => cases hhead
  | dictionary x m ih =>
    cases b with
    | dictionary y n =>
      obtain ⟨_, hy, hxy⟩ := exists_step?_of_seenAt_eq (s := .element) h rfl
      cases hy
      exact .dictionary (ih hxy (head_eq_of_seenAt_eq hxy) (isNullable_of_seenAt_eq hxy)) hnull
    | _ => cases hhead
  | object s m ih =>
    cases b with
    | object t n =>
      refine .object (fun hf => ?_) (fun hf hg => ?_) (fun hf hg => ?_) hnull
      · obtain ⟨g, hg, _⟩ := exists_field_of_seenAt_eq h hf
        exact ⟨g, hg⟩
      · obtain ⟨_, hg', hfg⟩ := exists_field_of_seenAt_eq h hf
        cases hg.symm.trans hg'
        exact ih _ (Field.mem_of_find? hf) hfg (head_eq_of_seenAt_eq hfg) (isNullable_of_seenAt_eq hfg)
      · obtain ⟨_, hf', _⟩ := exists_field_of_seenAt_eq (fun p => (h p).symm) hg
        cases hf.symm.trans hf'
    | _ => cases hhead

/-- Evidence is below each other just if the same is seen at every place. -/
theorem le_le_iff {a b : Evidence Shape} : a.Le b ∧ b.Le a ↔ ∀ p, a.seenAt p = b.seenAt p :=
  ⟨fun ⟨hab, hba⟩ => seenAt_of_le_le hab hba,
    fun h => ⟨le_of_seenAt_eq h, le_of_seenAt_eq fun p => (h p).symm⟩⟩

/-! ### Joining -/

theorem le_intoNullable (e : Evidence Shape) : e.Le e.intoNullable := by
  cases e with
  | unknown => exact .unknown
  | null => exact .null rfl
  | anything n => exact .anything fun _ => rfl
  | scalar k n => exact .scalar k.le_refl fun _ => rfl
  | array x n => exact .array (.refl x) fun _ => rfl
  | dictionary x n => exact .dictionary (.refl x) fun _ => rfl
  | object s n =>
    cases Le.refl (.object s n) with
    | object hkept htypes hnew _ => exact .object hkept htypes hnew fun _ => rfl

theorem intoNullable_le {a b : Evidence Shape} (h : a.Le b) (hb : b.isNullable = true) :
    a.intoNullable.Le b := by
  cases h with
  | unknown => exact .null hb
  | null _ => exact .null hb
  | anything _ => exact .anything fun _ => hb
  | scalar hk _ => exact .scalar hk fun _ => hb
  | array hx _ => exact .array hx fun _ => hb
  | dictionary hx _ => exact .dictionary hx fun _ => hb
  | object hkept htypes hnew _ => exact .object hkept htypes hnew fun _ => hb

/-- Against `anything` only nullability is left to compare. -/
theorem le_anything_join {a b : Evidence Shape} {n : Bool} (h : a.join b = .anything n) :
    a.Le (a.join b) ∧ b.Le (a.join b) := by
  have hn := isNullable_join a b
  rw [h] at hn ⊢
  constructor
  · exact .anything fun ha => by rw [show n = _ from hn, ha, Bool.true_or]
  · exact .anything fun hb => by rw [show n = _ from hn, hb, Bool.or_true]

/-- What a merged shape has under a key of the first. -/
theorem find?_merge_left {s t : Shape} {name : String} {f : Field Shape}
    (hf : Field.find? s.fields name = some f) :
    ∃ g, Field.find? (Shape.merge s t).fields name = some g ∧
      ((∃ h, Field.find? t.fields name = some h ∧ g.type = f.type.join h.type) ∨
        g.type = f.type.intoNullable) := by
  rw [Shape.find?_merge, hf]
  cases ht : Field.find? t.fields name with
  | none => exact ⟨_, rfl, .inr rfl⟩
  | some h => exact ⟨_, rfl, .inl ⟨h, rfl, rfl⟩⟩

theorem find?_merge_right {s t : Shape} {name : String} {f : Field Shape}
    (hf : Field.find? t.fields name = some f) :
    ∃ g, Field.find? (Shape.merge s t).fields name = some g ∧
      ((∃ h, Field.find? s.fields name = some h ∧ g.type = h.type.join f.type) ∨
        g.type = f.type.intoNullable) := by
  rw [Shape.find?_merge, hf]
  cases hs : Field.find? s.fields name with
  | none => exact ⟨_, rfl, .inr rfl⟩
  | some h => exact ⟨_, rfl, .inl ⟨h, rfl, rfl⟩⟩

/-- A key that one of two shapes lacks may be missing from the merged shape. -/
theorem isNullable_of_find?_merge {s t : Shape} {name : String} {g : Field Shape}
    (h : Field.find? s.fields name = none ∨ Field.find? t.fields name = none)
    (hg : Field.find? (Shape.merge s t).fields name = some g) : g.type.isNullable = true := by
  rw [Shape.find?_merge] at hg
  split at hg <;> cases hg
  case h_1 f f' hs ht => simp [hs, ht] at h
  case h_2 f _ _ => exact isNullable_intoNullable f.type
  case h_3 f _ _ => exact isNullable_intoNullable f.type

/-- A merged shape is above the first part, if joins with its types are above them. -/
theorem le_merge_left {s t : Shape} (h : ∀ f ∈ s.fields, ∀ e, f.type.Le (f.type.join e)) {m n : Bool}
    (hn : m = true → n = true) : Le (.object s m) (.object (Shape.merge s t) n) := by
  refine .object (fun hf => ?_) (fun hf hg => ?_) (fun hs hg => ?_) hn
  · obtain ⟨g, hg, _⟩ := find?_merge_left (t := t) hf
    exact ⟨g, hg⟩
  · obtain ⟨g', hg', htype⟩ := find?_merge_left (t := t) hf
    rw [hg] at hg'
    cases hg'
    rcases htype with ⟨f', _, heq⟩ | heq
    · rw [heq]
      exact h _ (Field.mem_of_find? hf) f'.type
    · rw [heq]
      exact le_intoNullable _
  · exact isNullable_of_find?_merge (.inl hs) hg

theorem le_merge_right {s t : Shape} (h : ∀ f ∈ s.fields, ∀ e : Evidence Shape, e.Le (f.type.join e))
    {m n : Bool} (hn : m = true → n = true) : Le (.object t m) (.object (Shape.merge s t) n) := by
  refine .object (fun hf => ?_) (fun hf hg => ?_) (fun ht hg => ?_) hn
  · obtain ⟨g, hg, _⟩ := find?_merge_right (s := s) hf
    exact ⟨g, hg⟩
  · obtain ⟨g', hg', htype⟩ := find?_merge_right (s := s) hf
    rw [hg] at hg'
    cases hg'
    rcases htype with ⟨f', hf', heq⟩ | heq
    · rw [heq]
      exact h _ (Field.mem_of_find? hf') _
    · rw [heq]
      exact le_intoNullable _
  · exact isNullable_of_find?_merge (.inr ht) hg

/-- Joined evidence is above both parts. -/
theorem le_join (a b : Evidence Shape) : a.Le (a.join b) ∧ b.Le (a.join b) := by
  induction a using Evidence.shape_induction generalizing b with
  | unknown => exact ⟨.unknown, by rw [unknown_join]; exact .refl b⟩
  | null =>
    rw [null_join]
    exact ⟨.null (isNullable_intoNullable b), le_intoNullable b⟩
  | anything m =>
    cases b with
    | unknown => exact ⟨.refl _, .unknown⟩
    | _ => exact le_anything_join rfl
  | scalar j m =>
    cases b with
    | unknown => exact ⟨.refl _, .unknown⟩
    | null => exact ⟨le_intoNullable _, .null rfl⟩
    | scalar k n =>
      cases hjk : j.join k with
      | none =>
        have h : (scalar j m : Evidence Shape).join (.scalar k n) = .anything (m || n) := by
          simp only [join, joinWith, hjk]
        exact le_anything_join h
      | some l =>
        have h : (scalar j m : Evidence Shape).join (.scalar k n) = .scalar l (m || n) := by
          simp only [join, joinWith, hjk]
        rw [h]
        exact ⟨.scalar (Scalar.le_join_left hjk) fun hm => by rw [hm, Bool.true_or],
          .scalar (Scalar.le_join_right hjk) fun hn => by rw [hn, Bool.or_true]⟩
    | _ => exact le_anything_join rfl
  | array x m ih =>
    cases b with
    | unknown => exact ⟨.refl _, .unknown⟩
    | null => exact ⟨le_intoNullable _, .null rfl⟩
    | array y n =>
      exact ⟨.array (ih y).1 fun hm => by rw [hm, Bool.true_or],
        .array (ih y).2 fun hn => by rw [hn, Bool.or_true]⟩
    | _ => exact le_anything_join rfl
  | dictionary x m ih =>
    cases b with
    | unknown => exact ⟨.refl _, .unknown⟩
    | null => exact ⟨le_intoNullable _, .null rfl⟩
    | dictionary y n =>
      exact ⟨.dictionary (ih y).1 fun hm => by rw [hm, Bool.true_or],
        .dictionary (ih y).2 fun hn => by rw [hn, Bool.or_true]⟩
    | _ => exact le_anything_join rfl
  | object s m ih =>
    cases b with
    | unknown => exact ⟨.refl _, .unknown⟩
    | null => exact ⟨le_intoNullable _, .null rfl⟩
    | object t n =>
      rw [join_objects]
      exact ⟨le_merge_left (fun f hf h => (ih f hf h).1) fun hm => by rw [hm, Bool.true_or],
        le_merge_right (fun f hf h => (ih f hf h).2) fun hn => by rw [hn, Bool.or_true]⟩
    | _ => exact le_anything_join rfl

/-- Joined evidence is below whatever is above both parts. -/
theorem join_le {a b c : Evidence Shape} (ha : a.Le c) (hb : b.Le c) : (a.join b).Le c := by
  induction ha generalizing b with
  | unknown =>
    rw [unknown_join]
    exact hb
  | null hn =>
    rw [null_join]
    exact intoNullable_le hb hn
  | @anything a n hn =>
    cases hb with
    | unknown =>
      rw [join_unknown]
      exact .anything hn
    | null hn' =>
      rw [join_null]
      exact .anything fun _ => hn'
    | anything hn' =>
      refine .anything fun h => ?_
      rw [isNullable_join, Bool.or_eq_true] at h
      exact h.elim hn hn'
  | @scalar j l m n hk hn =>
    cases hb with
    | unknown =>
      rw [join_unknown]
      exact .scalar hk hn
    | null hn' =>
      rw [join_null]
      exact .scalar hk fun _ => hn'
    | @scalar k _ m' _ hk' hn' =>
      obtain ⟨i, hi, hil⟩ := Scalar.join_le hk hk'
      have h : (scalar j m : Evidence Shape).join (.scalar k m') = .scalar i (m || m') := by
        simp only [join, joinWith, hi]
      rw [h]
      exact .scalar hil fun hm => (Bool.or_eq_true _ _ ▸ hm).elim hn hn'
  | @array x z m n hx hn ih =>
    cases hb with
    | unknown =>
      rw [join_unknown]
      exact .array hx hn
    | null hn' =>
      rw [join_null]
      exact .array hx fun _ => hn'
    | array hx' hn' =>
      exact .array (ih hx') fun hm => (Bool.or_eq_true _ _ ▸ hm).elim hn hn'
  | @dictionary x z m n hx hn ih =>
    cases hb with
    | unknown =>
      rw [join_unknown]
      exact .dictionary hx hn
    | null hn' =>
      rw [join_null]
      exact .dictionary hx fun _ => hn'
    | dictionary hx' hn' =>
      exact .dictionary (ih hx') fun hm => (Bool.or_eq_true _ _ ▸ hm).elim hn hn'
  | @object s u m n hkept htypes hnew hn ih =>
    cases hb with
    | unknown =>
      rw [join_unknown]
      exact .object hkept htypes hnew hn
    | null hn' =>
      rw [join_null]
      exact .object hkept htypes hnew fun _ => hn'
    | @object t _ m' _ hkept' htypes' hnew' hn' =>
      rw [join_objects]
      refine .object (fun hf => ?_) (fun hf hg => ?_) (fun hf hg => ?_)
        fun hm => (Bool.or_eq_true _ _ ▸ hm).elim hn hn'
      all_goals rw [Shape.find?_merge] at hf
      · split at hf
        case h_1 hs _ => exact hkept hs
        case h_2 hs _ => exact hkept hs
        case h_3 _ ht => exact hkept' ht
        case h_4 => cases hf
      · split at hf <;> cases hf
        case h_1 hs ht => exact ih hs hg (htypes' ht hg)
        case h_2 hs ht => exact intoNullable_le (htypes hs hg) (hnew' ht hg)
        case h_3 hs ht => exact intoNullable_le (htypes' ht hg) (hnew hs hg)
      · split at hf <;> cases hf
        case h_4 hs _ => exact hnew hs hg

/-- Joining widens as little as can be: the join is above both parts and below all that is above both, and
what else is so is seen alike at every place. A null makes what it is joined with nullable, no more; the
join may be null just if one of the parts may be. -/
theorem join_isLeast (a b : Evidence Shape) :
    a.Le (a.join b) ∧ b.Le (a.join b) ∧ (∀ c, (a.join b).Le c ↔ a.Le c ∧ b.Le c) ∧
      (∀ c : Evidence Shape,
        (∀ d, c.Le d ↔ a.Le d ∧ b.Le d) ↔ ∀ p, c.seenAt p = (a.join b).seenAt p) ∧
      a.join .null = a.intoNullable ∧ (a.join b).isNullable = (a.isNullable || b.isNullable) := by
  obtain ⟨ha, hb⟩ := le_join a b
  have hleast : ∀ c, (a.join b).Le c ↔ a.Le c ∧ b.Le c := fun c =>
    ⟨fun h => ⟨ha.trans h, hb.trans h⟩, fun h => join_le h.1 h.2⟩
  refine ⟨ha, hb, hleast, fun c => ?_, join_null a, isNullable_join a b⟩
  rw [← le_le_iff]
  constructor
  · intro h
    exact ⟨(h _).mpr ⟨ha, hb⟩, (hleast c).mpr ((h c).mp (.refl c))⟩
  · intro ⟨hc, hc'⟩ d
    rw [← hleast]
    exact ⟨hc'.trans, hc.trans⟩

/-! ### Everything seen at one position -/

theorem foldl_join_le {es : List (Evidence Shape)} {e c : Evidence Shape} (he : e.Le c)
    (hes : ∀ x ∈ es, x.Le c) : (es.foldl join e).Le c := by
  induction es generalizing e with
  | nil => exact he
  | cons x es ih =>
    exact ih (join_le he (hes x (List.mem_cons_self ..))) fun y hy =>
      hes y (List.mem_cons_of_mem x hy)

theorem le_foldl_join {es : List (Evidence Shape)} (e : Evidence Shape) :
    e.Le (es.foldl join e) ∧ ∀ x ∈ es, x.Le (es.foldl join e) := by
  induction es generalizing e with
  | nil => exact ⟨.refl e, fun x hx => nomatch hx⟩
  | cons x es ih =>
    obtain ⟨hstart, hrest⟩ := ih (e.join x)
    refine ⟨(le_join e x).1.trans hstart, fun y hy => ?_⟩
    rcases List.mem_cons.mp hy with rfl | hy
    · exact (le_join e y).2.trans hstart
    · exact hrest y hy

theorem le_joinAll {es : List (Evidence Shape)} {x : Evidence Shape} (hx : x ∈ es) :
    x.Le (joinAll es) :=
  (le_foldl_join .unknown).2 x hx

/-- What all of some evidence amounts to does not depend on its order, nor on repetitions. -/
theorem joinAll_le_of_subset {es es' : List (Evidence Shape)} (h : es ⊆ es') :
    (joinAll es).Le (joinAll es') :=
  foldl_join_le .unknown fun _ hx => le_joinAll (h hx)

end Evidence

end Specimen
