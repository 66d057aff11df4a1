import Specimen.Proofs.Classes.Growth
import Specimen.Proofs.Evidence.Sketch

/-! Classes that are separate stay separate.

When a class is enlisted, every earlier class with its keys has a field of a type that conflicts with
the new one's. Types only widen, and a conflict survives widening, so the conflict is there in every
later table: no two classes with the same keys could ever be merged (`same_keys_clash`).

The conflict also says how two classes differ. All classes that the two types lead to when the later
class is enlisted are earlier than it. So classes that unfold to the same tree would differ in a field
at which two earlier classes unfold to the same tree, and the descent has to end: no two classes
describe the same shape (`no_two_classes_alike`), nor even the same sketch. The descent needs to know
that the conflict is between earlier classes, hence `agreeBelow` in place of equality. -/
namespace Specimen

namespace Evidence

/-- Two types are the same tree, their nullability aside, where `R` compares objects. -/
def SameTree {O : Type} (R : O → O → Prop) : Evidence O → Evidence O → Prop
  | .unknown, .unknown => True
  | .null, .null => True
  | .anything _, .anything _ => True
  | .scalar j _, .scalar k _ => j = k
  | .array x _, .array y _ => SameTree R x y
  | .dictionary x _, .dictionary y _ => SameTree R x y
  | .object x _, .object y _ => R x y
  | _, _ => False

/-- Types that conflict although they are the same tree conflict in their objects. -/
theorem SameTree.exists_of_incompatible {O : Type} {R : O → O → Prop} {c : O → O → Bool}
    {a b : Evidence O} (h : a.SameTree R b) (hc : compatibleWith c a b = false) :
    ∃ x y, R x y ∧ c x y = false := by
  induction a generalizing b with
  | array x m ih =>
    cases b with
    | array y n => exact ih h hc
    | _ => cases h
  | dictionary x m ih =>
    cases b with
    | dictionary y n => exact ih h hc
    | _ => cases h
  | object x m =>
    cases b with
    | object y n => exact ⟨x, y, h, hc⟩
    | _ => cases h
  | scalar j m =>
    cases b with
    | scalar k n =>
      cases (show j = k from h)
      cases j <;> cases hc
    | _ => cases h
  | _ => cases b <;> simp [SameTree, compatibleWith] at h hc

end Evidence

namespace ClassTable

/-- Classes that are the same, or of which one has not been discovered among the first `bound`. -/
def agreeBelow (bound : Nat) (x y : ClassId) : Bool :=
  x == y || bound ≤ x.index || bound ≤ y.index

theorem agreeBelow_eq_false {bound : Nat} {x y : ClassId} :
    agreeBelow bound x y = false ↔ x ≠ y ∧ x.index < bound ∧ y.index < bound := by
  simp [agreeBelow, and_assoc]

theorem agreeBelow_symm (bound : Nat) (x y : ClassId) :
    agreeBelow bound x y = agreeBelow bound y x := by
  simp only [agreeBelow, Bool.or_assoc]
  rw [BEq.comm, Bool.or_comm (decide (bound ≤ x.index))]

/-- Two lists of fields have types under the key that conflict, where `c` says which classes do
not. -/
def Conflict (c : ClassId → ClassId → Bool) (fs gs : List (Field ClassId)) (name : String) : Prop :=
  ∃ f g, Field.find? fs name = some f ∧ Field.find? gs name = some g ∧
    Evidence.compatibleWith c f.type g.type = false

section Conflict
variable {c c' : ClassId → ClassId → Bool} {fs gs : List (Field ClassId)} {name : String}

theorem Conflict.symm (hc : ∀ x y, c x y = c y x) (h : Conflict c fs gs name) :
    Conflict c gs fs name := by
  obtain ⟨f, g, hf, hg, hfg⟩ := h
  exact ⟨g, f, hg, hf, by rwa [Evidence.compatibleWith_symm hc]⟩

theorem Conflict.mono (hc : ∀ x y, c' x y = true → c x y = true) (h : Conflict c fs gs name) :
    Conflict c' fs gs name := by
  obtain ⟨f, g, hf, hg, hfg⟩ := h
  refine ⟨f, g, hf, hg, ?_⟩
  cases hfg' : Evidence.compatibleWith c' f.type g.type with
  | false => rfl
  | true =>
    rw [Evidence.compatibleWith_mono hc hfg'] at hfg
    cases hfg

/-- A conflict stays while both classes widen. -/
theorem Conflict.widen (hc : ∀ x y, c x y = c y x) {x x' y y' : ClassEntry} (hx : x.Fits x')
    (hy : y.Fits y') (h : Conflict c x.fields y.fields name) :
    Conflict c x'.fields y'.fields name := by
  obtain ⟨f, g, hf, hg, hfg⟩ := h
  obtain ⟨f', hf'⟩ := Field.exists_find? (hx.names ▸ Field.mem_names_of_find? hf)
  obtain ⟨g', hg'⟩ := Field.exists_find? (hy.names ▸ Field.mem_names_of_find? hg)
  refine ⟨f', g', hf', hg', ?_⟩
  cases hfg' : Evidence.compatibleWith c f'.type g'.type with
  | false => rfl
  | true =>
    have hleft := Evidence.compatibleWith_of_fits (hx.types hf hf') hfg'
    rw [Evidence.compatibleWith_symm hc] at hleft
    have hboth := Evidence.compatibleWith_of_fits (hy.types hg hg') hleft
    rw [Evidence.compatibleWith_symm hc, hfg] at hboth
    cases hboth

end Conflict

/-- Every class conflicts with every earlier one of the same keys, by classes earlier than it if by
classes. -/
structure Separated (t : ClassTable) : Prop where
  conflict : ∀ {i j x y}, i.index < j.index → t.entry? i = some x → t.entry? j = some y →
    (∀ name, name ∈ x.fields.map Field.name ↔ name ∈ y.fields.map Field.name) →
    ∃ name, Conflict (agreeBelow j.index) x.fields y.fields name

theorem Separated.empty : ({} : ClassTable).Separated :=
  ⟨fun _ hx => nomatch hx⟩

/-- A table in which no class is new keeps the conflicts of a table it widens. -/
theorem Separated.of_widened {t u : ClassTable} (ht : t.Separated)
    (hold : ∀ {i y}, u.entry? i = some y → ∃ x, t.entry? i = some x ∧ x.Fits y) :
    u.Separated := by
  refine ⟨fun {i j x y} hij hx hy hkeys => ?_⟩
  obtain ⟨x₀, hx₀, hxf⟩ := hold hx
  obtain ⟨y₀, hy₀, hyf⟩ := hold hy
  rw [← hxf.names, ← hyf.names] at hkeys
  obtain ⟨name, h⟩ := ht.conflict hij hx₀ hy₀ hkeys
  exact ⟨name, h.widen (agreeBelow_symm _) hxf hyf⟩

variable {t u : ClassTable} {id : ClassId} {fields : List (Field ClassId)} {seen : Nat}

/-- Enlisting a class that the index offers no place for keeps the classes apart: each earlier class
with its keys has refused the fields, and the refusal is about classes already there. -/
theorem separated_enlist (ht : t.WellFormed) (hs : t.Separated) (hd : (fields.map Field.name).Nodup)
    (hb : ∀ f ∈ fields, f.type.RefersBelow t.entries.length)
    (hnone : ∀ id ∈ t.indexed (sortedKeys fields), ∀ entry, t.entry? id = some entry →
      entry.accepts fields = false) : (t.enlist fields seen).Separated := by
  refine ⟨fun {i j x y} hij hx hy hkeys => ?_⟩
  rcases of_entry?_enlist hx with ⟨rfl, rfl⟩ | hx
  · -- The new class is not earlier than another.
    rcases of_entry?_enlist hy with ⟨rfl, _⟩ | hy
    · exact absurd hij (Nat.lt_irrefl _)
    · exact absurd (index_lt_of_entry hy) (Nat.not_lt_of_lt hij)
  rcases of_entry?_enlist hy with ⟨rfl, rfl⟩ | hy
  · have hindexed : i ∈ t.indexed (sortedKeys fields) :=
      (ht.mem_indexed hx).mpr ((sortedKeys_eq_iff (ht.distinct hx) hd).mpr hkeys)
    obtain ⟨name, f, g, hf, hg, hc⟩ :=
      ClassEntry.exists_incompatible (ht.distinct hx) hd (hnone i hindexed x hx) hkeys
    refine ⟨name, f, g, hf, hg, ?_⟩
    rw [← hc]
    apply Evidence.compatibleWith_congr
    intro a b ha hbc
    have hlt := ht.closed hx f (Field.mem_of_find? hf) a ha
    have hlt' := hb g (Field.mem_of_find? hg) b hbc
    simp only [agreeBelow, Mergeable.compatible, Nat.not_le_of_lt hlt, Nat.not_le_of_lt hlt',
      decide_false, Bool.or_false]
  · exact hs.conflict hij hx hy hkeys

theorem Registers.separated (ht : t.WellFormed) (hs : t.Separated)
    (hd : (fields.map Field.name).Nodup) (hb : ∀ f ∈ fields, f.type.RefersBelow t.entries.length)
    (h : Registers fields seen t id u) : u.Separated := by
  cases h with
  | @absorb id entry hid he ha =>
    refine hs.of_widened fun {i y} hy => ?_
    rcases of_entry?_absorbAt hy with ⟨rfl, x, hx, rfl⟩ | hy
    · rw [he] at hx
      cases hx
      exact ⟨entry, he, ClassEntry.fits_absorb ha seen⟩
    · exact ⟨y, hy, .refl y⟩
  | enlist hnone => exact separated_enlist ht hs hd hb hnone

theorem Grows.separated (h : t.Grows u) (ht : t.WellFormed) (hs : t.Separated) : u.Separated := by
  induction h with
  | refl => exact hs
  | register hg hd hb hr ih => exact hr.separated (hg.wellFormed ht) ih hd hb

theorem Separated.markRoot (hs : t.Separated) (id : ClassId) : (t.markRoot id).Separated := by
  refine hs.of_widened fun hy => ?_
  obtain ⟨x, hx, hxy⟩ := of_entry?_markRoot hy
  refine ⟨x, hx, by rw [hxy], ?_⟩
  rw [hxy]
  exact (ClassEntry.Fits.refl x).types

/-- Whatever is interned, in whatever order, separates its classes. -/
theorem Run.separated (h : ({} : ClassTable).Run t) : t.WellFormed ∧ t.Separated :=
  h.induction (I := fun t => t.WellFormed ∧ t.Separated)
    (fun hg hi => ⟨hg.wellFormed hi.1, hg.separated hi.1 hi.2⟩)
    (fun id hi => ⟨hi.1.markRoot id, hi.2.markRoot id⟩) ⟨.empty, .empty⟩

/-- Different classes with the same keys conflict, whichever is the earlier. -/
theorem Separated.conflict_of_ne (hs : t.Separated) {i j : ClassId} {x y : ClassEntry}
    (hij : i ≠ j) (hx : t.entry? i = some x) (hy : t.entry? j = some y)
    (hkeys : ∀ name, name ∈ x.fields.map Field.name ↔ name ∈ y.fields.map Field.name) :
    ∃ name, Conflict (agreeBelow (max i.index j.index)) x.fields y.fields name := by
  have hne : i.index ≠ j.index := fun h => hij (by cases i; cases j; cases h; rfl)
  rcases Nat.lt_or_gt_of_ne hne with hlt | hgt
  · rw [Nat.max_eq_right (Nat.le_of_lt hlt)]
    exact hs.conflict hlt hx hy hkeys
  · rw [Nat.max_eq_left (Nat.le_of_lt hgt)]
    obtain ⟨name, h⟩ := hs.conflict hgt hy hx fun name => (hkeys name).symm
    exact ⟨name, h.symm (agreeBelow_symm _)⟩

/-! ### Classes with the same keys -/

/-- The two classes have types under the key that are not compatible. -/
def ClashAt (t : ClassTable) (i j : ClassId) (name : String) : Prop :=
  ∃ f g, Field.find? (t.fieldsOf i) name = some f ∧ Field.find? (t.fieldsOf j) name = some g ∧
    f.type.isCompatible g.type = false

theorem clashAt_iff {i j : ClassId} {x y : ClassEntry} (hx : t.entry? i = some x)
    (hy : t.entry? j = some y) {name : String} :
    t.ClashAt i j name ↔ Conflict Mergeable.compatible x.fields y.fields name := by
  rw [ClashAt, fieldsOf_of_entry hx, fieldsOf_of_entry hy]
  rfl

/-- In every table that calls of interning lead to, two classes with the same keys have a field whose
types are not compatible; and where they clash, they clash in every later table. -/
theorem same_keys_clash (ht : ({} : ClassTable).Run t) {i j : ClassId} {x y : ClassEntry}
    (hij : i ≠ j) (hx : t.entry? i = some x) (hy : t.entry? j = some y)
    (hkeys : ∀ name, name ∈ x.fields.map Field.name ↔ name ∈ y.fields.map Field.name) :
    (∃ name, t.ClashAt i j name) ∧
      ∀ name, t.ClashAt i j name → ∀ u, t.Run u → u.ClashAt i j name := by
  constructor
  · obtain ⟨name, h⟩ := ht.separated.2.conflict_of_ne hij hx hy hkeys
    refine ⟨name, (clashAt_iff hx hy).mpr (h.mono fun a b hab => ?_)⟩
    simp only [Mergeable.compatible, agreeBelow] at hab ⊢
    simp [hab]
  · intro name h u hu
    obtain ⟨x', hx', hxf⟩ := hu.extends.entries hx
    obtain ⟨y', hy', hyf⟩ := hu.extends.entries hy
    refine (clashAt_iff hx' hy').mpr (((clashAt_iff hx hy).mp h).widen (fun a b => ?_) hxf hyf)
    simp only [Mergeable.compatible, BEq.comm]

/-- One object with the given fields. -/
def record (fields : List (String × Evidence Shape)) : Evidence Shape :=
  .object ⟨fields.map fun f => ⟨f.1, f.2, 1, []⟩, 1⟩ false

theorem distinctKeys_record {fields : List (String × Evidence Shape)} :
    (record fields).DistinctKeys ↔
      (fields.map Prod.fst).Nodup ∧ ∀ f ∈ fields, f.2.DistinctKeys := by
  have hnames : fields.map Prod.fst =
      (fields.map fun f => (⟨f.1, f.2, 1, []⟩ : Field Shape)).map Field.name := by
    rw [List.map_map]
    rfl
  rw [record, Evidence.distinctKeys_object, List.forall_mem_map, hnames]

/-- The classes of a list whose last link is a null, and of an object with a number under the key of
the links. The list becomes one class that refers to itself. -/
def linksAndNumber : Evidence Shape :=
  record [("list", record [("next", record [("next", .null)])]),
    ("count", record [("next", .scalar .integer false)])]

theorem distinctKeys_linksAndNumber : linksAndNumber.DistinctKeys := by
  simp [linksAndNumber, distinctKeys_record, Evidence.DistinctKeys.null,
    Evidence.DistinctKeys.scalar]

theorem same_keys_clash_linksAndNumber :
    (∃ name, (internRoot linksAndNumber {}).2.ClashAt ⟨0⟩ ⟨1⟩ name) ∧
      ∀ name, (internRoot linksAndNumber {}).2.ClashAt ⟨0⟩ ⟨1⟩ name →
        ∀ u, (internRoot linksAndNumber {}).2.Run u → u.ClashAt ⟨0⟩ ⟨1⟩ name :=
  same_keys_clash (.internRoot .refl distinctKeys_linksAndNumber) (by decide) rfl rfl
    fun _ => Iff.rfl

/-! ### Classes that unfold to the same tree -/

/-- Related classes have the same keys and, key by key, types that are the same tree, their
nullability aside, where a class may stand for itself or for a related one. -/
structure Bisimulation (t : ClassTable) (R : ClassId → ClassId → Prop) : Prop where
  exists_entries : ∀ {i j}, R i j → ∃ x y, t.entry? i = some x ∧ t.entry? j = some y
  same_keys : ∀ {i j}, R i j →
    ∀ name, name ∈ (t.fieldsOf i).map Field.name ↔ name ∈ (t.fieldsOf j).map Field.name
  same_types : ∀ {i j}, R i j → ∀ {name f g}, Field.find? (t.fieldsOf i) name = some f →
    Field.find? (t.fieldsOf j) name = some g → f.type.SameTree (fun a b => a = b ∨ R a b) g.type

/-- Related classes have the same keys, and types under them that conflict only in classes that are
related again. -/
structure Similar (t : ClassTable) (R : ClassId → ClassId → Prop) : Prop where
  exists_entries : ∀ {i j}, R i j → ∃ x y, t.entry? i = some x ∧ t.entry? j = some y
  same_keys : ∀ {i j}, R i j →
    ∀ name, name ∈ (t.fieldsOf i).map Field.name ↔ name ∈ (t.fieldsOf j).map Field.name
  of_conflict : ∀ {i j}, R i j → ∀ {name f g}, Field.find? (t.fieldsOf i) name = some f →
    Field.find? (t.fieldsOf j) name = some g → ∀ {c : ClassId → ClassId → Bool},
      Evidence.compatibleWith c f.type g.type = false → ∃ a b, (a = b ∨ R a b) ∧ c a b = false

/-- By descent to the earlier classes between which two related classes conflict. -/
theorem Separated.eq_of_similar (hs : t.Separated) {R : ClassId → ClassId → Prop}
    (hR : t.Similar R) {i j : ClassId} (h : R i j) : i = j := by
  generalize hm : max i.index j.index = m
  induction m using Nat.strongRecOn generalizing i j with
  | ind m ih =>
    by_contra hij
    obtain ⟨x, y, hx, hy⟩ := hR.exists_entries h
    have hkeys := hR.same_keys h
    rw [fieldsOf_of_entry hx, fieldsOf_of_entry hy] at hkeys
    obtain ⟨name, f, g, hf, hg, hc⟩ := hs.conflict_of_ne hij hx hy hkeys
    rw [← fieldsOf_of_entry hx] at hf
    rw [← fieldsOf_of_entry hy] at hg
    obtain ⟨a, b, hab, hbound⟩ := hR.of_conflict h hf hg hc
    obtain ⟨hne, ha, hb⟩ := agreeBelow_eq_false.mp hbound
    have hlt : max a.index b.index < m := by omega
    exact hne (ih _ hlt (hab.resolve_left hne) rfl)

theorem Bisimulation.similar {R : ClassId → ClassId → Prop} (h : t.Bisimulation R) :
    t.Similar R where
  exists_entries := h.exists_entries
  same_keys := h.same_keys
  of_conflict hij _ _ _ hf hg _ hc := (h.same_types hij hf hg).exists_of_incompatible hc

/-- Classes of the table of one sketch are related classes. -/
theorem similar_sketch (ht : t.WellFormed) :
    t.Similar fun i j => i ∈ t.ids ∧ j ∈ t.ids ∧
      (Evidence.object i false).sketch t.fieldsOf = (Evidence.object j false).sketch t.fieldsOf where
  exists_entries h := by
    obtain ⟨x, hx⟩ := exists_entry h.1
    obtain ⟨y, hy⟩ := exists_entry h.2.1
    exact ⟨x, y, hx, hy⟩
  same_keys := by
    rintro i j ⟨_, _, h⟩ name
    have hname := congrArg Option.isSome (congrFun h [.field name])
    simp only [Evidence.sketch, Evidence.at?_singleton, Evidence.step?, Option.isSome_map] at hname
    rw [← Field.isSome_find?, ← Field.isSome_find?, hname]
  of_conflict := by
    rintro i j ⟨hi, hj, h⟩ name f g hf hg c hc
    have hstep : (Evidence.object i false).step? t.fieldsOf (.field name) = some f.type := by
      rw [Evidence.step?, hf, Option.map_some]
    obtain ⟨y, hy, hfg⟩ := Evidence.exists_step?_of_sketch_eq h hstep
    rw [Evidence.step?, hg, Option.map_some, Option.some.injEq] at hy
    subst hy
    obtain ⟨a, b, ha, hb, hab, hsketch⟩ := Evidence.exists_of_sketch_eq hfg hc
    have hbelow := ht.refersBelow (Field.mem_of_find? hf) a ha
    have hbelow' := ht.refersBelow (Field.mem_of_find? hg) b hb
    exact ⟨a, b, .inr ⟨mem_ids.mpr hbelow, mem_ids.mpr hbelow', hsketch⟩, hab⟩

/-- A class is determined by its sketch. -/
theorem Separated.eq_of_sketch_eq (hs : t.Separated) (ht : t.WellFormed) {i j : ClassId}
    (hi : i ∈ t.ids) (hj : j ∈ t.ids)
    (h : (Evidence.object i false).sketch t.fieldsOf = (Evidence.object j false).sketch t.fieldsOf) :
    i = j :=
  hs.eq_of_similar (similar_sketch ht) ⟨hi, hj, h⟩

/-- At every place there is the same kind in both types, or nothing in either. -/
def SameUnfolding (t : ClassTable) (a b : Evidence ClassId) : Prop :=
  ∀ p : Path, (a.at? t.fieldsOf p).map Evidence.head = (b.at? t.fieldsOf p).map Evidence.head

theorem SameUnfolding.sketch_eq {a b : Evidence ClassId} (h : t.SameUnfolding a b) :
    a.sketch t.fieldsOf = b.sketch t.fieldsOf := by
  funext p
  have hp := congrArg (Option.map Evidence.Head.group) (h p)
  rwa [Option.map_map, Option.map_map] at hp

/-- No two classes describe the same shape, also where classes refer to each other in a cycle: related
classes are equal under every relation that only relates alike classes, and classes that unfold to the
same tree of keys and kinds are equal. -/
theorem no_two_classes_alike {e : Evidence Shape} (he : e.DistinctKeys) :
    (∀ R, (internRoot e {}).2.Bisimulation R → ∀ i j, R i j → i = j) ∧
      ∀ i ∈ (internRoot e {}).2.ids, ∀ j ∈ (internRoot e {}).2.ids,
        (internRoot e {}).2.SameUnfolding (.object i false) (.object j false) → i = j := by
  obtain ⟨hwf, hs⟩ := Run.separated (.internRoot .refl he)
  constructor
  · exact fun R hR i j h => hs.eq_of_similar hR.similar h
  · exact fun i hi j hj h => hs.eq_of_sketch_eq hwf hi hj h.sketch_eq

/-- The class that refers to itself does not unfold like the one with the number. -/
theorem no_two_classes_alike_linksAndNumber :
    ¬ (internRoot linksAndNumber {}).2.SameUnfolding (.object ⟨0⟩ false) (.object ⟨1⟩ false) :=
  fun h => absurd
    ((no_two_classes_alike distinctKeys_linksAndNumber).2 ⟨0⟩ (by decide) ⟨1⟩ (by decide) h)
    (by decide)

end ClassTable

end Specimen
