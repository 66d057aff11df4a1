import Specimen.Proofs.Evidence.Order
import Specimen.Proofs.Evidence.Paths

/-! The outline of a type.

The sketch of a type is the kind of value at each of its places, with all kinds of numbers taken for one
and nulls left out. Types of one sketch can be told apart only by the classes in them
(`exists_of_sketch_eq`). Where every place of a type has a kind of its own, the type is settled, and
whatever takes it in has its sketch (`Fits.sketch_eq`). -/
namespace Specimen.Evidence

namespace Head

/-- The kind, with all kinds of numbers taken for one. -/
def group : Head → Head
  | .scalar k => .scalar (if k.width?.isSome then .float else k)
  | h => h

/-- A kind of value has been seen, not only nulls. -/
def Settled (h : Head) : Prop := h ≠ .unknown ∧ h ≠ .null

theorem isSome_join_of_group_eq {j k : Scalar}
    (h : (Head.scalar j).group = (Head.scalar k).group) : (j.join k).isSome = true := by
  revert h
  cases j <;> cases k <;> decide

theorem group_eq_of_le {g h : Head} (hg : g.Settled) (hgh : g.le h = true) :
    g.group = h.group := by
  cases g with
  | unknown => exact absurd rfl hg.1
  | null => exact absurd rfl hg.2
  | scalar j =>
    cases h with
    | scalar k =>
      revert hgh
      cases j <;> cases k <;> decide
    | _ => cases hgh
  | _ => cases h <;> first | rfl | cases hgh

end Head

section Sketch
variable {O P : Type} (fields : O → List (Field O)) (fields' : P → List (Field P))

def sketch (e : Evidence O) (p : Path) : Option Head := (e.at? fields p).map fun x => x.head.group

/-- Every place has a kind. -/
def Settled (e : Evidence O) : Prop := ∀ p x, e.at? fields p = some x → x.head.Settled

variable {fields fields'}

theorem Settled.at? {e x : Evidence O} (h : e.Settled fields) {p : Path}
    (hx : e.at? fields p = some x) : x.Settled fields :=
  fun q y hy => h (p ++ q) y (by rw [at?_append_of_eq fields hx, hy])

theorem settled_scalar (k : Scalar) (n : Bool) : (scalar k n : Evidence O).Settled fields := by
  intro p x hx
  cases p with
  | nil =>
    cases hx
    exact ⟨nofun, nofun⟩
  | cons s p => cases s <;> cases hx

/-- An object is settled if its fields are. -/
theorem settled_object {o : O} (h : ∀ f ∈ fields o, f.type.Settled fields) (n : Bool) :
    (object o n).Settled fields := by
  intro p x hx
  cases p with
  | nil =>
    cases hx
    exact ⟨nofun, nofun⟩
  | cons s p =>
    obtain ⟨y, hy, hx⟩ := Option.bind_eq_some_iff.mp hx
    cases s with
    | element => cases hy
    | field name =>
      obtain ⟨f, hf, rfl⟩ := Option.map_eq_some_iff.mp hy
      exact h f (Field.mem_of_find? hf) p x hx

/-- What a class has inside does not depend on whether it may be null. -/
theorem sketch_object (o : O) (m n : Bool) :
    (object o m).sketch fields = (object o n).sketch fields := by
  funext p
  cases p with
  | nil => rfl
  | cons s p => cases s <;> rfl

/-- Types of one sketch have the same places, and of one sketch there. -/
theorem exists_at?_of_sketch_eq {a x : Evidence O} {b : Evidence P}
    (h : a.sketch fields = b.sketch fields') {p : Path} (hx : a.at? fields p = some x) :
    ∃ y, b.at? fields' p = some y ∧ x.sketch fields = y.sketch fields' := by
  have hp : some x.head.group = b.sketch fields' p := by
    rw [← h, sketch, hx, Option.map_some]
  obtain ⟨y, hy, _⟩ := Option.map_eq_some_iff.mp hp.symm
  refine ⟨y, hy, ?_⟩
  funext q
  have hq := congrFun h (p ++ q)
  rwa [sketch, sketch, at?_append_of_eq fields hx, at?_append_of_eq fields' hy] at hq

theorem exists_step?_of_sketch_eq {a x : Evidence O} {b : Evidence P}
    (h : a.sketch fields = b.sketch fields') {s : Step} (hx : a.step? fields s = some x) :
    ∃ y, b.step? fields' s = some y ∧ x.sketch fields = y.sketch fields' := by
  rw [← at?_singleton] at hx
  obtain ⟨y, hy, hxy⟩ := exists_at?_of_sketch_eq h hx
  exact ⟨y, at?_singleton fields' s b ▸ hy, hxy⟩

theorem head_of_sketch_eq {a : Evidence O} {b : Evidence P}
    (h : a.sketch fields = b.sketch fields') : a.head.group = b.head.group :=
  Option.some.inj (congrFun h [])

/-- Types of one sketch that conflict conflict in the objects inside, which are of one sketch again. -/
theorem exists_of_sketch_eq {c : O → O → Bool} {a b : Evidence O}
    (h : a.sketch fields = b.sketch fields) (hc : compatibleWith c a b = false) :
    ∃ x y, a.innermost? = some x ∧ b.innermost? = some y ∧ c x y = false ∧
      (object x false).sketch fields = (object y false).sketch fields := by
  have hhead := head_of_sketch_eq h
  induction a generalizing b with
  | scalar j m =>
    cases b with
    | scalar k n =>
      rw [compatibleWith, Head.isSome_join_of_group_eq hhead] at hc
      cases hc
    | _ => cases hhead
  | array x m ih =>
    cases b with
    | array y n =>
      obtain ⟨y', hy', hxy⟩ := exists_step?_of_sketch_eq (s := .element) h rfl
      cases hy'
      exact ih (b := y) hxy hc (head_of_sketch_eq hxy)
    | _ => cases hhead
  | dictionary x m ih =>
    cases b with
    | dictionary y n =>
      obtain ⟨y', hy', hxy⟩ := exists_step?_of_sketch_eq (s := .element) h rfl
      cases hy'
      exact ih (b := y) hxy hc (head_of_sketch_eq hxy)
    | _ => cases hhead
  | object x m =>
    cases b with
    | object y n =>
      refine ⟨x, y, rfl, rfl, hc, ?_⟩
      rw [sketch_object x false m, h, sketch_object y n false]
    | _ => cases hhead
  | _ =>
    cases b <;> cases hhead
    cases hc

/-! ### Sketches of wider types -/

/-- Where there is something in what takes in a settled type, there is something in the type, provided
that the objects of the type have the fields of the objects they are compared with. -/
theorem Fits.exists_at? {R : O → P → Prop}
    (hR : ∀ {x y}, R x y → ∀ name g, Field.find? (fields' y) name = some g →
      ∃ f, Field.find? (fields x) name = some f ∧ f.type.Fits R g.type)
    {a : Evidence O} {b y : Evidence P} (h : a.Fits R b) (hs : a.Settled fields) {p : Path}
    (hy : b.at? fields' p = some y) : ∃ x, a.at? fields p = some x := by
  induction p generalizing a b with
  | nil => exact ⟨a, rfl⟩
  | cons s p ih =>
    obtain ⟨b', hb', hy⟩ := Option.bind_eq_some_iff.mp hy
    suffices hstep : ∃ a', a.step? fields s = some a' ∧ a'.Fits R b' by
      obtain ⟨a', ha', hfit⟩ := hstep
      have hs' : a'.Settled fields := hs.at? (p := [s]) (by rw [at?_singleton, ha'])
      obtain ⟨x, hx⟩ := ih hfit hs' hy
      exact ⟨x, by rw [Evidence.at?, ha', Option.bind_some, hx]⟩
    cases h with
    | unknown => exact absurd rfl (hs [] _ rfl).1
    | null => exact absurd rfl (hs [] _ rfl).2
    | array hx _ =>
      cases s <;> cases hb'
      exact ⟨_, rfl, hx⟩
    | dictionary hx _ =>
      cases s <;> cases hb'
      exact ⟨_, rfl, hx⟩
    | object hxy _ =>
      cases s with
      | element => cases hb'
      | field name =>
        obtain ⟨g, hg, rfl⟩ := Option.map_eq_some_iff.mp hb'
        obtain ⟨f, hf, hfg⟩ := hR hxy name g hg
        exact ⟨f.type, by rw [step?, hf, Option.map_some], hfg⟩
    | _ => cases s <;> cases hb'

/-- What takes in a settled type has its sketch. -/
theorem Fits.sketch_eq {R : O → P → Prop}
    (hR : ∀ {x y}, R x y → ∀ name f, Field.find? (fields x) name = some f →
      ∃ g, Field.find? (fields' y) name = some g ∧ f.type.Fits R g.type)
    (hR' : ∀ {x y}, R x y → ∀ name g, Field.find? (fields' y) name = some g →
      ∃ f, Field.find? (fields x) name = some f ∧ f.type.Fits R g.type)
    {a : Evidence O} {b : Evidence P} (h : a.Fits R b) (hs : a.Settled fields) :
    a.sketch fields = b.sketch fields' := by
  funext p
  cases hx : a.at? fields p with
  | some x =>
    obtain ⟨y, hy, hxy⟩ := h.at? hR hx
    rw [sketch, sketch, hx, hy, Option.map_some, Option.map_some,
      Head.group_eq_of_le (hs p x hx) hxy.head_le]
  | none =>
    cases hy : b.at? fields' p with
    | none => rw [sketch, sketch, hx, hy, Option.map_none, Option.map_none]
    | some y =>
      obtain ⟨x, hx'⟩ := h.exists_at? hR' hs hy
      rw [hx] at hx'
      cases hx'

end Sketch

/-- Evidence that has seen the same has one sketch. -/
theorem sketch_eq_of_le_le {a b : Evidence Shape} (hab : a.Le b) (hba : b.Le a) :
    a.sketch Shape.fields = b.sketch Shape.fields := by
  funext p
  cases hx : a.at? Shape.fields p with
  | some x =>
    obtain ⟨y, hy, hxy, hyx⟩ := at?_of_le_le hab hba hx
    rw [sketch, sketch, hx, hy, Option.map_some, Option.map_some, (head_eq_of_le_le hxy hyx).1]
  | none =>
    cases hy : b.at? Shape.fields p with
    | none => rw [sketch, sketch, hx, hy]
    | some y =>
      obtain ⟨x, hx', _⟩ := at?_of_le_le hba hab hy
      rw [hx] at hx'
      cases hx'

theorem Settled.of_le_le {a b : Evidence Shape} (h : a.Settled Shape.fields) (hab : a.Le b)
    (hba : b.Le a) : b.Settled Shape.fields := by
  intro p y hy
  obtain ⟨x, hx, hyx, hxy⟩ := at?_of_le_le hba hab hy
  rw [(head_eq_of_le_le hyx hxy).1]
  exact h p x hx

/-- There are objects of one sketch at both places. -/
def AlikeAt (e : Evidence Shape) (p q : Path) : Prop :=
  ∃ s m s' n, e.at? Shape.fields p = some (.object s m) ∧
    e.at? Shape.fields q = some (.object s' n) ∧
    (object s m).sketch Shape.fields = (object s' n).sketch Shape.fields

theorem AlikeAt.of_le_le {a b : Evidence Shape} {p q : Path} (h : a.AlikeAt p q) (hab : a.Le b)
    (hba : b.Le a) : b.AlikeAt p q := by
  obtain ⟨s, m, s', n, hp, hq, hsketch⟩ := h
  obtain ⟨y, hy, hsy, hys⟩ := at?_of_le_le hab hba hp
  obtain ⟨z, hz, hsz, hzs⟩ := at?_of_le_le hab hba hq
  rw [sketch_eq_of_le_le hsy hys, sketch_eq_of_le_le hsz hzs] at hsketch
  cases hsy with
  | anything => cases hys
  | object =>
    cases hsz with
    | anything => cases hzs
    | object => exact ⟨_, _, _, _, hy, hz, hsketch⟩

end Specimen.Evidence
