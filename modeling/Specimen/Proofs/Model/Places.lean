import Specimen.Proofs.Classes.Support
import Specimen.Proofs.Model.Freeze

/-! Places of a model, and what it says of them.

A path leads through a model by the source names of fields and into elements. `TypeModel.describe` is
the kind and the nullability at its end: all that the model says of the samples apart from the order of
fields, examples, numbers and names of classes. Freezing keeps it (`describe_freeze`), and keeps which
places share a class. -/
namespace Specimen

namespace Evidence

/-- A null shows in nullability, and nothing at all in its absence. -/
def Head.Allows (h : Head) (nullable : Bool) : Prop :=
  (h = .unknown → nullable = false) ∧ (h = .null → nullable = true)

theorem head_allows {O : Type} (e : Evidence O) : e.head.Allows e.isNullable := by
  constructor <;> intro h <;> cases e <;> cases h <;> rfl

theorem Head.eq_of_kind_scalar {h : Head} {k : Scalar} {n : Bool}
    (hk : (Head.scalar k).kind n = h.kind n) : h = .scalar k := by
  cases h with
  | scalar j => cases n <;> cases j <;> cases k <;> first | rfl | cases hk
  | _ => cases n <;> cases k <;> cases hk

/-- Two types that would each show what the other shows, were it wider, are of one kind. The wider types
`g'` and `h'` need only be of that kind: a null and a conflict that also saw a null are not told
apart. -/
theorem Head.kind_eq_of_le {g h g' h' : Head} {n : Bool} (hg : g.Allows n) (hh : h.Allows n)
    (hgh : g.le h' = true) (hh' : h'.kind n = h.kind n) (hhg : h.le g' = true)
    (hg' : g'.kind n = g.kind n) : g.kind n = h.kind n := by
  -- A type that shows a kind of its own stays of that kind, unless it is a number.
  have hsolid : ∀ {a b a' b' : Head}, a ≠ .unknown → a ≠ .null → a.le b' = true →
      b'.kind n = b.kind n → b.le a' = true → a'.kind n = a.kind n → a.kind n = b.kind n := by
    intro a b a' b' hu hn hab hb' hba ha'
    cases a with
    | unknown => exact absurd rfl hu
    | null => exact absurd rfl hn
    | scalar j =>
      cases b' with
      | scalar k =>
        cases Head.eq_of_kind_scalar hb'
        cases a' with
        | scalar l =>
          cases Head.eq_of_kind_scalar ha'
          rw [Scalar.le_antisymm hab hba]
        | _ => cases hba
      | _ => cases hab
    | _ => cases b' <;> first | exact hb' | cases hab
  by_cases hgs : g = .unknown ∨ g = .null
  · by_cases hhs : h = .unknown ∨ h = .null
    · rcases hgs with rfl | rfl <;> rcases hhs with rfl | rfl
      · rfl
      · cases (hg.1 rfl).symm.trans (hh.2 rfl)
      · cases (hh.1 rfl).symm.trans (hg.2 rfl)
      · rfl
    · rw [not_or] at hhs
      exact (hsolid hhs.1 hhs.2 hhg hg' hgh hh').symm
  · rw [not_or] at hgs
    exact hsolid hgs.1 hgs.2 hgh hh' hhg hg'

end Evidence

namespace TypeModel
variable (m : TypeModel)

def step? : Step → TypeNode → Option TypeNode
  | .element, .array element _ => some element
  | .element, .dictionary element _ => some element
  | .field name, .object id _ =>
    ((m.class? id).bind fun c => c.field? name).map FieldInfo.type
  | _, _ => none

def at? : Path → TypeNode → Option TypeNode
  | [], type => some type
  | s :: p, type => (m.step? s type).bind (at? p)

/-- The kind and the nullability that the model has at the end of a path from the root. -/
def describe (p : Path) : Option (Kind × Bool) :=
  (m.at? p m.root).map fun type => (type.kind, type.nullable)

/-- There is one class at both places. -/
def SameClassAt (p q : Path) : Prop :=
  ∃ id n k, m.at? p m.root = some (.object id n) ∧ m.at? q m.root = some (.object id k)

/-- Of places that are one class here, the other model says the same further down. -/
def KeepsTogether (other : TypeModel) : Prop :=
  ∀ p q, m.SameClassAt p q → ∀ r, r ≠ [] → other.describe (p ++ r) = other.describe (q ++ r)

variable {m}

/-- What a place leads to does not depend on whether it is marked as the root. -/
theorem step?_withRoot (m : TypeModel) (s : Step) (isRoot : Bool) (type : TypeNode) :
    m.step? s (type.withRoot isRoot) = m.step? s type := by
  cases s <;> cases type <;> rfl

theorem at?_append (p q : Path) (type : TypeNode) :
    m.at? (p ++ q) type = (m.at? p type).bind (m.at? q) := by
  induction p generalizing type with
  | nil => rfl
  | cons s p ih =>
    simp only [List.cons_append, at?]
    cases m.step? s type with
    | none => rfl
    | some type => exact ih type

/-- What is inside a class does not depend on where it is. -/
theorem describe_append_of_sameClassAt {p q : Path} (h : m.SameClassAt p q) {r : Path}
    (hr : r ≠ []) : m.describe (p ++ r) = m.describe (q ++ r) := by
  obtain ⟨id, n, k, hp, hq⟩ := h
  cases r with
  | nil => exact absurd rfl hr
  | cons s r =>
    simp only [describe, at?_append, hp, hq, Option.bind_some, at?]
    cases s <;> rfl

end TypeModel

namespace ClassTable

/-- The kind and the nullability at the end of a path from the root. -/
def describe (t : ClassTable) (root : Evidence ClassId) (p : Path) : Option (Kind × Bool) :=
  (root.at? t.fieldsOf p).map fun τ => (τ.head.kind τ.isNullable, τ.isNullable)

/-- What is inside a class of the table does not depend on where it is. -/
theorem describe_append_of_sameClassAt {t : ClassTable} {root : Evidence ClassId} {p q : Path}
    (h : t.SameClassAt root p q) {r : Path} (hr : r ≠ []) :
    t.describe root (p ++ r) = t.describe root (q ++ r) := by
  obtain ⟨c, m, n, hp, hq⟩ := h
  rw [describe, describe, Evidence.at?_append_of_eq _ hp, Evidence.at?_append_of_eq _ hq]
  cases r with
  | nil => exact absurd rfl hr
  | cons s r => cases s <;> rfl

end ClassTable

section Freeze
variable {t : ClassTable} {root : Evidence ClassId} (names : Naming) (examples : ExamplePolicy)

/-- The model has at each place the frozen type that the table has there. -/
theorem at?_freeze (ht : t.WellFormed) (hroot : root.RefersBelow t.entries.length) (p : Path)
    {τ : Evidence ClassId} (hτ : ∀ c, τ.innermost? = some c → c ∈ emissionOrder t root) :
    (freeze t root names examples).at? p (freezeType (emissionOrder t root) τ) =
      (τ.at? t.fieldsOf p).map (freezeType (emissionOrder t root)) := by
  induction p generalizing τ with
  | nil => rfl
  | cons s p ih =>
    cases τ with
    | array x n =>
      cases s with
      | element => exact ih hτ
      | field name => rfl
    | dictionary x n =>
      cases s with
      | element => exact ih hτ
      | field name => rfl
    | object c n =>
      cases s with
      | element => rfl
      | field name =>
        have hc := hτ c rfl
        have hr := (mem_emissionOrder ht hroot).mp hc
        obtain ⟨entry, hentry⟩ := ClassTable.exists_entry (hr.mem_ids ht hroot)
        simp only [freezeType, TypeModel.at?, TypeModel.step?, Evidence.at?, Evidence.step?,
          class?_freeze names examples ht hroot hc hentry, Option.bind_some, field?_freezeClass,
          ClassTable.fieldsOf_of_entry hentry]
        cases hf : Field.find? entry.fields name with
        | none => rfl
        | some f =>
          rw [← ClassTable.fieldsOf_of_entry hentry] at hf
          exact ih fun b hb => (mem_emissionOrder ht hroot).mpr (hr.snoc (Field.mem_of_find? hf) hb)
    | anything n => cases s <;> cases n <;> rfl
    | scalar k n => cases s <;> cases n <;> rfl
    | _ => cases s <;> rfl

/-- From the root the same, but that the root itself is marked. -/
theorem at?_freeze_root (ht : t.WellFormed) (hroot : root.RefersBelow t.entries.length) (p : Path) :
    (freeze t root names examples).at? p (freeze t root names examples).root =
      (root.at? t.fieldsOf p).map fun τ =>
        (freezeType (emissionOrder t root) τ).withRoot p.isEmpty := by
  cases p with
  | nil => rfl
  | cons s p =>
    have hplace := at?_freeze names examples ht hroot (s :: p) fun _ hc =>
      (mem_emissionOrder ht hroot).mpr (.here hc)
    simp only [List.isEmpty_cons, withRoot_freezeType, ← hplace]
    exact congrArg (Option.bind · _) (TypeModel.step?_withRoot ..)

theorem describe_freeze (ht : t.WellFormed) (hroot : root.RefersBelow t.entries.length) (p : Path) :
    (freeze t root names examples).describe p = t.describe root p := by
  rw [TypeModel.describe, at?_freeze_root names examples ht hroot, Option.map_map,
    ClassTable.describe]
  congr 1
  funext τ
  simp only [Function.comp, TypeNode.kind_withRoot, TypeNode.nullable_withRoot, kind_freezeType,
    nullable_freezeType]

theorem sameClassAt_freeze (ht : t.WellFormed) (hroot : root.RefersBelow t.entries.length)
    {p q : Path} (h : t.SameClassAt root p q) :
    (freeze t root names examples).SameClassAt p q := by
  obtain ⟨c, m, n, hp, hq⟩ := h
  refine ⟨renumber (emissionOrder t root) c, ⟨m, p.isEmpty⟩, ⟨n, q.isEmpty⟩, ?_, ?_⟩
  · rw [at?_freeze_root names examples ht hroot, hp]
    rfl
  · rw [at?_freeze_root names examples ht hroot, hq]
    rfl

end Freeze

end Specimen
