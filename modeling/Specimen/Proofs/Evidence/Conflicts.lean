import Specimen.Proofs.Evidence.Backing

/-! What compatibility foretells.

Joining creates a conflict where the result is `anything` though not both parts are, and though each of them
has seen something. Two pieces of evidence are compatible just if their join creates none, at the top or at any
place inside arrays and dictionaries that both have (`isCompatible_iff_createsNoConflict`). -/
namespace Specimen.Evidence

variable {O : Type}

/-! ### Places inside -/

/-- What is inside an array or a dictionary. -/
def element? (e : Evidence O) : Option (Evidence O) := e.step? (fun _ => []) .element

theorem inside?_element (p : Path) (e : Evidence O) :
    e.inside? (.element :: p) = e.element?.bind (inside? p) := rfl

theorem inside?_field (name : String) (p : Path) (e : Evidence O) :
    e.inside? (.field name :: p) = none := by
  cases e <;> rfl

theorem inside?_element_of_eq {e x : Evidence O} (h : e.element? = some x) (p : Path) :
    e.inside? (.element :: p) = x.inside? p := by
  rw [inside?_element, h, Option.bind_some]

theorem isAnything_of_element? {e x : Evidence O} (h : e.element? = some x) : e.isAnything = false := by
  cases e with
  | anything n => cases h
  | _ => rfl

/-! ### Conflicts -/

section Conflicts
variable [Mergeable O]

/-- If `anything` comes of the two, it is no conflict between them. -/
def MayGiveAnything (a b : Evidence O) : Prop :=
  (a.isAnything = true ∧ b.isAnything = true) ∨ a = .unknown ∨ b = .unknown

/-- The join is `anything` only where the two may give it. -/
def CreatesNoConflict (a b : Evidence O) : Prop :=
  ∀ p x y z, a.inside? p = some x → b.inside? p = some y → (a.join b).inside? p = some z →
    z.isAnything = true → MayGiveAnything x y

variable {a b x y : Evidence O}

/-- What has no common place inside can be in conflict at the top only. -/
theorem createsNoConflict_iff_of_none
    (h : a.element? = none ∨ b.element? = none ∨ (a.join b).element? = none) :
    a.CreatesNoConflict b ↔ ((a.join b).isAnything = true → MayGiveAnything a b) := by
  constructor
  · exact fun hno => hno [] a b (a.join b) rfl rfl rfl
  · intro htop p x y z hx hy hz hany
    cases p with
    | nil =>
      cases hx
      cases hy
      cases hz
      exact htop hany
    | cons s p =>
      cases s with
      | field name =>
        rw [inside?_field] at hx
        cases hx
      | element =>
        rw [inside?_element] at hx hy hz
        rcases h with h | h | h
        · rw [h] at hx
          cases hx
        · rw [h] at hy
          cases hy
        · rw [h] at hz
          cases hz

/-- What is joined inside can be in conflict inside only. -/
theorem createsNoConflict_iff_of_some (hx : a.element? = some x) (hy : b.element? = some y)
    (hjoin : (a.join b).element? = some (x.join y)) :
    a.CreatesNoConflict b ↔ x.CreatesNoConflict y := by
  constructor
  · intro hno p x' y' z' hx' hy' hz'
    refine hno (.element :: p) x' y' z' ?_ ?_ ?_
    · rw [inside?_element_of_eq hx, hx']
    · rw [inside?_element_of_eq hy, hy']
    · rw [inside?_element_of_eq hjoin, hz']
  · intro hno p x' y' z' hx' hy' hz' hany
    cases p with
    | nil =>
      cases hz'
      rw [isAnything_of_element? hjoin] at hany
      cases hany
    | cons s p =>
      cases s with
      | field name =>
        rw [inside?_field] at hx'
        cases hx'
      | element =>
        rw [inside?_element_of_eq hx] at hx'
        rw [inside?_element_of_eq hy] at hy'
        rw [inside?_element_of_eq hjoin] at hz'
        exact hno p x' y' z' hx' hy' hz' hany

/-! ### Compatibility -/

variable (hlaw : ∀ x y : O, Mergeable.compatible x y = (Mergeable.merge x y).isSome)
include hlaw

/-- Of what has no common place inside, compatibility follows the join kind by kind. -/
theorem isCompatible_iff_of_none
    (h : a.element? = none ∨ b.element? = none ∨ (a.join b).element? = none) :
    a.isCompatible b = true ↔ a.CreatesNoConflict b := by
  rw [createsNoConflict_iff_of_none h]
  cases a with
  | unknown => simp [isCompatible, compatibleWith, MayGiveAnything]
  | null => cases b <;> simp [isCompatible, compatibleWith, join, joinWith, intoNullable, isAnything,
      MayGiveAnything]
  | anything m => cases b <;> simp [isCompatible, compatibleWith, join, joinWith, isAnything,
      MayGiveAnything]
  | scalar j m =>
    cases b with
    | scalar k n =>
      cases hjk : j.join k <;>
        simp [isCompatible, compatibleWith, join, joinWith, isAnything, MayGiveAnything, hjk]
    | _ => simp [isCompatible, compatibleWith, join, joinWith, intoNullable, isAnything, MayGiveAnything]
  | array x m =>
    cases b with
    | array y n => rcases h with h | h | h <;> cases h
    | _ => simp [isCompatible, compatibleWith, join, joinWith, intoNullable, isAnything, MayGiveAnything]
  | dictionary x m =>
    cases b with
    | dictionary y n => rcases h with h | h | h <;> cases h
    | _ => simp [isCompatible, compatibleWith, join, joinWith, intoNullable, isAnything, MayGiveAnything]
  | object x m =>
    cases b with
    | object y n =>
      cases hxy : Mergeable.merge x y <;>
        simp [isCompatible, compatibleWith, join, joinWith, isAnything, MayGiveAnything, hlaw, hxy]
    | _ => simp [isCompatible, compatibleWith, join, joinWith, intoNullable, isAnything, MayGiveAnything]

/-- Where objects are compatible just if they merge, evidence is compatible just if its join creates no
conflict. -/
theorem isCompatible_iff (a b : Evidence O) : a.isCompatible b = true ↔ a.CreatesNoConflict b := by
  induction a generalizing b with
  | array x m ih =>
    cases b with
    | array y n =>
      rw [createsNoConflict_iff_of_some (a := .array x m) (b := .array y n) rfl rfl rfl, ← ih y]
      rfl
    | _ => exact isCompatible_iff_of_none hlaw (by simp [element?, step?, join, joinWith])
  | dictionary x m ih =>
    cases b with
    | dictionary y n =>
      rw [createsNoConflict_iff_of_some (a := .dictionary x m) (b := .dictionary y n) rfl rfl rfl, ← ih y]
      rfl
    | _ => exact isCompatible_iff_of_none hlaw (by simp [element?, step?, join, joinWith])
  | _ => exact isCompatible_iff_of_none hlaw (.inl rfl)

end Conflicts

theorem compatible_shape (s t : Shape) : Mergeable.compatible s t = (Mergeable.merge s t).isSome := rfl

theorem compatible_classId (b c : ClassId) :
    Mergeable.compatible b c = (Mergeable.merge b c).isSome := by
  by_cases h : b = c <;> simp [Mergeable.compatible, Mergeable.merge, h]

/-- Both while samples are read and once their shapes have been interned, evidence is compatible just if its
join creates no conflict. -/
theorem isCompatible_iff_createsNoConflict :
    (∀ a b : Evidence Shape, a.isCompatible b = true ↔ a.CreatesNoConflict b) ∧
      ∀ a b : Evidence ClassId, a.isCompatible b = true ↔ a.CreatesNoConflict b :=
  ⟨isCompatible_iff compatible_shape, isCompatible_iff compatible_classId⟩

end Specimen.Evidence
