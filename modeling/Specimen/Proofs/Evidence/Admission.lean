import Specimen.Proofs.Evidence.Order

/-! Which values evidence admits.

`Admits` follows the value, with the fields of an object taken from a parameter: those of a shape are
its own, those of a class are in a table. Evidence that has seen more admits more (`Admits.of_le`),
which carries a value from its own evidence to the evidence of the whole run. -/
namespace Specimen

/-- The values of a kind. -/
def Scalar.admits (isDate : String → Bool) : Scalar → Json → Bool
  | .boolean, .bool _ => true
  | .integer, .number (.int n) => -2147483648 ≤ n && n ≤ 2147483647
  | .long, .number (.int n) => -9223372036854775808 ≤ n && n ≤ 9223372036854775807
  | .float, .number _ => true
  | .date, .string s => isDate s
  | .string, .string _ => true
  | _, _ => false

theorem Scalar.admits_of_le {isDate : String → Bool} {j k : Scalar} {x : Json}
    (hjk : j.le k = true) (h : j.admits isDate x = true) : k.admits isDate x = true := by
  have hwider : j = k ∨ (j = .integer ∨ j = .long) ∧ k = .float ∨ j = .integer ∧ k = .long := by
    revert hjk
    cases j <;> cases k <;> decide
  rcases hwider with rfl | ⟨hj, rfl⟩ | ⟨rfl, rfl⟩
  · exact h
  · cases x with
    | number n => rfl
    | _ => rcases hj with rfl | rfl <;> cases h
  · cases x with
    | number n =>
      cases n with
      | int n =>
        simp only [admits, Bool.and_eq_true, decide_eq_true_eq] at h ⊢
        omega
      | float _ => cases h
    | _ => cases h

namespace Evidence
variable {O : Type}

/-- The value is one of those that the evidence tells of. A null has to have been seen, an object has
to have the keys of its record apart from those that may be missing. -/
inductive Admits (fields : O → List (Field O)) (isDate : String → Bool) :
    Json → Evidence O → Prop where
  | null {e} (hn : e.isNullable = true) : Admits fields isDate .null e
  | anything {x n} : Admits fields isDate x (.anything n)
  | scalar {x k n} (hk : k.admits isDate x = true) : Admits fields isDate x (.scalar k n)
  | array {items y n} (h : ∀ x ∈ items, Admits fields isDate x y) :
    Admits fields isDate (.array items) (.array y n)
  | dictionary {members y n} (h : ∀ m ∈ members, Admits fields isDate m.2 y) :
    Admits fields isDate (.object members) (.dictionary y n)
  | object {members o n} (hkeys : ∀ m ∈ members, ∃ f, Field.find? (fields o) m.1 = some f)
    (htypes : ∀ m ∈ members, ∀ f, Field.find? (fields o) m.1 = some f →
      Admits fields isDate m.2 f.type)
    (hlacks : ∀ {name f}, Field.find? (fields o) name = some f → name ∉ members.map Prod.fst →
      f.type.isNullable = true) : Admits fields isDate (.object members) (.object o n)

variable {isDate : String → Bool} {x : Json}

/-- Larger evidence admits what smaller evidence does. -/
theorem Admits.of_le {a b : Evidence Shape} (h : Admits Shape.fields isDate x a) (hab : a.Le b) :
    Admits Shape.fields isDate x b := by
  induction h generalizing b with
  | null hn => exact .null (hab.isNullable hn)
  | anything =>
    cases hab
    exact .anything
  | scalar hk =>
    cases hab with
    | anything _ => exact .anything
    | scalar hjk _ => exact .scalar (Scalar.admits_of_le hjk hk)
  | array _ ih =>
    cases hab with
    | anything _ => exact .anything
    | array hx _ => exact .array fun x hmem => ih x hmem hx
  | dictionary _ ih =>
    cases hab with
    | anything _ => exact .anything
    | dictionary hx _ => exact .dictionary fun m hm => ih m hm hx
  | @object members s n hkeys _ hlacks ih =>
    cases hab with
    | anything _ => exact .anything
    | @object _ t _ _ hkept htypes hnew _ =>
      refine .object (fun m hm => ?_) (fun m hm g hg => ?_) (fun {name g} hg hlack => ?_)
      · obtain ⟨f, hf⟩ := hkeys m hm
        exact hkept hf
      · obtain ⟨f, hf⟩ := hkeys m hm
        exact ih m hm f hf (htypes hf hg)
      · cases hf : Field.find? s.fields name with
        | none => exact hnew hf hg
        | some f => exact (htypes hf hg).isNullable (hlacks hf hlack)

end Evidence

end Specimen
