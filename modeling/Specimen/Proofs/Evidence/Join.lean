import Specimen.Evidence.Basic

/-! Equations of joining that hold for every kind of object. -/
namespace Specimen

/-- Which of two kinds is joined with the other does not matter. -/
theorem Scalar.join_comm (a b : Scalar) : a.join b = b.join a := by
  cases a <;> cases b <;> rfl

namespace Evidence
variable {O : Type}

theorem isNullable_intoNullable (e : Evidence O) : e.intoNullable.isNullable = true := by
  cases e <;> rfl

section Mergeable
variable [Mergeable O]

theorem unknown_join (e : Evidence O) : Evidence.unknown.join e = e := by
  cases e <;> rfl

theorem join_unknown (e : Evidence O) : e.join .unknown = e := by
  cases e <;> rfl

theorem null_join (e : Evidence O) : Evidence.null.join e = e.intoNullable := by
  cases e <;> rfl

theorem join_null (e : Evidence O) : e.join .null = e.intoNullable := by
  cases e <;> simp [join, joinWith, intoNullable, isNullable]

end Mergeable

theorem isNullable_joinWith (merge : O → O → Option O) (a b : Evidence O) :
    (joinWith merge a b).isNullable = (a.isNullable || b.isNullable) := by
  cases a with
  | scalar j m =>
    cases b with
    | scalar k n =>
      simp only [joinWith]
      cases j.join k <;> rfl
    | _ => simp [joinWith, intoNullable, isNullable]
  | object x m =>
    cases b with
    | object y n =>
      simp only [joinWith]
      cases merge x y <;> rfl
    | _ => simp [joinWith, intoNullable, isNullable]
  | _ => cases b <;> simp [joinWith, intoNullable, isNullable]

theorem isNullable_join [Mergeable O] (a b : Evidence O) :
    (a.join b).isNullable = (a.isNullable || b.isNullable) :=
  isNullable_joinWith _ a b

/-- If merging objects does not depend on their order, joining does not. -/
theorem joinWith_comm {merge : O → O → Option O} (hm : ∀ x y, merge x y = merge y x)
    (a b : Evidence O) : joinWith merge a b = joinWith merge b a := by
  induction a generalizing b with
  | scalar j m =>
    cases b with
    | scalar k n => simp only [joinWith, Scalar.join_comm j k, Bool.or_comm m n]
    | _ => simp only [joinWith, intoNullable, isNullable, Bool.or_comm]
  | array x m ih =>
    cases b with
    | array y n => simp only [joinWith, ih y, Bool.or_comm m n]
    | _ => simp only [joinWith, intoNullable, isNullable, Bool.or_comm]
  | dictionary x m ih =>
    cases b with
    | dictionary y n => simp only [joinWith, ih y, Bool.or_comm m n]
    | _ => simp only [joinWith, intoNullable, isNullable, Bool.or_comm]
  | object x m =>
    cases b with
    | object y n => simp only [joinWith, hm x y, Bool.or_comm m n]
    | _ => simp only [joinWith, intoNullable, isNullable, Bool.or_comm]
  | _ => cases b <;> simp only [joinWith, intoNullable, isNullable, Bool.or_comm]

/-- A join asks how to merge only for the object inside the first type. -/
theorem joinWith_congr {m m' : O → O → Option O} (a b : Evidence O)
    (h : ∀ x, a.innermost? = some x → ∀ y, m x y = m' x y) :
    joinWith m a b = joinWith m' a b := by
  induction a generalizing b with
  | array x n ih => cases b <;> simp only [joinWith, ih _ h]
  | dictionary x n ih => cases b <;> simp only [joinWith, ih _ h]
  | object x n => cases b <;> simp only [joinWith, h x rfl]
  | _ => cases b <;> simp only [joinWith]

end Evidence

end Specimen
