import Specimen.Proofs.Evidence.Fields
import Specimen.Proofs.Evidence.Join
import Specimen.Classes.Table

/-! When one piece of evidence takes in another without a conflict.

`a.Fits R b` says that everything `a` tells is told by `b` in the same kind or a wider one, where `R`
compares objects: nothing of `a` has become `anything`. Joining compatible evidence of classes only
widens in this sense (`fits_join_left`, `fits_join_right`), and widening never makes evidence
compatible that was not (`compatibleWith_of_fits`). The second is what keeps classes apart. -/
namespace Specimen

namespace Scalar

/-- Values of the first kind are values of the second. -/
def le (a b : Scalar) : Bool :=
  a == b || match a.width?, b.width? with
    | some m, some n => m ≤ n
    | _, _ => false

theorem le_refl (a : Scalar) : a.le a = true := by
  cases a <;> rfl

theorem le_trans {a b c : Scalar} (hab : a.le b = true) (hbc : b.le c = true) :
    a.le c = true := by
  revert hab hbc
  cases a <;> cases b <;> cases c <;> decide

theorem le_antisymm {a b : Scalar} (hab : a.le b = true) (hba : b.le a = true) : a = b := by
  revert hab hba
  cases a <;> cases b <;> decide

theorem le_join_left {a b c : Scalar} (h : a.join b = some c) : a.le c = true := by
  revert h
  cases a <;> cases b <;> cases c <;> decide

theorem le_join_right {a b c : Scalar} (h : a.join b = some c) : b.le c = true := by
  revert h
  cases a <;> cases b <;> cases c <;> decide

theorem join_le {a b c : Scalar} (ha : a.le c = true) (hb : b.le c = true) :
    ∃ d, a.join b = some d ∧ d.le c = true := by
  have h : (a.join b).any (·.le c) = true := by
    revert ha hb
    cases a <;> cases b <;> cases c <;> decide
  exact (Option.any_eq_true _ _).mp h

/-- A join of two kinds is one of them. -/
theorem join_mem {a b c : Scalar} (h : a.join b = some c) : c = a ∨ c = b := by
  revert h
  cases a <;> cases b <;> cases c <;> decide

/-- Kinds that a wider kind can be joined with can be joined with the narrower. -/
theorem join_isSome_of_le {a b c : Scalar} (h : a.le b = true) (hbc : (b.join c).isSome = true) :
    (a.join c).isSome = true := by
  revert h hbc
  cases a <;> cases b <;> cases c <;> decide

end Scalar

namespace Evidence
variable {O P Q : Type}

/-- All that the first piece of evidence tells is told by the second, in the same kind or a wider
one, with objects compared by `R`. -/
inductive Fits (R : O → P → Prop) : Evidence O → Evidence P → Prop where
  | unknown {b} : Fits R .unknown b
  | null {b} (hn : b.isNullable = true) (ha : b.isAnything = false) : Fits R .null b
  | anything {m n} (hn : m = true → n = true) : Fits R (.anything m) (.anything n)
  | scalar {j k m n} (hk : j.le k = true) (hn : m = true → n = true) :
    Fits R (.scalar j m) (.scalar k n)
  | array {x y m n} (hx : Fits R x y) (hn : m = true → n = true) : Fits R (.array x m) (.array y n)
  | dictionary {x y m n} (hx : Fits R x y) (hn : m = true → n = true) :
    Fits R (.dictionary x m) (.dictionary y n)
  | object {x y m n} (hx : R x y) (hn : m = true → n = true) : Fits R (.object x m) (.object y n)

theorem Fits.refl {R : O → O → Prop} (hR : ∀ x, R x x) (e : Evidence O) : e.Fits R e := by
  induction e with
  | unknown => exact .unknown
  | null => exact .null rfl rfl
  | anything n => exact .anything id
  | scalar k n => exact .scalar k.le_refl id
  | array x n ih => exact .array ih id
  | dictionary x n ih => exact .dictionary ih id
  | object x n => exact .object (hR x) id

theorem Fits.isNullable {R : O → P → Prop} {a : Evidence O} {b : Evidence P} (h : a.Fits R b)
    (ha : a.isNullable = true) : b.isNullable = true := by
  cases h with
  | unknown => cases ha
  | null hn _ => exact hn
  | _ => rename_i hn; exact hn ha

theorem Fits.isAnything_eq_false {R : O → P → Prop} {a : Evidence O} {b : Evidence P}
    (h : a.Fits R b) (hu : a ≠ .unknown) (ha : a.isAnything = false) : b.isAnything = false := by
  cases h with
  | unknown => exact absurd rfl hu
  | null _ hb => exact hb
  | anything _ => cases ha
  | _ => rfl

/-- Widening twice is widening. -/
theorem Fits.trans {R : O → P → Prop} {S : P → Q → Prop} {T : O → Q → Prop}
    (hT : ∀ x y z, R x y → S y z → T x z) {a : Evidence O} {b : Evidence P} {c : Evidence Q}
    (hab : a.Fits R b) (hbc : b.Fits S c) : a.Fits T c := by
  induction hab generalizing c with
  | unknown => exact .unknown
  | @null b hn ha =>
    have hb : b ≠ .unknown := by
      rintro rfl
      cases hn
    exact .null (hbc.isNullable hn) (hbc.isAnything_eq_false hb ha)
  | anything hn =>
    cases hbc with
    | anything hn' => exact .anything (hn' ∘ hn)
  | scalar hk hn =>
    cases hbc with
    | scalar hk' hn' => exact .scalar (Scalar.le_trans hk hk') (hn' ∘ hn)
  | array _ hn ih =>
    cases hbc with
    | array hx' hn' => exact .array (ih hx') (hn' ∘ hn)
  | dictionary _ hn ih =>
    cases hbc with
    | dictionary hx' hn' => exact .dictionary (ih hx') (hn' ∘ hn)
  | object hx hn =>
    cases hbc with
    | object hx' hn' => exact .object (hT _ _ _ hx hx') (hn' ∘ hn)

theorem Fits.trans_eq {R : O → P → Prop} {a : Evidence O} {b c : Evidence P} (hab : a.Fits R b)
    (hbc : b.Fits Eq c) : a.Fits R c :=
  hab.trans (fun _ _ _ hxy hyz => hyz ▸ hxy) hbc

theorem Fits.mono {R S : O → P → Prop} (hRS : ∀ x y, R x y → S x y) {a : Evidence O}
    {b : Evidence P} (h : a.Fits R b) : a.Fits S b := by
  induction h with
  | unknown => exact .unknown
  | null hn ha => exact .null hn ha
  | anything hn => exact .anything hn
  | scalar hk hn => exact .scalar hk hn
  | array _ hn ih => exact .array ih hn
  | dictionary _ hn ih => exact .dictionary ih hn
  | object hx hn => exact .object (hRS _ _ hx) hn

/-! ### Compatibility -/

section Compatibility
variable {c c' : O → O → Bool}

theorem compatibleWith_symm (hc : ∀ x y, c x y = c y x) (a b : Evidence O) :
    compatibleWith c a b = compatibleWith c b a := by
  induction a generalizing b with
  | scalar j m =>
    cases b with
    | scalar k n => exact congrArg Option.isSome (Scalar.join_comm j k)
    | _ => rfl
  | array x m ih =>
    cases b with
    | array y n => exact ih y
    | _ => rfl
  | dictionary x m ih =>
    cases b with
    | dictionary y n => exact ih y
    | _ => rfl
  | object x m =>
    cases b with
    | object y n => exact hc x y
    | _ => rfl
  | _ => cases b <;> rfl

/-- Compatibility compares at most the objects inside the two types. -/
theorem compatibleWith_congr (a b : Evidence O)
    (h : ∀ x y, a.innermost? = some x → b.innermost? = some y → c x y = c' x y) :
    compatibleWith c a b = compatibleWith c' a b := by
  induction a generalizing b with
  | array x m ih =>
    cases b with
    | array y n => exact ih y h
    | _ => rfl
  | dictionary x m ih =>
    cases b with
    | dictionary y n => exact ih y h
    | _ => rfl
  | object x m =>
    cases b with
    | object y n => exact h x y rfl rfl
    | _ => rfl
  | _ => cases b <;> rfl

theorem compatibleWith_mono (hc : ∀ x y, c x y = true → c' x y = true) {a b : Evidence O}
    (h : compatibleWith c a b = true) : compatibleWith c' a b = true := by
  induction a generalizing b with
  | array x m ih =>
    cases b with
    | array y n => exact ih h
    | _ => exact h
  | dictionary x m ih =>
    cases b with
    | dictionary y n => exact ih h
    | _ => exact h
  | object x m =>
    cases b with
    | object y n => exact hc x y h
    | _ => exact h
  | _ => cases b <;> exact h

theorem of_compatibleWith_anything {a : Evidence O} {n : Bool}
    (h : compatibleWith c a (.anything n) = true) : a = .unknown ∨ a.isAnything = true := by
  cases a with
  | unknown => exact .inl rfl
  | anything m => exact .inr rfl
  | _ => cases h

/-- What a widened type is compatible with, the type was compatible with before. -/
theorem compatibleWith_of_fits {a a' b : Evidence O} (hf : a.Fits Eq a')
    (h : compatibleWith c a' b = true) : compatibleWith c a b = true := by
  induction hf generalizing b with
  | unknown => rfl
  | @null a' hn ha =>
    cases b with
    | anything n =>
      rcases of_compatibleWith_anything h with rfl | h
      · cases hn
      · rw [ha] at h
        cases h
    | _ => rfl
  | anything hn => cases b <;> exact h
  | scalar hk hn =>
    cases b with
    | scalar l n => exact Scalar.join_isSome_of_le hk h
    | _ => exact h
  | array _ hn ih =>
    cases b with
    | array y n => exact ih h
    | _ => exact h
  | dictionary _ hn ih =>
    cases b with
    | dictionary y n => exact ih h
    | _ => exact h
  | object hx hn =>
    subst hx
    cases b <;> exact h

end Compatibility

/-! ### Joining compatible types of classes -/

theorem fits_intoNullable {R : O → O → Prop} (hR : ∀ x, R x x) (e : Evidence O) :
    e.Fits R e.intoNullable := by
  cases e with
  | unknown => exact .unknown
  | null => exact .null rfl rfl
  | anything n => exact .anything fun _ => rfl
  | scalar k n => exact .scalar k.le_refl fun _ => rfl
  | array x n => exact .array (.refl hR x) fun _ => rfl
  | dictionary x n => exact .dictionary (.refl hR x) fun _ => rfl
  | object x n => exact .object (hR x) fun _ => rfl

theorem join_comm (a b : Evidence ClassId) : a.join b = b.join a := by
  apply joinWith_comm
  intro x y
  by_cases h : x = y
  · rw [h]
  · simp only [Mergeable.merge, if_neg h, if_neg (Ne.symm h)]

theorem isCompatible_symm (a b : Evidence ClassId) : a.isCompatible b = b.isCompatible a := by
  apply compatibleWith_symm
  intro x y
  simp only [Mergeable.compatible, BEq.comm]

/-- A joined type leads to a class that one of the two led to. -/
theorem innermost?_join {a b : Evidence ClassId} {c : ClassId}
    (h : (a.join b).innermost? = some c) : a.innermost? = some c ∨ b.innermost? = some c := by
  induction a generalizing b with
  | unknown =>
    rw [unknown_join] at h
    exact .inr h
  | null => cases b <;> exact .inr h
  | anything m => cases b <;> cases h
  | scalar j m =>
    cases b with
    | scalar k n =>
      simp only [join, joinWith] at h
      cases hjk : j.join k <;> rw [hjk] at h <;> cases h
    | _ => cases h
  | array x m ih =>
    cases b with
    | array y n => exact ih (b := y) h
    | unknown => exact .inl h
    | null => exact .inl h
    | _ => cases h
  | dictionary x m ih =>
    cases b with
    | dictionary y n => exact ih (b := y) h
    | unknown => exact .inl h
    | null => exact .inl h
    | _ => cases h
  | object x m =>
    cases b with
    | object y n =>
      by_cases hxy : x = y
      · simp only [join, joinWith, Mergeable.merge, if_pos hxy] at h
        exact .inl h
      · simp only [join, joinWith, Mergeable.merge, if_neg hxy] at h
        cases h
    | unknown => exact .inl h
    | null => exact .inl h
    | _ => cases h

/-- Joining in a compatible type of classes only widens. -/
theorem fits_join_left {a b : Evidence ClassId} (h : a.isCompatible b = true) :
    a.Fits Eq (a.join b) := by
  induction a generalizing b with
  | unknown => exact .unknown
  | null =>
    cases b with
    | anything n => cases h
    | unknown => exact .null rfl rfl
    | _ => exact .null rfl rfl
  | anything m =>
    cases b with
    | unknown => exact .refl (fun _ => rfl) _
    | anything n => exact .anything fun hm => by simp [hm]
    | _ => cases h
  | scalar j m =>
    cases b with
    | unknown => exact .refl (fun _ => rfl) _
    | null => exact .scalar j.le_refl fun _ => rfl
    | scalar k n =>
      obtain ⟨l, hl⟩ := Option.isSome_iff_exists.mp h
      simp only [join, joinWith, hl]
      exact .scalar (Scalar.le_join_left hl) fun hm => by simp [hm]
    | _ => cases h
  | array x m ih =>
    cases b with
    | unknown => exact .refl (fun _ => rfl) _
    | null => exact fits_intoNullable (fun _ => rfl) _
    | array y n => exact .array (ih h) fun hm => by simp [hm]
    | _ => cases h
  | dictionary x m ih =>
    cases b with
    | unknown => exact .refl (fun _ => rfl) _
    | null => exact fits_intoNullable (fun _ => rfl) _
    | dictionary y n => exact .dictionary (ih h) fun hm => by simp [hm]
    | _ => cases h
  | object x m =>
    cases b with
    | unknown => exact .refl (fun _ => rfl) _
    | null => exact fits_intoNullable (fun _ => rfl) _
    | object y n =>
      have hxy : x = y := by simpa [isCompatible, compatibleWith, Mergeable.compatible] using h
      subst hxy
      simp only [join, joinWith, Mergeable.merge, if_pos]
      exact .object rfl fun hm => by simp [hm]
    | _ => cases h

theorem fits_join_right {a b : Evidence ClassId} (h : a.isCompatible b = true) :
    b.Fits Eq (a.join b) := by
  rw [join_comm]
  exact fits_join_left (isCompatible_symm a b ▸ h)

end Evidence

end Specimen
