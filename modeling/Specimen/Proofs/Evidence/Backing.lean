import Specimen.Proofs.Evidence.Paths
import Specimen.Proofs.Evidence.Widening

/-! Where what a type tells comes from.

A type is backed by some evidence if every kind in it, and every null, was seen at its place in some of
that evidence; places are looked for in arrays and dictionaries only. Joining compatible types invents
nothing: what they amount to is backed by the two (`backedBy_join`). -/
namespace Specimen.Evidence

/-- What can be seen at a place: a kind of value, or a null. -/
inductive Sight where
  | kind (head : Head)
  | null

section Inside
variable {O P Q : Type}

def Shows (e : Evidence O) : Sight → Prop
  | .kind head => e.head = head
  | .null => e.isNullable = true

/-- Such a kind or a wider one. -/
def ShowsAtLeast (e : Evidence O) : Sight → Prop
  | .kind head => head.le e.head = true
  | .null => e.isNullable = true

theorem Fits.showsAtLeast {R : O → P → Prop} {a : Evidence O} {b : Evidence P} (h : a.Fits R b)
    {sight : Sight} (hs : a.Shows sight) : b.ShowsAtLeast sight := by
  cases sight with
  | kind head =>
    cases hs
    exact h.head_le
  | null => exact h.isNullable hs

/-- The evidence at a place inside arrays and dictionaries. -/
def inside? (p : Path) (e : Evidence O) : Option (Evidence O) := e.at? (fun _ => []) p

theorem inside?_cons (s : Step) (p : Path) (e : Evidence O) :
    e.inside? (s :: p) = (e.step? (fun _ => []) s).bind (inside? p) := rfl

/-- All that the type shows was seen, at its place, in some of the evidence. -/
def BackedBy (A : Evidence O → Prop) (b : Evidence P) : Prop :=
  ∀ p x, b.inside? p = some x → ∀ sight, x.Shows sight →
    ∃ a y, A a ∧ a.inside? p = some y ∧ y.Shows sight

theorem BackedBy.refl {A : Evidence O → Prop} {e : Evidence O} (he : A e) : e.BackedBy A :=
  fun _ x hx _ hs => ⟨e, x, he, hx, hs⟩

theorem BackedBy.mono {A B : Evidence O → Prop} (hAB : ∀ a, A a → B a) {b : Evidence P}
    (h : b.BackedBy A) : b.BackedBy B := by
  intro p x hx sight hs
  obtain ⟨a, y, ha, hy⟩ := h p x hx sight hs
  exact ⟨a, y, hAB a ha, hy⟩

theorem BackedBy.trans {A : Evidence O → Prop} {B : Evidence P → Prop} {c : Evidence Q}
    (hB : ∀ b, B b → b.BackedBy A) (h : c.BackedBy B) : c.BackedBy A := by
  intro p x hx sight hs
  obtain ⟨b, y, hb, hy, hs⟩ := h p x hx sight hs
  exact hB b hb p y hy sight hs

/-- To back a type, back what it shows by itself and what it has inside. -/
theorem backedBy_of_step {A : Evidence O → Prop} {b : Evidence P}
    (hshows : ∀ sight, b.Shows sight → ∃ a, A a ∧ a.Shows sight)
    (hstep : ∀ x, b.step? (fun _ => []) .element = some x →
      x.BackedBy fun y => ∃ a, A a ∧ a.step? (fun _ => []) .element = some y) : b.BackedBy A := by
  intro p x hx sight hs
  cases p with
  | nil =>
    cases hx
    obtain ⟨a, ha, has⟩ := hshows sight hs
    exact ⟨a, a, ha, rfl, has⟩
  | cons s p =>
    obtain ⟨b', hb', hx'⟩ := Option.bind_eq_some_iff.mp hx
    cases s with
    | field name => cases b <;> cases hb'
    | element =>
      obtain ⟨a', y, ⟨a, ha, haa'⟩, hy, hys⟩ := hstep b' hb' p x hx' sight hs
      exact ⟨a, y, ha, by rw [inside?_cons, haa', Option.bind_some, hy], hys⟩

theorem BackedBy.element {A : Evidence O → Prop} {b x : Evidence P} (h : b.BackedBy A)
    (hx : b.step? (fun _ => []) .element = some x) :
    x.BackedBy fun y => ∃ a, A a ∧ a.step? (fun _ => []) .element = some y := by
  intro p z hz sight hs
  obtain ⟨a, y, ha, hy, hys⟩ :=
    h (.element :: p) z (by rw [inside?_cons, hx, Option.bind_some, hz]) sight hs
  obtain ⟨a', haa', hy⟩ := Option.bind_eq_some_iff.mp hy
  exact ⟨a', y, ⟨a, ha, haa'⟩, hy, hys⟩

/-- A type is backed by evidence that shows the same and has inside what backs what the type has. -/
theorem BackedBy.alike {a : Evidence O} {b : Evidence P} (hhead : a.head = b.head)
    (hnull : a.isNullable = b.isNullable)
    (hstep : ∀ y, b.step? (fun _ => []) .element = some y →
      ∃ x, a.step? (fun _ => []) .element = some x ∧ y.BackedBy (· = x)) : b.BackedBy (· = a) := by
  refine backedBy_of_step (fun sight hs => ⟨a, rfl, ?_⟩) fun y hy => ?_
  · cases sight with
    | kind head => exact hhead.trans hs
    | null => exact hnull.trans hs
  · obtain ⟨x, hx, hxy⟩ := hstep y hy
    refine hxy.mono ?_
    rintro z rfl
    exact ⟨a, rfl, hx⟩

theorem BackedBy.leaf {a : Evidence O} {b : Evidence P} (hhead : a.head = b.head)
    (hnull : a.isNullable = b.isNullable) (hb : b.step? (fun _ => []) .element = none) :
    b.BackedBy (· = a) := by
  refine .alike hhead hnull fun y hy => ?_
  rw [hb] at hy
  cases hy

/-- A null added to a type is backed by the type and a null. -/
theorem backedBy_intoNullable {A : Evidence O → Prop} {e : Evidence O} (he : A e) (hn : A .null) :
    e.intoNullable.BackedBy A := by
  refine backedBy_of_step (fun sight hs => ?_) fun x hx => ?_
  · cases sight with
    | null => exact ⟨.null, hn, rfl⟩
    | kind head =>
      cases e with
      | unknown => exact ⟨.null, hn, hs⟩
      | _ => exact ⟨_, he, hs⟩
  · refine .refl ⟨e, he, ?_⟩
    cases e <;> exact hx

end Inside

/-- A join shows a null if one of the two does. To back it, back its kind and what it has inside. -/
theorem backedBy_join_of_step {a b : Evidence ClassId}
    (hkind : (a.join b).head = a.head ∨ (a.join b).head = b.head)
    (hstep : ∀ x, (a.join b).step? (fun _ => []) .element = some x →
      x.BackedBy fun y => ∃ c, (c = a ∨ c = b) ∧ c.step? (fun _ => []) .element = some y) :
    (a.join b).BackedBy fun x => x = a ∨ x = b := by
  refine backedBy_of_step (fun sight hs => ?_) hstep
  cases sight with
  | kind head =>
    rcases hkind with h | h
    · exact ⟨a, .inl rfl, h.symm.trans hs⟩
    · exact ⟨b, .inr rfl, h.symm.trans hs⟩
  | null =>
    simp only [Shows, isNullable_join, Bool.or_eq_true] at hs
    rcases hs with h | h
    · exact ⟨a, .inl rfl, h⟩
    · exact ⟨b, .inr rfl, h⟩

theorem backedBy_join_unknown (a : Evidence ClassId) :
    (a.join .unknown).BackedBy fun x => x = a ∨ x = .unknown := by
  rw [join_unknown]
  exact .refl (.inl rfl)

theorem backedBy_join_null (a : Evidence ClassId) :
    (a.join .null).BackedBy fun x => x = a ∨ x = .null := by
  rw [join_null]
  exact backedBy_intoNullable (.inl rfl) (.inr rfl)

/-- A join of compatible types is backed by the two. -/
theorem backedBy_join {a b : Evidence ClassId} (h : a.isCompatible b = true) :
    (a.join b).BackedBy fun x => x = a ∨ x = b := by
  induction a generalizing b with
  | unknown =>
    rw [unknown_join]
    exact .refl (.inr rfl)
  | null =>
    rw [null_join]
    exact backedBy_intoNullable (.inr rfl) (.inl rfl)
  | anything m =>
    cases b with
    | unknown => exact backedBy_join_unknown _
    | anything n => exact backedBy_join_of_step (.inl rfl) fun x hx => nomatch hx
    | _ => cases h
  | scalar j m =>
    cases b with
    | unknown => exact backedBy_join_unknown _
    | null => exact backedBy_join_null _
    | scalar k n =>
      obtain ⟨l, hl⟩ := Option.isSome_iff_exists.mp h
      have hjoin : (scalar j m : Evidence ClassId).join (.scalar k n) = .scalar l (m || n) := by
        simp only [join, joinWith, hl]
      refine backedBy_join_of_step ?_ fun x hx => by rw [hjoin] at hx; cases hx
      rw [hjoin]
      exact (Scalar.join_mem hl).imp (congrArg Head.scalar) (congrArg Head.scalar)
    | _ => cases h
  | array x m ih =>
    cases b with
    | unknown => exact backedBy_join_unknown _
    | null => exact backedBy_join_null _
    | array y n =>
      refine backedBy_join_of_step (.inl rfl) fun z hz => ?_
      cases hz
      refine (ih h).mono ?_
      rintro z (rfl | rfl)
      · exact ⟨_, .inl rfl, rfl⟩
      · exact ⟨_, .inr rfl, rfl⟩
    | _ => cases h
  | dictionary x m ih =>
    cases b with
    | unknown => exact backedBy_join_unknown _
    | null => exact backedBy_join_null _
    | dictionary y n =>
      refine backedBy_join_of_step (.inl rfl) fun z hz => ?_
      cases hz
      refine (ih h).mono ?_
      rintro z (rfl | rfl)
      · exact ⟨_, .inl rfl, rfl⟩
      · exact ⟨_, .inr rfl, rfl⟩
    | _ => cases h
  | object x m =>
    cases b with
    | unknown => exact backedBy_join_unknown _
    | null => exact backedBy_join_null _
    | object y n =>
      have hxy : x = y := by simpa [isCompatible, compatibleWith, Mergeable.compatible] using h
      subst hxy
      have hjoin : (object x m).join (.object x n) = .object x (m || n) := by
        simp only [join, joinWith, Mergeable.merge, if_pos]
      refine backedBy_join_of_step (.inl ?_) fun z hz => by rw [hjoin] at hz; cases hz
      rw [hjoin]
      rfl
    | _ => cases h

end Specimen.Evidence
