import Mathlib.Data.List.Pairwise
import Specimen.Evidence.Shape
import Specimen.Proofs.Json.Equality

/-! The examples that are kept.

Adding some values to a list of examples keeps the first `mostExamplesKept` of those in the list and of the
values that are not in it (`keepAll_eq`). The list is cut at every step, and still nothing depends on where
it was cut before: a value that is dropped because the list is full would be among the last when the list
is added to another one (`keepAll_assoc`). -/
namespace Specimen

/-- The values added to a list of examples, one after another. -/
def keepAll (kept xs : List Json) : List Json := xs.foldl keepExample kept

/-- What a list of examples is to be: no longer than allowed, without repetitions, and of values in which
no key is there twice. -/
structure KeptExamples (xs : List Json) : Prop where
  short : xs.length ≤ mostExamplesKept
  different : xs.Pairwise fun x y => x.same y = false
  distinctKeys : ∀ x ∈ xs, x.DistinctKeys

/-- The values that are not among the examples. -/
def unseen (kept xs : List Json) : List Json := xs.filter fun x => !kept.any (·.same x)

theorem mem_unseen {kept xs : List Json} {x : Json} :
    x ∈ unseen kept xs ↔ x ∈ xs ∧ ∀ y ∈ kept, y.same x = false := by
  simp [unseen]

theorem unseen_append (kept xs ys : List Json) :
    unseen kept (xs ++ ys) = unseen kept xs ++ unseen kept ys :=
  List.filter_append ..

theorem unseen_cons_of_seen {kept xs : List Json} {x : Json} (h : kept.any (·.same x) = true) :
    unseen kept (x :: xs) = unseen kept xs := by
  simp only [unseen, List.filter_cons, h, Bool.not_true, Bool.false_eq_true, if_false]

theorem unseen_cons_of_unseen {kept xs : List Json} {x : Json} (h : kept.any (·.same x) = false) :
    unseen kept (x :: xs) = x :: unseen kept xs := by
  simp only [unseen, List.filter_cons, h, Bool.not_false, if_true]

/-- One more example hides only values that equal it. -/
theorem unseen_snoc {kept xs : List Json} {x : Json} (h : ∀ y ∈ xs, x.same y = false) :
    unseen (kept ++ [x]) xs = unseen kept xs := by
  refine List.filter_congr fun y hy => ?_
  simp [h y hy]

/-- What is added one by one is what the list does not have, as far as there is room. -/
theorem keepAll_eq {kept xs : List Json} (hkept : kept.length ≤ mostExamplesKept)
    (hxs : xs.Pairwise fun x y => x.same y = false) :
    keepAll kept xs = (kept ++ unseen kept xs).take mostExamplesKept := by
  induction xs generalizing kept with
  | nil =>
    rw [unseen, List.filter_nil, List.append_nil, List.take_of_length_le hkept]
    rfl
  | cons x xs ih =>
    obtain ⟨hx, hxs⟩ := List.pairwise_cons.mp hxs
    change keepAll (keepExample kept x) xs = _
    cases hseen : kept.any (·.same x) with
    | true =>
      have hsame : keepExample kept x = kept := by simp [keepExample, hseen]
      rw [hsame, ih hkept hxs, unseen_cons_of_seen hseen]
    | false =>
      rw [unseen_cons_of_unseen hseen]
      by_cases hroom : kept.length < mostExamplesKept
      · have hadded : keepExample kept x = kept ++ [x] := by simp [keepExample, hseen, hroom]
        have hlength : (kept ++ [x]).length ≤ mostExamplesKept := by
          rw [List.length_append, List.length_singleton]
          omega
        rw [hadded, ih hlength hxs, unseen_snoc hx, List.append_assoc, List.singleton_append]
      · have hfull : keepExample kept x = kept := by simp [keepExample, hroom]
        have hlength : mostExamplesKept ≤ kept.length := Nat.not_lt.mp hroom
        rw [hfull, ih hkept hxs, List.take_append_of_le_length hlength,
          List.take_append_of_le_length hlength]

namespace KeptExamples

theorem nil : KeptExamples [] := ⟨Nat.zero_le _, .nil, List.forall_mem_nil _⟩

theorem singleton {x : Json} (h : x.DistinctKeys) : KeptExamples [x] where
  short := by simp [mostExamplesKept]
  different := List.pairwise_singleton _ _
  distinctKeys := List.forall_mem_singleton.mpr h

variable {a b c : List Json}

theorem keepAll (ha : KeptExamples a) (hb : KeptExamples b) : KeptExamples (keepAll a b) := by
  rw [keepAll_eq ha.short hb.different]
  have hdifferent : (a ++ unseen a b).Pairwise fun x y => x.same y = false :=
    List.pairwise_append.mpr ⟨ha.different, hb.different.filter _, fun x hx y hy =>
      (mem_unseen.mp hy).2 x hx⟩
  refine ⟨List.length_take_le _ _, hdifferent.sublist (List.take_sublist _ _), fun x hx => ?_⟩
  rcases List.mem_append.mp (List.mem_of_mem_take hx) with hx | hx
  · exact ha.distinctKeys x hx
  · exact hb.distinctKeys x (mem_unseen.mp hx).1

/-- What a list has not seen together with what it has taken over from another is what neither has. -/
theorem unseen_unseen (a b c : List Json) : unseen (a ++ unseen a b) c = unseen a (unseen b c) := by
  have hright : unseen a (unseen b c) =
      c.filter fun x => (!a.any (·.same x)) && !b.any (·.same x) := List.filter_filter
  rw [hright, unseen]
  refine List.filter_congr fun x _ => ?_
  rw [Bool.eq_iff_iff]
  simp only [Bool.not_eq_true', List.any_append, Bool.or_eq_false_iff, List.any_eq_false,
    Bool.and_eq_true]
  refine and_congr_right fun ha => ⟨fun h y hy hyx => ?_, fun h y hy => h y (mem_unseen.mp hy).1⟩
  refine h y (mem_unseen.mpr ⟨hy, fun z hz => ?_⟩) hyx
  by_contra hzy
  exact ha z hz (Json.same_trans (by simpa using hzy) hyx)

/-- At most one of some different values equals a given one. -/
theorem countP_same_le_one {xs : List Json} (hxs : xs.Pairwise fun x y => x.same y = false)
    (hkeys : ∀ x ∈ xs, x.DistinctKeys) {y : Json} (hy : y.DistinctKeys) :
    xs.countP (y.same ·) ≤ 1 := by
  induction xs with
  | nil => exact Nat.zero_le _
  | cons x xs ih =>
    obtain ⟨hx, hxs⟩ := List.pairwise_cons.mp hxs
    obtain ⟨hxkeys, hkeys⟩ := List.forall_mem_cons.mp hkeys
    rw [List.countP_cons]
    split
    case isTrue hsame =>
      have hnone : xs.countP (y.same ·) = 0 := List.countP_eq_zero.mpr fun z hz hyz => by
        have hxz := Json.same_trans (Json.same_symm hy hxkeys hsame) hyz
        rw [hx z hz] at hxz
        cases hxz
      omega
    case isFalse => exact ih hxs hkeys

/-- One more example hides only what equals it. -/
theorem length_unseen_le (y : Json) (a xs : List Json) :
    (unseen a xs).length ≤ xs.countP (y.same ·) + (unseen (y :: a) xs).length := by
  simp only [unseen, ← List.countP_eq_length_filter, List.any_cons]
  induction xs with
  | nil => exact Nat.zero_le _
  | cons x xs ih =>
    simp only [List.countP_cons]
    cases y.same x <;> cases a.any (·.same x) <;>
      simp only [Bool.or_true, Bool.or_false, Bool.not_true, Bool.not_false, if_true,
        Bool.false_eq_true, if_false] <;> omega

/-- Of some different values no more are seen in a list than it has members. -/
theorem length_le (ha : ∀ x ∈ a, x.DistinctKeys) {xs : List Json}
    (hxs : xs.Pairwise fun x y => x.same y = false) (hkeys : ∀ x ∈ xs, x.DistinctKeys) :
    xs.length ≤ a.length + (unseen a xs).length := by
  induction a with
  | nil => simp [unseen]
  | cons y a ih =>
    obtain ⟨hy, ha⟩ := List.forall_mem_cons.mp ha
    have hone := countP_same_le_one hxs hkeys hy
    have hsplit := length_unseen_le y a xs
    have := ih ha
    rw [List.length_cons]
    omega

/-- Different values each of which equals one of a list are not more than the list has. -/
theorem length_le_of_represented (hkeys : ∀ x ∈ a, x.DistinctKeys)
    (hb : b.Pairwise fun x y => x.same y = false) (hbkeys : ∀ x ∈ b, x.DistinctKeys)
    (h : ∀ x ∈ b, ∃ y ∈ a, y.same x = true) : b.length ≤ a.length := by
  have hnone : unseen a b = [] := List.eq_nil_iff_forall_not_mem.mpr fun x hx => by
    obtain ⟨hx, hunseen⟩ := mem_unseen.mp hx
    obtain ⟨y, hy, hyx⟩ := h x hx
    rw [hunseen y hy] at hyx
    cases hyx
  have := length_le hkeys hb hbkeys
  rwa [hnone, List.length_nil, Nat.add_zero] at this

/-- Adding examples in one go or in two is the same. -/
theorem keepAll_assoc (ha : KeptExamples a) (hb : KeptExamples b) (hc : KeptExamples c) :
    Specimen.keepAll (Specimen.keepAll a b) c = Specimen.keepAll a (Specimen.keepAll b c) := by
  have hab := ha.keepAll hb
  have hbc := hb.keepAll hc
  rw [keepAll_eq hab.short hc.different, keepAll_eq ha.short hbc.different]
  have hright : Specimen.keepAll b c =
      b ++ (unseen b c).take (mostExamplesKept - b.length) := by
    rw [keepAll_eq hb.short hc.different, List.take_append, List.take_of_length_le hb.short]
  by_cases hfull : mostExamplesKept ≤ (a ++ unseen a b).length
  case pos =>
    -- Nothing of the third list gets in, however much of it the second had taken.
    have hlength : mostExamplesKept ≤ (Specimen.keepAll a b).length := by
      rw [keepAll_eq ha.short hb.different, List.length_take]
      omega
    rw [List.take_append_of_le_length hlength, hright, unseen_append, ← List.append_assoc,
      List.take_append_of_le_length hfull, keepAll_eq ha.short hb.different, List.take_take,
      Nat.min_self]
  case neg =>
    have hleft : Specimen.keepAll a b = a ++ unseen a b := by
      rw [keepAll_eq ha.short hb.different, List.take_of_length_le (Nat.le_of_not_le hfull)]
    rw [hleft, unseen_unseen, hright, unseen_append, ← List.append_assoc]
    by_cases hroom : (unseen b c).length ≤ mostExamplesKept - b.length
    · rw [List.take_of_length_le hroom]
    · -- What the second list has left out would find no room here either.
      have hmany : mostExamplesKept ≤ (a ++ unseen a b ++
          unseen a ((unseen b c).take (mostExamplesKept - b.length))).length := by
        have hcount := length_le ha.distinctKeys hbc.different hbc.distinctKeys
        have htaken : (Specimen.keepAll b c).length = mostExamplesKept := by
          rw [hright, List.length_append, List.length_take]
          have := hb.short
          omega
        rw [htaken, hright, unseen_append, List.length_append] at hcount
        simp only [List.length_append]
        omega
      conv_lhs => rw [← List.take_append_drop (mostExamplesKept - b.length) (unseen b c)]
      rw [unseen_append, ← List.append_assoc, List.take_append_of_le_length hmany]

/-- Examples that are in the list already leave it as it is. -/
theorem keepAll_self (ha : KeptExamples a) (hb : KeptExamples b) :
    Specimen.keepAll (Specimen.keepAll a b) a = Specimen.keepAll a b := by
  have hab := ha.keepAll hb
  have hsub : a ⊆ Specimen.keepAll a b := by
    rw [keepAll_eq ha.short hb.different, List.take_append, List.take_of_length_le ha.short]
    exact List.subset_append_left _ _
  have hnone : unseen (Specimen.keepAll a b) a = [] :=
    List.eq_nil_iff_forall_not_mem.mpr fun x hx => by
      obtain ⟨hx, hall⟩ := mem_unseen.mp hx
      have := hall x (hsub hx)
      rw [Json.same_refl (ha.distinctKeys x hx)] at this
      cases this
  rw [keepAll_eq hab.short ha.different, hnone, List.append_nil, List.take_of_length_le hab.short]

end KeptExamples

/-! ### The literals among some values -/

theorem distinctKeys_of_isLiteral {x : Json} (h : x.isLiteral = true) : x.DistinctKeys := by
  cases x with
  | array => cases h
  | object => cases h
  | _ => constructor

/-- The literals among the values, one of all that are equal. -/
def differentLiterals (xs : List Json) : List Json :=
  (xs.filter Json.isLiteral).pwFilter fun x y => x.same y = false

theorem pairwise_differentLiterals (xs : List Json) :
    (differentLiterals xs).Pairwise fun x y => x.same y = false :=
  List.pairwise_pwFilter _

theorem of_mem_differentLiterals {xs : List Json} {x : Json} (h : x ∈ differentLiterals xs) :
    x ∈ xs ∧ x.isLiteral = true :=
  List.mem_filter.mp (List.pwFilter_subset _ h)

theorem exists_same_of_literal {xs : List Json} {x : Json} (hx : x ∈ xs) (hl : x.isLiteral = true) :
    ∃ y ∈ differentLiterals xs, y.same x = true := by
  by_contra hno
  have hnone : ∀ y ∈ differentLiterals xs, x.same y = false := by
    intro y hy
    by_contra hxy
    have hy' := (of_mem_differentLiterals hy).2
    exact hno ⟨y, hy, Json.same_symm (distinctKeys_of_isLiteral hl) (distinctKeys_of_isLiteral hy')
      (by simpa using hxy)⟩
  have hall := (List.forall_mem_pwFilter (R := fun x y : Json => x.same y = false)
    (fun h => Json.differs_or_differs h _) x _).mp hnone x (List.mem_filter.mpr ⟨hx, hl⟩)
  rw [Json.same_refl (distinctKeys_of_isLiteral hl)] at hall
  cases hall

/-- The examples are literals among the values: all of them, each once, or else as many as are kept. -/
structure Exemplifies (examples values : List Json) : Prop where
  kept : KeptExamples examples
  literal : ∀ x ∈ examples, x ∈ values ∧ x.isLiteral = true
  complete : examples.length < mostExamplesKept →
    ∀ x ∈ values, x.isLiteral = true → ∃ y ∈ examples, y.same x = true

namespace Exemplifies
variable {a b xs ys : List Json}

theorem nil : Exemplifies [] [] := ⟨.nil, nofun, fun _ => nofun⟩

theorem singleton (x : Json) : Exemplifies (if x.isLiteral then [x] else []) [x] := by
  split
  case isTrue h =>
    have hkeys := distinctKeys_of_isLiteral h
    refine ⟨.singleton hkeys, fun y hy => ⟨hy, ?_⟩, fun _ y hy _ => ⟨y, hy, ?_⟩⟩
    · rwa [List.mem_singleton.mp hy]
    · rw [List.mem_singleton.mp hy]
      exact Json.same_refl hkeys
  case isFalse h =>
    refine ⟨.nil, nofun, fun _ y hy hl => absurd ?_ h⟩
    rwa [← List.mem_singleton.mp hy]

/-- Two lists of examples merged are examples of the values together: what is left out on the way would be
left out at the end. -/
theorem keepAll (ha : Exemplifies a xs) (hb : Exemplifies b ys) :
    Exemplifies (keepAll a b) (xs ++ ys) where
  kept := ha.kept.keepAll hb.kept
  literal x hx := by
    rw [keepAll_eq ha.kept.short hb.kept.different] at hx
    rcases List.mem_append.mp (List.mem_of_mem_take hx) with hx | hx
    · exact ⟨List.mem_append_left _ (ha.literal x hx).1, (ha.literal x hx).2⟩
    · have hx := (mem_unseen.mp hx).1
      exact ⟨List.mem_append_right _ (hb.literal x hx).1, (hb.literal x hx).2⟩
  complete hroom x hx hl := by
    rw [keepAll_eq ha.kept.short hb.kept.different] at hroom ⊢
    have hlength : (a ++ unseen a b).length < mostExamplesKept := by
      rw [List.length_take] at hroom
      omega
    rw [List.take_of_length_le (Nat.le_of_lt hlength)]
    rw [List.length_append] at hlength
    rcases List.mem_append.mp hx with hx | hx
    · obtain ⟨y, hy, hyx⟩ := ha.complete (by omega) x hx hl
      exact ⟨y, List.mem_append_left _ hy, hyx⟩
    · have hshort := KeptExamples.length_le ha.kept.distinctKeys hb.kept.different hb.kept.distinctKeys
      obtain ⟨y, hy, hyx⟩ := hb.complete (by omega) x hx hl
      by_cases hseen : ∀ z ∈ a, z.same y = false
      · exact ⟨y, List.mem_append_right _ (mem_unseen.mpr ⟨hy, hseen⟩), hyx⟩
      · push Not at hseen
        obtain ⟨z, hz, hzy⟩ := hseen
        exact ⟨z, List.mem_append_left _ hz, Json.same_trans (by simpa using hzy) hyx⟩

theorem congr (h : Exemplifies a xs) (hmem : ∀ x, x ∈ xs ↔ x ∈ ys) : Exemplifies a ys where
  kept := h.kept
  literal x hx := ⟨(hmem x).mp (h.literal x hx).1, (h.literal x hx).2⟩
  complete hroom x hx := h.complete hroom x ((hmem x).mpr hx)

/-- There are as many examples as different literals, up to as many as are kept. -/
theorem length_eq (h : Exemplifies a xs) :
    a.length = min mostExamplesKept (differentLiterals xs).length := by
  have hkeys : ∀ x ∈ differentLiterals xs, x.DistinctKeys :=
    fun x hx => distinctKeys_of_isLiteral (of_mem_differentLiterals hx).2
  have hle : a.length ≤ (differentLiterals xs).length :=
    KeptExamples.length_le_of_represented hkeys h.kept.different h.kept.distinctKeys
      fun x hx => exists_same_of_literal (h.literal x hx).1 (h.literal x hx).2
  have hshort := h.kept.short
  by_cases hroom : a.length < mostExamplesKept
  · have hge : (differentLiterals xs).length ≤ a.length :=
      KeptExamples.length_le_of_represented h.kept.distinctKeys (pairwise_differentLiterals xs) hkeys
        fun x hx =>
          h.complete hroom x (of_mem_differentLiterals hx).1 (of_mem_differentLiterals hx).2
    omega
  · omega

end Exemplifies

end Specimen
