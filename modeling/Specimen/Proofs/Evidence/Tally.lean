import Specimen.Proofs.Evidence.Observation
import Specimen.Proofs.Json.Lockstep

/-! What evidence says of the values that it was gathered from, to the letter.

`Tallies` says that evidence is what some values amount to: a kind just if a value of the kind is among
them and all others fit it, `anything` just if two of them are of different categories, a null just if
there is one. It follows the evidence into arrays and dictionaries, with all their parts as the new
values, and leaves open what is counted of an object. For shapes that is `Counts`: how many objects there
were, how many had each key, and what they had under it, a null where they had nothing. Joining evidence
puts the values together (`Tallies.joinWith`, `Counts.merge`), and what is read off a value is a tally of
that value (`Observer.tallies_read`). -/
namespace Specimen

/-- What keeps two values from having a type in common. -/
inductive Category where
  | boolean
  | number
  | date
  | string
  | array
  | dictionary
  | record
  deriving DecidableEq

namespace Evidence

/-! ### Kinds joined without their parts -/

namespace Head

def category? : Head → Option Category
  | .scalar .boolean => some .boolean
  | .scalar .date => some .date
  | .scalar .string => some .string
  | .scalar _ => some .number
  | .array => some .array
  | .dictionary => some .dictionary
  | .object => some .record
  | _ => none

/-- The wider of two kinds. -/
def join (g h : Head) : Head := if g.le h then h else if h.le g then g else .anything

theorem le_refl (h : Head) : h.le h = true := by
  cases h with
  | scalar k => exact k.le_refl
  | _ => rfl

theorem le_trans {a b c : Head} (hab : a.le b = true) (hbc : b.le c = true) : a.le c = true := by
  cases a with
  | unknown => rfl
  | null =>
    cases b with
    | unknown => cases hab
    | anything => cases hab
    | _ => cases c <;> first | rfl | cases hbc
  | scalar j =>
    cases b with
    | scalar k =>
      cases c with
      | scalar l => exact Scalar.le_trans hab hbc
      | _ => cases hbc
    | _ => cases hab
  | _ => cases b <;> first | exact hbc | cases hab

theorem category_of_le {g h : Head} {c : Category} (hgh : g.le h = true)
    (hg : g.category? = some c) : h.category? = some c := by
  cases g with
  | scalar j =>
    cases h with
    | scalar k =>
      rw [← hg]
      revert hgh
      cases j <;> cases k <;> decide
    | _ => cases hgh
  | unknown => cases hg
  | null => cases hg
  | anything => cases hg
  | _ => cases h <;> first | exact hg | cases hgh

/-- Kinds of one category are comparable. -/
theorem le_or_le {g h : Head} {c : Category} (hg : g.category? = some c)
    (hh : h.category? = some c) : g.le h = true ∨ h.le g = true := by
  rw [← hh] at hg
  cases g with
  | scalar j =>
    cases h with
    | scalar k =>
      revert hg
      cases j <;> cases k <;> decide
    | _ => cases j <;> cases hg
  | _ =>
    cases h with
    | scalar k => cases k <;> cases hg
    | _ => first | exact .inl rfl | (cases hh; done) | cases hg

theorem join_unknown (h : Head) : h.join .unknown = h := by
  cases h <;> rfl

theorem anything_join (h : Head) : Head.anything.join h = .anything := by
  cases h <;> rfl

theorem join_anything (h : Head) : h.join .anything = .anything := by
  cases h <;> rfl

theorem null_le {h : Head} {c : Category} (hh : h.category? = some c) : null.le h = true := by
  cases h <;> first | rfl | cases hh

end Head

/-- Joined evidence has the kinds joined, if the objects can be merged. -/
theorem head_joinWith {O : Type} {merge : O → O → Option O} (a b : Evidence O)
    (hmerge : ∀ x y, a.innermost? = some x → b.innermost? = some y → (merge x y).isSome = true) :
    (joinWith merge a b).head = a.head.join b.head := by
  cases a with
  | scalar j m =>
    cases b with
    | scalar k n =>
      simp only [joinWith, head]
      cases j <;> cases k <;> rfl
    | _ => rfl
  | object x m =>
    cases b with
    | object y n =>
      obtain ⟨z, hz⟩ := Option.isSome_iff_exists.mp (hmerge x y rfl rfl)
      simp only [joinWith, hz]
      rfl
    | _ => rfl
  | _ => cases b <;> rfl

end Evidence

/-! ### Values by their kind -/

namespace Observer
variable (o : Observer) (atRoot : Bool)
open Evidence (Head)

/-- The object would be read as a dictionary. -/
def takesForDictionary (members : List (String × Json)) : Bool :=
  (o.dictionaries.detect o.isDate
    ((o.observeMembers members).map fun f => (f.name, f.type))).isSome

theorem entries_observeMembers (members : List (String × Json)) :
    (o.observeMembers members).map (fun f => (f.name, f.type)) =
      members.map fun m => (m.1, o.observe m.2) := by
  rw [observeMembers_eq, List.map_map]
  rfl

/-- An object is taken for a dictionary if its keys allow it and its values agree. -/
theorem takesForDictionary_iff {members : List (String × Json)} :
    o.takesForDictionary members = true ↔
      o.dictionaries.admitsKeys o.isDate (members.map Prod.fst) = true ∧
        (Evidence.joinAll (members.map fun m => o.observe m.2)).isAnything = false := by
  rw [takesForDictionary, entries_observeMembers, Option.isSome_iff_exists]
  simp only [DictionaryPolicy.detect_eq_some, List.map_map, Function.comp_def]
  constructor
  · rintro ⟨_, hkeys, rfl, h⟩
    exact ⟨hkeys, h⟩
  · rintro ⟨hkeys, h⟩
    exact ⟨_, hkeys, rfl, h⟩

theorem observe_object (members : List (String × Json)) : o.observe (.object members) =
    if o.takesForDictionary members then
      .dictionary (.joinAll (members.map fun m => o.observe m.2)) false
    else .object ⟨o.observeMembers members, 1⟩ false := by
  rw [observe, objectEvidence, takesForDictionary, entries_observeMembers]
  cases h : o.dictionaries.detect o.isDate (members.map fun m => (m.1, o.observe m.2)) with
  | none => rfl
  | some value =>
    obtain ⟨_, rfl, _⟩ := DictionaryPolicy.detect_eq_some.mp h
    rw [List.map_map]
    rfl

/-- The kind of a single value. A sample of the root is not taken for a dictionary. -/
def headOf : Json → Head
  | .null => .null
  | .bool _ => .scalar .boolean
  | .number n => .scalar (numberKind n)
  | .string s => .scalar (if o.isDate s then .date else .string)
  | .array _ => .array
  | .object members => if !atRoot && o.takesForDictionary members then .dictionary else .object

/-- The category of a value, if it is no null. -/
def category? : Json → Option Category
  | .null => none
  | .bool _ => some .boolean
  | .number _ => some .number
  | .string s => some (if o.isDate s then .date else .string)
  | .array _ => some .array
  | .object members =>
    some (if !atRoot && o.takesForDictionary members then .dictionary else .record)

theorem category_headOf (x : Json) : (o.headOf atRoot x).category? = o.category? atRoot x := by
  cases x with
  | number n =>
    have hnumber : ∀ k, k = numberKind n → (Head.scalar k).category? = some .number := by
      intro k hk
      cases n with
      | float _ => cases hk; rfl
      | int n =>
        simp only [numberKind] at hk
        split at hk
        · cases hk; rfl
        · split at hk <;> cases hk <;> rfl
    exact hnumber _ rfl
  | string s =>
    simp only [headOf, category?]
    split <;> rfl
  | object members =>
    simp only [headOf, category?]
    split <;> rfl
  | _ => rfl

theorem category?_eq_none {x : Json} : o.category? atRoot x = none ↔ x = .null := by
  cases x <;> simp [category?]

/-- Two of the values are of different categories. -/
def Mixed (xs : List Json) : Prop :=
  ∃ x ∈ xs, ∃ y ∈ xs, ∃ c d, o.category? atRoot x = some c ∧ o.category? atRoot y = some d ∧ c ≠ d

theorem Mixed.mono {o : Observer} {atRoot : Bool} {xs ys : List Json} (h : o.Mixed atRoot xs)
    (hsub : xs ⊆ ys) : o.Mixed atRoot ys := by
  obtain ⟨x, hx, y, hy, hcategories⟩ := h
  exact ⟨x, hsub hx, y, hsub hy, hcategories⟩

/-- The kind is what the values amount to. -/
inductive Amounts : List Json → Head → Prop where
  | unknown : Amounts [] .unknown
  | null {xs} (hne : xs ≠ []) (h : ∀ x ∈ xs, x = .null) : Amounts xs .null
  | anything {xs} (h : o.Mixed atRoot xs) : Amounts xs .anything
  | kind {xs h c} (hc : Head.category? h = some c) (hmem : ∃ x ∈ xs, o.headOf atRoot x = h)
    (hle : ∀ x ∈ xs, (o.headOf atRoot x).le h = true) : Amounts xs h

variable {o atRoot}

/-- The category of the kind that all values are of. -/
theorem category_of_le {x : Json} {h : Head} {c d : Category} (hle : (o.headOf atRoot x).le h = true)
    (hh : h.category? = some c) (hx : o.category? atRoot x = some d) : d = c := by
  rw [← category_headOf] at hx
  rw [Head.category_of_le hle hx] at hh
  exact Option.some.inj hh

theorem Amounts.le {xs : List Json} {h : Head} {c : Category} (hxs : Amounts o atRoot xs h)
    (hc : h.category? = some c) : ∀ x ∈ xs, (o.headOf atRoot x).le h = true := by
  cases hxs with
  | kind _ _ hle => exact hle
  | _ => cases hc

theorem Amounts.of_nulls {xs ys : List Json} {h : Head} (hxs : Amounts o atRoot xs h)
    (hne : ys ≠ []) (hys : ∀ y ∈ ys, y = .null) : Amounts o atRoot (xs ++ ys) (h.join .null) := by
  cases hxs with
  | unknown => exact .null hne hys
  | null hne' hxs =>
    exact .null (by simp [hne']) fun x hx => (List.mem_append.mp hx).elim (hxs x) (hys x)
  | anything hmixed => exact .anything (hmixed.mono (List.subset_append_left _ _))
  | @kind _ h c hc hmem hle =>
    have hjoin : h.join .null = h := by cases h <;> first | rfl | cases hc
    rw [hjoin]
    obtain ⟨x, hx, hxh⟩ := hmem
    refine .kind hc ⟨x, List.mem_append_left _ hx, hxh⟩ fun y hy => ?_
    rcases List.mem_append.mp hy with hy | hy
    · exact hle y hy
    · cases hys y hy
      exact Head.null_le hc

theorem Amounts.congr {xs ys : List Json} {h : Head} (hxs : Amounts o atRoot xs h)
    (hmem : ∀ x, x ∈ xs ↔ x ∈ ys) : Amounts o atRoot ys h := by
  cases hxs with
  | unknown =>
    have : ys = [] := List.eq_nil_iff_forall_not_mem.mpr fun y hy =>
      List.not_mem_nil ((hmem y).mpr hy)
    rw [this]
    exact .unknown
  | null hne hall =>
    obtain ⟨x, hx⟩ := List.exists_mem_of_ne_nil _ hne
    exact .null (List.ne_nil_of_mem ((hmem x).mp hx)) fun y hy => hall y ((hmem y).mpr hy)
  | anything h => exact .anything (h.mono fun x hx => (hmem x).mp hx)
  | kind hc hattained hle =>
    obtain ⟨x, hx, hxh⟩ := hattained
    exact .kind hc ⟨x, (hmem x).mp hx, hxh⟩ fun y hy => hle y ((hmem y).mpr hy)

/-- Where each list has a widest kind, together they have the wider one, or no kind in common. -/
theorem Amounts.append_kinds {xs ys : List Json} {g h : Head} {c d : Category}
    (hc : g.category? = some c) (hd : h.category? = some d)
    (hmem : ∃ x ∈ xs, o.headOf atRoot x = g) (hmem' : ∃ y ∈ ys, o.headOf atRoot y = h)
    (hle : ∀ x ∈ xs, (o.headOf atRoot x).le g = true)
    (hle' : ∀ y ∈ ys, (o.headOf atRoot y).le h = true) :
    Amounts o atRoot (xs ++ ys) (g.join h) := by
  obtain ⟨x, hx, hxg⟩ := hmem
  obtain ⟨y, hy, hyh⟩ := hmem'
  have hx := List.mem_append_left ys hx
  have hy := List.mem_append_right xs hy
  unfold Head.join
  by_cases hgh : g.le h = true
  · rw [if_pos hgh]
    refine .kind hd ⟨y, hy, hyh⟩ fun z hz => ?_
    exact (List.mem_append.mp hz).elim (fun hz => Head.le_trans (hle z hz) hgh) (hle' z)
  rw [if_neg hgh]
  by_cases hhg : h.le g = true
  · rw [if_pos hhg]
    refine .kind hc ⟨x, hx, hxg⟩ fun z hz => ?_
    exact (List.mem_append.mp hz).elim (hle z) fun hz => Head.le_trans (hle' z hz) hhg
  rw [if_neg hhg]
  refine .anything ⟨x, hx, y, hy, c, d, ?_, ?_, ?_⟩
  · rw [← category_headOf, hxg, hc]
  · rw [← category_headOf, hyh, hd]
  · rintro rfl
    exact (Head.le_or_le hc hd).elim hgh hhg

/-- Values of two kinds amount to the kinds joined. -/
theorem Amounts.append {xs ys : List Json} {g h : Head} (hxs : Amounts o atRoot xs g)
    (hys : Amounts o atRoot ys h) : Amounts o atRoot (xs ++ ys) (g.join h) := by
  cases hys with
  | unknown =>
    rw [List.append_nil, Head.join_unknown]
    exact hxs
  | null hne hnull => exact hxs.of_nulls hne hnull
  | anything hmixed =>
    rw [Head.join_anything]
    exact .anything (hmixed.mono (List.subset_append_right _ _))
  | @kind _ h d hd hmem' hle' =>
    have hys := Amounts.kind (o := o) hd hmem' hle'
    cases hxs with
    | unknown => exact hys
    | null hne hnull =>
      have hjoin : Head.null.join h = h.join .null := by cases h <;> rfl
      rw [hjoin]
      refine (hys.of_nulls hne hnull).congr fun x => ?_
      rw [List.mem_append, List.mem_append, or_comm]
    | anything hmixed =>
      rw [Head.anything_join]
      exact .anything (hmixed.mono (List.subset_append_left _ _))
    | kind hc hmem hle => exact .append_kinds hc hd hmem hmem' hle hle'

end Observer

/-! ### Evidence and its values -/

/-- What is seen of evidence without a look inside is what the values show. -/
structure Shows {O : Type} (o : Observer) (atRoot : Bool) (xs : List Json) (e : Evidence O) :
    Prop where
  head : o.Amounts atRoot xs e.head
  nullable : e.isNullable = true ↔ Json.null ∈ xs

/-- The evidence is what the values amount to, with what is inside of them. What is counted of objects is
left to `R`. -/
inductive Tallies {O : Type} (o : Observer) (R : List (List (String × Json)) → O → Prop) :
    Bool → List Json → Evidence O → Prop where
  | unknown {atRoot xs} (h : Shows o atRoot xs (.unknown : Evidence O)) :
    Tallies o R atRoot xs .unknown
  | null {atRoot xs} (h : Shows o atRoot xs (.null : Evidence O)) : Tallies o R atRoot xs .null
  | anything {atRoot xs n} (h : Shows o atRoot xs (.anything n : Evidence O)) :
    Tallies o R atRoot xs (.anything n)
  | scalar {atRoot xs k n} (h : Shows o atRoot xs (.scalar k n : Evidence O)) :
    Tallies o R atRoot xs (.scalar k n)
  | array {atRoot xs y n} (h : Shows o atRoot xs (.array y n : Evidence O))
    (hy : Tallies o R false (xs.flatMap Json.items) y) : Tallies o R atRoot xs (.array y n)
  | dictionary {atRoot xs y n} (h : Shows o atRoot xs (.dictionary y n : Evidence O))
    (hy : Tallies o R false (xs.flatMap Json.memberValues) y) :
    Tallies o R atRoot xs (.dictionary y n)
  | object {atRoot xs x n} (h : Shows o atRoot xs (.object x n))
    (hx : R (xs.filterMap Json.members?) x) : Tallies o R atRoot xs (.object x n)

section Tallies
variable {O : Type} {o : Observer} {R : List (List (String × Json)) → O → Prop} {atRoot : Bool}
  {xs ys : List Json} {e e' : Evidence O}

theorem Tallies.shows (h : Tallies o R atRoot xs e) : Shows o atRoot xs e := by
  cases h <;> assumption

theorem Shows.joinWith (merge : O → O → Option O) (h : Shows o atRoot xs e)
    (h' : Shows o atRoot ys e') (hmerge : ∀ x y, e.innermost? = some x → e'.innermost? = some y →
      (merge x y).isSome = true) : Shows o atRoot (xs ++ ys) (e.joinWith merge e') where
  head := by
    rw [Evidence.head_joinWith e e' hmerge]
    exact h.head.append h'.head
  nullable := by
    rw [Evidence.isNullable_joinWith, Bool.or_eq_true, h.nullable, h'.nullable, List.mem_append]

/-- Lists of values that have the same inside of them. -/
structure SameParts (xs ys : List Json) : Prop where
  items : xs.flatMap Json.items = ys.flatMap Json.items
  memberValues : xs.flatMap Json.memberValues = ys.flatMap Json.memberValues
  objects : xs.filterMap Json.members? = ys.filterMap Json.members?

theorem SameParts.of_nulls {nulls : List Json} (h : ∀ x ∈ nulls, x = .null) :
    SameParts [] nulls := by
  constructor <;> symm
  · exact List.flatMap_eq_nil_iff.mpr fun x hx => by rw [h x hx]; rfl
  · exact List.flatMap_eq_nil_iff.mpr fun x hx => by rw [h x hx]; rfl
  · exact List.filterMap_eq_nil_iff.mpr fun x hx => by rw [h x hx]; rfl

theorem SameParts.append {xs ys xs' ys' : List Json} (h : SameParts xs ys)
    (h' : SameParts xs' ys') : SameParts (xs ++ xs') (ys ++ ys') where
  items := by rw [List.flatMap_append, List.flatMap_append, h.items, h'.items]
  memberValues := by
    rw [List.flatMap_append, List.flatMap_append, h.memberValues, h'.memberValues]
  objects := by rw [List.filterMap_append, List.filterMap_append, h.objects, h'.objects]

theorem SameParts.refl (xs : List Json) : SameParts xs xs := ⟨rfl, rfl, rfl⟩

/-- Nulls change nothing inside. -/
theorem Tallies.intoNullable (h : Tallies o R atRoot xs e) (hparts : SameParts xs ys)
    (hshows : Shows o atRoot ys e.intoNullable) : Tallies o R atRoot ys e.intoNullable := by
  cases h with
  | unknown _ => exact .null hshows
  | null _ => exact .null hshows
  | anything _ => exact .anything hshows
  | scalar _ => exact .scalar hshows
  | array _ hy => exact .array hshows (hparts.items ▸ hy)
  | dictionary _ hy => exact .dictionary hshows (hparts.memberValues ▸ hy)
  | object _ hx => exact .object hshows (hparts.objects ▸ hx)

theorem Shows.eq_nil_of_unknown (h : Shows o atRoot xs (.unknown : Evidence O)) : xs = [] := by
  cases h.head with
  | unknown => rfl
  | kind hc _ _ => cases hc

theorem Shows.eq_null_of_null (h : Shows o atRoot xs (.null : Evidence O)) :
    ∀ x ∈ xs, x = .null := by
  cases h.head with
  | null _ h => exact h
  | kind hc _ _ => cases hc

theorem Tallies.append_unknown (h : Tallies o R atRoot xs e)
    (h' : Shows o atRoot ys (.unknown : Evidence O)) : Tallies o R atRoot (xs ++ ys) e := by
  rw [h'.eq_nil_of_unknown, List.append_nil]
  exact h

theorem Tallies.append_null (h : Tallies o R atRoot xs e)
    (h' : Shows o atRoot ys (.null : Evidence O)) (hshows : Shows o atRoot (xs ++ ys) e.intoNullable) :
    Tallies o R atRoot (xs ++ ys) e.intoNullable := by
  have hparts := (SameParts.refl xs).append (.of_nulls h'.eq_null_of_null)
  rw [List.append_nil] at hparts
  exact h.intoNullable hparts hshows

section Join
variable (merge : O → O → Option O)
  (hmerge : ∀ x y, e.innermost? = some x → e'.innermost? = some y →
    ∃ z, merge x y = some z ∧ ∀ os ps, R os x → R ps y → R (os ++ ps) z)
include hmerge

theorem Tallies.shows_joinWith (h : Tallies o R atRoot xs e) (h' : Tallies o R atRoot ys e') :
    Shows o atRoot (xs ++ ys) (e.joinWith merge e') :=
  h.shows.joinWith merge h'.shows fun x y hx hy => by
    obtain ⟨z, hz, _⟩ := hmerge x y hx hy
    rw [hz]
    rfl

/-- Evidence joined is a tally of the values together, if objects that merge are counted together. -/
theorem Tallies.joinWith (h : Tallies o R atRoot xs e) (h' : Tallies o R atRoot ys e') :
    Tallies o R atRoot (xs ++ ys) (e.joinWith merge e') := by
  induction h generalizing e' ys with
  | unknown h =>
    have hjoin : Evidence.joinWith merge .unknown e' = e' := by cases e' <;> rfl
    rw [h.eq_nil_of_unknown, hjoin]
    exact h'
  | @null atRoot xs h =>
    have hjoin : Evidence.joinWith merge .null e' = e'.intoNullable := by cases e' <;> rfl
    have hshows := (Tallies.null h).shows_joinWith merge hmerge h'
    rw [hjoin] at hshows ⊢
    exact h'.intoNullable ((SameParts.of_nulls h.eq_null_of_null).append (.refl ys)) hshows
  | anything h =>
    have hshows := (Tallies.anything h).shows_joinWith merge hmerge h'
    cases e' <;> exact .anything hshows
  | @scalar atRoot xs j m h =>
    have hshows := (Tallies.scalar h).shows_joinWith merge hmerge h'
    cases e' with
    | unknown => exact .scalar hshows
    | null => exact .scalar hshows
    | scalar k n =>
      simp only [Evidence.joinWith] at hshows ⊢
      cases hjk : j.join k with
      | none =>
        rw [hjk] at hshows
        exact .anything hshows
      | some l =>
        rw [hjk] at hshows
        exact .scalar hshows
    | _ => exact .anything hshows
  | @array atRoot xs y n h hy ih =>
    have hshows := (Tallies.array h hy).shows_joinWith merge hmerge h'
    cases h' with
    | unknown h' => exact (Tallies.array h hy).append_unknown h'
    | null h' => exact (Tallies.array h hy).append_null h' hshows
    | array h' hy' =>
      refine .array hshows ?_
      rw [List.flatMap_append]
      exact ih hmerge hy'
    | _ => exact .anything hshows
  | @dictionary atRoot xs y n h hy ih =>
    have hshows := (Tallies.dictionary h hy).shows_joinWith merge hmerge h'
    cases h' with
    | unknown h' => exact (Tallies.dictionary h hy).append_unknown h'
    | null h' => exact (Tallies.dictionary h hy).append_null h' hshows
    | dictionary h' hy' =>
      refine .dictionary hshows ?_
      rw [List.flatMap_append]
      exact ih hmerge hy'
    | _ => exact .anything hshows
  | @object atRoot xs x n h hx =>
    have hshows := (Tallies.object h hx).shows_joinWith merge hmerge h'
    cases h' with
    | unknown h' => exact (Tallies.object h hx).append_unknown h'
    | null h' => exact (Tallies.object h hx).append_null h' hshows
    | @object _ _ y _ h' hy =>
      obtain ⟨z, hz, hcounts⟩ := hmerge x y rfl rfl
      simp only [Evidence.joinWith, hz] at hshows ⊢
      refine .object hshows ?_
      rw [List.filterMap_append]
      exact hcounts _ _ hx hy
    | _ => exact .anything hshows

end Join

end Tallies

end Specimen
