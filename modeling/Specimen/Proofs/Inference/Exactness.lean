import Specimen.Proofs.Inference.Soundness
import Specimen.Proofs.Model.References

/-! Inference is exact: a model says what its samples say, and no more.

The kind of each node is settled by the categories of the values that are paired with it
(`inferValues_precise`), whatever positions share the node, and the counts of a class are those of the
objects that are paired with it (`inferValues_counts`). Both are read off the table, whose types are
tallies of their values (`ClassTable.exists_pairing`) and whose classes are accounts of their objects
(`ClassTable.ledger_internRoot`). -/
namespace Specimen

/-- A number that is out of bounds is not a whole number between them. -/
def Json.fits (low high : Int) : Json → Bool
  | .number (.int n) => low ≤ n && n ≤ high
  | .number (.float _) => false
  | _ => true

/-- The kind of values that are all of one category. -/
def Category.kind (xs : List Json) : Category → Kind
  | .boolean => .boolean
  | .number =>
    if xs.all (Json.fits (-2147483648) 2147483647) then .integer
    else if xs.all (Json.fits (-9223372036854775808) 9223372036854775807) then .long
    else .float
  | .date => .date
  | .string => .string
  | .array => .array
  | .dictionary => .dictionary
  | .record => .object

/-- The kind in the form that admits null, where there is one. -/
def Kind.orNull (kind : Kind) (nullable : Bool) : Kind :=
  if nullable then kind.nullable?.getD kind else kind

namespace Observer
open Evidence (Head)
variable {o : Observer} {atRoot : Bool} {xs : List Json}

theorem numberKind_le_integer {n : Json.Number} :
    (numberKind n).le .integer = Json.fits (-2147483648) 2147483647 (.number n) := by
  cases n with
  | float _ => rfl
  | int n =>
    simp only [numberKind, Json.fits]
    split
    case isTrue h => simp [h, Scalar.le]
    case isFalse h =>
      have hnot : (decide (-2147483648 ≤ n) && decide (n ≤ 2147483647)) = false := by
        simpa using h
      rw [hnot]
      split <;> rfl

theorem numberKind_le_long {n : Json.Number} :
    (numberKind n).le .long =
      Json.fits (-9223372036854775808) 9223372036854775807 (.number n) := by
  cases n with
  | float _ => rfl
  | int n =>
    simp only [numberKind, Json.fits]
    split
    case isTrue h =>
      have hlong : (decide (-9223372036854775808 ≤ n) && decide (n ≤ 9223372036854775807)) = true := by
        simp only [Bool.and_eq_true, decide_eq_true_eq] at h ⊢
        omega
      rw [hlong]
      rfl
    case isFalse =>
      split
      case isTrue h => simp [h, Scalar.le]
      case isFalse h =>
        have hnot : (decide (-9223372036854775808 ≤ n) && decide (n ≤ 9223372036854775807)) =
            false := by simpa using h
        rw [hnot]
        rfl

theorem headOf_le_scalar {k : Scalar} {low high : Int}
    (hnumber : ∀ n, (numberKind n).le k = Json.fits low high (.number n)) {x : Json}
    (hx : o.category? atRoot x = none ∨ o.category? atRoot x = some .number) :
    (o.headOf atRoot x).le (.scalar k) = Json.fits low high x := by
  cases x with
  | null => rfl
  | number n => exact hnumber n
  | string s =>
    simp only [category?] at hx
    split at hx <;> simp at hx
  | object members =>
    simp only [category?] at hx
    split at hx <;> simp at hx
  | _ => simp [category?] at hx

/-- The values all fit a number kind just if the widest of them does. -/
theorem all_fits_eq {k j : Scalar} {low high : Int} (hk : (Head.scalar k).category? = some .number)
    (hmem : ∃ x ∈ xs, o.headOf atRoot x = .scalar k)
    (hle : ∀ x ∈ xs, (o.headOf atRoot x).le (.scalar k) = true)
    (hnumber : ∀ n, (numberKind n).le j = Json.fits low high (.number n)) :
    xs.all (Json.fits low high) = k.le j := by
  have hfits : ∀ x ∈ xs, (o.headOf atRoot x).le (.scalar j) = Json.fits low high x := by
    intro x hx
    refine headOf_le_scalar hnumber ?_
    cases hcategory : o.category? atRoot x with
    | none => exact .inl rfl
    | some d => exact .inr (congrArg some (category_of_le (hle x hx) hk hcategory))
  rw [Bool.eq_iff_iff, List.all_eq_true]
  constructor
  · intro hall
    obtain ⟨x, hx, hxk⟩ := hmem
    have := hall x hx
    rwa [← hfits x hx, hxk] at this
  · intro hkj x hx
    rw [← hfits x hx]
    exact Head.le_trans (hle x hx) hkj

/-- Where all values are of one category, the widest of their kinds is the kind of the category. -/
theorem kind_of_category {h : Head} {c : Category} (hc : h.category? = some c)
    (hmem : ∃ x ∈ xs, o.headOf atRoot x = h) (hle : ∀ x ∈ xs, (o.headOf atRoot x).le h = true)
    (n : Bool) : h.kind n = (c.kind xs).orNull n := by
  have hnumber : ∀ k, h = .scalar k → c = .number → h.kind n = (c.kind xs).orNull n := by
    rintro k rfl rfl
    rw [Category.kind, all_fits_eq hc hmem hle fun _ => numberKind_le_integer,
      all_fits_eq hc hmem hle fun _ => numberKind_le_long]
    cases k <;> cases n <;> first | rfl | cases hc
  cases h with
  | scalar k =>
    cases k <;> cases hc <;> first | exact hnumber _ rfl rfl | cases n <;> rfl
  | unknown => cases hc
  | null => cases hc
  | anything => cases hc
  | _ =>
    cases hc
    cases n <;> rfl

/-! ### The kind of a node -/

/-- Values without a category are nulls. -/
theorem not_mixed_of_nulls (h : ∀ x ∈ xs, x = .null) : ¬ o.Mixed atRoot xs := by
  rintro ⟨x, hx, _, _, c, _, hc, _⟩
  rw [h x hx] at hc
  cases hc

theorem not_mixed_of_le {h : Head} {c : Category} (hc : h.category? = some c)
    (hle : ∀ x ∈ xs, (o.headOf atRoot x).le h = true) : ¬ o.Mixed atRoot xs := by
  rintro ⟨x, hx, y, hy, d, d', hd, hd', hne⟩
  exact hne ((category_of_le (hle x hx) hc hd).trans (category_of_le (hle y hy) hc hd').symm)

/-- Nulls that are no values of the node do not change what the values amount to. -/
theorem Amounts.of_pairs {m : TypeModel} {samples : List Json} {n : Node} {ys : List Json}
    (h : m.Pairs samples n ys) {head : Head} (hamounts : o.Amounts n.isRoot ys head) :
    o.Amounts n.isRoot (m.valuesAt samples n) head := by
  have hsolid : ∀ y ∈ ys, y ≠ .null → y ∈ m.valuesAt samples n :=
    fun y hy hne => (h.only y hy).resolve_right hne
  have hne_null : ∀ {y c}, o.category? n.isRoot y = some c → y ≠ .null := by
    rintro _ c hc rfl
    cases hc
  cases hamounts with
  | unknown =>
    have hnone : m.valuesAt samples n = [] :=
      List.eq_nil_iff_forall_not_mem.mpr fun x hx => List.not_mem_nil (h.paired x hx)
    rw [hnone]
    exact .unknown
  | null hne hnull => exact .null (h.nonempty hne) fun x hx => hnull x (h.paired x hx)
  | anything hmixed =>
    obtain ⟨x, hx, y, hy, c, d, hc, hd, hne⟩ := hmixed
    exact .anything
      ⟨x, hsolid x hx (hne_null hc), y, hsolid y hy (hne_null hd), c, d, hc, hd, hne⟩
  | kind hc hmem hle =>
    obtain ⟨x, hx, rfl⟩ := hmem
    have hx' := hsolid x hx (hne_null ((category_headOf ..).symm.trans hc))
    exact .kind hc ⟨x, hx', rfl⟩ fun y hy => hle y (h.paired y hy)

/-- The kind that values amount to, told by their categories. -/
structure KindOf (o : Observer) (atRoot : Bool) (xs : List Json) (kind : Kind) (nullable : Bool) :
    Prop where
  nonConstrained : kind = .nonConstrained ↔ xs = []
  nullableSomething : kind = .nullableSomething ↔
    (xs ≠ [] ∧ ∀ x ∈ xs, x = .null) ∨ o.Mixed atRoot xs ∧ nullable = true
  anything : kind = .anything ↔ o.Mixed atRoot xs ∧ nullable = false
  category : ∀ c, (∃ x ∈ xs, o.category? atRoot x = some c) → ¬ o.Mixed atRoot xs →
    kind = (c.kind xs).orNull nullable

theorem Amounts.kindOf {h : Head} (hamounts : o.Amounts atRoot xs h) {n : Bool}
    (hnull : h = .unknown → n = false) : o.KindOf atRoot xs (h.kind n) n := by
  cases hamounts with
  | unknown =>
    cases hnull rfl
    have hmixed : ¬ o.Mixed atRoot [] := not_mixed_of_nulls nofun
    exact ⟨by simp [Head.kind], by simp [Head.kind, hmixed], by simp [Head.kind, hmixed], by simp⟩
  | null hne hall =>
    have hmixed : ¬ o.Mixed atRoot xs := not_mixed_of_nulls hall
    refine ⟨iff_of_false nofun hne, iff_of_true rfl (.inl ⟨hne, hall⟩),
      iff_of_false nofun fun h => hmixed h.1, ?_⟩
    rintro c ⟨x, hx, hc⟩
    rw [hall x hx] at hc
    cases hc
  | anything hmixed =>
    have hne : xs ≠ [] := fun h => by
      obtain ⟨x, hx, _⟩ := hmixed
      rw [h] at hx
      cases hx
    have hall : ¬ ∀ x ∈ xs, x = .null := fun h => not_mixed_of_nulls h hmixed
    cases n with
    | false =>
      exact ⟨iff_of_false nofun hne, by simp [Head.kind, hall], iff_of_true rfl ⟨hmixed, rfl⟩,
        fun _ _ h => absurd hmixed h⟩
    | true =>
      exact ⟨iff_of_false nofun hne, iff_of_true rfl (.inr ⟨hmixed, rfl⟩), by simp [Head.kind],
        fun _ _ h => absurd hmixed h⟩
  | @kind _ h c hc hmem hle =>
    have hmixed := not_mixed_of_le hc hle
    have hsolid : h.kind n ≠ .nonConstrained ∧ h.kind n ≠ .nullableSomething ∧
        h.kind n ≠ .anything := by
      cases h with
      | scalar k => cases k <;> cases n <;> exact ⟨nofun, nofun, nofun⟩
      | unknown => cases hc
      | null => cases hc
      | anything => cases hc
      | _ => exact ⟨nofun, nofun, nofun⟩
    obtain ⟨x, hx, hxh⟩ := hmem
    have hcx : o.category? atRoot x = some c := by rw [← category_headOf, hxh, hc]
    refine ⟨iff_of_false hsolid.1 (List.ne_nil_of_mem hx), iff_of_false hsolid.2.1 ?_,
      iff_of_false hsolid.2.2 fun h => hmixed h.1, fun d hd _ => ?_⟩
    · rintro (⟨_, hall⟩ | ⟨h, _⟩)
      · rw [hall x hx] at hcx
        cases hcx
      · exact hmixed h
    · obtain ⟨y, hy, hd⟩ := hd
      cases category_of_le (hle y hy) hc hd
      exact kind_of_category hc ⟨x, hx, hxh⟩ hle n

end Observer

/-! ### The model of a run -/

/-- A model is a frozen table that is an account of the samples. -/
theorem inferValues_eq_freeze (s : Settings) {documents : List Json}
    (h : ∀ d ∈ documents, d.DistinctKeys) :
    ∃ (t : ClassTable) (root : Evidence ClassId) (names : Naming), t.WellFormed ∧
      root.RefersBelow t.entries.length ∧
      Tallies s.observer ClassTable.Uncounted true (Inference.samplesOf documents) root ∧
      ClassTable.Ledger s.observer t
        (fun id => t.lockstep.objects id root (Inference.samplesOf documents)) ∧
      inferValues s documents = freeze t root names s.examplePolicy := by
  have hsamples := fun x hx => Inference.distinctKeys_of_mem_samplesOf h (x := x) hx
  have hkeys : (s.evidenceOf documents).DistinctKeys := s.observer.distinctKeys_evidenceOf hsamples
  obtain ⟨names, hmodel⟩ := inferValues_eq s documents
  obtain ⟨hwf, hroot⟩ := ClassTable.wellFormed_internRoot hkeys
  obtain ⟨htally, hledger⟩ := ClassTable.ledger_internRoot hsamples rfl hkeys
  exact ⟨_, _, names, hwf, hroot, htally, hledger, hmodel⟩

theorem nodup_sourceNames_inferValues (s : Settings) {documents : List Json}
    (h : ∀ d ∈ documents, d.DistinctKeys) {c : ClassDef} (hc : c ∈ (inferValues s documents).classes) :
    (c.fields.map FieldInfo.sourceName).Nodup := by
  obtain ⟨t, root, names, hwf, hroot, _, _, hmodel⟩ := inferValues_eq_freeze s h
  rw [hmodel] at hc
  exact nodup_sourceNames_freeze s.examplePolicy hwf hroot names hc

/-- The kind of each node is what the values that are paired with it call for. -/
theorem inferValues_precise (s : Settings) {documents : List Json}
    (h : ∀ d ∈ documents, d.DistinctKeys) {n : Node} {τ : TypeNode}
    (hτ : (inferValues s documents).node? n = some τ) :
    s.observer.KindOf n.isRoot
      ((inferValues s documents).valuesAt (Inference.samplesOf documents) n) τ.kind τ.nullable := by
  have hsamples := fun x hx => Inference.distinctKeys_of_mem_samplesOf h (x := x) hx
  obtain ⟨t, root, names, hwf, hroot, htally, hledger, hmodel⟩ := inferValues_eq_freeze s h
  rw [hmodel] at hτ ⊢
  obtain ⟨σ, hσ, rfl⟩ :=
    ClassTable.exists_type_of_node?_freeze names s.examplePolicy hwf hroot hτ
  obtain ⟨xs, hxs, hpairs⟩ :=
    ClassTable.exists_pairing names s.examplePolicy hwf hroot hsamples htally hledger hσ
  rw [TypeNode.kind_withRoot, TypeNode.nullable_withRoot, kind_freezeType, nullable_freezeType]
  refine (hxs.shows.head.of_pairs hpairs).kindOf fun hunknown => ?_
  cases σ <;> first | rfl | cases hunknown

/-- Two objects, one of which lacks a key and has a null under the other. -/
def sparseDocuments : List Json :=
  [.object [("a", .number (.int 1)), ("b", .array [.null, .bool true])], .object [("a", .null)]]

theorem distinctKeys_sparseDocuments : ∀ d ∈ sparseDocuments, d.DistinctKeys := by
  simp [sparseDocuments, Json.distinctKeys_object, Json.distinctKeys_array, Json.DistinctKeys.null,
    Json.DistinctKeys.number, Json.DistinctKeys.bool]

theorem inferValues_precise_sparse : ({} : Settings).observer.KindOf false
    ((inferValues {} sparseDocuments).valuesAt (Inference.samplesOf sparseDocuments) (.field ⟨0⟩ "a"))
    .nullableInteger true := by
  have hnode : (inferValues {} sparseDocuments).node? (.field ⟨0⟩ "a") =
      some (.leaf .nullableInteger { nullable := true }) := rfl
  exact inferValues_precise {} distinctKeys_sparseDocuments hnode

/-! ### Counts -/

/-- An object has no value under the key, or a null. -/
def lacksOrNull (key : String) (members : List (String × Json)) : Prop :=
  members.lookup key = none ∨ members.lookup key = some .null

/-- The counts of a class are those of some objects. -/
structure ClassDef.CountsOf (c : ClassDef) (objects : List (List (String × Json))) : Prop where
  samples : c.samples = objects.length
  presentIn : ∀ f ∈ c.fields,
    f.presentIn = objects.countP fun members => (members.lookup f.sourceName).isSome
  nullable : ∀ f ∈ c.fields,
    f.nullable = true ↔ ∃ members ∈ objects, lacksOrNull f.sourceName members

theorem ClassDef.CountsOf.presentIn_le {c : ClassDef} {objects : List (List (String × Json))}
    (h : c.CountsOf objects) {f : FieldInfo} (hf : f ∈ c.fields) : f.presentIn ≤ c.samples := by
  rw [h.presentIn f hf, h.samples]
  exact List.countP_le_length

/-- A key that is not in every object is missing from one. -/
theorem ClassDef.CountsOf.nullable_of_lt {c : ClassDef} {objects : List (List (String × Json))}
    (h : c.CountsOf objects) {f : FieldInfo} (hf : f ∈ c.fields) (hlt : f.presentIn < c.samples) :
    f.nullable = true := by
  rw [h.presentIn f hf, h.samples] at hlt
  refine (h.nullable f hf).mpr ?_
  by_contra hno
  have hall : ∀ members ∈ objects, (members.lookup f.sourceName).isSome = true := by
    intro members hm
    rw [← Option.not_isNone, Bool.not_eq_true', ← Bool.not_eq_true, Option.isNone_iff_eq_none]
    exact fun hnone => hno ⟨members, hm, .inl hnone⟩
  rw [List.countP_eq_length.mpr hall] at hlt
  exact Nat.lt_irrefl _ hlt

theorem null_mem_valuesUnder {key : String} {objects : List (List (String × Json))} :
    Json.null ∈ valuesUnder key objects ↔ ∃ members ∈ objects, lacksOrNull key members := by
  rw [valuesUnder, List.mem_map]
  refine exists_congr fun members => and_congr_right fun _ => ?_
  unfold lacksOrNull
  cases members.lookup key <;> simp

/-- A class of the model counts the objects that are paired with it. -/
theorem countsOf_freeze {t : ClassTable} {root : Evidence ClassId} (names : Naming)
    (examples : ExamplePolicy) (ht : t.WellFormed) (hroot : root.RefersBelow t.entries.length)
    {o : Observer} {samples : List Json}
    (hledger : ClassTable.Ledger o t fun id => t.lockstep.objects id root samples) {id : ClassId}
    {c : ClassDef} (hc : (freeze t root names examples).class? id = some c) :
    c.CountsOf ((freeze t root names examples).objectsOf samples id) := by
  obtain ⟨b, entry, hb, hentry, rfl⟩ := exists_of_class?_freeze names examples ht hroot hc
  rw [ClassTable.objectsOf_freeze names examples ht hroot hb]
  obtain ⟨os, hos, hrecords⟩ := hledger.records hentry
  have hfound : ∀ f ∈ entry.fields, Field.find? entry.fields f.name = some f :=
    fun f hf => Field.find?_of_mem (ht.distinct hentry) hf
  refine ⟨hrecords.seen.trans hos.length_eq, fun g hg => ?_, fun g hg => ?_⟩
  · obtain ⟨f, hf, rfl⟩ := List.mem_map.mp hg
    exact (hrecords.present (hfound f hf)).trans (hos.countP_eq _)
  · obtain ⟨f, hf, rfl⟩ := List.mem_map.mp hg
    have hnull := (hrecords.types (hfound f hf)).shows.nullable
    rw [null_mem_valuesUnder] at hnull
    simp only [freezeField, hnull, hos.mem_iff]

/-- Where the evidence is of arrays there are no members, and of dictionaries no items. -/
theorem Shows.parts_eq_nil {O : Type} {o : Observer} {atRoot : Bool} {xs : List Json} {e : Evidence O}
    (h : Shows o atRoot xs e) {x : Json} (hx : x ∈ xs) :
    (e.head = .array → x.memberValues = []) ∧ (e.head = .dictionary → x.items = []) := by
  constructor <;> intro hhead
  · have hle := h.head.le (c := .array) (by rw [hhead]; rfl) x hx
    cases x with
    | object members =>
      rw [hhead] at hle
      simp only [Observer.headOf] at hle
      split at hle <;> cases hle
    | _ => rfl
  · have hle := h.head.le (c := .dictionary) (by rw [hhead]; rfl) x hx
    cases x with
    | array items =>
      rw [hhead] at hle
      cases hle
    | _ => rfl

/-- The counts of each class are those of the objects in the samples that are paired with it, and an
element is nullable just if a container that is paired with it holds a null. -/
theorem inferValues_counts (s : Settings) {documents : List Json}
    (h : ∀ d ∈ documents, d.DistinctKeys) :
    (∀ id c, (inferValues s documents).class? id = some c →
      c.CountsOf ((inferValues s documents).objectsOf (Inference.samplesOf documents) id) ∧
        ∀ f ∈ c.fields, f.presentIn ≤ c.samples ∧
          (f.presentIn < c.samples → f.nullable = true)) ∧
      ∀ n τ, (inferValues s documents).node? (.element n) = some τ →
        (τ.nullable = true ↔
          ∃ x ∈ (inferValues s documents).valuesAt (Inference.samplesOf documents) n,
            Json.null ∈ x.items ∨ Json.null ∈ x.memberValues) := by
  have hsamples := fun x hx => Inference.distinctKeys_of_mem_samplesOf h (x := x) hx
  obtain ⟨t, root, names, hwf, hroot, htally, hledger, hmodel⟩ := inferValues_eq_freeze s h
  rw [hmodel]
  constructor
  · intro id c hc
    have hcounts := countsOf_freeze names s.examplePolicy hwf hroot hledger hc
    exact ⟨hcounts, fun f hf => ⟨hcounts.presentIn_le hf, hcounts.nullable_of_lt hf⟩⟩
  · intro n τ hτ
    obtain ⟨σ, hσ, rfl⟩ :=
      ClassTable.exists_type_of_node?_freeze names s.examplePolicy hwf hroot hτ
    obtain ⟨ρ, hρ, hσ⟩ := Option.bind_eq_some_iff.mp hσ
    obtain ⟨ys, hys, hpairs⟩ :=
      ClassTable.exists_pairing names s.examplePolicy hwf hroot hsamples htally hledger hρ
    rw [TypeNode.nullable_withRoot, nullable_freezeType]
    cases hys with
    | array hshows hitems =>
      cases hσ
      rw [hitems.shows.nullable, ← hpairs.mem_parts rfl]
      refine exists_congr fun x => and_congr_right fun hx => ?_
      rw [(hshows.parts_eq_nil (hpairs.paired x hx)).1 rfl]
      simp
    | dictionary hshows hvalues =>
      cases hσ
      rw [hvalues.shows.nullable, ← hpairs.mem_parts rfl]
      refine exists_congr fun x => and_congr_right fun hx => ?_
      rw [(hshows.parts_eq_nil (hpairs.paired x hx)).2 rfl]
      simp
    | _ => cases hσ

theorem inferValues_counts_sparse : ∃ c, (inferValues {} sparseDocuments).class? ⟨0⟩ = some c ∧
    c.CountsOf ((inferValues {} sparseDocuments).objectsOf (Inference.samplesOf sparseDocuments) ⟨0⟩) :=
  ⟨_, rfl, ((inferValues_counts {} distinctKeys_sparseDocuments).1 ⟨0⟩ _ rfl).1⟩

end Specimen
