import Specimen.Evidence.Observer
import Specimen.Proofs.Evidence.Admission
import Specimen.Proofs.Json.Keys

/-! What is read off a document admits the document.

A scalar is of the kind read off it, the items of an array are below what they were joined to, and so
are the values of a dictionary; an object read as a record has exactly its own keys
(`admits_observeRoot`). The evidence has no key twice because the document has none. -/
namespace Specimen

/-- A number is of its own kind. -/
theorem admits_numberKind (isDate : String → Bool) (n : Json.Number) :
    (numberKind n).admits isDate (.number n) = true := by
  cases n with
  | float x => rfl
  | int n =>
    simp only [numberKind]
    split
    case isTrue h => exact h
    case isFalse =>
      split
      case isTrue h => exact h
      case isFalse => rfl

/-- A dictionary is detected just where the keys allow one and the values agree. -/
theorem DictionaryPolicy.detect_eq_some {O : Type} [Mergeable O] {policy : DictionaryPolicy}
    {isDate : String → Bool} {entries : List (String × Evidence O)} {value : Evidence O} :
    policy.detect isDate entries = some value ↔
      policy.admitsKeys isDate (entries.map Prod.fst) = true ∧
        value = .joinAll (entries.map Prod.snd) ∧ value.isAnything = false := by
  dsimp only [detect]
  by_cases hkeys : policy.admitsKeys isDate (entries.map Prod.fst) = true
  · rw [if_pos hkeys]
    cases hany : (Evidence.joinAll (entries.map Prod.snd)).isAnything with
    | true =>
      rw [if_pos rfl]
      constructor
      · intro h
        cases h
      · rintro ⟨_, rfl, h⟩
        rw [hany] at h
        cases h
    | false =>
      rw [if_neg Bool.false_ne_true, Option.some.injEq]
      constructor
      · rintro rfl
        exact ⟨hkeys, rfl, hany⟩
      · exact fun h => h.2.1.symm
  · rw [if_neg hkeys]
    constructor
    · intro h
      cases h
    · exact fun h => absurd h.1 hkeys

namespace Observer
variable (o : Observer)

theorem observeItems_eq (seen : Evidence Shape) (items : List Json) :
    o.observeItems seen items = (items.map o.observe).foldl Evidence.join seen := by
  induction items generalizing seen with
  | nil => rfl
  | cons x rest ih =>
    rw [observeItems, ih]
    rfl

theorem observe_array (items : List Json) :
    o.observe (.array items) = .array (.joinAll (items.map o.observe)) false := by
  rw [observe, observeItems_eq]
  rfl

theorem observeMembers_eq (members : List (String × Json)) :
    o.observeMembers members =
      members.map fun m => ⟨m.1, o.observe m.2, 1, o.examplesOf m.2⟩ := by
  induction members with
  | nil => rfl
  | cons m rest ih =>
    rw [observeMembers, ih]
    rfl

/-- An object is a dictionary of all its values or a record of its fields. -/
theorem objectEvidence_eq (fields : List (Field Shape)) :
    o.objectEvidence fields = .dictionary (.joinAll (fields.map Field.type)) false ∨
      o.objectEvidence fields = .object ⟨fields, 1⟩ false := by
  unfold objectEvidence
  split
  case h_1 value h =>
    obtain ⟨_, rfl, _⟩ := DictionaryPolicy.detect_eq_some.mp h
    rw [List.map_map]
    exact .inl rfl
  case h_2 => exact .inr rfl

theorem names_observeMembers (members : List (String × Json)) :
    (o.observeMembers members).map Field.name = members.map Prod.fst := by
  rw [observeMembers_eq, List.map_map]
  rfl

theorem types_observeMembers (members : List (String × Json)) :
    (o.observeMembers members).map Field.type = members.map fun m => o.observe m.2 := by
  rw [observeMembers_eq, List.map_map]
  rfl

/-- What is found among the fields of an object is what its member was read as. -/
theorem exists_member_of_find? {members : List (String × Json)} {name : String} {f : Field Shape}
    (h : Field.find? (o.observeMembers members) name = some f) :
    ∃ m ∈ members, m.1 = name ∧ f.type = o.observe m.2 := by
  have hmem := Field.mem_of_find? h
  rw [observeMembers_eq] at hmem
  obtain ⟨m, hm, rfl⟩ := List.mem_map.mp hmem
  exact ⟨m, hm, Field.name_of_find? h, rfl⟩

theorem find?_observeMembers {members : List (String × Json)} (hd : (members.map Prod.fst).Nodup)
    {m : String × Json} (hm : m ∈ members) :
    Field.find? (o.observeMembers members) m.1 = some ⟨m.1, o.observe m.2, 1, o.examplesOf m.2⟩ := by
  rw [← names_observeMembers o] at hd
  refine Field.find?_of_mem hd (f := ⟨m.1, o.observe m.2, 1, o.examplesOf m.2⟩) ?_
  rw [observeMembers_eq]
  exact List.mem_map_of_mem hm

/-! ### Keys -/

theorem distinctKeys_record {members : List (String × Json)} (hd : (members.map Prod.fst).Nodup)
    (h : ∀ m ∈ members, (o.observe m.2).DistinctKeys) :
    (Evidence.object ⟨o.observeMembers members, 1⟩ false).DistinctKeys := by
  refine .object (by rwa [names_observeMembers]) (fun f hf => ?_) false
  rw [observeMembers_eq] at hf
  obtain ⟨m, hm, rfl⟩ := List.mem_map.mp hf
  exact h m hm

theorem distinctKeys_observe {x : Json} (hx : x.DistinctKeys) : (o.observe x).DistinctKeys := by
  induction hx with
  | null => exact .null
  | bool b => exact .scalar _ _
  | number n => exact .scalar _ _
  | string s => exact .scalar _ _
  | array _ ih =>
    rw [observe_array]
    exact .array (.joinAll (List.forall_mem_map.mpr ih)) false
  | @object members hd _ ih =>
    rw [observe]
    rcases o.objectEvidence_eq (o.observeMembers members) with h | h <;> rw [h]
    · rw [types_observeMembers]
      exact .dictionary (.joinAll (List.forall_mem_map.mpr ih)) false
    · exact o.distinctKeys_record hd ih

theorem distinctKeys_observeRoot {x : Json} (hx : x.DistinctKeys) :
    (o.observeRoot x).DistinctKeys := by
  cases hx with
  | object hd h => exact o.distinctKeys_record hd fun m hm => o.distinctKeys_observe (h m hm)
  | null => exact o.distinctKeys_observe .null
  | bool b => exact o.distinctKeys_observe (.bool b)
  | number n => exact o.distinctKeys_observe (.number n)
  | string s => exact o.distinctKeys_observe (.string s)
  | array h => exact o.distinctKeys_observe (.array h)

/-! ### Values -/

theorem admits_record {members : List (String × Json)} (hd : (members.map Prod.fst).Nodup)
    (h : ∀ m ∈ members, Evidence.Admits Shape.fields o.isDate m.2 (o.observe m.2)) :
    Evidence.Admits Shape.fields o.isDate (.object members)
      (.object ⟨o.observeMembers members, 1⟩ false) := by
  refine .object (fun m hm => ⟨_, o.find?_observeMembers hd hm⟩) (fun m hm f hf => ?_)
    fun hf hlack => ?_
  · rw [o.find?_observeMembers hd hm] at hf
    cases hf
    exact h m hm
  · obtain ⟨m, hm, rfl, _⟩ := o.exists_member_of_find? hf
    exact absurd (List.mem_map_of_mem hm) hlack

/-- A value is among the values of the evidence read off it. -/
theorem admits_observe {x : Json} (hx : x.DistinctKeys) :
    Evidence.Admits Shape.fields o.isDate x (o.observe x) := by
  have hjoin : ∀ {x : Json} {es : List (Evidence Shape)}, o.observe x ∈ es →
      Evidence.Admits Shape.fields o.isDate x (o.observe x) →
      Evidence.Admits Shape.fields o.isDate x (.joinAll es) :=
    fun hmem h => h.of_le (Evidence.le_joinAll hmem)
  induction hx with
  | null => exact .null rfl
  | bool b => exact .scalar rfl
  | number n => exact .scalar (admits_numberKind o.isDate n)
  | string s =>
    apply Evidence.Admits.scalar
    cases hs : o.isDate s <;> simp [hs, Scalar.admits]
  | array _ ih =>
    rw [observe_array]
    exact .array fun x hx => hjoin (List.mem_map_of_mem hx) (ih x hx)
  | @object members hd _ ih =>
    rw [observe]
    rcases o.objectEvidence_eq (o.observeMembers members) with h | h <;> rw [h]
    · rw [types_observeMembers]
      exact .dictionary fun m hm => hjoin (List.mem_map_of_mem hm) (ih m hm)
    · exact o.admits_record hd ih

theorem admits_observeRoot {x : Json} (hx : x.DistinctKeys) :
    Evidence.Admits Shape.fields o.isDate x (o.observeRoot x) := by
  cases hx with
  | object hd h => exact o.admits_record hd fun m hm => o.admits_observe (h m hm)
  | null => exact o.admits_observe .null
  | bool b => exact o.admits_observe (.bool b)
  | number n => exact o.admits_observe (.number n)
  | string s => exact o.admits_observe (.string s)
  | array h => exact o.admits_observe (.array h)

end Observer

end Specimen
