import Mathlib.Data.List.Nodup
import Specimen.Classes.Naming
import Specimen.Proofs.Classes.Emission
import Specimen.Proofs.Json.Keys
import Specimen.Proofs.Text.Names

/-! The names that classes are given.

A free spelling is found among the spellings that are tried, since those are all different
(`freeName_not_mem`). So every name that the walk gives is new (`distinct_assignNames`). The walk enters
the classes that the walk of the emission order enters, so that the classes that are emitted are those
that have a name (`mem_assignNames`). -/
namespace Specimen
open Text

/-! ### Free spellings -/

theorem digitsOf_injective : Function.Injective digitsOf := by
  intro m n h
  have h := congrArg (Nat.ofDigitChars 10 · 0) h
  simp only [digitsOf] at h
  rwa [Nat.ofDigitChars_toDigits (by decide) (by decide),
    Nat.ofDigitChars_toDigits (by decide) (by decide)] at h

theorem numbered_injective (base : String) : Function.Injective (numbered base) := by
  have hchars : ∀ n, (numbered base (n + 1)).toList = base.toList ++ digitsOf (n + 2) := by
    intro n
    simp [numbered, decimal]
  have hlong : ∀ n, base ≠ numbered base (n + 1) := by
    intro n h
    have hlen := congrArg List.length ((congrArg String.toList h).trans (hchars n))
    rw [List.length_append] at hlen
    have : 0 < (digitsOf (n + 2)).length := Nat.length_toDigits_pos
    omega
  intro m n h
  cases m with
  | zero =>
    cases n with
    | zero => rfl
    | succ n => exact absurd h (hlong n)
  | succ m =>
    cases n with
    | zero => exact absurd h.symm (hlong m)
    | succ n =>
      have h := (hchars m).symm.trans ((congrArg String.toList h).trans (hchars n))
      have := digitsOf_injective (List.append_cancel_left h)
      omega

/-- Of more different spellings than names are taken, one is free. -/
theorem exists_not_mem_of_injective {f : Nat → String} (hf : Function.Injective f)
    (taken : List String) : ∃ n ∈ List.range (taken.length + 1), f n ∉ taken := by
  by_contra hall
  have hsub : (List.range (taken.length + 1)).map f ⊆ taken := by
    intro name hname
    obtain ⟨n, hn, rfl⟩ := List.mem_map.mp hname
    by_contra hnot
    exact hall ⟨n, hn, hnot⟩
  have hlen := (List.subperm_of_subset (List.nodup_range.map hf) hsub).length_le
  rw [List.length_map, List.length_range] at hlen
  omega

/-- The name found is free. -/
theorem freeName_not_mem (taken : List String) (base : String) : freeName taken base ∉ taken := by
  unfold freeName
  generalize (if base.isEmpty then fallbackName else base) = base
  dsimp only
  split
  case h_1 n hn => simpa using List.find?_some hn
  case h_2 hnone =>
    obtain ⟨n, hn, hfree⟩ := exists_not_mem_of_injective (numbered_injective base) taken
    have := List.find?_eq_none.mp hnone n hn
    simp [hfree] at this

/-- A name that is not taken is kept. -/
theorem freeName_of_not_mem {taken : List String} {base : String} (h : base ∉ taken)
    (hne : base ≠ "") : freeName taken base = base := by
  have hempty : base.isEmpty = false := by simpa using hne
  rw [freeName, hempty]
  simp only [List.range_succ_eq_map, List.find?_cons, numbered, Bool.false_eq_true, if_false]
  simp [h]

/-- A free name is the base, or a fallback for an empty one, with a number or without. -/
theorem exists_freeName_eq (taken : List String) (base : String) :
    ∃ n, freeName taken base = numbered (if base.isEmpty then fallbackName else base) n := by
  unfold freeName
  dsimp only
  split
  case h_1 n _ => exact ⟨n, rfl⟩
  case h_2 => exact ⟨0, rfl⟩

/-- The number does not change how a name begins. -/
theorem freeName_capitalized {base : String} (h : IsCapitalized base.toList) (taken : List String) :
    IsCapitalized (freeName taken base).toList ∧ freeName taken base ≠ "" := by
  obtain ⟨n, hname⟩ := exists_freeName_eq taken base
  have hbase : IsCapitalized (if base.isEmpty then fallbackName else base).toList ∧
      (if base.isEmpty then fallbackName else base) ≠ "" := by
    split
    case isTrue => exact ⟨by decide +kernel, by decide⟩
    case isFalse hne => exact ⟨h, by simpa using hne⟩
  rw [hname]
  generalize (if base.isEmpty then fallbackName else base) = base at hbase
  cases n with
  | zero => exact hbase
  | succ n =>
    have hne : base.toList ≠ [] := by simpa using hbase.2
    have happend : (numbered base (n + 1)).toList = base.toList ++ (decimal (n + 2)).toList := by
      rw [numbered, String.toList_append]
    constructor
    · have hstem : IsCapitalized (base.toList ++ []) := by rw [List.append_nil]; exact hbase.1
      rw [happend]
      exact hstem.replaceEnd hne (List.forall_mem_nil _) fun c hc => isNameChar_of_mem_decimal hc
    · intro hempty
      rw [hempty] at happend
      exact hne (List.append_eq_nil_iff.mp happend.symm).1

theorem base_field_capitalized (name : String) (element : Bool) :
    IsCapitalized (NameHint.field name element).base.toList := by
  cases element with
  | false => exact pascalCase_capitalized name
  | true =>
    rw [NameHint.base, singularize, String.toList_ofList]
    exact singularChars_capitalized (pascalCase_capitalized name)

/-! ### The walk -/

namespace Naming
variable {t : ClassTable}

theorem within_field (name : String) (element : Bool) (type : Evidence ClassId) :
    ∃ element', (NameHint.field name element).within type = .field name element' := by
  induction type generalizing element with
  | array item n ih => exact ih true
  | dictionary value n ih => exact ih true
  | _ => exact ⟨element, rfl⟩

theorem within_root (name : String) (type : Evidence ClassId) :
    (NameHint.root name).within type = .root name := by
  induction type with
  | array item n ih => exact ih
  | dictionary value n ih => exact ih
  | _ => rfl

/-- What giving a class that has none a free name keeps, the walk keeps. The names are derived from what
the first class is named after, and from fields. -/
theorem visit_induction {P : Naming → Prop} {Q : Naming → String → Prop}
    (hfield : ∀ given name element, Q given (NameHint.field name element).base)
    (hstep : ∀ given id base, Q given base → id ∉ given.map Prod.fst → P given →
      P (given ++ [(id, freeName (taken given) base)]))
    (depth : Nat) (type : Evidence ClassId) (hint : NameHint) {given : Naming}
    (hbase : Q given (hint.within type).base) (h : P given) : P (visit t depth type hint given) := by
  induction depth generalizing type hint given with
  | zero => exact h
  | succ depth ih =>
    simp only [visit]
    split
    case h_1 => exact h
    case h_2 id _ =>
      split
      case isTrue => exact h
      case isFalse hnot =>
        have hfirst := hstep given id (hint.within type).base hbase
          (fun hmem => hnot (isSome_lookup_iff.mpr hmem)) h
        generalize given ++ _ = given at hfirst
        induction t.fieldsOf id generalizing given with
        | nil => exact hfirst
        | cons f fs ihfs =>
          obtain ⟨element, hwithin⟩ := within_field f.name false f.type
          exact ihfs _ (ih f.type _ (hwithin ▸ hfield _ _ _) hfirst)

/-- No class has two names, no name is given twice, and none means something else. -/
structure Distinct (given : Naming) : Prop where
  ids : (given.map Prod.fst).Nodup
  names : (given.map Prod.snd).Nodup
  unreserved : ∀ name ∈ given.map Prod.snd, name ∉ reservedNames

theorem Distinct.snoc {given : Naming} (h : given.Distinct) {id : ClassId} {name : String}
    (hid : id ∉ given.map Prod.fst) (hname : name ∉ taken given) :
    Distinct (given ++ [(id, name)]) := by
  rw [taken, List.mem_append, not_or] at hname
  constructor
  · rw [List.map_append, List.nodup_append']
    exact ⟨h.ids, List.nodup_singleton _, List.disjoint_singleton.mpr hid⟩
  · rw [List.map_append, List.nodup_append']
    exact ⟨h.names, List.nodup_singleton _, List.disjoint_singleton.mpr hname.1⟩
  · intro name' hmem
    rw [List.map_append, List.mem_append] at hmem
    rcases hmem with hmem | hmem
    · exact h.unreserved name' hmem
    · cases List.mem_singleton.mp hmem
      exact hname.2

/-- The classes that have a name are those that the walk of the emission order has entered. -/
def Agrees (given : Naming) (walk : EmissionWalk) : Prop :=
  ∀ c, c ∈ given.map Prod.fst ↔ c ∈ walk.entered

theorem Agrees.foldl {depth : Nat}
    (hvisit : ∀ type hint given walk, Agrees given walk →
      Agrees (visit t depth type hint given) (EmissionWalk.visit t depth type walk))
    (fields : List (Field ClassId)) {given : Naming} {walk : EmissionWalk} (h : Agrees given walk) :
    Agrees (fields.foldl (fun given f => visit t depth f.type (.field f.name false) given) given)
      (fields.foldl (fun walk f => EmissionWalk.visit t depth f.type walk) walk) := by
  induction fields generalizing given walk with
  | nil => exact h
  | cons f fs ih => exact ih (hvisit f.type _ _ _ h)

theorem Agrees.visit (depth : Nat) (type : Evidence ClassId) (hint : NameHint) {given : Naming}
    {walk : EmissionWalk} (h : Agrees given walk) :
    Agrees (visit t depth type hint given) (EmissionWalk.visit t depth type walk) := by
  induction depth generalizing type hint given walk with
  | zero => exact h
  | succ depth ih =>
    simp only [Naming.visit, EmissionWalk.visit]
    cases type.innermost? with
    | none => exact h
    | some id =>
      have hsame : (given.lookup id).isSome = walk.entered.contains id :=
        Bool.eq_iff_iff.mpr (isSome_lookup_iff.trans ((h id).trans List.contains_iff_mem.symm))
      dsimp only
      rw [hsame]
      cases walk.entered.contains id with
      | true => exact h
      | false =>
        refine Agrees.foldl (fun _ _ _ _ => ih _ _) (t.fieldsOf id) fun c => ?_
        simp [h c, or_comm]

end Naming

theorem distinct_assignNames (t : ClassTable) (root : Evidence ClassId) (rootName : String) :
    (assignNames t root rootName).Distinct :=
  Naming.visit_induction (Q := fun _ _ => True) (fun _ _ _ => trivial)
    (fun _ _ _ _ hid h => h.snoc hid (freeName_not_mem _ _)) _ _ _ trivial
    ⟨.nil, .nil, fun _ h => nomatch h⟩

/-- The first name is that of the root, and all others are capitalized. -/
theorem assignNames_spelled (t : ClassTable) (root : Evidence ClassId) (rootName : String) :
    ∀ name ∈ (assignNames t root rootName).map Prod.snd,
      name = freeName reservedNames rootName ∨ IsCapitalized name.toList ∧ name ≠ "" := by
  refine Naming.visit_induction (P := fun given => ∀ name ∈ given.map Prod.snd,
      name = freeName reservedNames rootName ∨ IsCapitalized name.toList ∧ name ≠ "")
    (Q := fun given base => given = [] ∧ base = rootName ∨ IsCapitalized base.toList)
    (fun _ name element => .inr (base_field_capitalized name element)) ?_ _ root (.root rootName)
    (.inl ⟨rfl, by rw [Naming.within_root, NameHint.base]⟩) (List.forall_mem_nil _)
  intro given id base hbase _ hgiven name hname
  rw [List.map_append, List.mem_append] at hname
  rcases hname with hname | hname
  · exact hgiven name hname
  · cases List.mem_singleton.mp hname
    rcases hbase with ⟨rfl, rfl⟩ | hcapital
    · exact .inl rfl
    · exact .inr (freeName_capitalized hcapital _)

/-- The classes with a name are those that are emitted. -/
theorem mem_assignNames {t : ClassTable} {root : Evidence ClassId} (ht : t.InRange)
    (hroot : root.RefersBelow t.entries.length) (rootName : String) {c : ClassId} :
    c ∈ (assignNames t root rootName).map Prod.fst ↔ c ∈ emissionOrder t root := by
  have hnone : Naming.Agrees [] {} := fun _ => Iff.rfl
  rw [assignNames, hnone.visit _ _ _ c, (completes_emissionOrder ht hroot).entered c]
  simp

end Specimen
