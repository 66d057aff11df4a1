import Specimen.Proofs.Classes.Keys
import Specimen.Proofs.Evidence.Widening

/-! What one registration does to the table.

A registration either has an existing class absorb the fields or enlists a new class
(`Registers`). Either way the classes that were there keep their keys and only widen (`Extends`), the
class it answers with takes in the fields, and the table stays well formed: keys distinct, references
inside the table, and the index exact. All that is proved of reachable tables goes through
`Registers`. -/
namespace Specimen

/-- Every class the type leads to has a smaller number. -/
def Evidence.RefersBelow (bound : Nat) (e : Evidence ClassId) : Prop :=
  ∀ c, e.innermost? = some c → c.index < bound

theorem Evidence.RefersBelow.mono {m n : Nat} {e : Evidence ClassId} (h : e.RefersBelow m)
    (hmn : m ≤ n) : e.RefersBelow n :=
  fun c hc => Nat.lt_of_lt_of_le (h c hc) hmn

namespace ClassEntry

/-- The second entry has the keys of the first, with types that take in those of the first. -/
structure Fits (x y : ClassEntry) : Prop where
  names : x.fields.map Field.name = y.fields.map Field.name
  types : ∀ {name f g}, Field.find? x.fields name = some f → Field.find? y.fields name = some g →
    f.type.Fits Eq g.type

theorem Fits.refl (x : ClassEntry) : x.Fits x where
  names := rfl
  types hf hg := by
    rw [hf] at hg
    cases hg
    exact .refl (fun _ => rfl) _

theorem Fits.trans {x y z : ClassEntry} (hxy : x.Fits y) (hyz : y.Fits z) : x.Fits z where
  names := hxy.names.trans hyz.names
  types hf hg := by
    obtain ⟨g, hy⟩ := Field.exists_find? (hxy.names ▸ Field.mem_names_of_find? hf)
    exact (hxy.types hf hy).trans_eq (hyz.types hy hg)

theorem find?_absorb (entry : ClassEntry) (fields : List (Field ClassId)) (seen : Nat)
    (name : String) :
    Field.find? (entry.absorb fields seen).fields name =
      (Field.find? entry.fields name).map fun ours =>
        match Field.find? fields name with
        | some theirs => ours.absorb theirs
        | none => ours := by
  rw [absorb, Field.find?_map _ (by intro f; split <;> rfl)]
  cases h : Field.find? entry.fields name with
  | none => rfl
  | some ours =>
    cases Field.name_of_find? h
    rfl

theorem names_absorb (entry : ClassEntry) (fields : List (Field ClassId)) (seen : Nat) :
    (entry.absorb fields seen).fields.map Field.name = entry.fields.map Field.name := by
  rw [absorb, List.map_map]
  apply List.map_congr_left
  intro ours _
  simp only [Function.comp]
  split <;> rfl

/-- Absorbing fields that were accepted only widens. -/
theorem fits_absorb {entry : ClassEntry} {fields : List (Field ClassId)}
    (h : entry.accepts fields = true) (seen : Nat) : entry.Fits (entry.absorb fields seen) where
  names := (names_absorb entry fields seen).symm
  types hf hg := by
    rw [find?_absorb, hf, Option.map_some, Option.some.injEq] at hg
    subst hg
    split
    case h_1 theirs ht => exact Evidence.fits_join_left (isCompatible_of_accepts h hf ht)
    case h_2 => exact .refl (fun _ => rfl) _

/-- What was accepted is taken in. -/
theorem fields_fit_absorb {entry : ClassEntry} {fields : List (Field ClassId)}
    (h : entry.accepts fields = true) (seen : Nat) {name : String} {f g : Field ClassId}
    (hf : Field.find? fields name = some f)
    (hg : Field.find? (entry.absorb fields seen).fields name = some g) :
    f.type.Fits Eq g.type := by
  rw [find?_absorb, hf] at hg
  obtain ⟨ours, ho, rfl⟩ := Option.map_eq_some_iff.mp hg
  exact Evidence.fits_join_right (isCompatible_of_accepts h ho hf)

end ClassEntry

namespace ClassTable

/-! ### The two things a registration can do -/

/-- The class takes in another object. -/
def absorbAt (t : ClassTable) (id : ClassId) (fields : List (Field ClassId)) (seen : Nat) :
    ClassTable :=
  { t with entries := t.entries.modify id.index (·.absorb fields seen) }

/-- A new class, last in the table. -/
def enlist (t : ClassTable) (fields : List (Field ClassId)) (seen : Nat) : ClassTable where
  entries := t.entries ++ [⟨fields, seen, false⟩]
  byKeys := indexUnder (sortedKeys fields) ⟨t.entries.length⟩ t.byKeys

/-- The classes that the index has under a list of keys. -/
def indexed (t : ClassTable) (keys : List String) : List ClassId := (t.byKeys.lookup keys).getD []

/-- The answer and the table after a registration. -/
inductive Registers (fields : List (Field ClassId)) (seen : Nat) (t : ClassTable) :
    ClassId → ClassTable → Prop where
  | absorb {id entry} (hid : id ∈ t.indexed (sortedKeys fields)) (he : t.entry? id = some entry)
    (ha : entry.accepts fields = true) : Registers fields seen t id (t.absorbAt id fields seen)
  | enlist (hnone : ∀ id ∈ t.indexed (sortedKeys fields), ∀ entry, t.entry? id = some entry →
    entry.accepts fields = false) : Registers fields seen t ⟨t.entries.length⟩ (t.enlist fields seen)

theorem registers (fields : List (Field ClassId)) (seen : Nat) (t : ClassTable) :
    Registers fields seen t (register fields seen t).1 (register fields seen t).2 := by
  cases hacc : t.accepting? (sortedKeys fields) fields with
  | some id =>
    simp only [register, hacc]
    obtain ⟨hp, hid⟩ := And.intro (List.find?_some hacc) (List.mem_of_find?_eq_some hacc)
    cases he : t.entry? id with
    | none => simp [he] at hp
    | some entry => exact .absorb hid he (by simpa [he] using hp)
  | none =>
    simp only [register, hacc]
    refine .enlist fun id hid entry he => ?_
    simpa [he] using List.find?_eq_none.mp hacc id hid

theorem entry?_absorbAt (t : ClassTable) (id : ClassId) (fields : List (Field ClassId))
    (seen : Nat) (i : ClassId) : entry? (t.absorbAt id fields seen) i =
      if i = id then (t.entry? i).map (·.absorb fields seen) else t.entry? i := by
  cases id with
  | mk k =>
    cases i with
    | mk i =>
      simp only [absorbAt, entry?, List.getElem?_modify, ClassId.mk.injEq]
      by_cases h : k = i
      · simp [h]
      · simp [h, Ne.symm h]

theorem entry?_enlist (t : ClassTable) (fields : List (Field ClassId)) (seen : Nat)
    (i : ClassId) : entry? (t.enlist fields seen) i =
      if i = ⟨t.entries.length⟩ then some ⟨fields, seen, false⟩ else t.entry? i := by
  cases i with
  | mk i =>
    simp only [enlist, entry?, ClassId.mk.injEq]
    by_cases h : i = t.entries.length
    · simp [h]
    · rw [if_neg h]
      rcases Nat.lt_or_gt_of_ne h with hlt | hgt
      · exact List.getElem?_append_left hlt
      · rw [List.getElem?_eq_none (by simp; omega), List.getElem?_eq_none (by omega)]

theorem of_entry?_absorbAt {t : ClassTable} {id i : ClassId} {fields : List (Field ClassId)}
    {seen : Nat} {x : ClassEntry} (h : entry? (t.absorbAt id fields seen) i = some x) :
    (i = id ∧ ∃ y, t.entry? i = some y ∧ x = y.absorb fields seen) ∨ t.entry? i = some x := by
  rw [entry?_absorbAt] at h
  by_cases hi : i = id
  · rw [if_pos hi] at h
    obtain ⟨y, hy, rfl⟩ := Option.map_eq_some_iff.mp h
    exact .inl ⟨hi, y, hy, rfl⟩
  · rw [if_neg hi] at h
    exact .inr h

theorem of_entry?_enlist {t : ClassTable} {i : ClassId} {fields : List (Field ClassId)}
    {seen : Nat} {x : ClassEntry} (h : entry? (t.enlist fields seen) i = some x) :
    (i = ⟨t.entries.length⟩ ∧ x = ⟨fields, seen, false⟩) ∨ t.entry? i = some x := by
  rw [entry?_enlist] at h
  by_cases hi : i = ⟨t.entries.length⟩
  · rw [if_pos hi] at h
    cases h
    exact .inl ⟨hi, rfl⟩
  · rw [if_neg hi] at h
    exact .inr h

theorem index_lt_of_entry {t : ClassTable} {id : ClassId} {entry : ClassEntry}
    (h : t.entry? id = some entry) : id.index < t.entries.length :=
  (List.getElem?_eq_some_iff.mp h).1

theorem fieldsOf_of_entry {t : ClassTable} {id : ClassId} {entry : ClassEntry}
    (h : t.entry? id = some entry) : t.fieldsOf id = entry.fields := by
  simp only [fieldsOf, h]

/-! ### Tables that only widen -/

/-- Every class of the first table is in the second, with its keys and with types that take in the
types it had. -/
structure Extends (t u : ClassTable) : Prop where
  entries : ∀ {id x}, t.entry? id = some x → ∃ y, u.entry? id = some y ∧ x.Fits y

theorem Extends.refl (t : ClassTable) : t.Extends t :=
  ⟨fun hx => ⟨_, hx, .refl _⟩⟩

theorem Extends.trans {t u v : ClassTable} (htu : t.Extends u) (huv : u.Extends v) :
    t.Extends v := by
  refine ⟨fun hx => ?_⟩
  obtain ⟨y, hy, hxy⟩ := htu.entries hx
  obtain ⟨z, hz, hyz⟩ := huv.entries hy
  exact ⟨z, hz, hxy.trans hyz⟩

theorem Extends.length_le {t u : ClassTable} (h : t.Extends u) :
    t.entries.length ≤ u.entries.length := by
  by_contra hlt
  have hu : u.entries.length < t.entries.length := by omega
  have hentry : t.entry? ⟨u.entries.length⟩ = some t.entries[u.entries.length] :=
    List.getElem?_eq_getElem hu
  obtain ⟨y, hy, _⟩ := h.entries hentry
  exact absurd (index_lt_of_entry hy) (Nat.lt_irrefl _)

/-! ### Well-formed tables -/

/-- The classes of the table in order of discovery. -/
def ids (t : ClassTable) : List ClassId := (List.range t.entries.length).map ClassId.mk

theorem mem_ids {t : ClassTable} {id : ClassId} : id ∈ t.ids ↔ id.index < t.entries.length := by
  cases id
  simp [ids]

/-- There are not more different classes than the table has. -/
theorem length_le_of_subset_ids {t : ClassTable} {l : List ClassId} (hd : l.Nodup) (h : l ⊆ t.ids) :
    l.length ≤ t.entries.length := by
  have := (List.subperm_of_subset hd h).length_le
  simpa [ids] using this

theorem exists_entry {t : ClassTable} {id : ClassId} (h : id ∈ t.ids) :
    ∃ entry, t.entry? id = some entry :=
  ⟨_, List.getElem?_eq_getElem (mem_ids.mp h)⟩

structure WellFormed (t : ClassTable) : Prop where
  distinct : ∀ {id entry}, t.entry? id = some entry → (entry.fields.map Field.name).Nodup
  closed : ∀ {id entry}, t.entry? id = some entry →
    ∀ f ∈ entry.fields, f.type.RefersBelow t.entries.length
  /-- The index lists exactly the classes with the given keys, in order of discovery. -/
  indexed : ∀ keys, t.indexed keys = t.ids.filter fun id => sortedKeys (t.fieldsOf id) = keys

theorem WellFormed.mem_indexed {t : ClassTable} (ht : t.WellFormed) {keys : List String}
    {id : ClassId} {entry : ClassEntry} (he : t.entry? id = some entry) :
    id ∈ t.indexed keys ↔ sortedKeys entry.fields = keys := by
  rw [ht.indexed, List.mem_filter, mem_ids, decide_eq_true_eq, fieldsOf_of_entry he]
  exact and_iff_right (index_lt_of_entry he)

/-- Every class that a field leads to is in the table. -/
structure InRange (t : ClassTable) : Prop where
  refersBelow : ∀ {id f}, f ∈ t.fieldsOf id → f.type.RefersBelow t.entries.length

theorem InRange.of_entries {t : ClassTable} (h : ∀ {id entry}, t.entry? id = some entry →
    ∀ f ∈ entry.fields, f.type.RefersBelow t.entries.length) : t.InRange := by
  refine ⟨fun {id f} hf => ?_⟩
  cases hentry : t.entry? id with
  | none =>
    simp only [fieldsOf, hentry] at hf
    cases hf
  | some entry =>
    rw [fieldsOf_of_entry hentry] at hf
    exact h hentry f hf

theorem InRange.of_all {t : ClassTable} (h : (t.entries.all fun entry => entry.fields.all fun f =>
    f.type.innermost?.all fun c => decide (c.index < t.entries.length)) = true) : t.InRange := by
  refine .of_entries fun {id entry} hentry f hf c hc => ?_
  have hfields := List.all_eq_true.mp h entry (List.mem_of_getElem? hentry)
  have hfield := List.all_eq_true.mp hfields f hf
  rwa [hc, Option.all_some, decide_eq_true_eq] at hfield

theorem WellFormed.inRange {t : ClassTable} (ht : t.WellFormed) : t.InRange := .of_entries ht.closed

/-- A well-formed table may stand where one in range is called for. -/
instance {t : ClassTable} : Coe t.WellFormed t.InRange := ⟨WellFormed.inRange⟩

theorem WellFormed.refersBelow {t : ClassTable} (ht : t.WellFormed) {id : ClassId}
    {f : Field ClassId} (hf : f ∈ t.fieldsOf id) : f.type.RefersBelow t.entries.length :=
  ht.inRange.refersBelow hf

theorem WellFormed.empty : ({} : ClassTable).WellFormed where
  distinct he := nomatch he
  closed he := nomatch he
  indexed _ := rfl

theorem lookup_cons_of_ne {ks k : List String} (h : ks ≠ k) (ids : List ClassId)
    (rest : List (List String × List ClassId)) :
    ((k, ids) :: rest).lookup ks = rest.lookup ks := by
  rw [List.lookup_cons, beq_eq_false_iff_ne.mpr h]

theorem lookup_indexUnder (keys : List String) (id : ClassId)
    (m : List (List String × List ClassId)) (ks : List String) :
    (indexUnder keys id m).lookup ks =
      if ks = keys then some ((m.lookup ks).getD [] ++ [id]) else m.lookup ks := by
  induction m with
  | nil =>
    by_cases h : ks = keys
    · simp [indexUnder, h]
    · rw [indexUnder, lookup_cons_of_ne h, if_neg h]
  | cons entry rest ih =>
    obtain ⟨k, ids⟩ := entry
    simp only [indexUnder]
    by_cases h : ks = k
    · subst h
      by_cases hk : ks = keys <;> simp [hk]
    · by_cases hk : k = keys
      · subst hk
        rw [if_pos rfl, lookup_cons_of_ne h, lookup_cons_of_ne h, if_neg h]
      · rw [if_neg hk, lookup_cons_of_ne h, lookup_cons_of_ne h]
        exact ih

section Registration
variable {t u : ClassTable} {id : ClassId} {fields : List (Field ClassId)} {seen : Nat}

theorem Registers.extends (h : Registers fields seen t id u) : t.Extends u := by
  cases h with
  | @absorb id entry hid he ha =>
    refine ⟨fun {i x} hx => ?_⟩
    by_cases hi : i = id
    · subst hi
      rw [he] at hx
      cases hx
      exact ⟨_, by rw [entry?_absorbAt, if_pos rfl, he]; rfl, ClassEntry.fits_absorb ha seen⟩
    · exact ⟨x, by rw [entry?_absorbAt, if_neg hi, hx], .refl x⟩
  | enlist hnone =>
    refine ⟨fun {i x} hx => ?_⟩
    have hi : i ≠ ⟨t.entries.length⟩ := by
      rintro rfl
      exact absurd (index_lt_of_entry hx) (Nat.lt_irrefl _)
    exact ⟨x, by rw [entry?_enlist, if_neg hi, hx], .refl x⟩

/-- The class of the answer has the keys of the fields, with types that take theirs in. -/
theorem Registers.takes_in (hd : (fields.map Field.name).Nodup) (h : Registers fields seen t id u) :
    ∃ entry, u.entry? id = some entry ∧
      (∀ name, name ∈ fields.map Field.name ↔ name ∈ entry.fields.map Field.name) ∧
      ∀ {name f g}, Field.find? fields name = some f → Field.find? entry.fields name = some g →
        f.type.Fits Eq g.type := by
  cases h with
  | @absorb id entry hid he ha =>
    refine ⟨entry.absorb fields seen, by rw [entry?_absorbAt, if_pos rfl, he]; rfl, ?_, ?_⟩
    · rw [ClassEntry.names_absorb]
      exact ClassEntry.mem_names_of_accepts hd ha
    · exact ClassEntry.fields_fit_absorb ha seen
  | enlist hnone =>
    refine ⟨⟨fields, seen, false⟩, by rw [entry?_enlist, if_pos rfl], fun _ => Iff.rfl, ?_⟩
    exact (ClassEntry.Fits.refl ⟨fields, seen, false⟩).types

theorem length_absorbAt : (t.absorbAt id fields seen).entries.length = t.entries.length := by
  simp [absorbAt]

theorem length_enlist : (t.enlist fields seen).entries.length = t.entries.length + 1 := by
  simp [enlist]

theorem wellFormed_absorbAt (ht : t.WellFormed)
    (hb : ∀ f ∈ fields, f.type.RefersBelow t.entries.length) :
    (t.absorbAt id fields seen).WellFormed where
  distinct hx := by
    rcases of_entry?_absorbAt hx with ⟨_, y, hy, rfl⟩ | hx
    · rw [ClassEntry.names_absorb]
      exact ht.distinct hy
    · exact ht.distinct hx
  closed hx := by
    rw [length_absorbAt]
    rcases of_entry?_absorbAt hx with ⟨_, y, hy, rfl⟩ | hx
    · intro f hf c hc
      obtain ⟨ours, ho, rfl⟩ := List.mem_map.mp hf
      split at hc
      case h_1 theirs hth =>
        rcases Evidence.innermost?_join hc with hc | hc
        · exact ht.closed hy ours ho c hc
        · exact hb theirs (Field.mem_of_find? hth) c hc
      case h_2 => exact ht.closed hy ours ho c hc
    · exact ht.closed hx
  indexed keys := by
    have hnames : ∀ i, sortedKeys ((t.absorbAt id fields seen).fieldsOf i) =
        sortedKeys (t.fieldsOf i) := by
      intro i
      simp only [fieldsOf, entry?_absorbAt]
      by_cases hi : i = id
      · rw [if_pos hi]
        cases t.entry? i with
        | none => rfl
        | some x => simp only [Option.map_some, sortedKeys, ClassEntry.names_absorb]
      · rw [if_neg hi]
    simp only [ids, length_absorbAt, hnames]
    exact ht.indexed keys

theorem wellFormed_enlist (ht : t.WellFormed) (hd : (fields.map Field.name).Nodup)
    (hb : ∀ f ∈ fields, f.type.RefersBelow t.entries.length) :
    (t.enlist fields seen).WellFormed where
  distinct hx := by
    rcases of_entry?_enlist hx with ⟨_, rfl⟩ | hx
    · exact hd
    · exact ht.distinct hx
  closed hx := by
    rw [length_enlist]
    intro f hf
    rcases of_entry?_enlist hx with ⟨_, rfl⟩ | hx
    · exact (hb f hf).mono (Nat.le_succ _)
    · exact (ht.closed hx f hf).mono (Nat.le_succ _)
  indexed keys := by
    have hids : (t.enlist fields seen).ids = t.ids ++ [⟨t.entries.length⟩] := by
      simp [ids, length_enlist, List.range_succ]
    have hold : ∀ i ∈ t.ids, (t.enlist fields seen).fieldsOf i = t.fieldsOf i := by
      intro i hi
      have hne : i ≠ ⟨t.entries.length⟩ := by
        rintro rfl
        exact absurd (mem_ids.mp hi) (Nat.lt_irrefl _)
      simp only [fieldsOf, entry?_enlist, if_neg hne]
    have hnew : (t.enlist fields seen).fieldsOf ⟨t.entries.length⟩ = fields := by
      simp only [fieldsOf, entry?_enlist, if_pos]
    have hlookup : (t.enlist fields seen).indexed keys =
        if keys = sortedKeys fields then t.indexed keys ++ [⟨t.entries.length⟩]
        else t.indexed keys := by
      simp only [indexed, enlist, lookup_indexUnder]
      split <;> rfl
    rw [hlookup, hids, List.filter_append, ht.indexed keys]
    have hfilter : (t.ids.filter fun i => sortedKeys ((t.enlist fields seen).fieldsOf i) = keys) =
        t.ids.filter fun i => sortedKeys (t.fieldsOf i) = keys :=
      List.filter_congr fun i hi => by rw [hold i hi]
    rw [hfilter]
    by_cases hk : keys = sortedKeys fields
    · simp [hk, hnew]
    · simp [hk, hnew, Ne.symm hk]

theorem Registers.wellFormed (ht : t.WellFormed) (hd : (fields.map Field.name).Nodup)
    (hb : ∀ f ∈ fields, f.type.RefersBelow t.entries.length) (h : Registers fields seen t id u) :
    u.WellFormed := by
  cases h with
  | absorb => exact wellFormed_absorbAt ht hb
  | enlist => exact wellFormed_enlist ht hd hb

end Registration

end ClassTable

end Specimen
