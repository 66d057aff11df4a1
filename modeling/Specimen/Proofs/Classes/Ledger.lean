import Specimen.Proofs.Classes.Folding
import Specimen.Proofs.Evidence.Counts

/-! Every object is booked under one class.

A table is kept with a list of objects for each class, `Ledger`: the fields and the number of each class
are an account of its objects, and a class not in the table has none. A registration adds the objects that
it registers to the class it answers with, and nothing anywhere else. So interning the evidence of some
values books every object in them under the class at which it is met when the values are walked by the
final table (`intern_books`, `ledger_internRoot`); that later registrations widen types on the way
does not change where the objects are met (`objectsIn_of_extends`). -/
namespace Specimen

/-! ### Values with what was gathered from them -/

/-- Evidence of shapes that is a tally of the values and admits each. -/
structure Gathered (o : Observer) (atRoot : Bool) (xs : List Json) (e : Evidence Shape) : Prop where
  distinctKeys : ∀ x ∈ xs, x.DistinctKeys
  admits : ∀ x ∈ xs, Evidence.Admits Shape.fields o.isDate x e
  tallies : Tallies o (Counts o) atRoot xs e

namespace Gathered
variable {o : Observer} {atRoot : Bool} {xs : List Json} {y : Evidence Shape} {n : Bool}

theorem items (h : Gathered o atRoot xs (.array y n)) :
    Gathered o false (xs.flatMap Json.items) y where
  distinctKeys z hz := by
    obtain ⟨x, hx, hz⟩ := List.mem_flatMap.mp hz
    cases h.distinctKeys x hx with
    | array hitems => exact hitems z hz
    | _ => cases hz
  admits z hz := by
    obtain ⟨x, hx, hz⟩ := List.mem_flatMap.mp hz
    cases h.admits x hx with
    | null => cases hz
    | array hitems => exact hitems z hz
  tallies := by
    cases h.tallies with
    | array _ hy => exact hy

theorem memberValues (h : Gathered o atRoot xs (.dictionary y n)) :
    Gathered o false (xs.flatMap Json.memberValues) y where
  distinctKeys z hz := by
    obtain ⟨x, hx, hz⟩ := List.mem_flatMap.mp hz
    cases h.distinctKeys x hx with
    | object _ hvalues =>
      obtain ⟨m, hm, rfl⟩ := List.mem_map.mp hz
      exact hvalues m hm
    | _ => cases hz
  admits z hz := by
    obtain ⟨x, hx, hz⟩ := List.mem_flatMap.mp hz
    cases h.admits x hx with
    | null => cases hz
    | dictionary hvalues =>
      obtain ⟨m, hm, rfl⟩ := List.mem_map.mp hz
      exact hvalues m hm
  tallies := by
    cases h.tallies with
    | dictionary _ hy => exact hy

variable {s : Shape}

theorem records (h : Gathered o atRoot xs (.object s n)) :
    Records o (Counts o) s.fields s.seen (xs.filterMap Json.members?) := by
  cases h.tallies with
  | object _ hs => exact counts_iff.mp hs

/-- What evidence of an object says of a value. -/
theorem null_or_object (h : Gathered o atRoot xs (.object s n)) {x : Json} (hx : x ∈ xs) :
    x = .null ∨ ∃ members, x = .object members ∧ (members.map Prod.fst).Nodup ∧
      ∀ key ∈ members.map Prod.fst, key ∈ s.fields.map Field.name := by
  have hdistinct := h.distinctKeys x hx
  cases h.admits x hx with
  | null => exact .inl rfl
  | object hkeys _ _ =>
    refine .inr ⟨_, rfl, (Json.distinctKeys_object.mp hdistinct).1, fun key hkey => ?_⟩
    obtain ⟨m, hm, rfl⟩ := List.mem_map.mp hkey
    obtain ⟨f, hf⟩ := hkeys m hm
    exact Field.mem_names_of_find? hf

theorem mem_of_members? {x : Json} {members : List (String × Json)} (h : x.members? = some members) :
    x = .object members := by
  cases x <;> cases h
  rfl

theorem field (h : Gathered o atRoot xs (.object s n)) {name : String} {f : Field Shape}
    (hf : Field.find? s.fields name = some f) :
    Gathered o false (valuesUnder name (xs.filterMap Json.members?)) f.type where
  distinctKeys z hz := by
    obtain ⟨members, hmem, rfl⟩ := List.mem_map.mp hz
    obtain ⟨x, hx, hmembers⟩ := List.mem_filterMap.mp hmem
    cases mem_of_members? hmembers
    obtain ⟨hd, hvalues⟩ := Json.distinctKeys_object.mp (h.distinctKeys _ hx)
    cases hlookup : members.lookup name with
    | none => exact .null
    | some z => exact hvalues _ ((lookup_eq_some_iff_mem hd).mp hlookup)
  admits z hz := by
    obtain ⟨members, hmem, rfl⟩ := List.mem_map.mp hz
    obtain ⟨x, hx, hmembers⟩ := List.mem_filterMap.mp hmem
    cases mem_of_members? hmembers
    have hd := (Json.distinctKeys_object.mp (h.distinctKeys _ hx)).1
    cases h.admits _ hx with
    | object _ htypes hlacks =>
      cases hlookup : members.lookup name with
      | none =>
        refine .null (hlacks hf fun hmem => ?_)
        rw [← isSome_lookup_iff, hlookup] at hmem
        cases hmem
      | some z => exact htypes _ ((lookup_eq_some_iff_mem hd).mp hlookup) f hf
  tallies := h.records.types hf

end Gathered

/-- The evidence of some samples is gathered from them. -/
theorem Observer.gathered_evidenceOf (o : Observer) {samples : List Json}
    (h : ∀ x ∈ samples, x.DistinctKeys) :
    Gathered o true samples (.joinAll (samples.map o.observeRoot)) where
  distinctKeys := h
  admits x hx :=
    (o.admits_observeRoot (h x hx)).of_le (Evidence.le_joinAll (List.mem_map_of_mem hx))
  tallies := o.tallies_evidenceOf h

namespace ClassTable

/-! ### Objects met at the classes of a table -/

/-- The types of a table, as a system of types to walk values with. -/
def lockstep (t : ClassTable) : Lockstep (Evidence ClassId) where
  item?
    | .array item _ => some item
    | _ => none
  member?
    | .dictionary value _, _ => some value
    | .object c _, key => (Field.find? (t.fieldsOf c) key).map Field.type
    | _, _ => none
  class?
    | .object c _ => some c
    | _ => none

variable {t u v : ClassTable}

theorem objects_array (id : ClassId) (y : Evidence ClassId) (n : Bool) (xs : List Json) :
    t.lockstep.objects id (.array y n) xs = t.lockstep.objects id y (xs.flatMap Json.items) := by
  rw [Lockstep.objects, Lockstep.objects, List.flatMap_assoc]
  refine List.flatMap_congr fun x _ => ?_
  cases x with
  | array items => exact t.lockstep.objectsIn_array id (.array y n) items
  | object members =>
    rw [Lockstep.objectsIn_object]
    exact List.flatMap_eq_nil_iff.mpr fun m _ => rfl
  | _ => exact t.lockstep.objectsIn_eq_nil _ _ rfl rfl

theorem objects_dictionary (id : ClassId) (y : Evidence ClassId) (n : Bool) (xs : List Json) :
    t.lockstep.objects id (.dictionary y n) xs =
      t.lockstep.objects id y (xs.flatMap Json.memberValues) := by
  rw [Lockstep.objects, Lockstep.objects, List.flatMap_assoc]
  refine List.flatMap_congr fun x _ => ?_
  cases x with
  | array items =>
    rw [Lockstep.objectsIn_array]
    exact List.flatMap_eq_nil_iff.mpr fun y _ => rfl
  | object members =>
    rw [Lockstep.objectsIn_object, Json.memberValues, List.flatMap_map]
    rfl
  | _ => exact t.lockstep.objectsIn_eq_nil _ _ rfl rfl

/-- Nothing is met at a type without parts. -/
theorem objects_leaf {τ : Evidence ClassId} (hitem : t.lockstep.item? τ = none)
    (hmember : ∀ key, t.lockstep.member? τ key = none) (hclass : t.lockstep.class? τ = none)
    (id : ClassId) (xs : List Json) : t.lockstep.objects id τ xs = [] := by
  refine List.flatMap_eq_nil_iff.mpr fun x _ => ?_
  cases x with
  | array items =>
    rw [Lockstep.objectsIn_array, hitem]
    exact List.flatMap_eq_nil_iff.mpr fun y _ => rfl
  | object members =>
    rw [Lockstep.objectsIn_object, hclass]
    exact List.flatMap_eq_nil_iff.mpr fun m _ => by rw [hmember]; rfl
  | _ => exact t.lockstep.objectsIn_eq_nil _ _ rfl rfl

/-- A table that has been widened meets the same objects in the values that were admitted before. -/
theorem objectsIn_of_extends (hext : t.Extends u) {isDate : String → Bool} {τ τ' : Evidence ClassId}
    {x : Json} (hfit : τ.Fits Eq τ') (hx : Evidence.Admits t.fieldsOf isDate x τ) (id : ClassId) :
    t.lockstep.objectsIn id τ x = u.lockstep.objectsIn id τ' x := by
  refine Lockstep.objectsIn_eq_of_related
    (R := fun τ τ' x => τ.Fits Eq τ' ∧ Evidence.Admits t.fieldsOf isDate x τ) ?_ ?_ ?_ ⟨hfit, hx⟩
  · rintro τ τ' members ⟨hfit, hx⟩
    cases hx with
    | object _ _ _ =>
      cases hfit with
      | object hc _ => rw [hc]; rfl
    | _ =>
      cases hfit
      rfl
  · rintro τ τ' items ⟨hfit, hx⟩ x hx'
    cases hx with
    | array hitems =>
      cases hfit with
      | array hy _ => exact .some ⟨hy, hitems x hx'⟩
    | anything =>
      cases hfit
      exact .none
    | @scalar _ k _ hk => cases k <;> cases hk
  · rintro τ τ' members ⟨hfit, hx⟩ m hm
    cases hx with
    | dictionary hvalues =>
      cases hfit with
      | dictionary hy _ => exact .some ⟨hy, hvalues m hm⟩
    | @object _ c _ hkeys htypes _ =>
      cases hfit with
      | object hc _ =>
        subst hc
        obtain ⟨f, hf⟩ := hkeys m hm
        obtain ⟨entry, hentry, hf'⟩ := exists_entry_of_find? hf
        obtain ⟨entry', hentry', hwider⟩ := hext.entries hentry
        obtain ⟨g, hg⟩ := Field.exists_find? (hwider.names ▸ Field.mem_names_of_find? hf')
        simp only [lockstep, hf, fieldsOf_of_entry hentry', hg, Option.map_some]
        exact .some ⟨hwider.types hf' hg, htypes m hm f hf⟩
    | anything =>
      cases hfit
      exact .none
    | @scalar _ k _ hk => cases k <;> cases hk

/-! ### One registration -/

/-- Of the classes in a type nothing is counted at the type. -/
def Uncounted (_ : List (List (String × Json))) (_ : ClassId) : Prop := True

/-- Compatible types lead to one class, if both lead to any. -/
theorem eq_of_isCompatible {a b : Evidence ClassId} (h : a.isCompatible b = true) {c d : ClassId}
    (hc : a.innermost? = some c) (hd : b.innermost? = some d) : c = d := by
  induction a generalizing b with
  | array x m ih =>
    cases b with
    | array y n => exact ih h hc hd
    | dictionary y n => cases h
    | object d n => cases h
    | _ => cases hd
  | dictionary x m ih =>
    cases b with
    | dictionary y n => exact ih h hc hd
    | array y n => cases h
    | object d n => cases h
    | _ => cases hd
  | object c m =>
    cases b with
    | object d n =>
      cases hc
      cases hd
      simpa [Evidence.isCompatible, Evidence.compatibleWith, Mergeable.compatible] using h
    | array y n => cases h
    | dictionary y n => cases h
    | _ => cases hd
  | _ => cases hc

/-- A class that takes in further objects is an account of them as well. -/
theorem records_absorb {o : Observer} {entry : ClassEntry} {fields : List (Field ClassId)}
    {seen : Nat} {os ps : List (List (String × Json))}
    (hentry : Records o Uncounted entry.fields entry.samples os)
    (hfields : Records o Uncounted fields seen ps) (hd : (fields.map Field.name).Nodup)
    (ha : entry.accepts fields = true) :
    Records o Uncounted (entry.absorb fields seen).fields (entry.absorb fields seen).samples
      (os ++ ps) := by
  refine hentry.merge hfields (fun name => ?_) fun {name f g} hf hg x y hx hy => ?_
  · have hnames := ClassEntry.mem_names_of_accepts hd ha name
    rw [← Field.isSome_find?, ← Field.isSome_find?] at hnames
    rw [ClassEntry.find?_absorb]
    cases hf : Field.find? entry.fields name <;> cases hg : Field.find? fields name <;>
      rw [hf, hg] at hnames <;> first | rfl | simp at hnames
  · have hxy := eq_of_isCompatible (ClassEntry.isCompatible_of_accepts ha hf hg) hx hy
    exact ⟨x, if_pos hxy, fun _ _ _ _ => trivial⟩

/-- Each class is an account of the objects booked under it, in whatever order. -/
structure Ledger (o : Observer) (t : ClassTable)
    (booked : ClassId → List (List (String × Json))) : Prop where
  records : ∀ {id entry}, t.entry? id = some entry →
    ∃ os, os.Perm (booked id) ∧ Records o Uncounted entry.fields entry.samples os
  fresh : ∀ {id}, t.entry? id = none → booked id = []

variable {o : Observer} {booked booked' : ClassId → List (List (String × Json))}

theorem Ledger.perm (h : Ledger o t booked) (hperm : ∀ id, (booked id).Perm (booked' id)) :
    Ledger o t booked' where
  records hentry := by
    obtain ⟨os, hos, hrecords⟩ := h.records hentry
    exact ⟨os, hos.trans (hperm _), hrecords⟩
  fresh hid := List.Perm.nil_eq (h.fresh hid ▸ hperm _) |>.symm

/-- A registration books its objects under the class of its answer. -/
theorem Ledger.register {fields : List (Field ClassId)} {seen : Nat} {c : ClassId}
    {objects : List (List (String × Json))} (h : Ledger o t booked)
    (hfields : Records o Uncounted fields seen objects) (hd : (fields.map Field.name).Nodup)
    (hr : Registers fields seen t c u) :
    Ledger o u fun id => booked id ++ if id = c then objects else [] := by
  cases hr with
  | @absorb c entry _ hentry ha =>
    refine ⟨fun {id x} hx => ?_, fun {id} hid => ?_⟩
    · rw [entry?_absorbAt] at hx
      by_cases hc : id = c
      · subst hc
        rw [if_pos rfl, hentry] at hx
        cases hx
        obtain ⟨os, hos, hrecords⟩ := h.records hentry
        refine ⟨os ++ objects, ?_, records_absorb hrecords hfields hd ha⟩
        rw [if_pos rfl]
        exact hos.append_right _
      · rw [if_neg hc] at hx
        rw [if_neg hc, List.append_nil]
        exact h.records hx
    · rw [entry?_absorbAt] at hid
      by_cases hc : id = c
      · subst hc
        rw [if_pos rfl, hentry] at hid
        cases hid
      · rw [if_neg hc] at hid
        rw [if_neg hc, h.fresh hid]
        rfl
  | enlist _ =>
    refine ⟨fun {id x} hx => ?_, fun {id} hid => ?_⟩
    · rcases of_entry?_enlist hx with ⟨rfl, rfl⟩ | hx
      · have hfresh : booked ⟨t.entries.length⟩ = [] :=
          h.fresh (List.getElem?_eq_none (Nat.le_refl _))
        rw [if_pos rfl, hfresh]
        exact ⟨objects, .refl _, hfields⟩
      · have hne : id ≠ ⟨t.entries.length⟩ := by
          rintro rfl
          exact absurd (index_lt_of_entry hx) (Nat.lt_irrefl _)
        rw [if_neg hne, List.append_nil]
        exact h.records hx
    · rw [entry?_enlist] at hid
      by_cases hc : id = ⟨t.entries.length⟩
      · rw [if_pos hc] at hid
        cases hid
      · rw [if_neg hc] at hid
        rw [if_neg hc, h.fresh hid]
        rfl

/-- Marking the root books nothing. -/
theorem Ledger.markRoot (h : Ledger o t booked) (c : ClassId) : Ledger o (t.markRoot c) booked where
  records {id x} hx := by
    obtain ⟨y, hy, _⟩ := of_entry?_markRoot hx
    obtain ⟨x', hx', hfields, hsamples⟩ := entry?_markRoot c hy
    rw [hx] at hx'
    cases hx'
    rw [hfields, hsamples]
    exact h.records hy
  fresh {id} hid := by
    refine h.fresh (Option.eq_none_iff_forall_ne_some.mpr fun y hy => ?_)
    obtain ⟨x, hx, _⟩ := entry?_markRoot c hy
    rw [hid] at hx
    cases hx

/-! ### Interning -/

/-- What the fields of a shape are interned as. -/
theorem internFields_fits {fs : List (Field Shape)} (h : ∀ f ∈ fs, f.type.DistinctKeys)
    (t : ClassTable) : t.Extends (internFields fs t).2 ∧
      ∀ {name f g}, Field.find? fs name = some f → Field.find? (internFields fs t).1 name = some g →
        f.type.Fits (internFields fs t).2.Represents g.type := by
  induction fs generalizing t with
  | nil => exact ⟨.refl t, nofun⟩
  | cons f rest ih =>
    obtain ⟨hf, hrest⟩ := List.forall_mem_cons.mp h
    obtain ⟨hext, hfits⟩ := ih hrest (intern f.type t).2
    rw [internFields_cons]
    refine ⟨(intern_grows hf t).1.extends.trans hext, fun {name f' g} hf' hg => ?_⟩
    rw [Field.find?_cons] at hf' hg
    by_cases hn : f.name = name
    · rw [if_pos hn] at hf' hg
      cases hf'
      cases hg
      exact (intern_fits hf t).mono fun s c hsc => hsc.extends hext
    · rw [if_neg hn] at hf' hg
      exact hfits hf' hg

/-- From one table to a later one the objects are booked, and nothing else. -/
structure Books (o : Observer) (t u : ClassTable)
    (objects : ClassId → List (List (String × Json))) : Prop where
  ledger : ∀ {booked}, Ledger o t booked → Ledger o u fun id => booked id ++ objects id

variable {os ps : ClassId → List (List (String × Json))}

theorem Books.none (h : ∀ id, os id = []) : Books o t t os := by
  refine ⟨fun hl => hl.perm fun id => ?_⟩
  rw [h id, List.append_nil]

theorem Books.trans (h : Books o t u os) (h' : Books o u v ps) :
    Books o t v fun id => os id ++ ps id := by
  refine ⟨fun hl => (h'.ledger (h.ledger hl)).perm fun id => ?_⟩
  rw [List.append_assoc]

theorem Books.perm (h : Books o t u os) (hperm : ∀ id, (os id).Perm (ps id)) :
    Books o t u ps :=
  ⟨fun hl => (h.ledger hl).perm fun id => (hperm id).append_left _⟩

/-- What is booked for interning some evidence: the objects in the values that it was gathered from, as
they are met by the types of the table that interning leaves. -/
def BooksIntern (o : Observer) (e : Evidence Shape) : Prop :=
  ∀ {atRoot xs}, Gathered o atRoot xs e → ∀ t : ClassTable,
    Tallies o Uncounted atRoot xs (intern e t).1 ∧
      Books o t (intern e t).2 fun id =>
        (intern e t).2.lockstep.objects id (intern e t).1 xs

/-- Later tables meet what has been booked where it was booked. -/
theorem objects_intern_of_extends {e : Evidence Shape} (he : e.DistinctKeys) {atRoot : Bool}
    {xs : List Json} (h : Gathered o atRoot xs e) (hext : (intern e t).2.Extends u)
    {τ : Evidence ClassId} (hfit : (intern e t).1.Fits Eq τ) (id : ClassId) :
    (intern e t).2.lockstep.objects id (intern e t).1 xs = u.lockstep.objects id τ xs :=
  List.flatMap_congr fun x hx =>
    objectsIn_of_extends hext hfit (admits_of_fits (h.admits x hx) (intern_fits he t)) id

/-- Interning the fields of a shape books the objects under its keys. -/
theorem internFields_books {fs : List (Field Shape)} {objects : List (List (String × Json))}
    (hkeys : ∀ f ∈ fs, f.type.DistinctKeys) (hbooks : ∀ f ∈ fs, BooksIntern o f.type)
    (h : ∀ f ∈ fs, Gathered o false (valuesUnder f.name objects) f.type) (t : ClassTable) :
    (∀ {name g}, Field.find? (internFields fs t).1 name = some g →
      ∃ f, Field.find? fs name = some f ∧ g.presentIn = f.presentIn ∧ g.examples = f.examples ∧
        Tallies o Uncounted false (valuesUnder name objects) g.type) ∧
      Books o t (internFields fs t).2 fun id => (internFields fs t).1.flatMap fun g =>
        (internFields fs t).2.lockstep.objects id g.type (valuesUnder g.name objects) := by
  induction fs generalizing t with
  | nil => exact ⟨nofun, .none fun _ => rfl⟩
  | cons f rest ih =>
    obtain ⟨hf, hrest⟩ := List.forall_mem_cons.mp hkeys
    obtain ⟨hbooksf, hbooksrest⟩ := List.forall_mem_cons.mp hbooks
    obtain ⟨hgathered, hgatheredrest⟩ := List.forall_mem_cons.mp h
    obtain ⟨htally, hbooked⟩ := hbooksf hgathered t
    obtain ⟨htallies, hbookedrest⟩ := ih hrest hbooksrest hgatheredrest (intern f.type t).2
    rw [internFields_cons]
    refine ⟨fun {name g} hg => ?_, (hbooked.trans hbookedrest).perm fun id => ?_⟩
    · rw [Field.find?_cons] at hg
      rw [Field.find?_cons]
      by_cases hn : f.name = name
      · rw [if_pos hn] at hg
        cases hg
        rw [if_pos hn, ← hn]
        exact ⟨f, rfl, rfl, rfl, htally⟩
      · rw [if_neg hn] at hg
        rw [if_neg hn]
        exact htallies hg
    · have hext := (internFields_fits hrest (intern f.type t).2).1
      rw [List.flatMap_cons, objects_intern_of_extends hf hgathered hext (.refl (fun _ => rfl) _)]

/-- What the fields of a shape are interned as is an account of the objects of the shape. -/
theorem records_of_interned {fs : List (Field Shape)} {gs : List (Field ClassId)} {seen : Nat}
    {objects : List (List (String × Json))} (h : Records o (Counts o) fs seen objects)
    (hnames : gs.map Field.name = fs.map Field.name)
    (htallies : ∀ {name g}, Field.find? gs name = some g → ∃ f, Field.find? fs name = some f ∧
      g.presentIn = f.presentIn ∧ g.examples = f.examples ∧
        Tallies o Uncounted false (valuesUnder name objects) g.type) :
    Records o Uncounted gs seen objects where
  seen := h.seen
  nonempty := h.nonempty
  keys name := by rw [← h.keys, Field.isSome_find?, Field.isSome_find?, hnames]
  present hg := by
    obtain ⟨f, hf, hpresent, _⟩ := htallies hg
    rw [hpresent, h.present hf]
  types hg := by
    obtain ⟨_, _, _, _, htally⟩ := htallies hg
    exact htally
  examples hkeeps {name g} hg := by
    obtain ⟨f, hf, _, hexamples, _⟩ := htallies hg
    rw [hexamples]
    exact h.examples hkeeps hf

/-- At a registered class the objects of a shape are met, and below it what its fields met before. -/
theorem perm_objects_of_registers {s : Shape} {n atRoot : Bool} {xs : List Json}
    (h : Gathered o atRoot xs (.object s n)) {gs : List (Field ClassId)} {c : ClassId}
    (hnames : gs.map Field.name = s.fields.map Field.name) (hd : (gs.map Field.name).Nodup)
    (hfits : ∀ {name f g}, Field.find? s.fields name = some f → Field.find? gs name = some g →
      f.type.Fits u.Represents g.type)
    (hr : Registers gs s.seen u c v) (id : ClassId) :
    (v.lockstep.objects id (.object c n) xs).Perm
      ((gs.flatMap fun g =>
          u.lockstep.objects id g.type (valuesUnder g.name (xs.filterMap Json.members?))) ++
        if id = c then xs.filterMap Json.members? else []) := by
  have hobjects : (v.lockstep.objects id (.object c n) xs).Perm _ :=
    v.lockstep.objects_perm hd fun x hx => hnames ▸ h.null_or_object hx
  refine hobjects.trans (.trans (.of_eq ?_) List.perm_append_comm)
  have hclass : v.lockstep.class? (.object c n) = some id ↔ id = c :=
    (Option.some.injEq c id).to_iff.trans eq_comm
  simp only [hclass]
  congr 1
  rw [List.flatMap_map]
  refine List.flatMap_congr fun g hg => ?_
  -- Under the key the final type of the class meets what the type of the field met before.
  have hg := Field.find?_of_mem hd hg
  have hkey := Field.mem_names_of_find? hg
  obtain ⟨f, hf⟩ := Field.exists_find? (hnames ▸ hkey)
  obtain ⟨entry, hentry, hsame, htakes⟩ := hr.takes_in hd
  obtain ⟨g', hg'⟩ := Field.exists_find? ((hsame g.name).mp hkey)
  have hmember : v.lockstep.member? (.object c n) g.name = some g'.type := by
    simp only [lockstep, fieldsOf_of_entry hentry, hg', Option.map_some]
  rw [hmember]
  exact List.flatMap_congr fun x hx => (objectsIn_of_extends hr.extends (htakes hg hg')
    (admits_of_fits ((h.field hf).admits x hx) (hfits hf hg)) id).symm

theorem intern_books {e : Evidence Shape} (he : e.DistinctKeys) : BooksIntern o e := by
  induction e using Evidence.shape_induction with
  | unknown =>
    exact fun h t => ⟨.unknown ⟨h.tallies.shows.head, h.tallies.shows.nullable⟩,
      .none fun id => objects_leaf rfl (fun _ => rfl) rfl id _⟩
  | null =>
    exact fun h t => ⟨.null ⟨h.tallies.shows.head, h.tallies.shows.nullable⟩,
      .none fun id => objects_leaf rfl (fun _ => rfl) rfl id _⟩
  | anything n =>
    exact fun h t => ⟨.anything ⟨h.tallies.shows.head, h.tallies.shows.nullable⟩,
      .none fun id => objects_leaf rfl (fun _ => rfl) rfl id _⟩
  | scalar k n =>
    exact fun h t => ⟨.scalar ⟨h.tallies.shows.head, h.tallies.shows.nullable⟩,
      .none fun id => objects_leaf rfl (fun _ => rfl) rfl id _⟩
  | array y n ih =>
    intro atRoot xs h t
    obtain ⟨htally, hbooks⟩ := ih he.of_array h.items t
    refine ⟨.array ⟨h.tallies.shows.head, h.tallies.shows.nullable⟩ htally, ?_⟩
    exact hbooks.perm fun id => .of_eq (objects_array id _ _ _).symm
  | dictionary y n ih =>
    intro atRoot xs h t
    obtain ⟨htally, hbooks⟩ := ih he.of_dictionary h.memberValues t
    refine ⟨.dictionary ⟨h.tallies.shows.head, h.tallies.shows.nullable⟩ htally, ?_⟩
    exact hbooks.perm fun id => .of_eq (objects_dictionary id _ _ _).symm
  | object s n ih =>
    intro atRoot xs h t
    obtain ⟨hd, hkeys⟩ := Evidence.distinctKeys_object.mp he
    obtain ⟨_, hfits⟩ := internFields_fits hkeys t
    have hnames := names_internFields s.fields t
    obtain ⟨htallies, hbooks⟩ := internFields_books hkeys (fun f hf => ih f hf (hkeys f hf))
      (fun f hf => h.field (Field.find?_of_mem hd hf)) t
    rw [intern_object]
    refine ⟨.object ⟨h.tallies.shows.head, h.tallies.shows.nullable⟩ trivial, ⟨fun hl => ?_⟩⟩
    have hdg := hnames ▸ hd
    have hr := registers (internFields s.fields t).1 s.seen (internFields s.fields t).2
    have hregistered := (hbooks.ledger hl).register (records_of_interned h.records hnames htallies) hdg hr
    refine hregistered.perm fun id => ?_
    rw [List.append_assoc]
    exact (perm_objects_of_registers h hnames hdg hfits hr id).symm.append_left _

/-- The table of a whole run is an account of all objects in the samples, and its root of the samples. -/
theorem ledger_internRoot {samples : List Json} (h : ∀ x ∈ samples, x.DistinctKeys)
    {e : Evidence Shape} (he : e = .joinAll (samples.map o.observeRoot)) (hkeys : e.DistinctKeys) :
    Tallies o Uncounted true samples (internRoot e {}).1 ∧
      Ledger o (internRoot e {}).2 fun id =>
        (internRoot e {}).2.lockstep.objects id (internRoot e {}).1 samples := by
  have hgathered : Gathered o true samples e := he ▸ o.gathered_evidenceOf h
  obtain ⟨htally, hbooks⟩ := intern_books hkeys hgathered {}
  have hempty : Ledger o {} fun _ => [] := ⟨nofun, fun _ => rfl⟩
  have hledger := hbooks.ledger hempty
  rw [internRoot_eq]
  refine ⟨htally, ?_⟩
  dsimp only
  split
  case h_2 => exact hledger
  case h_1 c _ _ =>
    have hlockstep : (markRoot (intern e {}).2 c).lockstep = (intern e {}).2.lockstep := by
      simp only [lockstep, fieldsOf_markRoot]
    rw [hlockstep]
    exact hledger.markRoot c

end ClassTable

end Specimen
