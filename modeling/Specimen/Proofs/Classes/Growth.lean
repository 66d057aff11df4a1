import Specimen.Proofs.Classes.Registration

/-! Interning as a run of registrations.

`ClassTable.intern_induction` is the induction over interning: from the fields of a shape to its class,
from one field to the next, the table handed on. `Grows` lists what happens to the table meanwhile,
one registration after another, so that what every registration keeps is kept by interning
(`intern_grows`). `Run` is the same for whole calls of interning, on any evidence. -/
namespace Specimen.ClassTable

theorem internShape_eq (s : Shape) (t : ClassTable) :
    internShape s t =
      register (internFields s.fields t).1 s.seen (internFields s.fields t).2 := by
  cases s
  rfl

theorem intern_object (s : Shape) (nullable : Bool) (t : ClassTable) :
    intern (.object s nullable) t =
      (.object (register (internFields s.fields t).1 s.seen (internFields s.fields t).2).1 nullable,
        (register (internFields s.fields t).1 s.seen (internFields s.fields t).2).2) := by
  cases s
  rfl

theorem internFields_cons (f : Field Shape) (rest : List (Field Shape)) (t : ClassTable) :
    internFields (f :: rest) t =
      (⟨f.name, (intern f.type t).1, f.presentIn, f.examples⟩ ::
          (internFields rest (intern f.type t).2).1,
        (internFields rest (intern f.type t).2).2) := by
  cases f
  rfl

theorem names_internFields (fs : List (Field Shape)) (t : ClassTable) :
    (internFields fs t).1.map Field.name = fs.map Field.name := by
  induction fs generalizing t with
  | nil => rfl
  | cons f rest ih => rw [internFields_cons, List.map_cons, List.map_cons, ih]

/-- To prove something of what interning takes and gives, the table before and after included, prove
it along the recursion: `P` of evidence, `Q` of lists of fields. -/
theorem intern_induction
    {P : Evidence Shape → ClassTable → Evidence ClassId → ClassTable → Prop}
    {Q : List (Field Shape) → ClassTable → List (Field ClassId) → ClassTable → Prop}
    (unknown : ∀ t, P .unknown t .unknown t)
    (null : ∀ t, P .null t .null t)
    (anything : ∀ n t, P (.anything n) t (.anything n) t)
    (scalar : ∀ k n t, P (.scalar k n) t (.scalar k n) t)
    (array : ∀ x n t y u, P x t y u → P (.array x n) t (.array y n) u)
    (dictionary : ∀ x n t y u, P x t y u → P (.dictionary x n) t (.dictionary y n) u)
    (object : ∀ (s : Shape) n t fs u, Q s.fields t fs u →
      P (.object s n) t (.object (register fs s.seen u).1 n) (register fs s.seen u).2)
    (nil : ∀ t, Q [] t [] t)
    (cons : ∀ (f : Field Shape) rest t y u fs v, P f.type t y u → Q rest u fs v →
      Q (f :: rest) t (⟨f.name, y, f.presentIn, f.examples⟩ :: fs) v)
    (e : Evidence Shape) (t : ClassTable) : P e t (intern e t).1 (intern e t).2 := by
  induction e using Evidence.shape_induction generalizing t with
  | unknown => exact unknown t
  | null => exact null t
  | anything n => exact anything n t
  | scalar k n => exact scalar k n t
  | array x n ih => exact array x n t _ _ (ih t)
  | dictionary x n ih => exact dictionary x n t _ _ (ih t)
  | object s n ih =>
    rw [intern_object]
    apply object
    generalize s.fields = fs at ih
    induction fs generalizing t with
    | nil => exact nil t
    | cons f rest ihrest =>
      rw [internFields_cons]
      exact cons f rest t _ _ _ _ (ih f (List.mem_cons_self ..) t)
        (ihrest _ fun g hg => ih g (List.mem_cons_of_mem f hg))

/-! ### The root -/

/-- The table with a class marked as the root. -/
def markRoot (t : ClassTable) (id : ClassId) : ClassTable :=
  { t with entries := t.entries.modify id.index fun entry => { entry with isRoot := true } }

theorem internRoot_eq (e : Evidence Shape) (t : ClassTable) :
    internRoot e t = ((intern e t).1,
      match (intern e t).1 with
      | .object id _ => (intern e t).2.markRoot id
      | _ => (intern e t).2) := by
  unfold internRoot
  generalize intern e t = result
  obtain ⟨root, u⟩ := result
  cases root <;> rfl

theorem of_entry?_markRoot {t : ClassTable} {id i : ClassId} {x : ClassEntry}
    (h : entry? (t.markRoot id) i = some x) :
    ∃ y, t.entry? i = some y ∧ x.fields = y.fields := by
  simp only [markRoot, entry?, List.getElem?_modify] at h
  obtain ⟨y, hy, rfl⟩ := Option.map_eq_some_iff.mp h
  refine ⟨y, hy, ?_⟩
  split <;> rfl

theorem entry?_markRoot {t : ClassTable} (id : ClassId) {i : ClassId} {x : ClassEntry}
    (h : t.entry? i = some x) :
    ∃ y, entry? (t.markRoot id) i = some y ∧ y.fields = x.fields ∧ y.samples = x.samples := by
  simp only [markRoot, entry?, List.getElem?_modify] at h ⊢
  rw [h]
  refine ⟨_, rfl, ?_⟩
  split <;> exact ⟨rfl, rfl⟩

theorem length_markRoot (t : ClassTable) (id : ClassId) :
    (t.markRoot id).entries.length = t.entries.length := by
  simp [markRoot]

theorem fieldsOf_markRoot (t : ClassTable) (id i : ClassId) :
    (t.markRoot id).fieldsOf i = t.fieldsOf i := by
  cases h : entry? (t.markRoot id) i with
  | none =>
    have hlt : ¬ i.index < t.entries.length := by
      have := List.getElem?_eq_none_iff.mp h
      rw [length_markRoot] at this
      omega
    have : t.entry? i = none := List.getElem?_eq_none (by omega)
    simp only [fieldsOf, h, this]
  | some x =>
    obtain ⟨y, hy, hxy⟩ := of_entry?_markRoot h
    rw [fieldsOf_of_entry h, fieldsOf_of_entry hy, hxy]

theorem extends_markRoot (t : ClassTable) (id : ClassId) : t.Extends (t.markRoot id) := by
  refine ⟨fun {i x} hx => ?_⟩
  obtain ⟨y, hy, hfields, _⟩ := entry?_markRoot id hx
  refine ⟨y, hy, ?_, ?_⟩
  · rw [hfields]
  · rw [hfields]
    exact (ClassEntry.Fits.refl x).types

theorem WellFormed.markRoot {t : ClassTable} (ht : t.WellFormed) (id : ClassId) :
    (t.markRoot id).WellFormed where
  distinct hx := by
    obtain ⟨y, hy, hxy⟩ := of_entry?_markRoot hx
    rw [hxy]
    exact ht.distinct hy
  closed hx := by
    obtain ⟨y, hy, hxy⟩ := of_entry?_markRoot hx
    rw [hxy, length_markRoot]
    exact ht.closed hy
  indexed keys := by
    simp only [ids, length_markRoot, fieldsOf_markRoot]
    exact ht.indexed keys

/-! ### Registrations one after another -/

/-- What interning does to a table: registrations of fields with distinct names that refer to classes
already there. -/
inductive Grows (t : ClassTable) : ClassTable → Prop where
  | refl : Grows t t
  | register {u fields seen id v} (h : Grows t u) (hd : (fields.map Field.name).Nodup)
    (hb : ∀ f ∈ fields, f.type.RefersBelow u.entries.length) (hr : Registers fields seen u id v) :
    Grows t v

variable {t u v : ClassTable}

theorem Grows.trans (htu : t.Grows u) (huv : u.Grows v) : t.Grows v := by
  induction huv with
  | refl => exact htu
  | register _ hd hb hr ih => exact .register ih hd hb hr

theorem Grows.wellFormed (h : t.Grows u) (ht : t.WellFormed) : u.WellFormed := by
  induction h with
  | refl => exact ht
  | register _ hd hb hr ih => exact hr.wellFormed ih hd hb

theorem Grows.extends (h : t.Grows u) : t.Extends u := by
  induction h with
  | refl => exact .refl t
  | register _ _ _ hr ih => exact ih.trans hr.extends

/-- Interning is a run of registrations, and its answer refers to classes of the final table. -/
theorem intern_grows {e : Evidence Shape} (he : e.DistinctKeys) (t : ClassTable) :
    t.Grows (intern e t).2 ∧ (intern e t).1.RefersBelow (intern e t).2.entries.length := by
  refine intern_induction
    (P := fun e t τ u => e.DistinctKeys → t.Grows u ∧ τ.RefersBelow u.entries.length)
    (Q := fun fs t gs u => (∀ f ∈ fs, f.type.DistinctKeys) → t.Grows u ∧
      gs.map Field.name = fs.map Field.name ∧ ∀ g ∈ gs, g.type.RefersBelow u.entries.length)
    ?_ ?_ ?_ ?_ ?_ ?_ ?_ ?_ ?_ e t he
  · exact fun t _ => ⟨.refl, fun c hc => nomatch hc⟩
  · exact fun t _ => ⟨.refl, fun c hc => nomatch hc⟩
  · exact fun n t _ => ⟨.refl, fun c hc => nomatch hc⟩
  · exact fun k n t _ => ⟨.refl, fun c hc => nomatch hc⟩
  · exact fun x n t y u ih h => ih h.of_array
  · exact fun x n t y u ih h => ih h.of_dictionary
  · intro s n t fs u ih h
    obtain ⟨hd, h⟩ := Evidence.distinctKeys_object.mp h
    obtain ⟨hgrows, hnames, hbelow⟩ := ih h
    rw [← hnames] at hd
    have hr := registers fs s.seen u
    refine ⟨hgrows.register hd hbelow hr, fun c hc => ?_⟩
    obtain ⟨entry, hentry, _⟩ := hr.takes_in hd
    cases hc
    exact index_lt_of_entry hentry
  · exact fun t _ => ⟨.refl, rfl, fun g hg => nomatch hg⟩
  · intro f rest t y u fs v ihf ihrest h
    obtain ⟨hgf, hbf⟩ := ihf (h f (List.mem_cons_self ..))
    obtain ⟨hgr, hnames, hbr⟩ := ihrest fun g hg => h g (List.mem_cons_of_mem f hg)
    refine ⟨hgf.trans hgr, by rw [List.map_cons, List.map_cons, hnames], fun g hg => ?_⟩
    rcases List.mem_cons.mp hg with rfl | hg
    · exact hbf.mono hgr.extends.length_le
    · exact hbr g hg

/-! ### Calls of interning one after another -/

/-- The tables that a sequence of calls leads to, on any evidence in which no object has a key
twice. -/
inductive Run (t : ClassTable) : ClassTable → Prop where
  | refl : Run t t
  | intern {u : ClassTable} {e : Evidence Shape} (h : Run t u) (he : e.DistinctKeys) :
    Run t (ClassTable.intern e u).2
  | internRoot {u : ClassTable} {e : Evidence Shape} (h : Run t u) (he : e.DistinctKeys) :
    Run t (ClassTable.internRoot e u).2

/-- What registrations keep and marking the root keeps, every call keeps. -/
theorem Run.induction {I : ClassTable → Prop}
    (hgrows : ∀ {u v}, u.Grows v → I u → I v) (hmark : ∀ {u} id, I u → I (u.markRoot id))
    (h : t.Run u) (ht : I t) : I u := by
  induction h with
  | refl => exact ht
  | intern _ he ih => exact hgrows (intern_grows he _).1 ih
  | internRoot _ he ih =>
    rw [internRoot_eq]
    have := hgrows (intern_grows he _).1 ih
    dsimp only
    split
    · exact hmark _ this
    · exact this

theorem Run.wellFormed (h : t.Run u) (ht : t.WellFormed) : u.WellFormed :=
  h.induction (fun hg hu => hg.wellFormed hu) (fun id hu => hu.markRoot id) ht

/-- What interning the evidence of a whole run leaves: a well-formed table, and a root in it. -/
theorem wellFormed_internRoot {e : Evidence Shape} (he : e.DistinctKeys) :
    (internRoot e {}).2.WellFormed ∧
      (internRoot e {}).1.RefersBelow (internRoot e {}).2.entries.length := by
  refine ⟨(Run.internRoot .refl he).wellFormed .empty, ?_⟩
  have hbelow := (intern_grows he {}).2
  rw [internRoot_eq]
  dsimp only
  split
  · rw [length_markRoot]
    exact hbelow
  · exact hbelow

theorem Run.extends (h : t.Run u) : t.Extends u :=
  h.induction (I := t.Extends) (fun hg hu => hu.trans hg.extends)
    (fun id hu => hu.trans (extends_markRoot _ id)) (.refl t)

/-! ### The mark of the root -/

/-- No class is marked as the root. -/
def Unmarked (t : ClassTable) : Prop := ∀ {id entry}, t.entry? id = some entry → entry.isRoot = false

theorem Registers.unmarked {fields : List (Field ClassId)} {seen : Nat} {id : ClassId}
    (h : Registers fields seen t id u) (ht : t.Unmarked) : u.Unmarked := by
  intro i entry hentry
  cases h with
  | absorb =>
    rcases of_entry?_absorbAt hentry with ⟨_, y, hy, rfl⟩ | hentry
    · change y.isRoot = false
      exact ht hy
    · exact ht hentry
  | enlist =>
    rcases of_entry?_enlist hentry with ⟨_, rfl⟩ | hentry
    · rfl
    · exact ht hentry

theorem Grows.unmarked (h : t.Grows u) (ht : t.Unmarked) : u.Unmarked := by
  induction h with
  | refl => exact ht
  | register _ _ _ hr ih => exact hr.unmarked ih

theorem isRoot_markRoot (ht : t.Unmarked) {id c : ClassId} {entry : ClassEntry}
    (h : entry? (t.markRoot id) c = some entry) : entry.isRoot = true ↔ c = id := by
  simp only [markRoot, entry?, List.getElem?_modify] at h
  obtain ⟨y, hy, rfl⟩ := Option.map_eq_some_iff.mp h
  have hindex : id.index = c.index ↔ c = id := by
    cases id
    cases c
    simp [eq_comm]
  split
  case isTrue heq => exact iff_of_true rfl (hindex.mp heq)
  case isFalse hne => exact iff_of_false (by simp [ht hy]) (mt hindex.mpr hne)

/-- A class is marked as the root just if the evidence of the whole run is of that class. -/
theorem isRoot_internRoot {e : Evidence Shape} (he : e.DistinctKeys) {c : ClassId} {entry : ClassEntry}
    (h : ClassTable.entry? (internRoot e {}).2 c = some entry) :
    entry.isRoot = true ↔ ∃ n, (internRoot e {}).1 = .object c n := by
  have hunmarked : (intern e {}).2.Unmarked := (intern_grows he {}).1.unmarked nofun
  rw [internRoot_eq] at h ⊢
  dsimp only at h ⊢
  split at h
  case h_1 id n hroot =>
    rw [isRoot_markRoot hunmarked h, hroot]
    simp [eq_comm]
  case h_2 hnone =>
    refine iff_of_false (by simp [hunmarked h]) fun ⟨n, hroot⟩ => hnone c n hroot

end Specimen.ClassTable
