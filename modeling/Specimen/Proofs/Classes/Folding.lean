import Specimen.Proofs.Classes.Growth
import Specimen.Proofs.Evidence.Admission
import Specimen.Proofs.Evidence.Sketch

/-! What becomes of evidence in the table.

A class represents a shape if it has its keys and key by key types that take in those of the shape, the
objects in them represented in turn. Classes may refer to each other in a cycle, so this is the largest
relation of its kind: `Folding` says that a relation is of the kind, `Represents` that some such relation
holds. Widening the table keeps every folding a folding, which is why what interning has once answered
stays right while later shapes are taken in (`intern_fits`). -/
namespace Specimen.ClassTable

/-- Related shapes and classes have the same keys, and related types under them. -/
structure Folding (t : ClassTable) (R : Shape → ClassId → Prop) : Prop where
  entries : ∀ {s c}, R s c → ∃ entry, t.entry? c = some entry ∧
    (∀ name, name ∈ s.fields.map Field.name ↔ name ∈ entry.fields.map Field.name) ∧
    ∀ {name f g}, Field.find? s.fields name = some f → Field.find? entry.fields name = some g →
      f.type.Fits R g.type

/-- The class stands for the shape. -/
def Represents (t : ClassTable) (s : Shape) (c : ClassId) : Prop := ∃ R, t.Folding R ∧ R s c

variable {t u : ClassTable}

theorem Folding.extends {R : Shape → ClassId → Prop} (hR : t.Folding R) (h : t.Extends u) :
    u.Folding R := by
  refine ⟨fun hsc => ?_⟩
  obtain ⟨x, hx, hkeys, htypes⟩ := hR.entries hsc
  obtain ⟨y, hy, hxy⟩ := h.entries hx
  refine ⟨y, hy, fun name => by rw [hkeys name, hxy.names], fun {name f g} hf hg => ?_⟩
  obtain ⟨g₀, hg₀⟩ := Field.exists_find? (hxy.names.symm ▸ Field.mem_names_of_find? hg)
  exact (htypes hf hg₀).trans_eq (hxy.types hg₀ hg)

theorem Represents.extends {s : Shape} {c : ClassId} (hsc : t.Represents s c) (h : t.Extends u) :
    u.Represents s c := by
  obtain ⟨R, hR, hsc⟩ := hsc
  exact ⟨R, hR.extends h, hsc⟩

theorem folding_represents (t : ClassTable) : t.Folding t.Represents := by
  refine ⟨fun {s c} ⟨R, hR, hsc⟩ => ?_⟩
  obtain ⟨entry, hentry, hkeys, htypes⟩ := hR.entries hsc
  refine ⟨entry, hentry, hkeys, fun hf hg => ?_⟩
  exact (htypes hf hg).mono fun s c h => ⟨R, hR, h⟩

/-- A class with the keys of a shape and with types that take in the shape's represents it. -/
theorem represents_of_entry {s : Shape} {c : ClassId} {entry : ClassEntry}
    (hentry : t.entry? c = some entry)
    (hkeys : ∀ name, name ∈ s.fields.map Field.name ↔ name ∈ entry.fields.map Field.name)
    (htypes : ∀ {name f g}, Field.find? s.fields name = some f →
      Field.find? entry.fields name = some g → f.type.Fits t.Represents g.type) :
    t.Represents s c := by
  refine ⟨fun s' c' => t.Represents s' c' ∨ s' = s ∧ c' = c, ⟨fun h => ?_⟩, .inr ⟨rfl, rfl⟩⟩
  rcases h with h | ⟨rfl, rfl⟩
  · obtain ⟨entry, hentry, hkeys, htypes⟩ := (folding_represents t).entries h
    exact ⟨entry, hentry, hkeys, fun hf hg => (htypes hf hg).mono fun _ _ => .inl⟩
  · exact ⟨entry, hentry, hkeys, fun hf hg => (htypes hf hg).mono fun _ _ => .inl⟩

/-- The answer of interning stands for the evidence, in the table that interning leaves and so in every
later one. -/
theorem intern_fits {e : Evidence Shape} (he : e.DistinctKeys) (t : ClassTable) :
    e.Fits (intern e t).2.Represents (intern e t).1 := by
  refine (intern_induction
    (P := fun e t τ u => e.DistinctKeys → t.Extends u ∧ e.Fits u.Represents τ)
    (Q := fun fs t gs u => (∀ f ∈ fs, f.type.DistinctKeys) → t.Extends u ∧
      gs.map Field.name = fs.map Field.name ∧ ∀ {name f g}, Field.find? fs name = some f →
        Field.find? gs name = some g → f.type.Fits u.Represents g.type)
    ?_ ?_ ?_ ?_ ?_ ?_ ?_ ?_ ?_ e t he).2
  · exact fun t _ => ⟨.refl t, .unknown⟩
  · exact fun t _ => ⟨.refl t, .null rfl rfl⟩
  · exact fun n t _ => ⟨.refl t, .anything id⟩
  · exact fun k n t _ => ⟨.refl t, .scalar k.le_refl id⟩
  · intro x n t y u ih h
    obtain ⟨hext, hfit⟩ := ih h.of_array
    exact ⟨hext, .array hfit id⟩
  · intro x n t y u ih h
    obtain ⟨hext, hfit⟩ := ih h.of_dictionary
    exact ⟨hext, .dictionary hfit id⟩
  · intro s n t fs u ih h
    obtain ⟨hd, h⟩ := Evidence.distinctKeys_object.mp h
    obtain ⟨hext, hnames, htypes⟩ := ih h
    rw [← hnames] at hd
    have hr := registers fs s.seen u
    obtain ⟨entry, hentry, hkeys, htakes⟩ := hr.takes_in hd
    refine ⟨hext.trans hr.extends, .object (represents_of_entry hentry ?_ ?_) id⟩
    · exact fun name => by rw [← hnames, hkeys name]
    · intro name f g hf hg
      obtain ⟨f', hf'⟩ := Field.exists_find? ((hkeys name).mpr (Field.mem_names_of_find? hg))
      have hwide := (htypes hf hf').trans_eq (htakes hf' hg)
      exact hwide.mono fun s c hsc => hsc.extends hr.extends
  · exact fun t _ => ⟨.refl t, rfl, fun hf => nomatch hf⟩
  · intro f rest t y u fs v ihf ihrest h
    obtain ⟨hextf, hfit⟩ := ihf (h f (List.mem_cons_self ..))
    obtain ⟨hextr, hnames, htypes⟩ := ihrest fun g hg => h g (List.mem_cons_of_mem f hg)
    refine ⟨hextf.trans hextr, by rw [List.map_cons, List.map_cons, hnames], fun {name g g'} hf hg => ?_⟩
    rw [Field.find?_cons] at hf hg
    by_cases hn : f.name = name
    · rw [if_pos hn] at hf hg
      cases hf
      cases hg
      exact hfit.mono fun s c hsc => hsc.extends hextr
    · rw [if_neg hn] at hf hg
      exact htypes hf hg

/-- The same for the root, whose class is marked. -/
theorem internRoot_fits {e : Evidence Shape} (he : e.DistinctKeys) (t : ClassTable) :
    e.Fits (internRoot e t).2.Represents (internRoot e t).1 := by
  have h := intern_fits he t
  rw [internRoot_eq]
  dsimp only
  split
  case h_1 id _ _ => exact h.mono fun s c hsc => hsc.extends (extends_markRoot _ id)
  case h_2 => exact h

/-! ### Places -/

theorem exists_entry_of_find? {c : ClassId} {name : String} {f : Field ClassId}
    (h : Field.find? (t.fieldsOf c) name = some f) :
    ∃ entry, t.entry? c = some entry ∧ Field.find? entry.fields name = some f := by
  cases hentry : t.entry? c with
  | none => simp [fieldsOf, hentry] at h
  | some entry => exact ⟨entry, rfl, by rwa [fieldsOf_of_entry hentry] at h⟩

/-- What is at a place is there in every later table, wider at most. -/
theorem at?_of_extends (hext : t.Extends u) {τ τ' a : Evidence ClassId} {p : Path}
    (hfit : τ.Fits Eq τ') (ha : τ.at? t.fieldsOf p = some a) :
    ∃ b, τ'.at? u.fieldsOf p = some b ∧ a.Fits Eq b := by
  refine hfit.at? (fun {c c'} hc name f hf => ?_) ha
  subst hc
  obtain ⟨x, hx, hf⟩ := exists_entry_of_find? hf
  obtain ⟨y, hy, hxy⟩ := hext.entries hx
  obtain ⟨g, hg⟩ := Field.exists_find? (hxy.names ▸ Field.mem_names_of_find? hf)
  exact ⟨g, by rw [fieldsOf_of_entry hy, hg], hxy.types hf hg⟩

theorem Represents.mem_ids {s : Shape} {c : ClassId} (h : t.Represents s c) : c ∈ t.ids := by
  obtain ⟨entry, hentry, _⟩ := (folding_represents t).entries h
  exact ClassTable.mem_ids.mpr (index_lt_of_entry hentry)

theorem Represents.exists_field {s : Shape} {c : ClassId} (h : t.Represents s c) {name : String}
    {f : Field Shape} (hf : Field.find? s.fields name = some f) :
    ∃ g, Field.find? (t.fieldsOf c) name = some g ∧ f.type.Fits t.Represents g.type := by
  obtain ⟨entry, hentry, hkeys, htypes⟩ := (folding_represents t).entries h
  obtain ⟨g, hg⟩ := Field.exists_find? ((hkeys name).mp (Field.mem_names_of_find? hf))
  exact ⟨g, by rw [fieldsOf_of_entry hentry, hg], htypes hf hg⟩

theorem Represents.exists_field_of_class {s : Shape} {c : ClassId} (h : t.Represents s c)
    {name : String} {g : Field ClassId} (hg : Field.find? (t.fieldsOf c) name = some g) :
    ∃ f, Field.find? s.fields name = some f ∧ f.type.Fits t.Represents g.type := by
  obtain ⟨entry, hentry, hkeys, htypes⟩ := (folding_represents t).entries h
  rw [fieldsOf_of_entry hentry] at hg
  obtain ⟨f, hf⟩ := Field.exists_find? ((hkeys name).mpr (Field.mem_names_of_find? hg))
  exact ⟨f, hf, htypes hf hg⟩

/-- Where the evidence has something, its representation has something that takes it in. -/
theorem at?_of_fits {e a : Evidence Shape} {τ : Evidence ClassId} {p : Path}
    (hfit : e.Fits t.Represents τ) (ha : e.at? Shape.fields p = some a) :
    ∃ b, τ.at? t.fieldsOf p = some b ∧ a.Fits t.Represents b :=
  hfit.at? (fun hsc _ _ => hsc.exists_field) ha

/-- Settled evidence has the sketch of its representation. -/
theorem sketch_eq_of_fits {e : Evidence Shape} {τ : Evidence ClassId}
    (hfit : e.Fits t.Represents τ) (he : e.Settled Shape.fields) :
    e.sketch Shape.fields = τ.sketch t.fieldsOf :=
  hfit.sketch_eq (fun hsc _ _ => hsc.exists_field) (fun hsc _ _ => hsc.exists_field_of_class) he

/-! ### Values -/

/-- What the evidence admits, its representation in the table admits. -/
theorem admits_of_fits {isDate : String → Bool} {x : Json} {e : Evidence Shape} {τ : Evidence ClassId}
    (h : Evidence.Admits Shape.fields isDate x e) (hfit : e.Fits t.Represents τ) :
    Evidence.Admits t.fieldsOf isDate x τ := by
  induction h generalizing τ with
  | null hn => exact .null (hfit.isNullable hn)
  | anything =>
    cases hfit
    exact .anything
  | scalar hk =>
    cases hfit with
    | scalar hjk _ => exact .scalar (Scalar.admits_of_le hjk hk)
  | array _ ih =>
    cases hfit with
    | array hx _ => exact .array fun x hmem => ih x hmem hx
  | dictionary _ ih =>
    cases hfit with
    | dictionary hx _ => exact .dictionary fun m hm => ih m hm hx
  | @object members s n hfound _ hlacks ih =>
    cases hfit with
    | @object _ c _ _ hsc _ =>
      refine .object (fun m hm => ?_) (fun m hm g hg => ?_) (fun {name g} hg hlack => ?_)
      · obtain ⟨f, hf⟩ := hfound m hm
        obtain ⟨g, hg, _⟩ := hsc.exists_field hf
        exact ⟨g, hg⟩
      · obtain ⟨f, hf, hfg⟩ := hsc.exists_field_of_class hg
        exact ih m hm f hf hfg
      · obtain ⟨f, hf, hfg⟩ := hsc.exists_field_of_class hg
        exact hfg.isNullable (hlacks hf hlack)

end Specimen.ClassTable
