import Mathlib.Data.List.Induction
import Specimen.Proofs.Classes.Folding
import Specimen.Proofs.Evidence.Backing

/-! Where the types of a class come from.

A class may widen for the sake of a shape far away, so what it tells at one place need not have been
seen there. `backed_at` says where it was seen: at the same place, or at a place that is reached in the
same way from another object of the same class. The invariant is `Supported`: every type of a class is
backed by the types of the shapes that were given to it. -/
namespace Specimen.ClassTable

/-- The types that the shapes given to a class have under a key. -/
def Given (L : Shape → ClassId → Prop) (c : ClassId) (name : String) (a : Evidence Shape) : Prop :=
  ∃ s f, L s c ∧ Field.find? s.fields name = some f ∧ a = f.type

/-- Every type of a class is backed by the types of the shapes that `L` gives to the class. -/
structure Supported (t : ClassTable) (L : Shape → ClassId → Prop) : Prop where
  types : ∀ {c entry}, t.entry? c = some entry →
    ∀ {name g}, Field.find? entry.fields name = some g → g.type.BackedBy (Given L c name)

section Supported
variable {t u v : ClassTable} {L M : Shape → ClassId → Prop}

theorem Supported.mono (hLM : ∀ s c, L s c → M s c) (h : t.Supported L) : t.Supported M :=
  ⟨fun hentry _ _ hg =>
    (h.types hentry hg).mono fun _ ⟨s, f, hs, hf⟩ => ⟨s, f, hLM s _ hs, hf⟩⟩

theorem supported_empty : ({} : ClassTable).Supported L :=
  ⟨fun hentry => nomatch hentry⟩

theorem Supported.markRoot (h : t.Supported L) (id : ClassId) : (t.markRoot id).Supported L := by
  refine ⟨fun hentry _ _ hg => ?_⟩
  obtain ⟨y, hy, hfields⟩ := of_entry?_markRoot hentry
  rw [hfields] at hg
  exact h.types hy hg

/-- A registration gives the shape to the class it answers with. -/
theorem Registers.supported {s : Shape} {fields : List (Field ClassId)} {seen : Nat} {c : ClassId}
    (hback : ∀ {name g}, Field.find? fields name = some g →
      ∃ f, Field.find? s.fields name = some f ∧ g.type.BackedBy (· = f.type))
    (h : t.Supported L) (hr : Registers fields seen t c u) :
    u.Supported fun s' c' => L s' c' ∨ s' = s ∧ c' = c := by
  have hold : t.Supported fun s' c' => L s' c' ∨ s' = s ∧ c' = c := h.mono fun _ _ => .inl
  have hnew : ∀ {name g}, Field.find? fields name = some g →
      g.type.BackedBy (Given (fun s' c' => L s' c' ∨ s' = s ∧ c' = c) c name) := by
    intro name g hg
    obtain ⟨f, hf, hfg⟩ := hback hg
    refine hfg.mono ?_
    rintro a rfl
    exact ⟨s, f, .inr ⟨rfl, rfl⟩, hf, rfl⟩
  cases hr with
  | @absorb id entry hid he ha =>
    refine ⟨fun {i x} hx name g hg => ?_⟩
    rcases of_entry?_absorbAt hx with ⟨rfl, y, hy, rfl⟩ | hx
    · rw [he] at hy
      cases hy
      rw [ClassEntry.find?_absorb] at hg
      obtain ⟨ours, ho, rfl⟩ := Option.map_eq_some_iff.mp hg
      split
      case h_1 theirs ht =>
        refine (Evidence.backedBy_join (ClassEntry.isCompatible_of_accepts ha ho ht)).trans ?_
        rintro b (rfl | rfl)
        · exact hold.types he ho
        · exact hnew ht
      case h_2 => exact hold.types he ho
    · exact hold.types hx hg
  | enlist hnone =>
    refine ⟨fun {i x} hx name g hg => ?_⟩
    rcases of_entry?_enlist hx with ⟨rfl, rfl⟩ | hx
    · exact hnew hg
    · exact hold.types hx hg

end Supported

/-! ### Interning -/

/-- The shape is in the evidence where the class is in the type. -/
def Occurs (t : ClassTable) (e : Evidence Shape) (τ : Evidence ClassId) (s : Shape) (c : ClassId) :
    Prop :=
  ∃ p m n, e.at? Shape.fields p = some (.object s m) ∧ τ.at? t.fieldsOf p = some (.object c n)

section Occurs
variable {t u v : ClassTable} {e e' : Evidence Shape} {τ τ' : Evidence ClassId} {s : Shape}
  {c : ClassId}

theorem Occurs.step (p : Step) (he : e.step? Shape.fields p = some e')
    (hτ : τ.step? t.fieldsOf p = some τ') (h : t.Occurs e' τ' s c) : t.Occurs e τ s c := by
  obtain ⟨q, m, n, hs, hc⟩ := h
  refine ⟨p :: q, m, n, ?_, ?_⟩
  · simpa only [Evidence.at?, he, Option.bind_some] using hs
  · simpa only [Evidence.at?, hτ, Option.bind_some] using hc

theorem Occurs.extends (h : t.Occurs e τ s c) (hext : t.Extends u) (hτ : τ.Fits Eq τ') :
    u.Occurs e τ' s c := by
  obtain ⟨p, m, n, hs, hc⟩ := h
  obtain ⟨b, hb, hfit⟩ := at?_of_extends hext hτ hc
  cases hfit with
  | object hx _ =>
    cases hx
    exact ⟨p, m, _, hs, hb⟩

/-- The shape is under some key of the first fields where the class is under it in the second. -/
def OccursUnder (t : ClassTable) (fs : List (Field Shape)) (gs : List (Field ClassId)) (s : Shape)
    (c : ClassId) : Prop :=
  ∃ name f g, Field.find? fs name = some f ∧ Field.find? gs name = some g ∧
    t.Occurs f.type g.type s c

/-- What the fields of an object support, the object supports once its class is registered. -/
theorem Registers.supported_object {fields : List (Field ClassId)} {n : Bool}
    {L : Shape → ClassId → Prop} (hd : (fields.map Field.name).Nodup)
    (hback : ∀ {name g}, Field.find? fields name = some g →
      ∃ f, Field.find? s.fields name = some f ∧ g.type.BackedBy (· = f.type))
    (hr : Registers fields s.seen u c v)
    (h : u.Supported fun s' c' => L s' c' ∨ u.OccursUnder s.fields fields s' c') :
    v.Supported fun s' c' => L s' c' ∨ v.Occurs (.object s n) (.object c n) s' c' := by
  obtain ⟨entry, hentry, hkeys, htakes⟩ := hr.takes_in hd
  refine (hr.supported hback h).mono fun s' c' => ?_
  rintro ((h | ⟨name, f, g, hf, hg, hocc⟩) | ⟨rfl, rfl⟩)
  · exact .inl h
  · obtain ⟨g', hg'⟩ := Field.exists_find? ((hkeys name).mp (Field.mem_names_of_find? hg))
    refine .inr (Occurs.step (.field name) ?_ ?_ (hocc.extends hr.extends (htakes hg hg')))
    · rw [Evidence.step?, hf, Option.map_some]
    · rw [Evidence.step?, fieldsOf_of_entry hentry, hg', Option.map_some]
  · exact .inr ⟨[], n, n, rfl, rfl⟩

theorem occursUnder_cons_self {f : Field Shape} {g : Field ClassId} {fs : List (Field Shape)}
    {gs : List (Field ClassId)} (hname : f.name = g.name) (h : t.Occurs f.type g.type s c) :
    t.OccursUnder (f :: fs) (g :: gs) s c :=
  ⟨g.name, f, g, by rw [Field.find?_cons, if_pos hname], by rw [Field.find?_cons, if_pos rfl], h⟩

theorem OccursUnder.cons {f : Field Shape} {g : Field ClassId} {fs : List (Field Shape)}
    {gs : List (Field ClassId)} (hname : f.name = g.name) (hf : f.name ∉ fs.map Field.name)
    (h : t.OccursUnder fs gs s c) : t.OccursUnder (f :: fs) (g :: gs) s c := by
  obtain ⟨name, f', g', hf', hg', hocc⟩ := h
  have hne : f.name ≠ name := by
    rintro rfl
    exact hf (Field.mem_names_of_find? hf')
  exact ⟨name, f', g', by rwa [Field.find?_cons, if_neg hne],
    by rwa [Field.find?_cons, if_neg (hname ▸ hne)], hocc⟩

/-- Interning backs its answer by the evidence, and gives each shape to the class in its place. -/
theorem intern_supported {e : Evidence Shape} (he : e.DistinctKeys) (t : ClassTable) :
    (intern e t).1.BackedBy (· = e) ∧ ∀ L, t.Supported L →
      (intern e t).2.Supported fun s c => L s c ∨ (intern e t).2.Occurs e (intern e t).1 s c := by
  refine (intern_induction
    (P := fun e t τ u => e.DistinctKeys → t.Extends u ∧ τ.BackedBy (· = e) ∧
      ∀ L, t.Supported L → u.Supported fun s c => L s c ∨ u.Occurs e τ s c)
    (Q := fun fs t gs u => (fs.map Field.name).Nodup → (∀ f ∈ fs, f.type.DistinctKeys) →
      t.Extends u ∧ gs.map Field.name = fs.map Field.name ∧
      (∀ {name g}, Field.find? gs name = some g →
        ∃ f, Field.find? fs name = some f ∧ g.type.BackedBy (· = f.type)) ∧
      ∀ L, t.Supported L → u.Supported fun s c => L s c ∨ u.OccursUnder fs gs s c)
    ?_ ?_ ?_ ?_ ?_ ?_ ?_ ?_ ?_ e t he).2
  · exact fun t _ => ⟨.refl t, .leaf rfl rfl rfl, fun L hL => hL.mono fun _ _ => .inl⟩
  · exact fun t _ => ⟨.refl t, .leaf rfl rfl rfl, fun L hL => hL.mono fun _ _ => .inl⟩
  · exact fun n t _ => ⟨.refl t, .leaf rfl rfl rfl, fun L hL => hL.mono fun _ _ => .inl⟩
  · exact fun k n t _ => ⟨.refl t, .leaf rfl rfl rfl, fun L hL => hL.mono fun _ _ => .inl⟩
  · intro x n t y u ih h
    obtain ⟨hext, hback, hL⟩ := ih h.of_array
    refine ⟨hext, .alike rfl rfl fun _ hy => ?_, fun L h => (hL L h).mono fun s c => ?_⟩
    · cases hy
      exact ⟨x, rfl, hback⟩
    · exact .imp_right (Occurs.step .element rfl rfl)
  · intro x n t y u ih h
    obtain ⟨hext, hback, hL⟩ := ih h.of_dictionary
    refine ⟨hext, .alike rfl rfl fun _ hy => ?_, fun L h => (hL L h).mono fun s c => ?_⟩
    · cases hy
      exact ⟨x, rfl, hback⟩
    · exact .imp_right (Occurs.step .element rfl rfl)
  · intro s n t fs u ih h
    obtain ⟨hd, h⟩ := Evidence.distinctKeys_object.mp h
    obtain ⟨hext, hnames, hback, hL⟩ := ih hd h
    rw [← hnames] at hd
    have hr := registers fs s.seen u
    exact ⟨hext.trans hr.extends, .leaf rfl rfl rfl, fun L h => hr.supported_object hd hback (hL L h)⟩
  · intro t _ _
    refine ⟨.refl t, rfl, fun hg => ?_, fun L hL => hL.mono fun _ _ => .inl⟩
    cases hg
  · intro f rest t y u fs v ihf ihrest hd h
    rw [List.map_cons, List.nodup_cons] at hd
    obtain ⟨hf, hrest⟩ := List.forall_mem_cons.mp h
    obtain ⟨hextf, hbackf, hLf⟩ := ihf hf
    obtain ⟨hextr, hnames, hbackr, hLr⟩ := ihrest hd.2 hrest
    refine ⟨hextf.trans hextr, by rw [List.map_cons, List.map_cons, hnames], fun {name g} hg => ?_,
      fun L hL => (hLr _ (hLf L hL)).mono fun s c => ?_⟩
    · rw [Field.find?_cons] at hg ⊢
      by_cases hn : f.name = name
      · rw [if_pos hn] at hg ⊢
        cases hg
        exact ⟨f, rfl, hbackf⟩
      · rw [if_neg hn] at hg ⊢
        exact hbackr hg
    · rintro ((h | hocc) | hocc)
      · exact .inl h
      · exact .inr (occursUnder_cons_self rfl (hocc.extends hextr (.refl (fun _ => rfl) y)))
      · exact .inr (hocc.cons rfl hd.1)

end Occurs

/-- What interning the evidence of a whole run leaves has its types backed by the evidence. -/
theorem internRoot_supported {e : Evidence Shape} (he : e.DistinctKeys) :
    (internRoot e {}).1.BackedBy (· = e) ∧
      (internRoot e {}).2.Supported ((internRoot e {}).2.Occurs e (internRoot e {}).1) := by
  obtain ⟨hroot, hL⟩ := intern_supported he {}
  have hsupp : (intern e {}).2.Supported ((intern e {}).2.Occurs e (intern e {}).1) :=
    (hL (fun _ _ => False) supported_empty).mono fun s c h => h.resolve_left id
  rw [internRoot_eq]
  refine ⟨hroot, ?_⟩
  dsimp only
  split
  · refine (hsupp.markRoot _).mono fun s c h => ?_
    exact h.extends (extends_markRoot _ _) (.refl (fun _ => rfl) _)
  · exact hsupp

/-! ### Places of one class -/

section Places
variable {t : ClassTable} {root : Evidence ClassId}

/-- There is one class at both places. -/
def SameClassAt (t : ClassTable) (root : Evidence ClassId) (p q : Path) : Prop :=
  ∃ c m n, root.at? t.fieldsOf p = some (.object c m) ∧ root.at? t.fieldsOf q = some (.object c n)

/-- The places are one, or are reached in the same way from two places of one class. -/
def Mates (t : ClassTable) (root : Evidence ClassId) (p q : Path) : Prop :=
  p = q ∨ ∃ p₀ q₀ r, r ≠ [] ∧ p = p₀ ++ r ∧ q = q₀ ++ r ∧ t.SameClassAt root p₀ q₀

theorem Mates.snoc {p q : Path} (h : t.Mates root p q) (s : Step) :
    t.Mates root (p ++ [s]) (q ++ [s]) := by
  rcases h with rfl | ⟨p₀, q₀, r, _, rfl, rfl, hc⟩
  · exact .inl rfl
  · exact .inr ⟨p₀, q₀, r ++ [s], by simp, by simp, by simp, hc⟩

/-- What the table tells at a place was seen at a mate of it. -/
theorem backed_at {e : Evidence Shape} (hroot : root.BackedBy (· = e))
    (hL : t.Supported (t.Occurs e root)) {p : Path} {τ : Evidence ClassId}
    (hp : root.at? t.fieldsOf p = some τ) :
    τ.BackedBy fun a => ∃ q, t.Mates root p q ∧ e.at? Shape.fields q = some a := by
  induction p using List.reverseRecOn generalizing τ with
  | nil =>
    cases hp
    refine hroot.mono ?_
    rintro a rfl
    exact ⟨[], .inl rfl, rfl⟩
  | append_singleton p s ih =>
    rw [Evidence.at?_append] at hp
    obtain ⟨τ₀, hp₀, hp⟩ := Option.bind_eq_some_iff.mp hp
    rw [Evidence.at?_singleton] at hp
    cases s with
    | element =>
      have hstep : τ₀.step? (fun _ => []) .element = some τ := by
        cases τ₀ <;> exact hp
      refine ((ih hp₀).element hstep).mono ?_
      rintro y ⟨a, ⟨q, hmate, ha⟩, hay⟩
      refine ⟨q ++ [.element], hmate.snoc _, ?_⟩
      rw [Evidence.at?_append_of_eq _ ha, Evidence.at?_singleton]
      cases a <;> exact hay
    | field name =>
      cases τ₀ with
      | object c n =>
        obtain ⟨g, hg, rfl⟩ := Option.map_eq_some_iff.mp hp
        obtain ⟨entry, hentry, hg⟩ := exists_entry_of_find? hg
        refine (hL.types hentry hg).mono ?_
        rintro a ⟨s, f, ⟨q, m, k, hs, hc⟩, hf, rfl⟩
        refine ⟨q ++ [.field name], .inr ⟨p, q, _, by simp, rfl, rfl, c, n, k, hp₀, hc⟩, ?_⟩
        rw [Evidence.at?_append_of_eq _ hs, Evidence.at?_singleton, Evidence.step?, hf,
          Option.map_some]
      | _ => cases hp

end Places

end Specimen.ClassTable
