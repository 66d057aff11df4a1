import Specimen.Proofs.Classes.Emission
import Specimen.Proofs.Classes.Folding
import Specimen.Proofs.Classes.Separation
import Specimen.Proofs.Model.Freeze

/-! Nothing is lost in interning.

Each shape of a tree of evidence stands at a place, and the same place in the table has a class. `Accounts`
says that what is new in a table are the classes at the places of some shapes, and that each class counts what
its shapes were seen; one registration accounts for one shape, and so does interning for all shapes of a tree
(`intern_accounts`). So the root leads to every class, and every class is emitted (`internRoot_complete`). -/
namespace Specimen

/-! ### The shapes of a tree -/

namespace Evidence

mutual

/-- The shapes in evidence, each with the place where it is, what is inside of a shape before it. -/
def shapes : Evidence Shape → List (Path × Shape)
  | .array item _ => (shapes item).map fun x => (.element :: x.1, x.2)
  | .dictionary value _ => (shapes value).map fun x => (.element :: x.1, x.2)
  | .object s _ => shapesFrom s
  | _ => []
termination_by structural e => e

def shapesFrom : Shape → List (Path × Shape)
  | ⟨fields, seen⟩ => shapesIn fields ++ [([], ⟨fields, seen⟩)]
termination_by structural s => s

def shapesIn : List (Field Shape) → List (Path × Shape)
  | [] => []
  | ⟨name, type, _, _⟩ :: rest =>
    (shapes type).map (fun x => (.field name :: x.1, x.2)) ++ shapesIn rest
termination_by structural fs => fs

end

theorem shapes_object (s : Shape) (n : Bool) :
    (object s n).shapes = shapesIn s.fields ++ [([], s)] := by
  cases s
  rfl

theorem shapesIn_cons (f : Field Shape) (rest : List (Field Shape)) :
    shapesIn (f :: rest) = f.type.shapes.map (fun x => (.field f.name :: x.1, x.2)) ++ shapesIn rest := by
  cases f
  rfl

theorem mem_shapesIn {fields : List (Field Shape)} {x : Path × Shape} :
    x ∈ shapesIn fields ↔ ∃ f ∈ fields, ∃ y ∈ f.type.shapes, (.field f.name :: y.1, y.2) = x := by
  induction fields with
  | nil => simp [shapesIn]
  | cons f rest ih => simp only [shapesIn_cons, List.mem_append, List.mem_map, ih, List.exists_mem_cons_iff]

theorem ne_nil_of_mem_shapesIn {fields : List (Field Shape)} {x : Path × Shape}
    (hx : x ∈ shapesIn fields) : x.1 ≠ [] := by
  obtain ⟨f, _, y, _, rfl⟩ := mem_shapesIn.mp hx
  exact List.cons_ne_nil _ _

theorem places_map (place : Path → Path) (xs : List (Path × Shape)) :
    (xs.map fun x => (place x.1, x.2)).map Prod.fst = (xs.map Prod.fst).map place := by
  simp only [List.map_map, Function.comp_def]

theorem nodup_shapesIn {fields : List (Field Shape)} (hd : (fields.map Field.name).Nodup)
    (h : ∀ f ∈ fields, (f.type.shapes.map Prod.fst).Nodup) :
    ((shapesIn fields).map Prod.fst).Nodup := by
  induction fields with
  | nil => exact List.nodup_nil
  | cons f rest ih =>
    rw [List.map_cons, List.nodup_cons] at hd
    obtain ⟨hf, hrest⟩ := List.forall_mem_cons.mp h
    rw [shapesIn_cons, List.map_append, places_map]
    refine (hf.map List.cons_injective).append (ih hd.2 hrest) fun p hp hp' => hd.1 ?_
    obtain ⟨q, _, rfl⟩ := List.mem_map.mp hp
    obtain ⟨x, hx, hplace⟩ := List.mem_map.mp hp'
    obtain ⟨g, hg, y, _, rfl⟩ := mem_shapesIn.mp hx
    have hname : g.name = f.name := by
      injection hplace with hstep
      injection hstep
    exact hname ▸ List.mem_map_of_mem hg

/-- No place has two shapes. -/
theorem nodup_shapes {e : Evidence Shape} (he : e.DistinctKeys) : (e.shapes.map Prod.fst).Nodup := by
  induction e using Evidence.shape_induction with
  | array x n ih =>
    rw [shapes, places_map]
    exact (ih he.of_array).map List.cons_injective
  | dictionary x n ih =>
    rw [shapes, places_map]
    exact (ih he.of_dictionary).map List.cons_injective
  | object s n ih =>
    obtain ⟨hd, htypes⟩ := distinctKeys_object.mp he
    rw [shapes_object, List.map_append]
    refine (nodup_shapesIn hd fun f hf => ih f hf (htypes f hf)).append (List.nodup_singleton []) ?_
    rintro p hp hroot
    obtain ⟨x, hx, rfl⟩ := List.mem_map.mp hp
    exact ne_nil_of_mem_shapesIn hx (List.mem_singleton.mp hroot)
  | _ => exact List.nodup_nil

/-- How many objects the shapes were seen. -/
def seenTotal (xs : List (Path × Shape)) : Nat := xs.foldr (fun x total => x.2.seen + total) 0

theorem seenTotal_append (xs ys : List (Path × Shape)) :
    seenTotal (xs ++ ys) = seenTotal xs + seenTotal ys := by
  induction xs with
  | nil => simp [seenTotal]
  | cons x xs ih =>
    change x.2.seen + seenTotal (xs ++ ys) = x.2.seen + seenTotal xs + seenTotal ys
    rw [ih, Nat.add_assoc]

/-- Where a shape is does not matter to how often it was seen. -/
theorem seenTotal_map (place : Path → Path) (xs : List (Path × Shape)) :
    seenTotal (xs.map fun x => (place x.1, x.2)) = seenTotal xs := by
  rw [seenTotal, List.foldr_map]
  rfl

/-- The shapes are the objects in the evidence. -/
theorem mem_shapes_iff {e : Evidence Shape} (he : e.DistinctKeys) {x : Path × Shape} :
    x ∈ e.shapes ↔ ∃ n, e.at? Shape.fields x.1 = some (.object x.2 n) := by
  obtain ⟨p, s⟩ := x
  induction e using Evidence.shape_induction generalizing p with
  | array y n ih =>
    refine List.mem_map.trans ⟨?_, ?_⟩
    · rintro ⟨z, hz, hx⟩
      cases hx
      exact (ih he.of_array _).mp hz
    · rintro ⟨k, hat⟩
      rcases p with _ | ⟨_ | _, p⟩ <;> try cases hat
      exact ⟨(p, s), (ih he.of_array p).mpr ⟨k, hat⟩, rfl⟩
  | dictionary y n ih =>
    refine List.mem_map.trans ⟨?_, ?_⟩
    · rintro ⟨z, hz, hx⟩
      cases hx
      exact (ih he.of_dictionary _).mp hz
    · rintro ⟨k, hat⟩
      rcases p with _ | ⟨_ | _, p⟩ <;> try cases hat
      exact ⟨(p, s), (ih he.of_dictionary p).mpr ⟨k, hat⟩, rfl⟩
  | object y n ih =>
    obtain ⟨hd, htypes⟩ := distinctKeys_object.mp he
    rw [shapes_object, List.mem_append, mem_shapesIn, List.mem_singleton]
    constructor
    · rintro (⟨f, hf, z, hz, hx⟩ | hx) <;> cases hx
      · obtain ⟨k, hk⟩ := (ih f hf (htypes f hf) _).mp hz
        refine ⟨k, ?_⟩
        rw [at?, step?, Field.find?_of_mem hd hf, Option.map_some, Option.bind_some, hk]
      · exact ⟨n, rfl⟩
    · rintro ⟨k, hat⟩
      rcases p with _ | ⟨name | _, p⟩
      · cases hat
        exact .inr rfl
      · obtain ⟨_, hstep, hat⟩ := Option.bind_eq_some_iff.mp hat
        obtain ⟨f, hfind, rfl⟩ := Option.map_eq_some_iff.mp hstep
        have hf := Field.mem_of_find? hfind
        cases Field.name_of_find? hfind
        exact .inl ⟨f, hf, (p, s), (ih f hf (htypes f hf) p).mpr ⟨k, hat⟩, rfl⟩
      · cases hat
  | _ =>
    constructor
    · intro hx
      cases hx
    · rintro ⟨k, hat⟩
      rcases p with _ | ⟨_ | _, p⟩ <;> cases hat

end Evidence

namespace ClassEntry

/-- How many objects were merged into the classes together. -/
def total (entries : List ClassEntry) : Nat := entries.foldr (fun x total => x.samples + total) 0

theorem total_append (entries : List ClassEntry) (x : ClassEntry) :
    total (entries ++ [x]) = total entries + x.samples := by
  induction entries with
  | nil => simp [total]
  | cons y entries ih =>
    change y.samples + total (entries ++ [x]) = y.samples + total entries + x.samples
    rw [ih, Nat.add_assoc]

theorem total_modify {entries : List ClassEntry} {i : Nat} {x : ClassEntry} (hx : entries[i]? = some x)
    {f : ClassEntry → ClassEntry} {more : Nat} (hf : (f x).samples = x.samples + more) :
    total (entries.modify i f) = total entries + more := by
  induction entries generalizing i with
  | nil => cases hx
  | cons y entries ih =>
    cases i with
    | zero =>
      cases hx
      change (f x).samples + total entries = x.samples + total entries + more
      rw [hf, Nat.add_right_comm]
    | succ i =>
      change y.samples + total (entries.modify i f) = y.samples + total entries + more
      rw [ih hx, Nat.add_assoc]

end ClassEntry

namespace ClassTable
open Evidence (shapes shapesIn seenTotal)

/-! ### Classes at places -/

/-- The class that the type leads to at the place. -/
def classAt? (t : ClassTable) (τ : Evidence ClassId) (p : Path) : Option ClassId :=
  match τ.at? t.fieldsOf p with
  | some (.object c _) => some c
  | _ => none

/-- The class at a place below some fields. -/
def classIn? (t : ClassTable) (fields : List (Field ClassId)) : Path → Option ClassId
  | .field name :: p => (Field.find? fields name).bind fun f => t.classAt? f.type p
  | _ => none

theorem classAt?_element (t : ClassTable) {τ x : Evidence ClassId} {n : Bool}
    (h : τ = .array x n ∨ τ = .dictionary x n) (p : Path) :
    t.classAt? τ (.element :: p) = t.classAt? x p := by
  rcases h with rfl | rfl <;> rfl

theorem classAt?_object (t : ClassTable) (c : ClassId) (n : Bool) {p : Path} (hp : p ≠ []) :
    t.classAt? (.object c n) p = t.classIn? (t.fieldsOf c) p := by
  cases p with
  | nil => exact absurd rfl hp
  | cons s p =>
    cases s with
    | element => rfl
    | field name =>
      simp only [classAt?, classIn?, Evidence.at?, Evidence.step?]
      cases Field.find? (t.fieldsOf c) name <;> rfl

/-! ### What classes count -/

/-- How many objects were merged into the class, if it is in the table. -/
def samplesOf (t : ClassTable) (c : ClassId) : Nat := (t.entry? c).elim 0 ClassEntry.samples

def samplesTotal (t : ClassTable) : Nat := ClassEntry.total t.entries

/-- From the first table to the second, some shapes were registered for the classes at their places. -/
structure Accounts (t : ClassTable) (xs : List (Path × Shape)) (u : ClassTable)
    (class? : Path → Option ClassId) : Prop where
  samples : ∀ c, u.samplesOf c =
    t.samplesOf c + seenTotal (xs.filter fun x => class? x.1 = some c)
  total : u.samplesTotal = t.samplesTotal + seenTotal xs
  new : ∀ c ∈ u.ids, c ∈ t.ids ∨ ∃ x ∈ xs, class? x.1 = some c

variable {t u v : ClassTable} {xs ys : List (Path × Shape)} {class? class?' : Path → Option ClassId}

theorem Accounts.nil (t : ClassTable) (class? : Path → Option ClassId) : Accounts t [] t class? :=
  ⟨fun _ => rfl, rfl, fun _ => .inl⟩

theorem Accounts.append (h : Accounts t xs u class?) (h' : Accounts u ys v class?) :
    Accounts t (xs ++ ys) v class? where
  samples c := by
    rw [h'.samples, h.samples, List.filter_append, Evidence.seenTotal_append, Nat.add_assoc]
  total := by rw [h'.total, h.total, Evidence.seenTotal_append, Nat.add_assoc]
  new c hc := by
    rcases h'.new c hc with hc | ⟨x, hx, hclass⟩
    · rcases h.new c hc with hc | ⟨x, hx, hclass⟩
      · exact .inl hc
      · exact .inr ⟨x, List.mem_append_left _ hx, hclass⟩
    · exact .inr ⟨x, List.mem_append_right _ hx, hclass⟩

/-- The same account for places that lie deeper. -/
theorem Accounts.map (h : Accounts t xs u class?) {place : Path → Path}
    (hplace : ∀ p, class?' (place p) = class? p) :
    Accounts t (xs.map fun x => (place x.1, x.2)) u class?' where
  samples c := by
    rw [h.samples, List.filter_map, Evidence.seenTotal_map]
    simp only [Function.comp_def, hplace]
  total := by rw [h.total, Evidence.seenTotal_map]
  new c hc := by
    rcases h.new c hc with hc | ⟨x, hx, hclass⟩
    · exact .inl hc
    · exact .inr ⟨_, List.mem_map_of_mem hx, (hplace x.1).trans hclass⟩

theorem Accounts.congr (h : Accounts t xs u class?) (hclass : ∀ x ∈ xs, class?' x.1 = class? x.1) :
    Accounts t xs u class?' where
  samples c := by
    have hfilter : xs.filter (fun x => class?' x.1 = some c) =
        xs.filter fun x => class? x.1 = some c :=
      List.filter_congr fun x hx => by rw [hclass x hx]
    rw [h.samples, hfilter]
  total := h.total
  new c hc := by
    rcases h.new c hc with hc | ⟨x, hx, hx'⟩
    · exact .inl hc
    · exact .inr ⟨x, hx, (hclass x hx).trans hx'⟩

section Register
variable {fields : List (Field ClassId)} {seen : Nat} {id : ClassId}

theorem samplesOf_of_registers (h : Registers fields seen t id u) (c : ClassId) :
    u.samplesOf c = t.samplesOf c + if c = id then seen else 0 := by
  cases h with
  | @absorb id entry _ he _ =>
    unfold samplesOf
    rw [entry?_absorbAt]
    by_cases hc : c = id
    · subst hc
      simp [he, ClassEntry.absorb]
    · simp [hc]
  | enlist _ =>
    unfold samplesOf
    rw [entry?_enlist]
    by_cases hc : c = ⟨t.entries.length⟩
    · subst hc
      have hnone : t.entry? ⟨t.entries.length⟩ = none := List.getElem?_eq_none (Nat.le_refl _)
      simp [hnone]
    · simp [hc]

theorem samplesTotal_of_registers (h : Registers fields seen t id u) :
    u.samplesTotal = t.samplesTotal + seen := by
  cases h with
  | absorb _ he _ => exact ClassEntry.total_modify he rfl
  | enlist _ => exact ClassEntry.total_append t.entries _

theorem mem_ids_of_registers (h : Registers fields seen t id u) {c : ClassId} (hc : c ∈ u.ids) :
    c ∈ t.ids ∨ c = id := by
  cases h with
  | absorb _ _ _ =>
    rw [mem_ids, length_absorbAt] at hc
    exact .inl (mem_ids.mpr hc)
  | enlist _ =>
    rw [mem_ids, length_enlist] at hc
    rcases Nat.lt_succ_iff_lt_or_eq.mp hc with hc | hc
    · exact .inl (mem_ids.mpr hc)
    · exact .inr (by cases c; cases hc; rfl)

/-- A registration accounts for the one shape that it registers. -/
theorem accounts_of_registers {s : Shape} (h : Registers fields s.seen t id u)
    (hclass : class? [] = some id) : Accounts t [([], s)] u class? where
  samples c := by
    rw [samplesOf_of_registers h]
    by_cases hc : c = id
    · subst hc
      simp [hclass, seenTotal]
    · simp [hc, hclass, seenTotal, Ne.symm hc]
  total := by
    rw [samplesTotal_of_registers h]
    rfl
  new c hc := by
    rcases mem_ids_of_registers h hc with hc | rfl
    · exact .inl hc
    · exact .inr ⟨_, List.mem_singleton_self _, hclass⟩

end Register

/-! ### Interning a tree -/

/-- The fields have those of the other list among them, with types that take theirs in. -/
def Holds (fields' : List (Field ClassId)) (fields : List (Field ClassId)) : Prop :=
  ∀ {name g}, Field.find? fields name = some g →
    ∃ g', Field.find? fields' name = some g' ∧ g.type.Fits Eq g'.type

/-- The class that a registration answers with has its fields, now and later. -/
theorem holds_of_registers {fields : List (Field ClassId)} {seen : Nat} {id : ClassId}
    (hd : (fields.map Field.name).Nodup) (h : Registers fields seen t id u) (hext : u.Extends v) :
    Holds (v.fieldsOf id) fields := by
  intro name f hf
  obtain ⟨x, hx, hkeys, htakes⟩ := h.takes_in hd
  obtain ⟨y, hy, hxy⟩ := hext.entries hx
  obtain ⟨g, hg⟩ := Field.exists_find? ((hkeys name).mp (Field.mem_names_of_find? hf))
  obtain ⟨g', hg'⟩ := Field.exists_find? (hxy.names ▸ Field.mem_names_of_find? hg)
  exact ⟨g', by rw [fieldsOf_of_entry hy, hg'], (htakes hf hg).trans_eq (hxy.types hg hg')⟩

/-- Interning accounts for all shapes of the evidence, each at the class that its place has in any later
table. -/
theorem intern_accounts {e : Evidence Shape} (he : e.DistinctKeys) (t : ClassTable) :
    t.Extends (intern e t).2 ∧ ∀ {w : ClassTable} {τ : Evidence ClassId},
      (intern e t).2.Extends w → (intern e t).1.Fits Eq τ →
        Accounts t e.shapes (intern e t).2 (w.classAt? τ) := by
  refine intern_induction
    (P := fun e t σ u => e.DistinctKeys → t.Extends u ∧ ∀ {w : ClassTable} {τ : Evidence ClassId},
      u.Extends w → σ.Fits Eq τ → Accounts t e.shapes u (w.classAt? τ))
    (Q := fun fs t gs u => (fs.map Field.name).Nodup → (∀ f ∈ fs, f.type.DistinctKeys) →
      t.Extends u ∧ gs.map Field.name = fs.map Field.name ∧
        ∀ {w : ClassTable} {fields : List (Field ClassId)}, u.Extends w → Holds fields gs →
          Accounts t (shapesIn fs) u (w.classIn? fields))
    ?_ ?_ ?_ ?_ ?_ ?_ ?_ ?_ ?_ e t he
  · exact fun t _ => ⟨.refl t, fun _ _ => .nil t _⟩
  · exact fun t _ => ⟨.refl t, fun _ _ => .nil t _⟩
  · exact fun n t _ => ⟨.refl t, fun _ _ => .nil t _⟩
  · exact fun k n t _ => ⟨.refl t, fun _ _ => .nil t _⟩
  · intro x n t y u ih h
    obtain ⟨hext, haccounts⟩ := ih h.of_array
    refine ⟨hext, fun {w τ} hw hfit => ?_⟩
    cases hfit with
    | array hy _ => exact (haccounts hw hy).map fun p => classAt?_element w (.inl rfl) p
  · intro x n t y u ih h
    obtain ⟨hext, haccounts⟩ := ih h.of_dictionary
    refine ⟨hext, fun {w τ} hw hfit => ?_⟩
    cases hfit with
    | dictionary hy _ => exact (haccounts hw hy).map fun p => classAt?_element w (.inr rfl) p
  · intro s n t fs u ih h
    obtain ⟨hd, h⟩ := Evidence.distinctKeys_object.mp h
    obtain ⟨hext, hnames, haccounts⟩ := ih hd h
    rw [← hnames] at hd
    have hr := registers fs s.seen u
    refine ⟨hext.trans hr.extends, fun {w τ} hw hfit => ?_⟩
    cases hfit with
    | @object _ c _ k hc _ =>
      cases hc
      have hfields := haccounts (hr.extends.trans hw) (holds_of_registers hd hr hw)
      rw [Evidence.shapes_object]
      refine .append (hfields.congr fun x hx => ?_) (accounts_of_registers hr rfl)
      exact classAt?_object w _ k (Evidence.ne_nil_of_mem_shapesIn hx)
  · exact fun t _ _ => ⟨.refl t, rfl, fun _ _ => .nil t _⟩
  · intro f rest t y u fs v ihf ihrest hd h
    rw [List.map_cons, List.nodup_cons] at hd
    obtain ⟨hf, hrest⟩ := List.forall_mem_cons.mp h
    obtain ⟨hextf, hf⟩ := ihf hf
    obtain ⟨hextr, hnames, hrest⟩ := ihrest hd.2 hrest
    refine ⟨hextf.trans hextr, by rw [List.map_cons, List.map_cons, hnames], ?_⟩
    intro w fields hw hheld
    have hhead : Field.find? ({ f with type := y } :: fs) f.name = some { f with type := y } := by
      rw [Field.find?_cons, if_pos rfl]
    obtain ⟨g, hg, hfit⟩ := hheld hhead
    have hplace : ∀ p, w.classIn? fields (.field f.name :: p) = w.classAt? g.type p := by
      intro p
      rw [classIn?, hg, Option.bind_some]
    rw [Evidence.shapesIn_cons]
    refine ((hf (hextr.trans hw) hfit).map hplace).append (hrest hw fun {name g} hg => hheld ?_)
    have hne : f.name ≠ name := by
      rintro rfl
      exact hd.1 (hnames ▸ Field.mem_names_of_find? hg)
    rw [Field.find?_cons, if_neg hne, hg]

/-! ### The whole table -/

/-- Marking the root registers nothing. -/
theorem accounts_markRoot (t : ClassTable) (id : ClassId) (class? : Path → Option ClassId) :
    Accounts t [] (t.markRoot id) class? where
  samples c := by
    change samplesOf (t.markRoot id) c = t.samplesOf c
    unfold samplesOf entry? markRoot
    rw [List.getElem?_modify]
    cases t.entries[c.index]? with
    | none => rfl
    | some x =>
      change (if id.index = c.index then _ else x : ClassEntry).samples = x.samples
      split <;> rfl
  total := by
    change ClassEntry.total (t.entries.modify id.index _) = ClassEntry.total t.entries
    cases hx : t.entries[id.index]? with
    | none => rw [List.modify_eq_self (List.getElem?_eq_none_iff.mp hx)]
    | some x =>
      refine (ClassEntry.total_modify hx ?_).trans (Nat.add_zero _)
      rfl
  new c hc := by
    rw [mem_ids, length_markRoot] at hc
    exact .inl (mem_ids.mpr hc)

theorem internRoot_accounts {e : Evidence Shape} (he : e.DistinctKeys) :
    Accounts {} e.shapes (internRoot e {}).2 ((internRoot e {}).2.classAt? (internRoot e {}).1) := by
  obtain ⟨_, haccounts⟩ := intern_accounts he {}
  have hself : (intern e {}).1.Fits Eq (intern e {}).1 := .refl (fun _ => rfl) _
  rw [internRoot_eq]
  dsimp only
  split
  case h_1 id _ _ =>
    have h := (haccounts (extends_markRoot _ id) hself).append (accounts_markRoot _ id _)
    rwa [List.append_nil] at h
  case h_2 => exact haccounts (.refl _) hself

/-- What a type leads to depends on its innermost class only. -/
theorem Reaches.of_innermost? {τ x : Evidence ClassId} {c : ClassId} (hx : t.Reaches x c)
    (hsame : τ.innermost? = x.innermost?) : t.Reaches τ c := by
  cases hx with
  | here hc => exact .here (hsame.trans hc)
  | field hb hf hc => exact .field (hsame.trans hb) hf hc

/-- A class at a place is one that the type leads to. -/
theorem reaches_of_classAt? {τ : Evidence ClassId} {p : Path} {c : ClassId}
    (h : t.classAt? τ p = some c) : t.Reaches τ c := by
  induction p generalizing τ with
  | nil =>
    cases τ <;> cases h
    exact .here rfl
  | cons s p ih =>
    cases τ with
    | array x n =>
      cases s with
      | element =>
        rw [classAt?_element t (.inl rfl)] at h
        exact (ih h).of_innermost? rfl
      | field name => cases h
    | dictionary x n =>
      cases s with
      | element =>
        rw [classAt?_element t (.inr rfl)] at h
        exact (ih h).of_innermost? rfl
      | field name => cases h
    | object b n =>
      rw [classAt?_object t b n (List.cons_ne_nil _ _)] at h
      cases s with
      | element => cases h
      | field name =>
        obtain ⟨f, hf, h⟩ := Option.bind_eq_some_iff.mp h
        exact .field rfl (Field.mem_of_find? hf) (ih h)
    | _ => cases s <;> cases h

/-- The classes of the model are all classes of the table, if the root leads to all of them. -/
theorem perm_classes_freeze {root : Evidence ClassId} (horder : (emissionOrder t root).Perm t.ids)
    (names : Naming) (examples : ExamplePolicy) :
    (freeze t root names examples).classes.Perm (t.ids.filterMap fun c =>
        (t.entry? c).map (freezeClass (emissionOrder t root) names examples c)) ∧
      (freeze t root names examples).classes.length = t.entries.length := by
  have hperm := horder.filterMap fun c =>
    (t.entry? c).map (freezeClass (emissionOrder t root) names examples c)
  refine ⟨hperm, hperm.length_eq.trans ?_⟩
  have hall : ∀ c ∈ t.ids,
      ((t.entry? c).map (freezeClass (emissionOrder t root) names examples c)).isSome = true := by
    intro c hc
    obtain ⟨entry, hentry⟩ := exists_entry hc
    rw [hentry]
    rfl
  rw [List.filterMap_length_eq_length.mpr hall]
  simp [ids]

/-- The root leads to every class. Each shape of the evidence has its own place and is registered for one
class, which is at the same place in the table; a class has the samples that its shapes were seen, so that
all classes together have what all shapes were seen. And every class is emitted. -/
theorem internRoot_complete {e : Evidence Shape} (he : e.DistinctKeys) {root : Evidence ClassId}
    (h : internRoot e {} = (root, t)) :
    (∀ c ∈ t.ids, t.Reaches root c) ∧
      (e.shapes.map Prod.fst).Nodup ∧
      (∀ x ∈ e.shapes, ∃ c ∈ t.ids, t.classAt? root x.1 = some c) ∧
      (∀ c entry, t.entry? c = some entry →
        entry.samples = seenTotal (e.shapes.filter fun x => t.classAt? root x.1 = some c)) ∧
      t.samplesTotal = seenTotal e.shapes ∧ (emissionOrder t root).Perm t.ids ∧
      ∀ names examples,
        (freeze t root names examples).classes.Perm (t.ids.filterMap fun c =>
            (t.entry? c).map (freezeClass (emissionOrder t root) names examples c)) ∧
          (freeze t root names examples).classes.length = t.entries.length := by
  have haccounts := internRoot_accounts he
  obtain ⟨hwf, hroot⟩ := wellFormed_internRoot he
  have hfits := internRoot_fits he {}
  rw [h] at haccounts hwf hroot hfits
  have hreaches : ∀ c ∈ t.ids, t.Reaches root c := by
    intro c hc
    rcases haccounts.new c hc with hempty | ⟨x, _, hclass⟩
    · cases hempty
    · exact reaches_of_classAt? hclass
  have horder : (emissionOrder t root).Perm t.ids := by
    have hnodup : t.ids.Nodup := List.nodup_range.map fun _ _ => ClassId.mk.inj
    refine (List.perm_ext_iff_of_nodup (nodup_emissionOrder hwf hroot) hnodup).mpr fun c => ?_
    rw [mem_emissionOrder hwf hroot]
    exact ⟨fun hc => hc.mem_ids hwf hroot, hreaches c⟩
  refine ⟨hreaches, Evidence.nodup_shapes he, fun x hx => ?_, fun c entry hentry => ?_, ?_, horder,
    perm_classes_freeze horder⟩
  · obtain ⟨n, hx⟩ := (Evidence.mem_shapes_iff he).mp hx
    obtain ⟨b, hb, hfit⟩ := at?_of_fits hfits hx
    cases hfit with
    | object hrepresents _ => exact ⟨_, hrepresents.mem_ids, by rw [classAt?, hb]⟩
  · have hsamples := haccounts.samples c
    have hempty : samplesOf {} c = 0 := rfl
    rw [hempty, Nat.zero_add, samplesOf, hentry] at hsamples
    exact hsamples
  · have htotal := haccounts.total
    have hempty : samplesTotal {} = 0 := rfl
    rwa [hempty, Nat.zero_add] at htotal

/-- The links of the list are all registered for one class. -/
theorem internRoot_complete_linksAndNumber :
    samplesTotal (internRoot linksAndNumber {}).2 = seenTotal linksAndNumber.shapes ∧
      (emissionOrder (internRoot linksAndNumber {}).2 (internRoot linksAndNumber {}).1).Perm
        (internRoot linksAndNumber {}).2.ids :=
  have h := internRoot_complete distinctKeys_linksAndNumber (t := (internRoot linksAndNumber {}).2) rfl
  ⟨h.2.2.2.2.1, h.2.2.2.2.2.1⟩

end ClassTable

end Specimen
