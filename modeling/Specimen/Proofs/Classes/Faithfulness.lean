import Specimen.Proofs.Classes.Separation
import Specimen.Proofs.Classes.Folding

/-! Interning folds a tree of evidence without changing what it says.

Whatever is at a place of the tree, the same path in the table leads to a type that faces it
(`internRoot_faithful`): the kind is the same, or a wider number, a null stays a null, and an object has
its keys, neither more nor fewer. A class that is shared, or that refers to itself, may say more further
down than the tree does, but no place of the tree becomes `anything` for it. -/
namespace Specimen

namespace Evidence

/-- No object inside a tree without repeated keys has a key twice. -/
theorem DistinctKeys.at? {e a : Evidence Shape} (he : e.DistinctKeys) {p : Path}
    (ha : e.at? Shape.fields p = some a) : a.DistinctKeys := by
  induction p generalizing e with
  | nil =>
    cases ha
    exact he
  | cons s p ih =>
    obtain ⟨x, hx, ha⟩ := Option.bind_eq_some_iff.mp ha
    refine ih ?_ ha
    cases he with
    | array h _ =>
      cases s <;> cases hx
      exact h
    | dictionary h _ =>
      cases s <;> cases hx
      exact h
    | object _ h _ =>
      cases s with
      | element => cases hx
      | field name =>
        obtain ⟨f, hf, rfl⟩ := Option.map_eq_some_iff.mp hx
        exact h f (Field.mem_of_find? hf)
    | _ => cases s <;> cases hx

end Evidence

namespace ClassTable

/-- What a table has where a tree of evidence has something: the same kind, or a wider number. Nothing
seen, or nothing but nulls, leaves the kind open. -/
inductive Faces (t : ClassTable) : Evidence Shape → Evidence ClassId → Prop where
  | unknown {b} : Faces t .unknown b
  | null {b} (hn : b.isNullable = true) (hb : b.isAnything = false) : Faces t .null b
  | anything {m n} (hn : m = true → n = true) : Faces t (.anything m) (.anything n)
  | scalar {j k m n} (hk : j.le k = true) (hn : m = true → n = true) :
    Faces t (.scalar j m) (.scalar k n)
  | array {x y m n} (hn : m = true → n = true) : Faces t (.array x m) (.array y n)
  | dictionary {x y m n} (hn : m = true → n = true) : Faces t (.dictionary x m) (.dictionary y n)
  | object {s : Shape} {c m n entry} (hentry : t.entry? c = some entry)
    (hkeys : (entry.fields.map Field.name).Perm (s.fields.map Field.name))
    (hn : m = true → n = true) : Faces t (.object s m) (.object c n)

variable {t : ClassTable} {a : Evidence Shape} {b : Evidence ClassId}

theorem Faces.isNullable (h : t.Faces a b) (ha : a.isNullable = true) : b.isNullable = true := by
  cases h with
  | unknown => cases ha
  | null hn _ => exact hn
  | _ => rename_i hn; exact hn ha

/-- Only a conflict, or nothing at all, faces `anything`. -/
theorem Faces.of_isAnything (h : t.Faces a b) (hb : b.isAnything = true) :
    a.isAnything = true ∨ a = .unknown := by
  cases h with
  | unknown => exact .inr rfl
  | null _ hb' =>
    rw [hb] at hb'
    cases hb'
  | anything _ => exact .inl rfl
  | _ => cases hb

/-- A class has the keys of the shapes that it represents. -/
theorem Represents.perm_names (ht : t.WellFormed) {s : Shape} {c : ClassId}
    (h : t.Represents s c) (hd : (s.fields.map Field.name).Nodup) :
    ∃ entry, t.entry? c = some entry ∧
      (entry.fields.map Field.name).Perm (s.fields.map Field.name) := by
  obtain ⟨entry, hentry, hkeys, _⟩ := (folding_represents t).entries h
  exact ⟨entry, hentry,
    (List.perm_ext_iff_of_nodup (ht.distinct hentry) hd).mpr fun name => (hkeys name).symm⟩

theorem faces_of_fits (ht : t.WellFormed) (ha : a.DistinctKeys) (h : a.Fits t.Represents b) :
    t.Faces a b := by
  cases h with
  | unknown => exact .unknown
  | null hn hb => exact .null hn hb
  | anything hn => exact .anything hn
  | scalar hk hn => exact .scalar hk hn
  | array _ hn => exact .array hn
  | dictionary _ hn => exact .dictionary hn
  | object hsc hn =>
    obtain ⟨entry, hentry, hperm⟩ := hsc.perm_names ht (Evidence.distinctKeys_object.mp ha).1
    exact .object hentry hperm hn

/-- Every place of the evidence is a place of the table, and what the table has there faces what the
evidence has; it is nullable where the evidence is, and `anything` only where the evidence is or has seen
nothing. -/
theorem internRoot_faithful {e : Evidence Shape} (he : e.DistinctKeys) {p : Path}
    {a : Evidence Shape} (ha : e.at? Shape.fields p = some a) :
    ∃ b, (internRoot e {}).1.at? (internRoot e {}).2.fieldsOf p = some b ∧
      (internRoot e {}).2.Faces a b ∧ (a.isNullable = true → b.isNullable = true) ∧
      (b.isAnything = true → a.isAnything = true ∨ a = .unknown) := by
  obtain ⟨b, hb, hfit⟩ := at?_of_fits (internRoot_fits he {}) ha
  have hfaces := faces_of_fits (wellFormed_internRoot he).1 (he.at? ha) hfit
  exact ⟨b, hb, hfaces, hfaces.isNullable, hfaces.of_isAnything⟩

/-- The last link of the list is an object with a null, whose class refers to itself. -/
theorem internRoot_faithful_lastLink :
    ∃ b, (internRoot linksAndNumber {}).1.at? (internRoot linksAndNumber {}).2.fieldsOf
        [.field "list", .field "next", .field "next"] = some b ∧
      (internRoot linksAndNumber {}).2.Faces .null b ∧
      (Evidence.null.isNullable (O := Shape) = true → b.isNullable = true) ∧
      (b.isAnything = true → Evidence.null.isAnything (O := Shape) = true ∨
        (Evidence.null : Evidence Shape) = .unknown) :=
  internRoot_faithful distinctKeys_linksAndNumber rfl

end ClassTable

end Specimen
