import Specimen.Proofs.Evidence.Widening

/-! Places inside evidence.

A path goes into objects by key and into arrays and dictionaries to their element. Evidence of shapes
and evidence of classes are followed alike, once it is said which fields an object has: its own for a
shape, those of its class for a class. `head` is what is seen at a place without looking inside. -/
namespace Specimen

inductive Step where
  | field (name : String)
  | element
  deriving DecidableEq

abbrev Path := List Step

namespace Evidence
variable {O : Type} (fields : O → List (Field O))

def step? : Step → Evidence O → Option (Evidence O)
  | .element, .array item _ => some item
  | .element, .dictionary value _ => some value
  | .field name, .object o _ => (Field.find? (fields o) name).map Field.type
  | _, _ => none

def at? : Path → Evidence O → Option (Evidence O)
  | [], e => some e
  | s :: p, e => (e.step? fields s).bind (at? p)

theorem at?_append (p q : Path) (e : Evidence O) :
    e.at? fields (p ++ q) = (e.at? fields p).bind (at? fields q) := by
  induction p generalizing e with
  | nil => rfl
  | cons s p ih =>
    simp only [List.cons_append, at?]
    cases e.step? fields s with
    | none => rfl
    | some e => exact ih e

theorem at?_append_of_eq {p : Path} {e e' : Evidence O} (h : e.at? fields p = some e') (q : Path) :
    e.at? fields (p ++ q) = e'.at? fields q := by
  rw [at?_append, h, Option.bind_some]

theorem at?_singleton (s : Step) (e : Evidence O) : e.at? fields [s] = e.step? fields s := by
  cases h : e.step? fields s <;> simp [at?, h]

/-- Where there is something in a type, a wider type has something wider, provided that the objects of
the wider have the fields of the objects they are compared with. -/
theorem Fits.at? {P : Type} {R : O → P → Prop} {fields : O → List (Field O)}
    {fields' : P → List (Field P)}
    (hR : ∀ {x y}, R x y → ∀ name f, Field.find? (fields x) name = some f →
      ∃ g, Field.find? (fields' y) name = some g ∧ f.type.Fits R g.type)
    {e : Evidence O} {e' : Evidence P} (h : e.Fits R e') {p : Path} {a : Evidence O}
    (ha : e.at? fields p = some a) : ∃ b, e'.at? fields' p = some b ∧ a.Fits R b := by
  induction p generalizing e e' with
  | nil =>
    cases ha
    exact ⟨e', rfl, h⟩
  | cons s p ih =>
    obtain ⟨x, hx, ha⟩ := Option.bind_eq_some_iff.mp ha
    suffices hstep : ∃ y, e'.step? fields' s = some y ∧ x.Fits R y by
      obtain ⟨y, hy, hxy⟩ := hstep
      obtain ⟨b, hb, hab⟩ := ih hxy ha
      exact ⟨b, by rw [Evidence.at?, hy, Option.bind_some, hb], hab⟩
    cases h with
    | array hx' _ =>
      cases s <;> cases hx
      exact ⟨_, rfl, hx'⟩
    | dictionary hx' _ =>
      cases s <;> cases hx
      exact ⟨_, rfl, hx'⟩
    | object hxy _ =>
      cases s with
      | element => cases hx
      | field name =>
        obtain ⟨f, hf, rfl⟩ := Option.map_eq_some_iff.mp hx
        obtain ⟨g, hg, hfg⟩ := hR hxy name f hf
        exact ⟨g.type, by rw [step?, hg, Option.map_some], hfg⟩
    | _ => cases s <;> cases hx

/-- The kind of evidence, its nullability and what is inside apart. -/
inductive Head where
  | unknown
  | null
  | anything
  | scalar (kind : Scalar)
  | array
  | dictionary
  | object
  deriving DecidableEq

def head : Evidence O → Head
  | .unknown => .unknown
  | .null => .null
  | .anything _ => .anything
  | .scalar kind _ => .scalar kind
  | .array _ _ => .array
  | .dictionary _ _ => .dictionary
  | .object _ _ => .object

/-- What a type shows, a wider type may show instead. -/
def Head.le : Head → Head → Bool
  | .unknown, _ => true
  | .null, h => h != .unknown && h != .anything
  | .scalar j, .scalar k => j.le k
  | g, h => g == h

theorem Fits.head_le {P : Type} {R : O → P → Prop} {a : Evidence O} {b : Evidence P}
    (h : a.Fits R b) : a.head.le b.head = true := by
  cases h with
  | unknown => rfl
  | null hn ha =>
    cases b with
    | unknown => cases hn
    | anything n => cases ha
    | _ => rfl
  | scalar hk _ => exact hk
  | _ => rfl

end Evidence

end Specimen
