import Specimen.Model.Freeze
import Specimen.Proofs.Classes.Emission
import Specimen.Proofs.Evidence.Paths

/-! How a table reads once it is frozen.

A type keeps its kind and its nullability, a class its fields under their keys; a class that the root
leads to is found under its new number (`class?_freeze`). -/
namespace Specimen

/-- The kind of a type, by what is seen at its place without looking inside. -/
def Evidence.Head.kind : Evidence.Head → Bool → Kind
  | .unknown, _ => .nonConstrained
  | .null, _ => .nullableSomething
  | .anything, true => .nullableSomething
  | .anything, false => .anything
  | .scalar k, true => (scalarKind k).nullable?.getD (scalarKind k)
  | .scalar k, false => scalarKind k
  | .array, _ => .array
  | .dictionary, _ => .dictionary
  | .object, _ => .object

theorem kind_freezeType (order : List ClassId) (e : Evidence ClassId) :
    (freezeType order e).kind = e.head.kind e.isNullable := by
  cases e with
  | anything n => cases n <;> rfl
  | scalar k n => cases n <;> rfl
  | _ => rfl

theorem nullable_freezeType (order : List ClassId) (e : Evidence ClassId) :
    (freezeType order e).nullable = e.isNullable := by
  cases e with
  | anything n => cases n <;> rfl
  | scalar k n => cases n <;> rfl
  | _ => rfl

namespace TypeNode
variable (isRoot : Bool) (type : TypeNode)

@[simp] theorem kind_withRoot : (type.withRoot isRoot).kind = type.kind := by
  cases type <;> rfl

@[simp] theorem nullable_withRoot : (type.withRoot isRoot).nullable = type.nullable := by
  cases type <;> rfl

@[simp] theorem isRoot_withRoot : (type.withRoot isRoot).isRoot = isRoot := by
  cases type <;> rfl

@[simp] theorem element?_withRoot : (type.withRoot isRoot).element? = type.element? := by
  cases type <;> rfl

@[simp] theorem class?_withRoot : (type.withRoot isRoot).class? = type.class? := by
  cases type <;> rfl

@[simp] theorem innermost?_withRoot : (type.withRoot isRoot).innermost? = type.innermost? := by
  cases type <;> rfl

end TypeNode

/-- No type of a table is marked as that of the documents. -/
theorem withRoot_freezeType (order : List ClassId) (e : Evidence ClassId) :
    (freezeType order e).withRoot false = freezeType order e := by
  cases e with
  | anything n => cases n <;> rfl
  | scalar k n => cases n <;> rfl
  | _ => rfl

/-- What is selected at a place, if nothing before it is left out. -/
theorem getElem?_filterMap {α β : Type} {f : α → Option β} {l : List α}
    (h : ∀ a ∈ l, (f a).isSome = true) (i : Nat) : (l.filterMap f)[i]? = l[i]?.bind f := by
  induction l generalizing i with
  | nil => rfl
  | cons a l ih =>
    obtain ⟨ha, hl⟩ := List.forall_mem_cons.mp h
    obtain ⟨b, hb⟩ := Option.isSome_iff_exists.mp ha
    rw [List.filterMap_cons, hb]
    cases i with
    | zero => simp [hb]
    | succ i => simpa using ih hl i

theorem getElem?_renumber {order : List ClassId} {c : ClassId} (hc : c ∈ order) :
    order[(renumber order c).index]? = some c := by
  have hsome : (order.findIdx? (· = c)).isSome = true := by
    rw [List.findIdx?_isSome]
    simpa using hc
  obtain ⟨i, hi⟩ := Option.isSome_iff_exists.mp hsome
  obtain ⟨hlt, hic, _⟩ := List.findIdx?_eq_some_iff_getElem.mp hi
  simp only [renumber, hi]
  rw [List.getElem?_eq_getElem hlt]
  exact congrArg some (by simpa using hic)

theorem exists_entry_of_mem_emissionOrder {t : ClassTable} {root : Evidence ClassId}
    (ht : t.InRange) (hroot : root.RefersBelow t.entries.length) {c : ClassId}
    (hc : c ∈ emissionOrder t root) : ∃ entry, t.entry? c = some entry :=
  ClassTable.exists_entry (((mem_emissionOrder ht hroot).mp hc).mem_ids ht hroot)

section Freeze
variable {t : ClassTable} {root : Evidence ClassId} (names : Naming) (examples : ExamplePolicy)

/-- The classes of the model are those in the emission order. -/
theorem class?_freeze_eq (ht : t.InRange) (hroot : root.RefersBelow t.entries.length)
    (id : ClassId) : (freeze t root names examples).class? id =
      (emissionOrder t root)[id.index]?.bind fun c =>
        (t.entry? c).map (freezeClass (emissionOrder t root) names examples c) := by
  have hall : ∀ b ∈ emissionOrder t root,
      ((t.entry? b).map (freezeClass (emissionOrder t root) names examples b)).isSome = true := by
    intro b hb
    obtain ⟨x, hx⟩ := exists_entry_of_mem_emissionOrder ht hroot hb
    rw [hx]
    rfl
  exact getElem?_filterMap hall id.index

/-- A class of the model is the class of the table at its place in the emission order. -/
theorem exists_of_class?_freeze (ht : t.InRange) (hroot : root.RefersBelow t.entries.length)
    {id : ClassId} {d : ClassDef} (hd : (freeze t root names examples).class? id = some d) :
    ∃ c entry, (emissionOrder t root)[id.index]? = some c ∧ t.entry? c = some entry ∧
      d = freezeClass (emissionOrder t root) names examples c entry := by
  rw [class?_freeze_eq names examples ht hroot] at hd
  obtain ⟨c, hc, hd⟩ := Option.bind_eq_some_iff.mp hd
  obtain ⟨entry, hentry, rfl⟩ := Option.map_eq_some_iff.mp hd
  exact ⟨c, entry, hc, hentry, rfl⟩

/-- A class of the table is found in the model under its new number. -/
theorem class?_freeze (ht : t.InRange) (hroot : root.RefersBelow t.entries.length) {c : ClassId}
    (hc : c ∈ emissionOrder t root) {entry : ClassEntry} (hentry : t.entry? c = some entry) :
    (freeze t root names examples).class? (renumber (emissionOrder t root) c) =
      some (freezeClass (emissionOrder t root) names examples c entry) := by
  rw [class?_freeze_eq names examples ht hroot, getElem?_renumber hc, Option.bind_some, hentry,
    Option.map_some]

/-- A field is marked as its type is: both flags are those of the evidence. -/
theorem nullable_field_freeze {c : ClassDef} (hc : c ∈ (freeze t root names examples).classes)
    {f : FieldInfo} (hf : f ∈ c.fields) : f.nullable = f.type.nullable := by
  obtain ⟨id, _, hc⟩ := List.mem_filterMap.mp hc
  obtain ⟨entry, _, rfl⟩ := Option.map_eq_some_iff.mp hc
  obtain ⟨g, _, rfl⟩ := List.mem_map.mp hf
  exact (nullable_freezeType _ g.type).symm

theorem field?_freezeClass (order : List ClassId) (c : ClassId) (entry : ClassEntry)
    (key : String) : (freezeClass order names examples c entry).field? key =
      (Field.find? entry.fields key).map (freezeField order examples) := by
  simp only [ClassDef.field?, freezeClass, Field.find?, List.find?_map]
  rfl

end Freeze

end Specimen
