import Specimen.Proofs.Evidence.Admission
import Specimen.Proofs.Model.Freeze

/-! Values of a model.

`TypeModel.admits` says which values a type of a finished model has, by the nodes and the classes of the
model alone. Freezing a table loses none of the values that the evidence admits
(`admits_freeze`): classes move to their place in the emission order, and a type keeps its meaning
under its new name. -/
namespace Specimen

namespace Kind

/-- The scalar that a kind stands for, with or without nulls. -/
def scalar? : Kind → Option Scalar
  | .boolean | .nullableBoolean => some .boolean
  | .integer | .nullableInteger => some .integer
  | .long | .nullableLong => some .long
  | .float | .nullableFloat => some .float
  | .date | .nullableDate => some .date
  | .string => some .string
  | _ => none

/-- A leaf of the kind may hold the value, nulls aside. -/
def admits (isDate : String → Bool) (kind : Kind) (x : Json) : Bool :=
  match kind.scalar? with
  | some k => k.admits isDate x
  | none => kind == .anything || kind == .nullableSomething

end Kind

/-- Nulls are values of the type. -/
def TypeNode.admitsNull (type : TypeNode) : Bool :=
  type.kind != .nonConstrained &&
    (type.nullable || type.kind == .anything || type.kind == .nullableSomething)

namespace TypeModel

section Admits
variable (m : TypeModel) (isDate : String → Bool)

mutual

/-- The value is one of those that the type has. An object of a class has only keys of the class and
all those that may not be missing. -/
def admits : Json → TypeNode → Bool
  | .null, type => type.admitsNull
  | .array items, .array element _ => admitsItems items element
  | .object members, .dictionary element _ => admitsMembers members fun _ => some element
  | .object members, .object id _ =>
    match m.class? id with
    | some c =>
      admitsMembers members (fun key => (c.field? key).map FieldInfo.type) &&
        c.fields.all fun f => f.nullable || members.any (·.1 == f.sourceName)
    | none => false
  | x, .leaf kind _ => kind.admits isDate x
  | _, _ => false
termination_by structural x => x

def admitsItems : List Json → TypeNode → Bool
  | [], _ => true
  | x :: rest, type => admits x type && admitsItems rest type
termination_by structural xs => xs

/-- The value of each member is of the type that its key calls for. -/
def admitsMembers : List (String × Json) → (String → Option TypeNode) → Bool
  | [], _ => true
  | (key, x) :: rest, typeOf =>
    (match typeOf key with
      | some type => admits x type
      | none => false) && admitsMembers rest typeOf
termination_by structural ms => ms

end

end Admits

variable {m : TypeModel} {isDate : String → Bool}

theorem admitsItems_iff {items : List Json} {type : TypeNode} :
    m.admitsItems isDate items type = true ↔ ∀ x ∈ items, m.admits isDate x type = true := by
  induction items with
  | nil => simp [admitsItems]
  | cons x rest ih => simp [admitsItems, ih]

theorem admitsMembers_iff {members : List (String × Json)} {typeOf : String → Option TypeNode} :
    m.admitsMembers isDate members typeOf = true ↔
      ∀ x ∈ members, ∃ type, typeOf x.1 = some type ∧ m.admits isDate x.2 type = true := by
  induction members with
  | nil => simp [admitsMembers]
  | cons x rest ih =>
    obtain ⟨key, x⟩ := x
    rw [admitsMembers, Bool.and_eq_true, ih, List.forall_mem_cons]
    cases typeOf key <;> simp

/-- A type has the same values as the type of the documents and elsewhere. -/
theorem admits_withRoot (x : Json) (type : TypeNode) (isRoot : Bool) :
    m.admits isDate x (type.withRoot isRoot) = m.admits isDate x type := by
  cases x with
  | null => simp [admits, TypeNode.admitsNull]
  | _ => cases type <;> rfl

end TypeModel

/-! ### Frozen types and classes -/

theorem admits_scalarKind (isDate : String → Bool) (k : Scalar) (n : Bool) (x : Json)
    (h : k.admits isDate x = true) (m : TypeModel) (order : List ClassId) :
    m.admits isDate x (freezeType order (.scalar k n)) = true := by
  have hkind : ∀ kind, (kind = scalarKind k ∨ kind = (scalarKind k).nullable?.getD (scalarKind k)) →
      kind.admits isDate x = true := by
    rintro kind (rfl | rfl) <;> cases k <;> exact h
  cases x with
  | null => cases k <;> cases h
  | _ => cases n <;> exact hkind _ (by simp)

theorem admits_anything (m : TypeModel) (isDate : String → Bool) (order : List ClassId) (n : Bool)
    (x : Json) : m.admits isDate x (freezeType order (.anything n)) = true := by
  cases n <;> cases x <;> rfl

theorem admitsNull_freezeType (order : List ClassId) {e : Evidence ClassId}
    (h : e.isNullable = true) : (freezeType order e).admitsNull = true := by
  have hkind : (freezeType order e).kind ≠ .nonConstrained := by
    rw [kind_freezeType, h]
    cases e with
    | unknown => cases h
    | scalar k n => cases k <;> exact nofun
    | _ => exact nofun
  simp [TypeNode.admitsNull, nullable_freezeType, h, hkind]

section Freeze
variable {t : ClassTable} {root : Evidence ClassId} (names : Naming) (examples : ExamplePolicy)

/-- Freezing loses no value. -/
theorem admits_freeze (ht : t.WellFormed) (hroot : root.RefersBelow t.entries.length)
    {isDate : String → Bool} {x : Json} {e : Evidence ClassId}
    (h : Evidence.Admits t.fieldsOf isDate x e)
    (he : ∀ c, e.innermost? = some c → c ∈ emissionOrder t root) :
    (freeze t root names examples).admits isDate x (freezeType (emissionOrder t root) e) = true := by
  induction h with
  | null hn => exact admitsNull_freezeType _ hn
  | anything => exact admits_anything _ isDate _ _ _
  | scalar hk => exact admits_scalarKind isDate _ _ _ hk _ _
  | array _ ih => exact TypeModel.admitsItems_iff.mpr fun x hx => ih x hx he
  | dictionary _ ih =>
    exact TypeModel.admitsMembers_iff.mpr fun m hm => ⟨_, rfl, ih m hm he⟩
  | @object members c n hkeys _ hlacks ih =>
    have hc := he c rfl
    have hr := (mem_emissionOrder ht hroot).mp hc
    obtain ⟨entry, hentry⟩ := ClassTable.exists_entry (hr.mem_ids ht hroot)
    simp only [freezeType, TypeModel.admits, class?_freeze names examples ht hroot hc hentry,
      Bool.and_eq_true]
    rw [ClassTable.fieldsOf_of_entry hentry] at hkeys hlacks ih
    constructor
    · refine TypeModel.admitsMembers_iff.mpr fun m hm => ?_
      obtain ⟨f, hf⟩ := hkeys m hm
      refine ⟨(freezeField _ examples f).type, ?_, ih m hm f hf fun b hb => ?_⟩
      · rw [field?_freezeClass, hf]
        rfl
      · rw [← ClassTable.fieldsOf_of_entry hentry] at hf
        exact (mem_emissionOrder ht hroot).mpr (hr.snoc (Field.mem_of_find? hf) hb)
    · refine List.all_eq_true.mpr fun g hg => ?_
      obtain ⟨f, hf, rfl⟩ := List.mem_map.mp hg
      simp only [freezeField, Bool.or_eq_true, List.any_eq_true, beq_iff_eq]
      by_cases hpresent : f.name ∈ members.map Prod.fst
      · exact .inr (by simpa using hpresent)
      · exact .inl (hlacks (Field.find?_of_mem (ht.distinct hentry) hf) hpresent)

end Freeze

end Specimen
