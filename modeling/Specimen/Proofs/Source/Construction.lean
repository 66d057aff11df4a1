import Specimen.Proofs.Inference.Exactness
import Specimen.Proofs.Model.Pairing
import Specimen.Proofs.Source.Scopes

/-! Construction without data.

Every class describes an object of the samples, and a field that may not be missing leads from the object to a
smaller one that the class of the field describes. So classes that lead back to themselves do it through a
null, an array or a dictionary (`TypeModel.Described.accessible`): the constructors in TypeScript, which make
an object for each field that needs one, come to an end, and no struct in Rust contains itself
(`construction_terminates`). -/
namespace Specimen

/-! ### Classes that are required -/

namespace TypeModel

/-- An object of class `a` has one of class `b`, whatever else it has. -/
def Requires (m : TypeModel) (a b : ClassId) : Prop :=
  ∃ c, m.class? a = some c ∧
    ∃ f ∈ c.fields, f.type.kind = .object ∧ f.type.class? = some b ∧ f.nullable = false

/-- Each class describes objects of the samples, at least one, and each sample is a value of the model. -/
structure Described (m : TypeModel) (isDate : String → Bool) (samples : List Json) : Prop where
  distinct : ∀ x ∈ samples, x.DistinctKeys
  admits : ∀ x ∈ samples, m.admits isDate x m.root = true
  keys : ∀ {c}, c ∈ m.classes → (c.fields.map FieldInfo.sourceName).Nodup
  counts : ∀ {id c}, m.class? id = some c → c.CountsOf (m.objectsOf samples id)
  inhabited : ∀ {id c}, m.class? id = some c → m.objectsOf samples id ≠ []

variable {m : TypeModel} {isDate : String → Bool} {samples : List Json}

theorem exists_object_of_admits {x : Json} {id : ClassId} {k : Flags}
    (h : m.admits isDate x (.object id k) = true) (hnull : x ≠ .null) :
    ∃ members, x = .object members := by
  cases x with
  | null => exact absurd rfl hnull
  | object members => exact ⟨members, rfl⟩
  | _ => cases h

/-- An object of a class holds one of each class that is required. -/
theorem Described.exists_inside (h : m.Described isDate samples) {a b : ClassId}
    (hab : m.Requires a b) {members : List (String × Json)} (hm : members ∈ m.objectsOf samples a) :
    ∃ inner ∈ m.objectsOf samples b, .object inner ∈ members.map Prod.snd := by
  obtain ⟨c, hc, f, hf, _, hclass, hnull⟩ := hab
  have hnode : m.node? (.field a f.sourceName) = some f.type := by
    have hfield := ClassDef.field?_of_mem (h.keys (mem_classes.mpr ⟨a, hc⟩)) hf
    simp only [node?, hc, Option.bind_some, hfield, Option.map_some]
  -- The key is there, with more than a null under it.
  obtain ⟨y, hy, hne⟩ : ∃ y, (f.sourceName, y) ∈ members ∧ y ≠ .null := by
    have hpresent : ¬ lacksOrNull f.sourceName members := fun hlacks => by
      rw [((h.counts hc).nullable f hf).mpr ⟨members, hm, hlacks⟩] at hnull
      cases hnull
    cases hlookup : members.lookup f.sourceName with
    | none => exact absurd (.inl hlookup) hpresent
    | some y =>
      have hdistinct := nodup_keys_of_mem_objectsOf h.distinct hm
      refine ⟨y, (lookup_eq_some_iff_mem hdistinct).mp hlookup, ?_⟩
      rintro rfl
      exact hpresent (.inr hlookup)
  have hpaired : y ∈ m.valuesAt samples (.field a f.sourceName) :=
    (mem_valuesAt_field (by rw [hnode]; rfl)).mpr ⟨members, hm, hy⟩
  have hwalk := mem_valuesAt.mp hpaired
  obtain ⟨x, hx, hmet⟩ := List.mem_flatMap.mp hwalk
  obtain ⟨τ, hτ, hadmits⟩ := admits_of_mem_walk ⟨m.root, rfl, h.admits x hx⟩ hmet
  cases hτ.symm.trans hnode
  obtain ⟨k, htype⟩ := TypeNode.exists_of_class? hclass
  rw [htype] at hadmits
  obtain ⟨inner, rfl⟩ := exists_object_of_admits hadmits hne
  refine ⟨inner, m.lockstep.mem_objects.mpr ⟨_, hwalk, ?_⟩, List.mem_map_of_mem hy⟩
  simp only [lockstep, hnode, htype, Option.bind_some, TypeNode.class?]

/-- To follow what an object requires is to descend in it. -/
theorem Described.accessible_of_object (h : m.Described isDate samples) (x : Json) :
    ∀ {id members}, x = .object members → members ∈ m.objectsOf samples id →
      Acc (fun b a => m.Requires a b) id := by
  induction x using Json.parts_induction with
  | h x _ ih =>
    rintro id members rfl hm
    refine .intro id fun b hb => ?_
    obtain ⟨inner, hinner, hinside⟩ := h.exists_inside hb hm
    exact ih (.object inner) hinside rfl hinner

theorem Described.accessible (h : m.Described isDate samples) (id : ClassId) :
    Acc (fun b a => m.Requires a b) id := by
  cases hc : m.class? id with
  | none =>
    refine .intro id fun b ⟨c, hc', _⟩ => ?_
    cases hc.symm.trans hc'
  | some c =>
    obtain ⟨members, hm⟩ := List.exists_mem_of_ne_nil _ (h.inhabited hc)
    exact h.accessible_of_object _ rfl hm

/-- No class requires itself, directly or through others. -/
theorem Described.not_requires_self (h : m.Described isDate samples) (id : ClassId) :
    ¬ Relation.TransGen m.Requires id id := by
  have hwf : WellFounded (fun b a => m.Requires a b) := ⟨h.accessible⟩
  intro hcycle
  have hback : Relation.TransGen (fun b a => m.Requires a b) id id :=
    Relation.transGen_swap.mpr hcycle
  exact hwf.transGen.asymmetric id id hback hback

end TypeModel

theorem described_inferValues (s : Settings) {documents : List Json}
    (h : ∀ d ∈ documents, d.DistinctKeys) :
    (inferValues s documents).Described s.isDateText (Inference.samplesOf documents) := by
  have hsamples := fun x hx => Inference.distinctKeys_of_mem_samplesOf h (x := x) hx
  obtain ⟨t, root, names, hwf, hroot, htally, hledger, hmodel⟩ := inferValues_eq_freeze s h
  refine ⟨hsamples, fun x hx => admits_inferValues s h hx,
    fun hc => nodup_sourceNames_inferValues s h hc, ?_, ?_⟩
  · rw [hmodel]
    exact countsOf_freeze names s.examplePolicy hwf hroot hledger
  · intro id c hc
    rw [hmodel] at hc ⊢
    obtain ⟨b, entry, hb, hentry, rfl⟩ := exists_of_class?_freeze names s.examplePolicy hwf hroot hc
    rw [ClassTable.objectsOf_freeze names s.examplePolicy hwf hroot hb]
    obtain ⟨os, hos, hrecords⟩ := hledger.records hentry
    exact fun hnil => hrecords.nonempty (List.Perm.eq_nil (hnil ▸ hos))

end Specimen

namespace Specimen.Source

/-! ### Constructors -/

namespace TypeScript

/-- What a constructor gives to a field if there are no data. -/
inductive Initial where
  | null
  | emptyText
  | zero
  | no
  | now
  | emptyArray
  | emptyObject
  /-- A new object of the class that the type is. -/
  | made (type : TypeNode)

namespace Initial

def ofField (f : FieldInfo) : Initial :=
  if f.nullable then .null
  else
    match f.type.kind with
    | .string => .emptyText
    | .integer | .long | .float => .zero
    | .boolean => .no
    | .date => .now
    | .array => .emptyArray
    | .dictionary => .emptyObject
    | .object => .made f.type
    | _ => .null

def shown (m : TypeModel) (scope : Option String) : Initial → String
  | null => "null"
  | emptyText => "\x27\x27"
  | zero => "0"
  | no => "false"
  | now => "new Date()"
  | emptyArray => "[]"
  | emptyObject => "\x7b\x7d"
  | made type => "new " ++ qualifiedName m scope type ++ "()"

/-- What it evaluates to, at some time and with some way to make objects. -/
def value? (time : Json) (make : ClassId → Option Json) : Initial → Option Json
  | null => some .null
  | emptyText => some (.string "")
  | zero => some (.number (.int 0))
  | no => some (.bool false)
  | now => some time
  | emptyArray => some (.array [])
  | emptyObject => some (.object [])
  | made type => type.class?.bind make

end Initial

/-- The line of a field in the constructor ends in what the field gets if there are no data. -/
theorem constructorLine_eq (m : TypeModel) (scope : Option String) (f : FieldInfo) :
    constructorLine m scope f = "        this" ++ memberAccess f.sourceName ++ " = data?" ++
      optionalAccess f.sourceName ++ " ?? " ++ (Initial.ofField f).shown m scope ++ ";" := by
  have hvalue : (if f.nullable then "null" else defaultValue m scope f.type) =
      (Initial.ofField f).shown m scope := by
    unfold Initial.ofField defaultValue
    cases f.nullable with
    | true => rfl
    | false => cases f.type.kind <;> rfl
  exact congrArg (fun text => "        this" ++ memberAccess f.sourceName ++ " = data?" ++
    optionalAccess f.sourceName ++ " ?? " ++ text ++ ";") hvalue

/-- The lines of the constructor of a class, with what each field gets if there are no data. -/
def constructorLines (m : TypeModel) (s : Settings) (c : ClassDef) : List String :=
  ["    constructor(data?: any) \x7b"] ++
    c.fields.map (fun f => "        this" ++ memberAccess f.sourceName ++ " = data?" ++
      optionalAccess f.sourceName ++ " ?? " ++ (Initial.ofField f).shown m (scopeOf s c) ++ ";") ++
    ["    \x7d"]

/-- They stand in a row in the definition of the class. -/
theorem constructorLines_isInfix_typeLines (m : TypeModel) (s : Settings) (c : ClassDef) :
    inNamespace s c.isRoot (constructorLines m s c) <:+: writer.typeLines m s c := by
  have hclass : constructorLines m s c <:+: classLines m s c := by
    simp only [constructorLines, ← constructorLine_eq]
    let visible := !s.internalVisibility || s.secondaryNamespace.isSome
    refine ⟨[(if visible then "export " else "") ++ "class " ++ c.name ++ " \x7b"] ++
        c.fields.flatMap (fieldLines m s (scopeOf s c)) ++ [""],
      ["", "    public toService(): any \x7b", "        const obj: any = \x7b\x7d;"] ++
        c.fields.map serviceLine ++ ["        return obj;", "    \x7d", "\x7d", ""], ?_⟩
    simp [classLines, visible]
  change _ <:+: inNamespace s c.isRoot (classLines m s c)
  unfold inNamespace
  split
  · exact hclass.map _
  · exact hclass

/-- The object that the constructor of a class makes without data, if constructors call each other no deeper
than allowed. -/
def construct (m : TypeModel) (time : Json) : Nat → ClassId → Option Json
  | 0, _ => none
  | depth + 1, id =>
    (m.class? id).bind fun c =>
      (c.fields.mapM fun f =>
        ((Initial.ofField f).value? time (construct m time depth)).map (f.sourceName, ·)).map Json.object

theorem isSome_mapM {α β : Type} {f : α → Option β} {l : List α} :
    (l.mapM f).isSome = true ↔ ∀ a ∈ l, (f a).isSome = true := by
  induction l with
  | nil => simp
  | cons a l ih =>
    rw [List.mapM_cons, List.forall_mem_cons, ← ih]
    cases f a <;> cases l.mapM f <;> simp

theorem Initial.isSome_value? {time : Json} {make : ClassId → Option Json} {i : Initial} :
    (i.value? time make).isSome = true ↔
      ∀ type, i = .made type → ∃ id, type.class? = some id ∧ (make id).isSome = true := by
  cases i with
  | made type => cases h : type.class? <;> simp [value?, h]
  | _ => simp [value?]

/-- A constructor comes to an end if those that it calls do. -/
theorem isSome_construct_succ {m : TypeModel} {time : Json} {depth : Nat} {id : ClassId} :
    (construct m time (depth + 1) id).isSome = true ↔ ∃ c, m.class? id = some c ∧
      ∀ f ∈ c.fields, ∀ type, Initial.ofField f = .made type →
        ∃ id', type.class? = some id' ∧ (construct m time depth id').isSome = true := by
  cases hc : m.class? id <;>
    simp [construct, hc, isSome_mapM, Initial.isSome_value?]

theorem isSome_construct_mono {m : TypeModel} {time : Json} {depth depth' : Nat}
    (hle : depth ≤ depth') {id : ClassId} (h : (construct m time depth id).isSome = true) :
    (construct m time depth' id).isSome = true := by
  induction depth generalizing depth' id with
  | zero => cases h
  | succ depth ih =>
    obtain ⟨depth', rfl⟩ := Nat.exists_eq_add_of_le' (Nat.le_trans (Nat.succ_le_succ depth.zero_le) hle)
    obtain ⟨c, hc, hfields⟩ := isSome_construct_succ.mp h
    refine isSome_construct_succ.mpr ⟨c, hc, fun f hf type htype => ?_⟩
    obtain ⟨id', hid, hmade⟩ := hfields f hf type htype
    exact ⟨id', hid, ih (Nat.le_of_succ_le_succ hle) hmade⟩

/-- What holds of each of finitely many from some depth on holds of all of them from some depth on. -/
theorem exists_depth {α : Type} {P : Nat → α → Prop} (hmono : ∀ {m n a}, m ≤ n → P m a → P n a)
    {l : List α} (h : ∀ a ∈ l, ∃ n, P n a) : ∃ n, ∀ a ∈ l, P n a := by
  induction l with
  | nil => exact ⟨0, List.forall_mem_nil _⟩
  | cons a l ih =>
    obtain ⟨⟨m, hm⟩, hl⟩ := List.forall_mem_cons.mp h
    obtain ⟨n, hn⟩ := ih hl
    refine ⟨max m n, List.forall_mem_cons.mpr ⟨hmono (Nat.le_max_left m n) hm, fun b hb => ?_⟩⟩
    exact hmono (Nat.le_max_right m n) (hn b hb)

theorem eq_of_ofField {f : FieldInfo} {type : TypeNode} (h : Initial.ofField f = .made type) :
    f.type = type ∧ f.type.kind = .object ∧ f.nullable = false := by
  unfold Initial.ofField at h
  split at h
  case isTrue => cases h
  case isFalse hnull =>
    split at h <;> cases h
    exact ⟨rfl, ‹_›, Bool.not_eq_true _ ▸ hnull⟩

/-- Where following what is required comes to an end, so do the constructors. -/
theorem exists_construct {m : TypeModel} (time : Json)
    (htargets : ∀ {c f}, c ∈ m.classes → f ∈ c.fields → f.type.kind = .object →
      ∃ b d, f.type.class? = some b ∧ m.class? b = some d)
    {id : ClassId} (hacc : Acc (fun b a => m.Requires a b) id) {c : ClassDef}
    (hc : m.class? id = some c) : ∃ depth data, construct m time depth id = some data := by
  simp only [← Option.isSome_iff_exists]
  induction hacc generalizing c with
  | intro id _ ih =>
    have hmade : ∀ f ∈ c.fields, ∃ depth, ∀ type, Initial.ofField f = .made type →
        ∃ b, type.class? = some b ∧ (construct m time depth b).isSome = true := by
      intro f hf
      by_cases hobject : f.type.kind = .object ∧ f.nullable = false
      · obtain ⟨b, d, hb, hd⟩ := htargets (TypeModel.mem_classes.mpr ⟨id, hc⟩) hf hobject.1
        obtain ⟨depth, hdepth⟩ := ih b ⟨c, hc, f, hf, hobject.1, hb, hobject.2⟩ hd
        exact ⟨depth, fun type htype => ⟨b, (eq_of_ofField htype).1 ▸ hb, hdepth⟩⟩
      · exact ⟨0, fun type htype => absurd (eq_of_ofField htype).2 hobject⟩
    obtain ⟨depth, hdepth⟩ := exists_depth (fun hle h type htype => by
      obtain ⟨b, hb, hmade⟩ := h type htype
      exact ⟨b, hb, isSome_construct_mono hle hmade⟩) hmade
    exact ⟨depth + 1, isSome_construct_succ.mpr ⟨c, hc, hdepth⟩⟩

end TypeScript

/-! ### Structs -/

namespace Rust

/-- A value of the struct of class `a` contains one of the struct of class `b`, bare or in a box. What is in
an option, a vector or a map may be missing. -/
def Contains (m : TypeModel) (a b : ClassId) : Prop :=
  ∃ c, m.class? a = some c ∧ ∃ f ∈ c.fields, f.type.class? = some b ∧
    (fieldType m c f = plainName m f.type ∨ fieldType m c f = "Box<" ++ plainName m f.type ++ ">")

theorem fieldType_of_nullable (m : TypeModel) (c : ClassDef) {f : FieldInfo}
    (hkind : f.type.kind = .object) (hnull : f.nullable = true) : fieldType m c f =
      "Option<" ++ (if isBoxed m c f then "Box<" ++ plainName m f.type ++ ">"
        else plainName m f.type) ++ ">" := by
  rw [fieldType, hkind, hnull]
  rfl

theorem requires_of_contains {m : TypeModel} {a b : ClassId} (h : Contains m a b) : m.Requires a b := by
  obtain ⟨c, hc, f, hf, hclass, hcontained⟩ := h
  have hkind := TypeNode.kind_of_class? hclass
  refine ⟨c, hc, f, hf, hkind, hclass, ?_⟩
  cases hnull : f.nullable with
  | false => rfl
  | true =>
    -- With an option around it, the type is longer than both.
    rw [fieldType_of_nullable m c hkind hnull] at hcontained
    have hopen : "Option<".length = 7 := rfl
    have hbox : "Box<".length = 4 := rfl
    rcases hcontained with h | h <;>
      · have hlength := congrArg String.length h
        split at hlength <;> simp only [String.length_append] at hlength <;> omega

end Rust

/-! ### Inferred models -/

theorem exists_target_inferValues (s : Settings) {documents : List Json}
    (h : ∀ d ∈ documents, d.DistinctKeys) {c : ClassDef} {f : FieldInfo}
    (hc : c ∈ (inferValues s documents).classes) (hf : f ∈ c.fields) (hkind : f.type.kind = .object) :
    ∃ b d, f.type.class? = some b ∧ (inferValues s documents).class? b = some d := by
  obtain ⟨t, root, names, hwf, hroot, _, _, hmodel⟩ := inferValues_eq_freeze s h
  obtain ⟨b, hb⟩ : ∃ b, f.type.class? = some b := by
    rw [hmodel] at hc
    obtain ⟨id, hc⟩ := TypeModel.mem_classes.mp hc
    obtain ⟨_, entry, _, _, rfl⟩ := exists_of_class?_freeze names s.examplePolicy hwf hroot hc
    obtain ⟨g, _, rfl⟩ := List.mem_map.mp hf
    exact exists_class_freezeType hkind
  obtain ⟨k, htype⟩ := TypeNode.exists_of_class? hb
  obtain ⟨d, hd⟩ := (linked_inferValues s h).target hc hf (by rw [htype]; rfl)
  exact ⟨b, d, hb, hd⟩

/-- No class of an inferred model requires itself, through whatever other classes. So every constructor in
TypeScript comes to an end when it is given no data, where its lines say of each field what is evaluated, and no
struct in Rust contains itself. -/
theorem construction_terminates (s : Settings) {documents : List Json}
    (h : ∀ d ∈ documents, d.DistinctKeys) :
    (∀ id, ¬ Relation.TransGen (inferValues s documents).Requires id id) ∧
      (∀ time, ∀ c ∈ (inferValues s documents).classes, ∃ depth data,
        TypeScript.construct (inferValues s documents) time depth c.id = some data) ∧
      (∀ s', ∀ c ∈ (inferValues s documents).classes,
        inNamespace s' c.isRoot (TypeScript.constructorLines (inferValues s documents) s' c) <:+:
          TypeScript.writer.typeLines (inferValues s documents) s' c) ∧
      ∀ id, ¬ Relation.TransGen (Rust.Contains (inferValues s documents)) id id := by
  have hdescribed := described_inferValues s h
  refine ⟨hdescribed.not_requires_self, fun time c hc => ?_,
    fun s' c _ => TypeScript.constructorLines_isInfix_typeLines _ s' c, fun id hcontains => ?_⟩
  · obtain ⟨id, hid⟩ := TypeModel.mem_classes.mp hc
    rw [(linked_inferValues s h).id hid]
    exact TypeScript.exists_construct time (exists_target_inferValues s h) (hdescribed.accessible id) hid
  · have hcycle : Relation.TransGen (inferValues s documents).Requires id id :=
      Relation.TransGen.mono (fun _ _ => Rust.requires_of_contains) id id hcontains
    exact hdescribed.not_requires_self id hcycle

theorem construction_terminates_backReference :
    (¬ Relation.TransGen (inferValues {} backReference).Requires ⟨1⟩ ⟨1⟩) ∧
      ∃ c, (inferValues {} backReference).class? ⟨1⟩ = some c ∧ ∃ depth data,
        TypeScript.construct (inferValues {} backReference) .null depth c.id = some data :=
  have h := construction_terminates {} distinctKeys_backReference
  ⟨h.1 ⟨1⟩, _, rfl, h.2.1 .null _ (TypeModel.mem_classes.mpr ⟨⟨1⟩, rfl⟩)⟩

/-- The root class leads to itself, but not by what it requires. -/
example : TypeScript.construct (inferValues {} backReference) .null 2 ⟨0⟩ =
    some (.object [("b", .object [("a", .null)])]) := rfl

end Specimen.Source
