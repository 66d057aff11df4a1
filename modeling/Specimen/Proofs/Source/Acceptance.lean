import Specimen.Proofs.Inference.Exactness
import Specimen.Proofs.Model.Pairing
import Specimen.Proofs.Source.Reading
import Specimen.Proofs.Source.Scopes

/-! The structs that are written accept the samples.

A value that a type of the model admits is accepted by the type that is written for it
(`accepts_plain`), as long as no class takes the place of what else types are written with. So every object
that is paired with a class is accepted by its struct, and one field reads each of its keys
(`takesSamples_inferValues`). -/
namespace Specimen.Source.Rust
open Text

/-- The classes of a model are written under names that mean nothing else, with distinct keys, and a field is
marked as its type is. -/
structure Writable (m : TypeModel) : Prop where
  names : ∀ c ∈ m.classes, IsStructName c.name
  keys : ∀ c ∈ m.classes, (c.fields.map FieldInfo.sourceName).Nodup
  flags : ∀ c ∈ m.classes, ∀ f ∈ c.fields, f.nullable = f.type.nullable

section Accepts
variable {m : TypeModel} {isDate : String → Bool} (hm : Writable m)
include hm

theorem builtin_of_mem {path : List String} {name : String} (hpath : path.head? = some name)
    (hname : name ∈ builtinNames) : Builtin (m.classes.map (structOf m)) path := by
  intro d hd heq
  obtain ⟨c, hc, rfl⟩ := List.mem_map.mp hd
  cases hpath.symm.trans heq
  exact (hm.names c hc).free hname

theorem accepts_value (x : Json) : Accepts (m.classes.map (structOf m)) (.path valuePath) x :=
  .value (builtin_of_mem hm rfl (by decide)) x

theorem accepts_scalar {k : Scalar} {x : Json} (h : k.admits isDate x = true) :
    Accepts (m.classes.map (structOf m)) (scalarExpr k) x := by
  have hbuiltin {name : String} (hname : name ∈ builtinNames) :
      Builtin (m.classes.map (structOf m)) [name] := builtin_of_mem hm rfl hname
  cases k with
  | boolean =>
    cases x with
    | bool b => exact .bool (hbuiltin (by decide)) b
    | _ => cases h
  | integer =>
    cases x with
    | number n =>
      cases n with
      | int n =>
        simp only [Scalar.admits, Bool.and_eq_true, decide_eq_true_eq] at h
        exact .int32 (hbuiltin (by decide)) (by omega) (by omega)
      | float _ => cases h
    | _ => cases h
  | long =>
    cases x with
    | number n =>
      cases n with
      | int n =>
        simp only [Scalar.admits, Bool.and_eq_true, decide_eq_true_eq] at h
        exact .int64 (hbuiltin (by decide)) (by omega) (by omega)
      | float _ => cases h
    | _ => cases h
  | float =>
    cases x with
    | number n => exact .float64 (hbuiltin (by decide)) n
    | _ => cases h
  | date | string =>
    cases x with
    | string s => exact .string (hbuiltin (by decide)) s
    | _ => cases h

theorem accepts_leaf {kind : Kind} {x : Json} (h : kind.admits isDate x = true) :
    Accepts (m.classes.map (structOf m)) (leafExpr kind) x := by
  rw [leafExpr]
  cases hk : kind.scalar? with
  | none => exact accepts_value hm x
  | some k =>
    rw [Kind.admits, hk] at h
    exact accepts_scalar hm h

omit hm in
/-- A null for which there is no option is one among any values. -/
theorem isDynamic_of_admitsNull {type : TypeNode} (h : type.admitsNull = true)
    (hnot : ¬((type.nullable || type.kind.isNullable) && !type.kind.isDynamic) = true) :
    type.kind.isDynamic = true := by
  unfold TypeNode.admitsNull at h
  cases hn : type.nullable <;> cases hk : type.kind <;> simp_all [Kind.isDynamic, Kind.isNullable]

/-- An option accepts the nulls that a type admits, and the type without it has to accept all else. -/
theorem accepts_orNone {type : TypeNode} {e : TypeExpr} {x : Json}
    (h : m.admits isDate x type = true)
    (he : (x = .null → type.kind.isDynamic = true) → Accepts (m.classes.map (structOf m)) e x) :
    Accepts (m.classes.map (structOf m)) (orNoneExpr type.nullable type.kind e) x := by
  have hoption : Builtin (m.classes.map (structOf m)) ["Option"] := builtin_of_mem hm rfl (by decide)
  unfold orNoneExpr
  split
  case isTrue =>
    by_cases hx : x = .null
    · exact hx ▸ .none hoption e
    · exact .some hoption (he fun hnull => absurd hnull hx)
  case isFalse hnot =>
    refine he fun hx => ?_
    subst hx
    exact isDynamic_of_admitsNull (by cases type <;> exact h) hnot

/-- What a type of the model admits is accepted by the type that is written for it, nulls aside for which an
option is put around it. -/
theorem accepts_plain {x : Json} {type : TypeNode} (h : m.admits isDate x type = true)
    (hnull : x = .null → type.kind.isDynamic = true) :
    Accepts (m.classes.map (structOf m)) (plainExpr m type) x := by
  induction x using Json.parts_induction generalizing type with
  | h x ihi ihm =>
    cases type with
    | leaf kind n =>
      cases x with
      | null =>
        have hdynamic : plainExpr m (.leaf kind n) = .path valuePath := by
          cases kind <;> first | rfl | cases hnull rfl
        exact hdynamic ▸ accepts_value hm .null
      | bool | number | string | array | object => exact accepts_leaf hm h
    | array element n =>
      cases x with
      | array items =>
        refine .list (builtin_of_mem hm rfl (by decide)) fun y hy => ?_
        have hy' := TypeModel.admitsItems_iff.mp h y hy
        exact accepts_orNone hm hy' (ihi y hy hy')
      | null => cases hnull rfl
      | _ => cases h
    | dictionary element n =>
      cases x with
      | object members =>
        refine .map (builtin_of_mem hm rfl (by decide)) (builtin_of_mem hm rfl (by decide))
          fun y hy => ?_
        obtain ⟨_, htype, hy'⟩ := TypeModel.admitsMembers_iff.mp h y hy
        cases htype
        exact accepts_orNone hm hy' (ihm y.2 (List.mem_map_of_mem hy) hy')
      | null => cases hnull rfl
      | _ => cases h
    | object id n =>
      cases x with
      | object members =>
        obtain ⟨c, hc, hvalues, hmissing⟩ := TypeModel.admits_object h
        have hmem := TypeModel.mem_classes.mpr ⟨id, hc⟩
        have hexpr : plainExpr m (.object id n) = .path [(structOf m c).name] := by
          simp only [plainExpr, hc]
          rfl
        rw [hexpr]
        refine .struct (List.mem_map_of_mem hmem) ?_ ?_
        · intro d hd y hy hkey
          obtain ⟨f, hf, rfl⟩ := List.mem_map.mp hd
          obtain ⟨g, hg, hy'⟩ := hvalues y hy
          rw [hkey, declOf, ClassDef.field?_of_mem (hm.keys c hmem) hf] at hg
          cases hg
          rw [declOf, fieldExpr, hm.flags c hmem f hf]
          refine accepts_orNone hm hy' fun hn => ?_
          have hplain := ihm y.2 (List.mem_map_of_mem hy) hy' hn
          split
          · exact .box (builtin_of_mem hm rfl (by decide)) hplain
          · exact hplain
        · intro d hd habsent
          obtain ⟨f, hf, rfl⟩ := List.mem_map.mp hd
          have hnullable := hmissing f hf habsent
          simp [declOf, hnullable]
      | null => cases hnull rfl
      | _ => cases h

end Accepts

/-! ### The structs of a model -/

/-- The structs that are written for the classes of a model, if each of them can be read. -/
def structsOf? (m : TypeModel) (s : Settings) : Option (List StructDecl) :=
  m.classes.mapM fun c => readStruct (unlines (writer.typeLines m s c))

theorem structsOf?_eq {m : TypeModel} (hm : ∀ c ∈ m.classes, IsIdentifierText c.name) (s : Settings) :
    structsOf? m s = some (m.classes.map (structOf m)) := by
  have hall {classes : List ClassDef} (hclasses : ∀ c ∈ classes, c ∈ m.classes) :
      classes.mapM (fun c => readStruct (unlines (writer.typeLines m s c))) =
        some (classes.map (structOf m)) := by
    induction classes with
    | nil => rfl
    | cons c classes ih =>
      obtain ⟨hc, hrest⟩ := List.forall_mem_cons.mp hclasses
      rw [List.mapM_cons, readStruct_typeLines hm s c (hm c hc), ih hrest]
      rfl
  exact hall fun _ hc => hc

/-- The struct of a file accepts the object, and one of its fields reads each key. -/
structure StructDecl.Takes (file : List StructDecl) (d : StructDecl) (members : List (String × Json)) :
    Prop where
  accepts : Accepts file (.path [d.name]) (.object members)
  once : ∀ key ∈ members.map Prod.fst, (d.fields.filter (·.key == key)).length = 1

theorem takes_structOf {m : TypeModel} (hm : Writable m) {isDate : String → Bool} {id : ClassId}
    {c : ClassDef} (hc : m.class? id = some c) {k : Flags} {members : List (String × Json)}
    (h : m.admits isDate (.object members) (.object id k) = true) :
    (structOf m c).Takes (m.classes.map (structOf m)) members := by
  have hmem := TypeModel.mem_classes.mpr ⟨id, hc⟩
  constructor
  · have haccepts := accepts_plain hm h nofun
    rw [plainExpr, hc] at haccepts
    exact haccepts
  · intro _ hkey
    obtain ⟨⟨key, x⟩, hx, rfl⟩ := List.mem_map.mp hkey
    obtain ⟨c', hc', hvalues, _⟩ := TypeModel.admits_object h
    cases hc.symm.trans hc'
    obtain ⟨f, hf, _⟩ := hvalues _ hx
    have hkey := List.find?_some hf
    have hpresent : key ∈ c.fields.map FieldInfo.sourceName :=
      List.mem_map.mpr ⟨f, List.mem_of_find?_eq_some hf, by simpa using hkey⟩
    calc ((structOf m c).fields.filter (·.key == key)).length
        = (c.fields.map FieldInfo.sourceName).count key := by
          rw [← List.countP_eq_length_filter, List.count, List.countP_map, structOf, List.countP_map]
          rfl
      _ = 1 := List.count_eq_one_of_mem (hm.keys c hmem) hpresent

section Inferred
variable {s : Settings} (hroot : IsIdentifierText s.rootName) {documents : List Json}
  (h : ∀ d ∈ documents, d.DistinctKeys)
include h

/-- The classes have names that are given in a walk from the root. -/
theorem named_inferValues {c : ClassDef} (hc : c ∈ (inferValues s documents).classes) :
    ∃ t root, c.name ∈ (assignNames t root s.rootName).map Prod.snd := by
  have hkeys := s.observer.distinctKeys_evidenceOf fun _ hx =>
    Inference.distinctKeys_of_mem_samplesOf h hx
  obtain ⟨hwf, hrefers⟩ := ClassTable.wellFormed_internRoot hkeys
  rw [inferValues_eq_inferBy] at hc
  exact ⟨_, _, name_mem_assignNames s.examplePolicy hwf hrefers s.rootName hc⟩

include hroot

theorem structsOf?_inferValues (s' : Settings) : structsOf? (inferValues s documents) s' =
    some ((inferValues s documents).classes.map (structOf (inferValues s documents))) := by
  refine structsOf?_eq (fun c hc => ?_) s'
  obtain ⟨t, root, hname⟩ := named_inferValues h hc
  rcases eq_or_isStructName_of_mem_assignNames hroot.word.nonempty hname with heq | hname
  · exact heq ▸ hroot
  · exact hname.toIsIdentifierText

theorem writable_inferValues (hfree : s.rootName ∉ unreservedNames) :
    Writable (inferValues s documents) where
  names _ hc :=
    have ⟨_, _, hname⟩ := named_inferValues h hc
    isStructName_of_mem_assignNames hroot hfree hname
  keys _ hc := nodup_sourceNames_inferValues s h hc
  flags _ hc _ hf := nullable_field_inferValues s hc hf

end Inferred

/-- The structs that are written for a model can be read and told apart by their names, and the struct of each
class takes the objects in the samples that are paired with the class. -/
structure TakesSamples (m : TypeModel) (s : Settings) (samples : List Json) (file : List StructDecl) :
    Prop where
  read : structsOf? m s = some file
  names : (file.map StructDecl.name).Nodup
  takes : ∀ id c, m.class? id = some c → ∃ d, file[id.index]? = some d ∧ d.name = c.name ∧
    ∀ members ∈ m.objectsOf samples id, d.Takes file members

/-- The structs that are written for an inferred model take the samples, provided that the root is not to be
named like a type that no class is kept from being named like. -/
theorem takesSamples_inferValues (s s' : Settings) (hroot : IsIdentifierText s.rootName)
    (hfree : s.rootName ∉ unreservedNames) {documents : List Json}
    (h : ∀ d ∈ documents, d.DistinctKeys) :
    ∃ file, TakesSamples (inferValues s documents) s' (Inference.samplesOf documents) file := by
  have hm := writable_inferValues hroot h hfree
  refine ⟨_, structsOf?_inferValues hroot h s', ?_, fun id c hc => ?_⟩
  · rw [List.map_map]
    exact (linked_inferValues s h).names
  · refine ⟨structOf (inferValues s documents) c, ?_, rfl, fun members hmembers => ?_⟩
    · rw [List.getElem?_map]
      exact congrArg _ hc
    · obtain ⟨k, hadmits⟩ := TypeModel.admits_of_mem_objectsOf
        (fun x hx => admits_inferValues s h hx) hmembers
      exact takes_structOf hm hc hadmits

/-- A list of two numbers, each in an object that leads to the next. -/
def numberChain : List Json :=
  [.object [("x", .number (.int 1)), ("next", .object [("x", .number (.int 2)), ("next", .null)])]]

theorem distinctKeys_numberChain : ∀ x ∈ numberChain, x.DistinctKeys := by
  intro x hx
  cases List.mem_singleton.mp hx
  simp [Json.distinctKeys_object, Json.DistinctKeys.null, Json.DistinctKeys.number]

theorem takesSamples_numberChain : ∃ file, structsOf? (inferValues {} numberChain) {} = some file ∧
    ∃ d, file[0]? = some d ∧ d.name = "Root" ∧
      d.Takes file [("x", .number (.int 2)), ("next", .null)] := by
  obtain ⟨file, hfile⟩ := takesSamples_inferValues {} {}
    (by decide +kernel) (by decide) distinctKeys_numberChain
  obtain ⟨d, hd, hname, htakes⟩ := hfile.takes ⟨0⟩ _ rfl
  exact ⟨file, hfile.read, d, hd, hname, htakes _ (List.mem_of_getElem? (i := 1) rfl)⟩

/-! ### Names that are left open -/

section Rejects
variable {file : List StructDecl} {d : StructDecl} (hd : d ∈ file)
include hd

/-- A type that begins with the name of a struct is that struct, or nothing. -/
theorem not_accepts_path {path : List String} (hpath : path.head? = some d.name) {x : Json}
    (hx : ∀ members, x ≠ .object members) : ¬Accepts file (.path path) x := by
  intro h
  generalize he : TypeExpr.path path = e at h
  cases h with
  | bool hbuiltin | int32 hbuiltin | int64 hbuiltin | float64 hbuiltin | string hbuiltin
  | value hbuiltin =>
    cases he
    exact hbuiltin d hd hpath
  | struct => exact hx _ rfl
  | _ => cases he

theorem not_accepts_map (hname : d.name = "std") {e : TypeExpr} {x : Json} :
    ¬Accepts file (.apply₂ mapPath (.path ["String"]) e) x := by
  intro h
  cases h with
  | map hbuiltin => exact hbuiltin d hd (hname ▸ rfl)

end Rejects

/-- A struct that is alone in its file rejects an object with a value that its field rejects. -/
theorem not_accepts_alone {d : StructDecl} {f : FieldDecl} (hf : f ∈ d.fields) {x : Json}
    (hx : ¬Accepts [d] f.type x) {members : List (String × Json)} (hmem : (f.key, x) ∈ members) :
    ¬Accepts [d] (.path [d.name]) (.object members) := by
  intro h
  generalize he : TypeExpr.path [d.name] = e at h
  cases h with
  | value => exact absurd (congrArg List.length (TypeExpr.path.inj he)) (by simp [valuePath])
  | @struct d' _ hd' hvalues _ =>
    cases List.mem_singleton.mp hd'
    exact hx (hvalues f hf _ hmem rfl)
  | _ => cases he

/-- A model with a single class is rejected if one of its objects is. -/
theorem not_takesSamples_alone {m : TypeModel} {s : Settings} {samples : List Json} {d : StructDecl}
    (hread : structsOf? m s = some [d]) (hclass : (m.class? ⟨0⟩).isSome = true) {f : FieldDecl}
    (hf : f ∈ d.fields) {x : Json} (hx : ¬Accepts [d] f.type x) {members : List (String × Json)}
    (hmem : (f.key, x) ∈ members) (hmembers : members ∈ m.objectsOf samples ⟨0⟩) :
    ¬∃ file, TakesSamples m s samples file := by
  rintro ⟨file, h⟩
  cases hread.symm.trans h.read
  obtain ⟨c, hc⟩ := Option.isSome_iff_exists.mp hclass
  obtain ⟨_, hd, _, htakes⟩ := h.takes ⟨0⟩ c hc
  cases hd
  exact not_accepts_alone hf hx hmem (htakes members hmembers).accepts

def named (name : String) : Settings where
  rootName := name

/-- The struct that is written for the chain under this name. -/
def intStruct : StructDecl where
  name := "i32"
  fields := [⟨"x", false, .path ["i32"]⟩, ⟨"next", true, .apply ["Option"] (.apply ["Box"] (.path ["i32"]))⟩]

/-- The struct of the chain takes the name of the type of its numbers. Were the name to denote numbers
everywhere, the objects in the other field would be rejected in their place. -/
theorem not_takesSamples_numberChain :
    structsOf? (inferValues (named "i32") numberChain) (named "i32") = some [intStruct] ∧
      ¬∃ file, TakesSamples (inferValues (named "i32") numberChain) (named "i32")
        (Inference.samplesOf numberChain) file := by
  have hroot : IsIdentifierText (named "i32").rootName := by decide +kernel
  have hread : structsOf? (inferValues (named "i32") numberChain) (named "i32") = some [intStruct] := by
    rw [structsOf?_inferValues hroot distinctKeys_numberChain]
    decide +kernel
  have hnumber : ¬Accepts [intStruct] (.path ["i32"]) (.number (.int 1)) :=
    not_accepts_path (List.mem_singleton_self intStruct) rfl nofun
  exact ⟨hread, not_takesSamples_alone (f := ⟨"x", false, .path ["i32"]⟩) hread rfl (.head _) hnumber
    (.head _) (List.mem_of_getElem? (i := 0) rfl)⟩

/-- One object with one field. -/
def oneField (x : Json) : List Json := [.object [("x", x)]]

/-- The object is rejected if the struct that is written for it rejects the value of the field. -/
theorem not_takesSamples_oneField {name : String} (hroot : IsIdentifierText name) {x : Json}
    (hx : x.DistinctKeys) {f : FieldDecl} (hkey : f.key = "x")
    (hstructs : (inferValues (named name) (oneField x)).classes.map
      (structOf (inferValues (named name) (oneField x))) = [⟨name, [f]⟩])
    (hobjects : [("x", x)] ∈ (inferValues (named name) (oneField x)).objectsOf (oneField x) ⟨0⟩)
    (hreject : ¬Accepts [⟨name, [f]⟩] f.type x) :
    ∃ documents : List Json, (∀ d ∈ documents, d.DistinctKeys) ∧
      ¬∃ file, TakesSamples (inferValues (named name) documents) (named name)
        (Inference.samplesOf documents) file := by
  have hdistinct : ∀ d ∈ oneField x, d.DistinctKeys := by
    simpa [oneField, Json.distinctKeys_object] using hx
  have hread := structsOf?_inferValues (s := named name) hroot hdistinct (named name)
  rw [hstructs] at hread
  have hclass : ((inferValues (named name) (oneField x)).class? ⟨0⟩).isSome = true := by
    cases hclasses : (inferValues (named name) (oneField x)).classes with
    | nil =>
      rw [hclasses] at hstructs
      cases hstructs
    | cons c classes => simp [TypeModel.class?, hclasses]
  exact ⟨oneField x, hdistinct, not_takesSamples_alone hread hclass (List.mem_singleton_self f) hreject
    (hkey ▸ List.mem_singleton_self _) hobjects⟩

/-- Under each of the names that are left open, some samples are rejected. -/
theorem exists_not_takesSamples {name : String} (hname : name ∈ unreservedNames) :
    ∃ documents : List Json, (∀ d ∈ documents, d.DistinctKeys) ∧
      ¬∃ file, TakesSamples (inferValues (named name) documents) (named name)
        (Inference.samplesOf documents) file := by
  have hall : ∀ name ∈ unreservedNames, IsIdentifierText name := by decide +kernel
  have hroot := hall name hname
  have hpath {f : FieldDecl} {path : List String} (h : path.head? = some name) {x : Json}
      (hx : ∀ members, x ≠ .object members) : ¬Accepts [⟨name, [f]⟩] (.path path) x :=
    not_accepts_path (List.mem_singleton_self _) h hx
  simp only [unreservedNames, List.mem_cons, List.not_mem_nil, or_false] at hname
  rcases hname with rfl | rfl | rfl | rfl | rfl | rfl
  · exact not_takesSamples_oneField hroot (.bool true) (f := ⟨"x", false, .path ["bool"]⟩) rfl
      (by decide +kernel) (.head _) (hpath rfl nofun)
  · exact not_takesSamples_oneField hroot (.number (.int (2 ^ 64))) (f := ⟨"x", false, .path ["f64"]⟩)
      rfl (by decide +kernel) (.head _) (hpath rfl nofun)
  · exact not_takesSamples_oneField hroot (.number (.int 1)) (f := ⟨"x", false, .path ["i32"]⟩) rfl
      (by decide +kernel) (.head _) (hpath rfl nofun)
  · exact not_takesSamples_oneField hroot (.number (.int (2 ^ 32))) (f := ⟨"x", false, .path ["i64"]⟩)
      rfl (by decide +kernel) (.head _) (hpath rfl nofun)
  · exact not_takesSamples_oneField hroot .null (f := ⟨"x", true, .path valuePath⟩) rfl
      (by decide +kernel) (.head _) (hpath rfl nofun)
  · have hkeys : (Json.object [("17", .bool true)]).DistinctKeys := by
      simp [Json.distinctKeys_object, Json.DistinctKeys.bool]
    exact not_takesSamples_oneField hroot hkeys
      (f := ⟨"x", false, .apply₂ mapPath (.path ["String"]) (.path ["bool"])⟩) rfl
      (by decide +kernel) (.head _) (not_accepts_map (List.mem_singleton_self _) rfl)

end Specimen.Source.Rust
