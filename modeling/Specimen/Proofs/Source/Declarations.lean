import Specimen.Proofs.Inference.Exactness
import Specimen.Proofs.Source.Members

/-! The names that the body of a class declares in TypeScript source: those of its fields, which are its keys, and
those of the constructor and of the method that gives the data back. The keys of a class are distinct, and so are
their spellings, so that two members have one name just if a key is the name of one of these two
(`memberNames_distinct_iff`). -/
namespace Specimen.Source.TypeScript
open Text

/-! ### Reading declarations -/

/-- A modifier stands before a name; a member that is itself called so has none. -/
def skipModifier : List Token → List Token
  | .name "public" :: .name name :: rest => .name name :: rest
  | tokens => tokens

/-- The name of the constructor or method that a line begins. -/
def method? (tokens : List Token) : Option String :=
  match readName (skipModifier tokens) with
  | some (name, .mark '(' :: _) => some name
  | _ => none

def methods (lines : List String) : List String := (lines.map lineTokens).filterMap method?

def Statement.declared? : Statement → Option String
  | .declares key => some key
  | _ => none

/-- The names of the fields, and those of the constructor and the methods, in the lines of a class. -/
def memberNamesOf (lines : List String) : List String :=
  (statementsOf lines).filterMap Statement.declared? ++ methods (lines.drop 1)

/-! ### Lines without a method -/

theorem methods_append (lines lines' : List String) :
    methods (lines ++ lines') = methods lines ++ methods lines' := by
  rw [methods, List.map_append, List.filterMap_append]
  rfl

theorem methods_eq_nil {lines : List String} (h : ∀ line ∈ lines, method? (lineTokens line) = none) :
    methods lines = [] := by
  rw [methods, List.filterMap_map, List.filterMap_eq_nil_iff]
  exact h

/-- What does not begin with a name has no modifier in front of it. -/
theorem method?_of_readName_none {tokens : List Token} (h : readName tokens = none) :
    method? tokens = none := by
  have hskip : skipModifier tokens = tokens := by
    unfold skipModifier
    split
    · cases h
    · rfl
  rw [method?, hskip, h]

/-- A name is no method if a mark other than the bracket comes after it. -/
theorem method?_of_readName {tokens rest : List Token} {name : String} {c : Char}
    (h : readName tokens = some (name, .mark c :: rest)) (hc : c ≠ '(') : method? tokens = none := by
  have hskip : skipModifier tokens = tokens := by
    unfold skipModifier
    split
    · cases h
    · rfl
  rw [method?, hskip, h]
  simp [hc]

/-- An object and a member of it are no method. -/
theorem method?_memberAccess (name key : String) {rest : List Char} (hrest : EndsName rest) :
    method? (.name name :: scan .between ((memberAccess key).toList ++ rest)) = none := by
  unfold memberAccess
  split
  case isTrue h =>
    rw [scan_dotted key hrest h]
    exact method?_of_readName rfl (by decide)
  case isFalse =>
    rw [scan_bracketed]
    exact method?_of_readName rfl (by decide)

section Lines
variable (m : TypeModel) (s : Settings) (scope : Option String) (f : FieldInfo)

theorem method?_constructorLine : method? (lineTokens (constructorLine m scope f)) = none := by
  have hline : ∃ rest, (constructorLine m scope f).toList = ("        " ++ "this").toList ++
      ((memberAccess f.sourceName).toList ++ (" = data?".toList ++ rest)) := by
    unfold constructorLine
    simp only [String.toList_append, List.append_assoc]
    exact ⟨_, rfl⟩
  obtain ⟨rest, hline⟩ := hline
  have hends : EndsName (" = data?".toList ++ rest) := fun c hc => by cases hc; decide
  rw [lineTokens, hline, scan_member (by decide)]
  exact method?_memberAccess "this" f.sourceName hends

theorem method?_serviceLine : method? (lineTokens (serviceLine f)) = none := by
  have hline : ∃ rest, (serviceLine f).toList = ("        " ++ "obj").toList ++
      ((memberAccess f.sourceName).toList ++ (" = this".toList ++ rest)) := by
    unfold serviceLine
    simp only [String.toList_append, List.append_assoc]
    exact ⟨_, rfl⟩
  obtain ⟨rest, hline⟩ := hline
  have hends : EndsName (" = this".toList ++ rest) := fun c hc => by cases hc; decide
  rw [lineTokens, hline, scan_member (by decide)]
  exact method?_memberAccess "obj" f.sourceName hends

theorem method?_declarationLine (type : String) : method? (lineTokens ("    " ++
    memberName f.sourceName ++ (if f.nullable then "?" else "") ++ ": " ++ type ++ ";")) = none := by
  have hmark (more : List Char) : ∃ c rest, c ≠ '(' ∧
      EndsName ((if f.nullable then "?" else "").toList ++ (": ".toList ++ more)) ∧
      scan .between ((if f.nullable then "?" else "").toList ++ (": ".toList ++ more)) =
        .mark c :: rest := by
    cases f.nullable with
    | false => exact ⟨':', _, by decide, fun c hc => by cases hc; decide, rfl⟩
    | true => exact ⟨'?', _, by decide, fun c hc => by cases hc; decide, rfl⟩
  have hline : ("    " ++ memberName f.sourceName ++ (if f.nullable then "?" else "") ++ ": " ++ type ++
      ";").toList = "    ".toList ++ ((memberName f.sourceName).toList ++
        ((if f.nullable then "?" else "").toList ++ (": ".toList ++ (type ++ ";").toList))) := by
    simp only [String.toList_append, List.append_assoc]
  have hblank (cs : List Char) : scan .between ("    ".toList ++ cs) = scan .between cs := rfl
  obtain ⟨c, rest, hc, hends, hscan⟩ := hmark (type ++ ";").toList
  have hname := readName_memberName f.sourceName hends
  rw [hscan] at hname
  rw [lineTokens, hline, hblank]
  cases h : isOneLine f.sourceName with
  | false =>
    rw [h] at hname
    exact method?_of_readName_none hname
  | true =>
    rw [h] at hname
    exact method?_of_readName hname hc

theorem method?_fieldLines {line : String} (h : line ∈ fieldLines m s scope f) :
    method? (lineTokens line) = none := by
  rw [fieldLines, List.mem_append, List.mem_singleton] at h
  rcases h with h | rfl
  · split at h
    · have hexamples : method? (lineTokens ("     * Examples: " ++ examplesText s f)) = none := by
        rw [lineTokens, String.toList_append]
        rfl
      simp only [List.mem_cons, List.not_mem_nil, or_false] at h
      rcases h with rfl | rfl | rfl | rfl
      · rfl
      · rfl
      · exact hexamples
      · rfl
    · cases h
  · exact method?_declarationLine f _

end Lines

theorem methods_indent (lines : List String) : methods (indent lines) = methods lines := by
  rw [methods, indent, List.map_map, methods]
  refine congrArg _ (List.map_congr_left fun line _ => ?_)
  rw [Function.comp]
  split
  · rfl
  · exact lineTokens_indent line

/-- The body of a class begins the constructor and one method. -/
theorem methods_typeLines (m : TypeModel) (s : Settings) (c : ClassDef) :
    methods ((writer.typeLines m s c).drop 1) = ["constructor", "toService"] := by
  have hlines : methods ((writer.typeLines m s c).drop 1) = methods ((classLines m s c).drop 1) := by
    change methods ((inNamespace s c.isRoot (classLines m s c)).drop 1) = _
    unfold inNamespace
    split
    · rw [indent, ← List.map_drop, ← indent, methods_indent]
    · rfl
  have hdrop : (classLines m s c).drop 1 = c.fields.flatMap (fieldLines m s (scopeOf s c)) ++
      (["", "    constructor(data?: any) \x7b"] ++ (c.fields.map (constructorLine m (scopeOf s c)) ++
        (["    \x7d", "", "    public toService(): any \x7b", "        const obj: any = \x7b\x7d;"] ++
          (c.fields.map serviceLine ++ ["        return obj;", "    \x7d", "\x7d", ""])))) := by
    simp [classLines]
  have hfields : methods (c.fields.flatMap (fieldLines m s (scopeOf s c))) = [] :=
    methods_eq_nil fun line hline => by
      obtain ⟨f, _, hline⟩ := List.mem_flatMap.mp hline
      exact method?_fieldLines m s _ f hline
  have hloads : methods (c.fields.map (constructorLine m (scopeOf s c))) = [] :=
    methods_eq_nil (List.forall_mem_map.mpr fun f _ => method?_constructorLine m _ f)
  have hstores : methods (c.fields.map serviceLine) = [] :=
    methods_eq_nil (List.forall_mem_map.mpr fun f _ => method?_serviceLine f)
  have hconstructor : methods ["", "    constructor(data?: any) \x7b"] = ["constructor"] := by decide
  have hservice : methods ["    \x7d", "", "    public toService(): any \x7b",
      "        const obj: any = \x7b\x7d;"] = ["toService"] := by decide
  have hend : methods ["        return obj;", "    \x7d", "\x7d", ""] = [] := by decide
  simp only [hlines, hdrop, methods_append, hfields, hloads, hstores, hconstructor, hservice, hend,
    List.nil_append, List.append_nil, List.singleton_append]

theorem memberNamesOf_typeLines (m : TypeModel) (s : Settings) (c : ClassDef) :
    memberNamesOf (writer.typeLines m s c) =
      (c.fields.map FieldInfo.sourceName).filter isOneLine ++ ["constructor", "toService"] := by
  have hdeclares (keys : List String) :
      (keys.map Statement.declares).filterMap Statement.declared? = keys := by
    rw [List.filterMap_map]
    exact List.filterMap_some
  have hloads (keys : List String) :
      (keys.map fun key => Statement.loads key key).filterMap Statement.declared? = [] := by
    rw [List.filterMap_map, List.filterMap_eq_nil_iff]
    exact fun _ _ => rfl
  have hstores (keys : List String) :
      (keys.map fun key => Statement.stores key key).filterMap Statement.declared? = [] := by
    rw [List.filterMap_map, List.filterMap_eq_nil_iff]
    exact fun _ _ => rfl
  rw [memberNamesOf, statementsOf_typeLines, methods_typeLines, List.filterMap_append,
    List.filterMap_append, hdeclares, hloads, hstores, List.append_nil, List.append_nil]

/-! ### Names in common -/

/-- Keys that are distinct are told apart from the names of the methods by those two alone. -/
theorem nodup_members_iff {keys : List String} (h : keys.Nodup) :
    (keys.filter isOneLine ++ ["constructor", "toService"]).Nodup ↔
      "constructor" ∉ keys ∧ "toService" ∉ keys := by
  have hkeys : (keys.filter isOneLine).Nodup := h.filter _
  have hgenerated : ["constructor", "toService"].Nodup := by decide
  have honeLine : isOneLine "constructor" = true ∧ isOneLine "toService" = true := by decide
  rw [List.nodup_append', and_iff_right hkeys, and_iff_right hgenerated, List.disjoint_comm,
    List.disjoint_cons_left, List.singleton_disjoint]
  simp only [List.mem_filter, honeLine, and_true]

/-- The keys of a class, as far as they are in one line, are the names of its fields, no two of which are spelled
alike. Beside them are the constructor and one method. So the members of a class have distinct names just if no
key is the name of these. -/
theorem memberNames_distinct_iff (s s' : Settings) {documents : List Json}
    (h : ∀ d ∈ documents, d.DistinctKeys) {c : ClassDef} (hc : c ∈ (inferValues s documents).classes) :
    (memberNamesOf (writer.typeLines (inferValues s documents) s' c) =
      (c.fields.map FieldInfo.sourceName).filter isOneLine ++ ["constructor", "toService"]) ∧
      (c.fields.map fun f => memberName f.sourceName).Nodup ∧
      ((memberNamesOf (writer.typeLines (inferValues s documents) s' c)).Nodup ↔
        "constructor" ∉ c.fields.map FieldInfo.sourceName ∧
          "toService" ∉ c.fields.map FieldInfo.sourceName) := by
  have hmembers := memberNamesOf_typeLines (inferValues s documents) s' c
  have hkeys := nodup_sourceNames_inferValues s h hc
  refine ⟨hmembers, ?_, ?_⟩
  · have hspelled := hkeys.map memberName_injective
    rwa [List.map_map] at hspelled
  · rw [hmembers]
    exact nodup_members_iff hkeys

/-- An object whose keys are spelled with quotes, in capitals, and like a modifier. -/
def spelledMembers : List Json :=
  [.object [("first-name", .null), ("Constructor", .bool true), ("public", .string "x")]]

theorem memberNames_distinct_iff_spelledMembers :
    (∀ d ∈ spelledMembers, d.DistinctKeys) ∧
      ∃ c ∈ (inferValues {} spelledMembers).classes,
        memberNamesOf (writer.typeLines (inferValues {} spelledMembers) {} c) =
          ["first-name", "Constructor", "public", "constructor", "toService"] ∧
        (memberNamesOf (writer.typeLines (inferValues {} spelledMembers) {} c)).Nodup := by
  have hdistinct : ∀ d ∈ spelledMembers, d.DistinctKeys := by
    simp [spelledMembers, Json.distinctKeys_object, Json.DistinctKeys.null, Json.DistinctKeys.bool,
      Json.DistinctKeys.string]
  refine ⟨hdistinct, _, .head _, ?_, ?_⟩
  · exact (memberNames_distinct_iff {} {} hdistinct (.head _)).1
  · exact (memberNames_distinct_iff {} {} hdistinct (.head _)).2.2.mpr (by decide +kernel)

/-- An object with the names of the constructor and the method among its keys. -/
def generatedKeys : List Json := [.object [("constructor", .bool true), ("toService", .null)]]

/-- Each of the two names is declared twice. -/
theorem not_nodup_members_generatedKeys :
    (inferValues {} generatedKeys).classes.map (fun c => c.fields.map FieldInfo.sourceName) =
        [["constructor", "toService"]] ∧
      (inferValues {} generatedKeys).classes.map
        (fun c => memberNamesOf (writer.typeLines (inferValues {} generatedKeys) {} c)) =
          [["constructor", "toService", "constructor", "toService"]] ∧
      ¬ ["constructor", "toService", "constructor", "toService"].Nodup := by
  decide +kernel

end Specimen.Source.TypeScript
