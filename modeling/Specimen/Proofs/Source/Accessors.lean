import Specimen.Inference
import Specimen.Proofs.Source.FieldNames

/-! The methods of a struct in Rust source.

For each field there is a method by the name of the field, which gives its value, and one that sets it, by the
name with `set_` in front (`methodsOf_typeLines`). The fields have distinct names, and so have the methods that
set them; but a field can be named like the method that sets another one. That is the only way in which two
methods have one name (`nodup_methods_iff`), and it takes a key that begins like such a name
(`bare_ne_setterName`). -/
namespace Specimen.Source.Rust
open Text

/-! ### Methods, line by line -/

/-- The name of the method that is declared. -/
def method? (tokens : List Token) : Option String :=
  match skipVisibility tokens with
  | .word "fn" :: ident :: .mark '(' :: _ => fieldName? ident
  | _ => none

/-- The names of the methods in the definition of a struct. A raw identifier is the name without its mark. -/
def methodsOf (lines : List String) : List String := (lines.map lineTokens).filterMap method?

def setterName (ident : Ident) : String := "set_" ++ ident.bare

theorem methodsOf_append (lines lines' : List String) :
    methodsOf (lines ++ lines') = methodsOf lines ++ methodsOf lines' := by
  rw [methodsOf, List.map_append, List.filterMap_append]
  rfl

theorem methodsOf_flatMap {α : Type} (f : α → List String) (l : List α) :
    methodsOf (l.flatMap f) = l.flatMap fun a => methodsOf (f a) := by
  induction l with
  | nil => rfl
  | cons a l ih => rw [List.flatMap_cons, methodsOf_append, ih, List.flatMap_cons]

theorem methodsOf_intercalate (blocks : List (List String)) :
    methodsOf (List.intercalate [""] blocks) = blocks.flatMap methodsOf := by
  induction blocks with
  | nil => rfl
  | cons block blocks ih =>
    cases blocks with
    | nil => simp
    | cons next blocks =>
      have hempty : methodsOf [""] = [] := rfl
      rw [List.intercalate_cons_cons, methodsOf_append, methodsOf_append, ih, hempty, List.append_nil]
      rfl

theorem methodsOf_inNamespace (s : Settings) (root : Bool) (lines : List String) :
    methodsOf (inNamespace s root lines) = methodsOf lines := by
  rw [methodsOf, map_lineTokens_inNamespace, ← methodsOf]

/-! ### What is written -/

theorem isName_setterName {ident : Ident} (h : ident.Valid) : IsName (setterName ident) := by
  refine ⟨by simp [setterName, String.append_eq_empty_iff], fun c hc => ?_⟩
  rw [setterName, String.toList_append, List.mem_append] at hc
  rcases hc with hc | hc
  · have hall : "set_".toList.all isNameChar = true := by decide +kernel
    exact List.all_eq_true.mp hall c hc
  · exact h.word.chars c hc

/-- No keyword is the name of a method that sets a field. -/
theorem fieldName?_setterName (ident : Ident) :
    fieldName? (.word (setterName ident)) = some (setterName ident) := by
  have hother {words : List String} (h : words.all (fun word => !word.startsWith "set_") = true) :
      setterName ident ∉ words := by
    intro hmem
    have hno := List.all_eq_true.mp h _ hmem
    rw [Bool.not_eq_true', ← Bool.not_eq_true, String.startsWith_string_iff, setterName,
      String.toList_append] at hno
    exact hno (List.prefix_append _ _)
  have hstrict : setterName ident ∉ strictKeywords := hother (by decide +kernel)
  have hpath : setterName ident ∉ pathKeywords := hother (by decide +kernel)
  have hunderscore : setterName ident ∉ ["_"] := hother (by decide +kernel)
  have hhead : (setterName ident).toList.head? = some 's' := by
    rw [setterName, String.toList_append]
    rfl
  have hdigit : isAsciiDigit 's' = false := by decide
  simp [fieldName?, isIdentifier, hstrict, hpath, hhead, hdigit, List.mem_singleton.not.mp hunderscore]

theorem method?_declaration (s : Settings) {ident : Token} (rest : List Token) :
    method? (visibilityTokens s ++ .word "fn" :: ident :: .mark '(' :: rest) = fieldName? ident := by
  rw [method?, skipVisibility_word (visibilityTokens_mem s) (by decide)]
  rfl

/-- A field is no method, since no field has a keyword as its name. -/
theorem method?_field {vis : List Token} (hvis : vis ∈ visibilities) {ident : Ident} (h : ident.Valid)
    (rest : List Token) : method? (vis ++ ident.token :: rest) = none := by
  have hname := h.fieldName
  rw [method?, skipVisibility_tokens hvis hname]
  split
  case h_1 heq =>
    rw [(List.cons.inj heq).1] at hname
    cases hname
  case h_2 => rfl

section Accessors
variable (m : TypeModel) (s : Settings) (c : ClassDef)

/-- A method is declared after its visibility, whatever it takes and gives. -/
theorem method?_lineTokens {name : String} {token : Token} (hname : fieldName? token = some name)
    {text : String} (htext : ∀ rest, scan .between (text.toList ++ '(' :: rest) =
      token :: scan .between ('(' :: rest)) {line : String} {rest : List Char}
    (hline : line.toList =
      "    ".toList ++ ((visibility s).toList ++ ("fn ".toList ++ (text.toList ++ '(' :: rest)))) :
    method? (lineTokens line) = some name := by
  have hspace (cs : List Char) : scan .between ("    ".toList ++ cs) = scan .between cs := rfl
  have hfn (cs : List Char) : scan .between ("fn ".toList ++ cs) = .word "fn" :: scan .between cs := rfl
  have hopen (cs : List Char) : scan .between ('(' :: cs) = .mark '(' :: scan .between cs := rfl
  rw [lineTokens, hline]
  simp only [List.append_assoc, List.cons_append]
  rw [hspace, scan_visibility, hfn, htext, hopen, method?_declaration, hname]

theorem methodsOf_accessorLines (f : FieldInfo) {ident : Ident} (h : ident.Valid) :
    methodsOf (accessorLines m s c f ident) = [ident.bare, setterName ident] := by
  have hends : EndsWord '(' := ⟨by decide, by decide⟩
  have hgetterLine : ("    " ++ visibility s ++ "fn " ++ ident.text ++ "(&self) -> &" ++ fieldType m c f ++
      " \x7b").toList = "    ".toList ++ ((visibility s).toList ++ ("fn ".toList ++ (ident.text.toList ++
        '(' :: ("&self) -> &".toList ++ (fieldType m c f ++ " \x7b").toList)))) := by
    simp [String.toList_append]
  have hgetter : method? (lineTokens ("    " ++ visibility s ++ "fn " ++ ident.text ++ "(&self) -> &" ++
      fieldType m c f ++ " \x7b")) = some ident.bare :=
    method?_lineTokens s h.fieldName (h.scan_text hends) hgetterLine
  have hsetterLine : ("    " ++ visibility s ++ "fn set_" ++ ident.bare ++ "(&mut self, value: " ++
      fieldType m c f ++ ") \x7b").toList = "    ".toList ++ ((visibility s).toList ++ ("fn ".toList ++
        ((setterName ident).toList ++
          '(' :: ("&mut self, value: ".toList ++ (fieldType m c f ++ ") \x7b").toList)))) := by
    simp [setterName, String.toList_append]
  have hsetter : method? (lineTokens ("    " ++ visibility s ++ "fn set_" ++ ident.bare ++
      "(&mut self, value: " ++ fieldType m c f ++ ") \x7b")) = some (setterName ident) :=
    method?_lineTokens s (fieldName?_setterName ident) (scan_word (isName_setterName h) hends) hsetterLine
  have hvalue : method? (lineTokens ("        &self." ++ ident.text)) = none := by
    rw [lineTokens, String.toList_append]
    rfl
  have hassignment : method? (lineTokens ("        self." ++ ident.text ++ " = value;")) = none := by
    rw [lineTokens, String.append_assoc, String.toList_append]
    rfl
  have hclose : method? (lineTokens "    \x7d") = none := rfl
  have hempty : method? (lineTokens "") = none := rfl
  simp only [methodsOf, accessorLines, List.map_cons, List.map_nil, List.filterMap_cons, List.filterMap_nil,
    hgetter, hsetter, hvalue, hassignment, hclose, hempty]

theorem methodsOf_fieldLines (f : FieldInfo) {ident : Ident} (h : ident.Valid) :
    methodsOf (fieldLines m s c f ident) = [] := by
  have hexamples : methodsOf (if showsExamples s f then
      ["    /// Examples: " ++ String.intercalate ", " ((shownExamples s f).map Json.compact)]
      else []) = [] := by
    split
    · rw [methodsOf, List.map_singleton, lineTokens_of_scansTo (scansTo_examples _)]
      rfl
    · rfl
  have hrename : methodsOf (if ident.bare != f.sourceName then
      ["    #[serde(rename = " ++ quoted f.sourceName ++ ")]"] else []) = [] := by
    split
    · rw [methodsOf, List.map_singleton, lineTokens_of_scansTo (scansTo_rename _)]
      rfl
    · rfl
  have hmissing : methodsOf (missingLines f (fieldType m c f)) = [] := by
    unfold missingLines
    split
    · rfl
    · split <;> rfl
  have hvis : (if s.useProperties then [] else visibilityTokens s) ∈ visibilities := by
    split
    · exact .head _
    · exact visibilityTokens_mem s
  have hdeclaration : methodsOf ["    " ++ (if s.useProperties then "" else visibility s) ++ ident.text ++
      ": " ++ fieldType m c f ++ ","] = [] := by
    rw [methodsOf, List.map_singleton, lineTokens, String.toList_append, String.toList_append,
      List.append_assoc, List.append_assoc, scan_declaration s h, List.filterMap_cons,
      method?_field hvis h]
    rfl
  simp only [fieldLines, methodsOf_append, hexamples, hrename, hmissing, hdeclaration, List.append_nil]

theorem methodsOf_fields : methodsOf ((c.fields.zip (fieldIdents c)).flatMap fun (f, ident) =>
    fieldLines m s c f ident) = [] := by
  rw [methodsOf_flatMap, List.flatMap_eq_nil_iff]
  exact fun p hp => methodsOf_fieldLines m s c p.1 (valid_of_mem_zip hp)

theorem methodsOf_accessors :
    ((c.fields.zip (fieldIdents c)).map fun (f, ident) => accessorLines m s c f ident).flatMap methodsOf =
      (fieldIdents c).flatMap fun ident => [ident.bare, setterName ident] := by
  calc ((c.fields.zip (fieldIdents c)).map fun (f, ident) => accessorLines m s c f ident).flatMap methodsOf
      = (c.fields.zip (fieldIdents c)).flatMap fun p => [p.2.bare, setterName p.2] := by
        rw [List.flatMap_map]
        exact List.flatMap_congr fun p hp => methodsOf_accessorLines m s c p.1 (valid_of_mem_zip hp)
    _ = ((c.fields.zip (fieldIdents c)).map Prod.snd).flatMap
          fun ident => [ident.bare, setterName ident] := by
        rw [List.flatMap_map]
    _ = (fieldIdents c).flatMap fun ident => [ident.bare, setterName ident] := by
        rw [List.map_snd_zip (length_fieldIdents c).le]

theorem methodsOf_accessorBlock : methodsOf (accessorBlock m s c) =
    if s.useProperties then (fieldIdents c).flatMap fun ident => [ident.bare, setterName ident] else [] := by
  have hopening : methodsOf ["", "impl " ++ c.name ++ " \x7b"] = [] := by
    rw [methodsOf, List.map_cons, List.map_singleton, lineTokens, lineTokens, String.append_assoc,
      String.toList_append]
    rfl
  have hclose : methodsOf ["\x7d"] = [] := rfl
  rw [← methodsOf_accessors m s c, accessorBlock]
  generalize (c.fields.zip (fieldIdents c)).map (fun (f, ident) => accessorLines m s c f ident) = blocks
  cases s.useProperties with
  | false => rfl
  | true =>
    cases blocks with
    | nil => rfl
    | cons block blocks =>
      simp only [List.isEmpty_cons, Bool.not_false, Bool.and_self, if_true, methodsOf_append, hopening, hclose,
        methodsOf_intercalate, List.nil_append, List.append_nil]

theorem methodsOf_typeLines : methodsOf (writer.typeLines m s c) =
    if s.useProperties then (fieldIdents c).flatMap fun ident => [ident.bare, setterName ident] else [] := by
  have hopening : methodsOf ["#[derive(Debug, Clone, PartialEq, Serialize, Deserialize)]",
      visibility s ++ "struct " ++ c.name ++ " \x7b"] = [] := by
    have hother (rest : List Token) : method? (visibilityTokens s ++ .word "struct" :: rest) = none := by
      rw [method?, skipVisibility_word (visibilityTokens_mem s) (by decide)]
      rfl
    rw [methodsOf, List.map_cons, List.map_singleton, lineTokens, lineTokens, scan_structStart,
      List.filterMap_cons, List.filterMap_cons, hother]
    rfl
  have hclose : methodsOf ["\x7d"] = [] := rfl
  have hempty : methodsOf [""] = [] := rfl
  change methodsOf (inNamespace s c.isRoot (structLines m s c)) = _
  rw [methodsOf_inNamespace, structLines]
  simp only [methodsOf_append, hopening, methodsOf_fields, hclose, hempty, methodsOf_accessorBlock,
    List.nil_append, List.append_nil]

end Accessors

/-! ### Names in common -/

/-- Fields can be named like the methods that set other fields, and in no other way do two methods have one
name. -/
theorem nodup_methods_iff (c : ClassDef) :
    ((fieldIdents c).flatMap fun ident => [ident.bare, setterName ident]).Nodup ↔
      ∀ i ∈ fieldIdents c, ∀ j ∈ fieldIdents c, i.bare ≠ setterName j := by
  have hgetters := nodup_bare_fieldIdents c
  have hsetters : ((fieldIdents c).map setterName).Nodup := by
    have hinj : Function.Injective ("set_" ++ ·) := fun _ _ => (String.append_right_inj "set_").mp
    have hall := hgetters.map hinj
    rwa [List.map_map] at hall
  have hperm : ((fieldIdents c).map Ident.bare ++ (fieldIdents c).map setterName).Perm
      ((fieldIdents c).flatMap fun ident => [ident.bare, setterName ident]) := by
    rw [List.map_eq_flatMap, List.map_eq_flatMap]
    exact List.flatMap_append_perm ..
  rw [← hperm.nodup_iff, List.nodup_append', and_iff_right hgetters, and_iff_right hsetters,
    List.disjoint_left, List.forall_mem_map]
  refine forall₂_congr fun i _ => ?_
  rw [List.mem_map, not_exists]
  exact forall_congr' fun j => ⟨fun h hj heq => h ⟨hj, heq.symm⟩, fun h hj => h hj.1 hj.2.symm⟩

theorem head?_bare {c : ClassDef} {ident : Ident} (h : ident ∈ fieldIdents c) :
    ident.bare.toList.head?.any isAsciiDigit = false := by
  obtain ⟨word, hword, rfl⟩ := List.mem_map.mp h
  rw [bare_escapeKeyword]
  split
  case isTrue hpath =>
    have hall : ∀ word ∈ pathKeywords, (word ++ "_").toList.head?.any isAsciiDigit = false := by
      decide +kernel
    exact hall word hpath
  case isFalse => exact (isFieldWord_of_mem_spellings hword).plain.head

/-- A word with a number after it begins with `set_` only if the word does, or if the number is all that
follows. -/
theorem prefix_of_numbered {word digits name : List Char} (hdigits : ∀ c ∈ digits, isAsciiDigit c)
    (hne : digits ≠ []) (hname : name.head?.any isAsciiDigit = false)
    (h : word ++ '_' :: digits = "set_".toList ++ name) : "set_".toList <+: word := by
  have hlast : "set_".toList.getLast? = some '_' := rfl
  generalize "set_".toList = set at h hlast
  rcases List.append_eq_append_iff.mp h with ⟨rest, rfl, hnumber⟩ | ⟨rest, rfl, -⟩
  case inr => exact List.prefix_append _ _
  case inl =>
    cases rest with
    | nil => exact (List.append_nil word).symm ▸ List.prefix_rfl
    | cons c rest =>
      obtain ⟨rfl, rfl⟩ := List.cons.inj hnumber
      rcases List.eq_nil_or_concat' rest with rfl | ⟨rest, c, rfl⟩
      · obtain ⟨c, name, rfl⟩ := List.exists_cons_of_ne_nil hne
        simp [hdigits c (by simp)] at hname
      · rw [← List.cons_append, ← List.append_assoc, List.getLast?_concat] at hlast
        obtain rfl := Option.some.inj hlast
        exact absurd (hdigits '_' (by simp)) (by decide)

/-- The name of a field begins like that of a method that sets one only if its key does. The number after a
word does not bring it about, since no field is called by a number alone. -/
theorem bare_ne_setterName {c : ClassDef}
    (h : ∀ f ∈ c.fields, ¬ "set_".toList <+: (snakeCase f.sourceName).toList) {i j : Ident}
    (hi : i ∈ fieldIdents c) (hj : j ∈ fieldIdents c) : i.bare ≠ setterName j := by
  intro heq
  have hsetter : "set_".toList <+: i.bare.toList := by
    rw [heq, setterName, String.toList_append]
    exact List.prefix_append _ _
  rw [← List.map_snd_zip (length_fieldIdents c).le] at hi
  obtain ⟨⟨f, _⟩, hmem, rfl⟩ := List.mem_map.mp hi
  obtain ⟨n, hn⟩ := exists_of_mem_zip hmem
  have hstem : ¬ "set_".toList <+: (stemWord f.sourceName).toList := by
    unfold stemWord
    split
    · decide
    · exact h f (List.of_mem_zip hmem).1
  have hpath : numberedIdent (stemWord f.sourceName) n ∉ pathKeywords := by
    have hall : ∀ word ∈ pathKeywords, ¬ "set_".toList <+: (escapeKeyword word).bare.toList := by
      decide +kernel
    intro hword
    rw [hn] at hsetter
    exact hall _ hword hsetter
  rw [hn, bare_escapeKeyword, if_neg hpath] at heq hsetter
  cases n with
  | zero => exact hstem hsetter
  | succ n =>
    have hdigits : ∀ d ∈ digitsOf (n + 2), isAsciiDigit d = true := fun d => isAsciiDigit_of_mem_digitsOf
    refine hstem (prefix_of_numbered hdigits (List.ne_nil_of_length_pos Nat.length_toDigits_pos)
      (head?_bare hj) ?_)
    have hunder : "_".toList = ['_'] := rfl
    have hchars := congrArg String.toList heq
    rw [numberedIdent, setterName, decimal, String.toList_append, String.toList_append,
      String.toList_append, hunder, List.append_assoc, String.toList_ofList] at hchars
    exact hchars

/-- The struct of a class has a method for each field by its name and one that sets it, if there are to be
methods, and they have distinct names just if no field is named like a method that sets one. A class in which
no key comes to a word that begins with `set_` has no such field. -/
theorem accessors_distinct_iff (m : TypeModel) (s : Settings) (c : ClassDef) :
    (methodsOf (writer.typeLines m s c) =
      if s.useProperties then (fieldIdents c).flatMap fun ident => [ident.bare, setterName ident] else []) ∧
      ((methodsOf (writer.typeLines m s c)).Nodup ↔
        (s.useProperties = true → ∀ i ∈ fieldIdents c, ∀ j ∈ fieldIdents c, i.bare ≠ setterName j)) ∧
      ((∀ f ∈ c.fields, ¬ "set_".toList <+: (snakeCase f.sourceName).toList) →
        (methodsOf (writer.typeLines m s c)).Nodup) := by
  have hmethods := methodsOf_typeLines m s c
  have hdistinct : (methodsOf (writer.typeLines m s c)).Nodup ↔
      (s.useProperties = true → ∀ i ∈ fieldIdents c, ∀ j ∈ fieldIdents c, i.bare ≠ setterName j) := by
    rw [hmethods]
    cases s.useProperties with
    | false => exact iff_of_true .nil nofun
    | true => exact (nodup_methods_iff c).trans ⟨fun h _ => h, fun h => h rfl⟩
  exact ⟨hmethods, hdistinct, fun h => hdistinct.mpr fun _ i hi j hj => bare_ne_setterName h hi hj⟩

/-- An object with a key that is the name of the method for setting the other. -/
def keyAndSetter : List Json := [.object [("a", .number (.int 1)), ("set_a", .number (.int 2))]]

/-- Two methods of the struct have one name: that which sets `a` and that which gives `set_a`. -/
theorem not_nodup_methods_keyAndSetter :
    let s : Settings := { useProperties := true }
    (inferValues s keyAndSetter).classes.map (fun c => c.fields.map FieldInfo.sourceName) = [["a", "set_a"]] ∧
      (inferValues s keyAndSetter).classes.map
        (fun c => methodsOf (writer.typeLines (inferValues s keyAndSetter) s c)) =
          [["a", "set_a", "set_a", "set_set_a"]] ∧
      ¬ ["a", "set_a", "set_a", "set_set_a"].Nodup := by
  decide +kernel

end Specimen.Source.Rust
