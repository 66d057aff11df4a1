import Specimen.Proofs.Source.Reading

/-! The names of fields in Rust source.

The fields of a class are named one after another, each by the first spelling that no field before it has;
the loop that looks for it ends (`assigns_iff`). Keywords are escaped afterwards. No spelling ends in an
underscore, so that what is escaped by one is no other spelling, and the names stay distinct also as raw
identifiers (`nodup_bare_fieldIdents`). Whatever else is written into the definition of a class, each field is
read from its own key (`keysOf_typeLines`). -/
namespace Specimen.Source.Rust
open Text

/-! ### Free spellings -/

theorem numberedIdent_injective (base : String) : Function.Injective (numberedIdent base) := by
  have hlong (n : Nat) : base ≠ numberedIdent base (n + 1) := by
    intro h
    have hlength := congrArg (fun s : String => s.toList.length) h
    simp [numberedIdent, String.toList_append] at hlength
  intro m n h
  cases m with
  | zero =>
    cases n with
    | zero => rfl
    | succ n => exact absurd h (hlong n)
  | succ m =>
    cases n with
    | zero => exact absurd h.symm (hlong m)
    | succ n => exact numbered_injective (base ++ "_") h

/-- From the n-th spelling on, the first that is not taken is the word. -/
inductive Tries (taken : List String) (base : String) : Nat → String → Prop where
  | free {n} (h : numberedIdent base n ∉ taken) : Tries taken base n (numberedIdent base n)
  | next {n word} (h : numberedIdent base n ∈ taken) (hrest : Tries taken base (n + 1) word) :
    Tries taken base n word

section Tries
variable {taken : List String} {base word : String} {n : Nat}

theorem Tries.unique (h : Tries taken base n word) {other : String} (h' : Tries taken base n other) :
    word = other := by
  induction h with
  | free hfree =>
    cases h' with
    | free => rfl
    | next htaken => exact absurd htaken hfree
  | next htaken _ ih =>
    cases h' with
    | free hfree => exact absurd htaken hfree
    | next _ hrest => exact ih hrest

theorem Tries.not_mem (h : Tries taken base n word) : word ∉ taken := by
  induction h with
  | free hfree => exact hfree
  | next _ _ ih => exact ih

theorem Tries.exists_numberedIdent (h : Tries taken base n word) : ∃ k, word = numberedIdent base k := by
  induction h with
  | free => exact ⟨_, rfl⟩
  | next _ _ ih => exact ih

/-- The loop ends if some spelling is free, with the first one that is. -/
theorem tries_of_free (hfree : numberedIdent base n ∉ taken)
    (htaken : ∀ j < n, numberedIdent base j ∈ taken) {k : Nat} (hk : k ≤ n) :
    Tries taken base k (numberedIdent base n) := by
  induction hk using Nat.decreasingInduction with
  | self => exact .free hfree
  | of_succ k hk ih => exact .next (htaken k hk) ih

end Tries

/-- The loop ends, with the spelling that is found among as many as names are taken, and one more. -/
theorem tries_freeIdent (taken : List String) (base : String) :
    Tries taken base 0 (freeIdent taken base) := by
  unfold freeIdent
  split
  case h_1 n hn =>
    obtain ⟨hfree, _, htaken⟩ := List.find?_range_eq_some.mp hn
    exact tries_of_free (by simpa using hfree) (fun j hj => by simpa using htaken j hj) (Nat.zero_le n)
  case h_2 hnone =>
    obtain ⟨n, hn, hfree⟩ := exists_not_mem_of_injective (numberedIdent_injective base) taken
    have := List.find?_eq_none.mp hnone n hn
    simp [hfree] at this

/-- What the spellings of a key begin with. -/
def stemWord (key : String) : String := if (snakeCase key).isEmpty then "field" else snakeCase key

/-- The keys are given the words one after another, none of which is taken. -/
inductive Assigns : List String → List String → List String → Prop where
  | nil {taken} : Assigns taken [] []
  | cons {taken key word keys words} (h : Tries taken (stemWord key) 0 word)
    (hrest : Assigns (word :: taken) keys words) : Assigns taken (key :: keys) (word :: words)

section Assigns
variable {taken keys words : List String}

theorem assigns_spellings (taken keys : List String) : Assigns taken keys (spellings taken keys) := by
  induction keys generalizing taken with
  | nil => exact .nil
  | cons key keys ih => exact .cons (tries_freeIdent taken _) (ih _)

/-- The loop over the keys ends, and in one way. -/
theorem assigns_iff : Assigns taken keys words ↔ words = spellings taken keys := by
  constructor
  · intro h
    induction h with
    | nil => rfl
    | @cons taken key _ _ _ h _ ih =>
      cases h.unique (tries_freeIdent taken (stemWord key))
      rw [ih]
      rfl
  · rintro rfl
    exact assigns_spellings taken keys

theorem Assigns.nodup (h : Assigns taken keys words) :
    words.Nodup ∧ ∀ word ∈ words, word ∉ taken := by
  induction h with
  | nil => exact ⟨.nil, nofun⟩
  | @cons taken _ word _ words h _ ih =>
    obtain ⟨hnodup, hfree⟩ := ih
    refine ⟨List.nodup_cons.mpr ⟨fun hmem => hfree word hmem (.head _), hnodup⟩,
      List.forall_mem_cons.mpr ⟨h.not_mem, fun other hother htaken => ?_⟩⟩
    exact hfree other hother (.tail _ htaken)

end Assigns

/-! ### Keywords -/

/-- The keywords of the language, those that are reserved for later use among them. -/
def keywords : List String :=
  ["Self", "abstract", "as", "async", "await", "become", "box", "break", "const", "continue", "crate",
   "do", "dyn", "else", "enum", "extern", "false", "final", "fn", "for", "gen", "if", "impl", "in",
   "let", "loop", "macro", "match", "mod", "move", "mut", "override", "priv", "pub", "ref", "return",
   "self", "static", "struct", "super", "trait", "true", "try", "type", "typeof", "unsafe", "unsized",
   "use", "virtual", "where", "while", "yield"]

theorem mem_keywords_iff {word : String} :
    word ∈ keywords ↔ word ∈ strictKeywords ∨ word ∈ pathKeywords := by
  have hall : (∀ word ∈ keywords, word ∈ strictKeywords ++ pathKeywords) ∧
      ∀ word ∈ strictKeywords ++ pathKeywords, word ∈ keywords := by
    decide +kernel
  rw [← List.mem_append]
  exact ⟨hall.1 word, hall.2 word⟩

/-- No spelling ends in an underscore. -/
theorem getLast?_numberedIdent {base : String} (h : base.toList.getLast? ≠ some '_') (n : Nat) :
    (numberedIdent base n).toList.getLast? ≠ some '_' := by
  cases n with
  | zero => exact h
  | succ n =>
    have hdigits : digitsOf (n + 2) ≠ [] := List.ne_nil_of_length_pos Nat.length_toDigits_pos
    rw [numberedIdent, String.toList_append, decimal, String.toList_ofList,
      List.getLast?_append_of_ne_nil _ hdigits]
    intro hunder
    have hdigit := isAsciiDigit_of_mem_digitsOf (List.mem_of_getLast? hunder)
    exact absurd hdigit (by decide)

theorem getLast?_stemWord (key : String) : (stemWord key).toList.getLast? ≠ some '_' := by
  unfold stemWord
  split
  · decide +kernel
  · exact getLast?_snakeCase key

theorem Assigns.getLast? {taken keys words : List String} (h : Assigns taken keys words) :
    ∀ word ∈ words, word.toList.getLast? ≠ some '_' := by
  induction h with
  | nil => exact nofun
  | @cons _ key _ _ _ h _ ih =>
    obtain ⟨n, rfl⟩ := h.exists_numberedIdent
    exact List.forall_mem_cons.mpr ⟨getLast?_numberedIdent (getLast?_stemWord key) n, ih⟩

theorem bare_escapeKeyword (word : String) :
    (escapeKeyword word).bare = if word ∈ pathKeywords then word ++ "_" else word := by
  simp only [escapeKeyword, List.contains_iff_mem]
  split <;> rfl

/-- A word that is escaped by an underscore meets no other that ends in none. -/
theorem bare_escapeKeyword_inj {v w : String} (hv : v.toList.getLast? ≠ some '_')
    (hw : w.toList.getLast? ≠ some '_') (h : (escapeKeyword v).bare = (escapeKeyword w).bare) :
    v = w := by
  have hends (word : String) : (word ++ "_").toList.getLast? = some '_' := by
    rw [String.toList_append]
    exact List.getLast?_concat ..
  rw [bare_escapeKeyword, bare_escapeKeyword] at h
  split at h <;> split at h
  · simpa using h
  · exact absurd (h ▸ hends v) hw
  · exact absurd (h ▸ hends w) hv
  · exact h

/-- What a word is written as: a keyword with an underscore after it if it cannot be a raw identifier, and
otherwise as one. -/
theorem text_escapeKeyword (word : String) : (escapeKeyword word).text =
    if word ∈ pathKeywords then word ++ "_" else if word ∈ keywords then "r#" ++ word else word := by
  simp only [escapeKeyword, List.contains_iff_mem]
  by_cases hpath : word ∈ pathKeywords
  · rw [if_pos hpath, if_pos hpath]
    rfl
  · have hstrict : word ∈ keywords ↔ strictKeywords.contains word = true := by
      rw [mem_keywords_iff, or_iff_left hpath, List.contains_iff_mem]
    rw [if_neg hpath, if_neg hpath, Ident.text]
    simp only [hstrict]

/-- Nothing is written as a keyword. -/
theorem text_escapeKeyword_not_mem (word : String) : (escapeKeyword word).text ∉ keywords := by
  rw [text_escapeKeyword]
  split
  case isTrue hpath =>
    have hall : ∀ word ∈ pathKeywords, word ++ "_" ∉ keywords := by decide +kernel
    exact hall word hpath
  split
  case isTrue =>
    have hall : ∀ keyword ∈ keywords, '#' ∉ keyword.toList := by decide +kernel
    intro hmem
    exact hall _ hmem (by simp [String.toList_append])
  case isFalse hkeyword => exact hkeyword

/-! ### The names of a class -/

/-- The loop over the fields ends, and in one way: the words it finds, escaped, are the identifiers. -/
theorem exists_assigns (c : ClassDef) : ∃ words, Assigns [] (c.fields.map FieldInfo.sourceName) words ∧
    fieldIdents c = words.map escapeKeyword :=
  ⟨_, assigns_spellings _ _, rfl⟩

theorem Assigns.spelled {taken keys words : List String} (h : Assigns taken keys words) :
    List.Forall₂ (fun key word => ∃ n, word = numberedIdent (stemWord key) n) keys words := by
  induction h with
  | nil => exact .nil
  | cons h _ ih => exact .cons h.exists_numberedIdent ih

/-- What the identifier of a field is made from. -/
theorem exists_of_mem_zip {c : ClassDef} {p : FieldInfo × Ident} (h : p ∈ c.fields.zip (fieldIdents c)) :
    ∃ n, p.2 = escapeKeyword (numberedIdent (stemWord p.1.sourceName) n) := by
  obtain ⟨words, hwords, hidents⟩ := exists_assigns c
  obtain ⟨-, hspelled⟩ := List.forall₂_iff_zip.mp hwords.spelled
  rw [hidents, List.zip_map_right] at h
  obtain ⟨⟨f, word⟩, hmem, rfl⟩ := List.mem_map.mp h
  have hkey : (f.sourceName, word) ∈ (c.fields.map FieldInfo.sourceName).zip words := by
    rw [List.zip_map_left]
    exact List.mem_map_of_mem hmem
  obtain ⟨n, hn⟩ := hspelled hkey
  exact ⟨n, congrArg escapeKeyword hn⟩

/-- No two fields have one identifier, raw or not. -/
theorem nodup_bare_fieldIdents (c : ClassDef) : ((fieldIdents c).map Ident.bare).Nodup := by
  obtain ⟨words, h, hidents⟩ := exists_assigns c
  have hends := h.getLast?
  rw [hidents, List.map_map]
  exact h.nodup.1.map_on fun v hv w hw hvw => bare_escapeKeyword_inj (hends v hv) (hends w hw) hvw

theorem Ident.Valid.hash_not_mem {ident : Ident} (h : ident.Valid) : '#' ∉ ident.bare.toList :=
  fun hmem => absurd (h.word.chars '#' hmem) (by decide)

theorem Ident.Valid.bare_eq_of_text_eq {i j : Ident} (hi : i.Valid) (hj : j.Valid)
    (h : i.text = j.text) : i.bare = j.bare := by
  have hraw (word : String) : '#' ∈ ("r#" ++ word).toList := by simp [String.toList_append]
  unfold text at h
  split at h <;> split at h
  · simpa using h
  · exact absurd (h ▸ hraw i.bare) hj.hash_not_mem
  · exact absurd (h ▸ hraw j.bare) hi.hash_not_mem
  · exact h

theorem nodup_text_fieldIdents (c : ClassDef) : ((fieldIdents c).map Ident.text).Nodup := by
  have hbare := nodup_bare_fieldIdents c
  refine (List.Nodup.of_map _ hbare).map_on fun i hi j hj hij => ?_
  have hsame := (valid_of_mem_fieldIdents hi).bare_eq_of_text_eq (valid_of_mem_fieldIdents hj) hij
  exact List.inj_on_of_nodup_map hbare hi hj hsame

/-! ### The keys of a definition, line by line -/

/-- The tokens of a line with its line feed. -/
def lineTokens (line : String) : List Token := scan .between (line.toList ++ ['\n'])

/-- The key that an attribute gives the field after it. -/
def rename? (tokens : List Token) : Option String :=
  match readAttribute "serde" tokens with
  | some (items, _) => (items.lookup "rename").join
  | none => none

/-- The name of the field that is declared. -/
def declared? (tokens : List Token) : Option String :=
  match skipVisibility tokens with
  | ident :: .mark ':' :: _ => fieldName? ident
  | _ => none

/-- The keys of the fields up to the closing brace: that of the last attribute that renames, and otherwise
the name. -/
def readKeys (key? : Option String) : List (List Token) → List String
  | [] => []
  | tokens :: rest =>
    match declared? tokens with
    | some name => key?.getD name :: readKeys none rest
    | none => if tokens = [.mark '\x7d'] then [] else readKeys ((rename? tokens).or key?) rest

/-- The keys in the definition of a struct, after the line of its attribute and the line of its name. -/
def keysOf (lines : List String) : List String := readKeys none ((lines.map lineTokens).drop 2)

theorem lineTokens_of_scansTo {line : String} {tokens : List Token} (h : ScansTo line tokens) :
    lineTokens line = tokens := by
  rw [lineTokens, h []]
  exact List.append_nil _

theorem readKeys_other {tokens : List Token} (hname : declared? tokens = none)
    (hbrace : tokens ≠ [.mark '\x7d']) (key? : Option String) (rest : List (List Token)) :
    readKeys key? (tokens :: rest) = readKeys ((rename? tokens).or key?) rest := by
  rw [readKeys, hname]
  exact if_neg hbrace

theorem declared?_declaration {vis : List Token} (hvis : vis ∈ visibilities) {ident : Ident}
    (hident : ident.Valid) (rest : List Token) :
    declared? (vis ++ ident.token :: .mark ':' :: rest) = some ident.bare := by
  rw [declared?, skipVisibility_tokens hvis hident.fieldName]
  exact hident.fieldName

theorem readKeys_attribute {items : List Item} (hne : items ≠ []) (key? : Option String)
    (rest : List (List Token)) : readKeys key? (attributeTokens "serde" items :: rest) =
      readKeys ((items.lookup "rename").join.or key?) rest := by
  have hrename : rename? (attributeTokens "serde" items) = (items.lookup "rename").join := by
    have hread := readAttribute_tokens hne "serde" []
    rw [List.append_nil] at hread
    rw [rename?, hread]
  rw [readKeys_other rfl (by simp [attributeTokens]), hrename]

theorem readKeys_missingLines (f : FieldInfo) (type : String) (key? : Option String)
    (rest : List (List Token)) :
    readKeys key? ((missingLines f type).map lineTokens ++ rest) = readKeys key? rest := by
  have hline {line : String} (items : List Item) (h : ScansTo line (attributeTokens "serde" items))
      (hne : items ≠ []) (hrename : items.lookup "rename" = none) :
      readKeys key? ([line].map lineTokens ++ rest) = readKeys key? rest := by
    rw [List.map_singleton, lineTokens_of_scansTo h, List.singleton_append, readKeys_attribute hne, hrename]
    rfl
  unfold missingLines
  split
  · exact hline [("default", none), ("skip_serializing_if", some "Option::is_none")]
      (fun _ => rfl) (List.cons_ne_nil _ _) rfl
  split
  · exact hline [("default", none)] (fun _ => rfl) (List.cons_ne_nil _ _) rfl
  · rfl

section Fields
variable (m : TypeModel) (s : Settings) (c : ClassDef)

/-- A field is read from its key, whatever its type is. -/
theorem readKeys_fieldLines (f : FieldInfo) {ident : Ident} (hident : ident.Valid)
    (rest : List (List Token)) :
    readKeys none ((fieldLines m s c f ident).map lineTokens ++ rest) =
      f.sourceName :: readKeys none rest := by
  have hexamples (more : List (List Token)) :
      readKeys none ((if showsExamples s f then
        ["    /// Examples: " ++ String.intercalate ", " ((shownExamples s f).map Json.compact)]
        else []).map lineTokens ++ more) = readKeys none more := by
    split
    · rw [List.map_singleton, lineTokens_of_scansTo (scansTo_examples _), List.singleton_append,
        readKeys_other rfl (List.cons_ne_nil _ _).symm]
      rfl
    · rfl
  have hrename (more : List (List Token)) :
      readKeys none ((if ident.bare != f.sourceName then
        ["    #[serde(rename = " ++ quoted f.sourceName ++ ")]"] else []).map lineTokens ++ more) =
      readKeys (if ident.bare != f.sourceName then some f.sourceName else none) more := by
    split
    · rw [List.map_singleton, lineTokens_of_scansTo (scansTo_rename _), List.singleton_append,
        readKeys_attribute (List.cons_ne_nil _ _)]
      rfl
    · rfl
  have hvis : (if s.useProperties then [] else visibilityTokens s) ∈ visibilities := by
    split
    · exact .head _
    · exact visibilityTokens_mem s
  have hdeclaration : declared? (lineTokens ("    " ++ (if s.useProperties then "" else visibility s) ++
      ident.text ++ ": " ++ fieldType m c f ++ ",")) = some ident.bare := by
    rw [lineTokens, String.toList_append, String.toList_append, List.append_assoc, List.append_assoc,
      scan_declaration s hident]
    exact declared?_declaration hvis hident _
  rw [fieldLines]
  simp only [List.map_append, List.append_assoc, hexamples, hrename, readKeys_missingLines]
  rw [List.map_singleton, List.singleton_append, readKeys, hdeclaration]
  by_cases hkey : ident.bare = f.sourceName
  · simp [hkey]
  · simp [hkey]

theorem readKeys_fields {fields : List (FieldInfo × Ident)} (hidents : ∀ p ∈ fields, p.2.Valid)
    (rest : List (List Token)) :
    readKeys none ((fields.flatMap fun (f, ident) => fieldLines m s c f ident).map lineTokens ++ rest) =
      fields.map (fun p => p.1.sourceName) ++ readKeys none rest := by
  induction fields with
  | nil => rfl
  | cons p fields ih =>
    obtain ⟨hp, hfields⟩ := List.forall_mem_cons.mp hidents
    rw [List.flatMap_cons, List.map_append, List.append_assoc, readKeys_fieldLines m s c p.1 hp,
      ih hfields]
    rfl

theorem lineTokens_indent (line : String) : lineTokens (indentation ++ line) = lineTokens line := by
  rw [lineTokens, String.toList_append, List.append_assoc]
  rfl

theorem map_lineTokens_inNamespace (s : Settings) (root : Bool) (lines : List String) :
    (inNamespace s root lines).map lineTokens = lines.map lineTokens := by
  unfold inNamespace indent
  split
  · rw [List.map_map]
    refine List.map_congr_left fun line _ => ?_
    rw [Function.comp]
    split
    · rfl
    · exact lineTokens_indent line
  · rfl

/-- Each field is read from its own key, whatever the classes are called. -/
theorem keysOf_typeLines : keysOf (writer.typeLines m s c) = c.fields.map FieldInfo.sourceName := by
  have hidents : ∀ p ∈ c.fields.zip (fieldIdents c), p.2.Valid := fun p hp => valid_of_mem_zip hp
  have hlines : (structLines m s c).drop 2 =
      (c.fields.zip (fieldIdents c)).flatMap (fun (f, ident) => fieldLines m s c f ident) ++
        "\x7d" :: (accessorBlock m s c ++ [""]) := by
    simp [structLines]
  have hclose (rest : List (List Token)) : readKeys none (lineTokens "\x7d" :: rest) = [] := rfl
  have hkeys := readKeys_fields m s c hidents (("\x7d" :: (accessorBlock m s c ++ [""])).map lineTokens)
  rw [List.map_cons, hclose, List.append_nil] at hkeys
  change readKeys none (((inNamespace s c.isRoot (structLines m s c)).map lineTokens).drop 2) = _
  rw [map_lineTokens_inNamespace, ← List.map_drop, hlines, List.map_append, List.map_cons, hkeys]
  exact map_zip_fieldIdents c FieldInfo.sourceName

end Fields

/-- The names of the fields of a class are found by a loop that ends, in one way. They are distinct
identifiers, also without what makes some of them raw, and none is a keyword: those among the words that are
found are written as raw identifiers, or with an underscore if they cannot be. In the definition of the class
each field is read from the key that it was seen under, whatever the classes are called; and if their names
are identifiers, the whole definition is read as a struct with these keys. -/
theorem fields_keep_keys (c : ClassDef) :
    (∃ words, (∀ other, Assigns [] (c.fields.map FieldInfo.sourceName) other ↔ other = words) ∧
      (fieldIdents c).map Ident.text = words.map fun word =>
        if word ∈ pathKeywords then word ++ "_"
        else if word ∈ keywords then "r#" ++ word else word) ∧
      ((fieldIdents c).map Ident.text).Nodup ∧ ((fieldIdents c).map Ident.bare).Nodup ∧
      (∀ ident ∈ fieldIdents c, ident.Valid ∧ ident.text ∉ keywords) ∧
      (∀ m s, keysOf (writer.typeLines m s c) = c.fields.map FieldInfo.sourceName) ∧
      ∀ (m : TypeModel) s, (∀ d ∈ m.classes, IsIdentifierText d.name) → IsIdentifierText c.name →
        (readStruct (unlines (writer.typeLines m s c))).map (·.fields.map FieldDecl.key) =
          some (c.fields.map FieldInfo.sourceName) := by
  refine ⟨⟨_, fun other => assigns_iff, ?_⟩, nodup_text_fieldIdents c, nodup_bare_fieldIdents c,
    fun ident hident => ?_, fun m s => keysOf_typeLines m s c, fun m s hm hc => ?_⟩
  · rw [fieldIdents, List.map_map]
    exact List.map_congr_left fun word _ => text_escapeKeyword word
  · refine ⟨valid_of_mem_fieldIdents hident, ?_⟩
    obtain ⟨word, _, rfl⟩ := List.mem_map.mp hident
    exact text_escapeKeyword_not_mem word
  · rw [readStruct_typeLines hm s c hc, Option.map_some, structOf, List.map_map]
    rfl

/-- A class of texts under keys that come to one word, to keywords or to no word. -/
def collidingFields : ClassDef where
  id := ⟨0⟩
  name := "Root"
  fields := ["aB", "a_b", "as", "Self", "-"].map fun key => ⟨key, .leaf .string {}, false, 1, []⟩
  isRoot := true
  samples := 1

theorem fields_keep_keys_colliding :
    (fieldIdents collidingFields).map Ident.text =
        ["a_b", "a_b_2", "r#as", "self_", "field"] ∧
      (readStruct (unlines (writer.typeLines ⟨.object ⟨0⟩ {}, [collidingFields]⟩ {} collidingFields))).map
        (·.fields.map FieldDecl.key) =
          some ["aB", "a_b", "as", "Self", "-"] := by
  obtain ⟨_, _, _, _, _, hkeys⟩ := fields_keep_keys collidingFields
  have hname : IsIdentifierText collidingFields.name := by decide +kernel
  exact ⟨by decide +kernel, hkeys _ _ (List.forall_mem_singleton.mpr hname) hname⟩

end Specimen.Source.Rust
