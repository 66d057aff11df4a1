import Specimen.Proofs.Classes.Naming
import Specimen.Proofs.Source.Structs

/-! The identifiers in Rust source.

The name of every class is an identifier that means nothing else in a type
(`isStructName_of_mem_assignNames`), provided that the root has such a name. The name of every field is one
once keywords are escaped (`scan_text`). -/
namespace Specimen.Source.Rust
open Text

/-! ### Structs -/

/-- What types are written with besides the structs of a file. -/
def builtinNames : List String :=
  ["bool", "f64", "i32", "i64", "serde_json", "std", "Box", "Option", "String", "Vec"]

/-- Those among them that no class is kept from having as its name. -/
def unreservedNames : List String := ["bool", "f64", "i32", "i64", "serde_json", "std"]

/-- A text that is an identifier. -/
structure IsIdentifierText (text : String) : Prop where
  word : IsName text
  identifier : isIdentifier text = true

instance (text : String) : Decidable (IsIdentifierText text) :=
  decidable_of_iff (IsName text ∧ isIdentifier text = true)
    ⟨fun ⟨h₁, h₂⟩ => ⟨h₁, h₂⟩, fun ⟨h₁, h₂⟩ => ⟨h₁, h₂⟩⟩

/-- An identifier that means nothing else in a type. -/
structure IsStructName (name : String) : Prop extends IsIdentifierText name where
  free : name ∉ builtinNames

/-- A capitalized name that is not reserved is neither a keyword nor another name in types. -/
theorem isStructName_of_capitalized {name : String} (h : IsCapitalized name.toList) (hne : name ≠ "")
    (hfree : name ∉ reservedNames) : IsStructName name := by
  have hsmall : ∀ word ∈ strictKeywords ++ ["crate", "self", "super"] ++ unreservedNames,
      ¬IsCapitalized word.toList := by
    decide +kernel
  have hother {words : List String} (hwords : ∀ word ∈ words, word ∈ reservedNames ∨
      word ∈ strictKeywords ++ ["crate", "self", "super"] ++ unreservedNames) : name ∉ words :=
    fun hmem => (hwords name hmem).elim hfree fun hmem => hsmall name hmem h
  have hkeyword : name ∉ strictKeywords := hother (by decide +kernel)
  have hpath : name ∉ pathKeywords := hother (by decide +kernel)
  have hunderscore : name ≠ "_" := by
    rintro rfl
    exact absurd h (by decide +kernel)
  have hdigit : name.toList.head?.any isAsciiDigit = false := by
    cases hhead : name.toList.head? with
    | none => rfl
    | some c =>
      have hlead := h.head c hhead
      rw [Option.any_some, ← Bool.not_eq_true, isAsciiDigit_iff]
      simp only [Ranges.covers, leadRanges, List.any_cons, List.any_nil, Bool.or_false, Bool.or_eq_true,
        Bool.and_eq_true, decide_eq_true_eq] at hlead
      omega
  refine ⟨⟨⟨hne, h.chars⟩, ?_⟩, hother (by decide +kernel)⟩
  simp [isIdentifier, hkeyword, hpath, hunderscore, hdigit]

/-- Every class but the root has a name that means nothing else, and so has the root if the name it is to
have is reserved. -/
theorem eq_or_isStructName_of_mem_assignNames {rootName : String} (hne : rootName ≠ "")
    {t : ClassTable} {root : Evidence ClassId} {name : String}
    (h : name ∈ (assignNames t root rootName).map Prod.snd) : name = rootName ∨ IsStructName name := by
  have hunreserved := (distinct_assignNames t root rootName).unreserved name h
  rcases assignNames_spelled t root rootName name h with rfl | ⟨hcapital, hnename⟩
  · by_cases hreserved : rootName ∈ reservedNames
    · have hall : ∀ name ∈ reservedNames, IsCapitalized name.toList := by decide +kernel
      obtain ⟨hcapital, hnename⟩ := freeName_capitalized (hall _ hreserved) reservedNames
      exact .inr (isStructName_of_capitalized hcapital hnename hunreserved)
    · exact .inl (freeName_of_not_mem hreserved hne)
  · exact .inr (isStructName_of_capitalized hcapital hnename hunreserved)

theorem isStructName_of_mem_assignNames {rootName : String} (hroot : IsIdentifierText rootName)
    (hfree : rootName ∉ unreservedNames) {t : ClassTable} {root : Evidence ClassId} {name : String}
    (h : name ∈ (assignNames t root rootName).map Prod.snd) : IsStructName name := by
  have hunreserved := (distinct_assignNames t root rootName).unreserved name h
  have hall : ∀ name ∈ builtinNames, name ∈ reservedNames ∨ name ∈ unreservedNames := by
    decide +kernel
  rcases eq_or_isStructName_of_mem_assignNames hroot.word.nonempty h with rfl | hname
  · exact ⟨hroot, fun hmem => (hall _ hmem).elim hunreserved hfree⟩
  · exact hname

/-! ### Fields -/

/-- A spelling of a field, before keywords are escaped. -/
structure IsFieldWord (word : String) : Prop where
  nonempty : word ≠ ""
  plain : IsPlainName word.toList

theorem IsFieldWord.numbered {base : String} (h : IsFieldWord base) (n : Nat) :
    IsFieldWord (numberedIdent base n) := by
  cases n with
  | zero => exact h
  | succ n =>
    obtain ⟨c, cs, hcs⟩ := List.exists_cons_of_ne_nil (l := base.toList) (by simpa using h.nonempty)
    have hchars : (numberedIdent base (n + 1)).toList =
        c :: (cs ++ '_' :: (decimal (n + 2)).toList) := by
      simp [numberedIdent, String.toList_append, hcs]
    refine ⟨fun hempty => ?_, fun d hd => ?_, ?_, fun hunder => ?_⟩
    · rw [hempty] at hchars
      cases hchars
    · rw [hchars, ← List.cons_append, ← hcs] at hd
      rcases List.mem_append.mp hd with hd | hd
      · exact h.plain.chars d hd
      · rcases List.mem_cons.mp hd with rfl | hd
        · rfl
        · exact isNameChar_of_mem_decimal hd
    · have hhead := h.plain.head
      rw [hcs] at hhead
      rw [hchars]
      exact hhead
    · rw [hchars, List.cons.injEq] at hunder
      exact absurd hunder.2 (by simp)

theorem isFieldWord_freeIdent {base : String} (h : IsFieldWord base) (taken : List String) :
    IsFieldWord (freeIdent taken base) := by
  unfold freeIdent
  split
  · exact h.numbered _
  · exact h

theorem isFieldWord_of_mem_spellings {taken keys : List String} {word : String}
    (h : word ∈ spellings taken keys) : IsFieldWord word := by
  induction keys generalizing taken with
  | nil => cases h
  | cons key keys ih =>
    rcases List.mem_cons.mp h with rfl | h
    · refine isFieldWord_freeIdent ?_ taken
      split
      case isTrue => exact ⟨by decide, by decide +kernel⟩
      case isFalse hne => exact ⟨by simpa using hne, snakeCase_plain key⟩
    · exact ih h

namespace Ident

def token (ident : Ident) : Token := if ident.raw then .rawWord ident.bare else .word ident.bare

/-- The identifier of a field: one word, which is an identifier or is raw. -/
structure Valid (ident : Ident) : Prop where
  word : IsName ident.bare
  identifier : ident.raw = false → isIdentifier ident.bare = true

theorem Valid.fieldName {ident : Ident} (h : ident.Valid) : fieldName? ident.token = some ident.bare := by
  cases hraw : ident.raw with
  | true => simp [token, hraw, fieldName?]
  | false => simp [token, hraw, fieldName?, h.identifier hraw]

theorem Valid.scan_text {ident : Ident} (h : ident.Valid) {c : Char} (hc : EndsWord c)
    (rest : List Char) :
    scan .between (ident.text.toList ++ c :: rest) = ident.token :: scan .between (c :: rest) := by
  cases hraw : ident.raw with
  | true =>
    have htext : ident.text.toList = 'r' :: '#' :: ident.bare.toList := by
      simp [text, hraw, String.toList_append]
    rw [htext, token, hraw]
    exact scan_rawWord h.word.chars hc.outside rest
  | false =>
    rw [text, token, hraw]
    exact scan_word h.word hc rest

end Ident

theorem valid_escapeKeyword {word : String} (h : IsFieldWord word) : (escapeKeyword word).Valid := by
  rw [escapeKeyword]
  split
  case isTrue hpath =>
    have hall : ∀ word ∈ pathKeywords, IsIdentifierText (word ++ "_") := by decide +kernel
    have htext := hall word (by simpa using hpath)
    exact ⟨htext.word, fun _ => htext.identifier⟩
  case isFalse hpath =>
    refine ⟨⟨h.nonempty, h.plain.chars⟩, fun hstrict => ?_⟩
    have hunderscore : word ≠ "_" := by
      rintro rfl
      exact h.plain.underscore rfl
    have hkeyword : word ∉ strictKeywords := by simpa using hstrict
    have hpath : word ∉ pathKeywords := by simpa using hpath
    simp [isIdentifier, hkeyword, hpath, hunderscore, h.plain.head]

theorem valid_of_mem_fieldIdents {c : ClassDef} {ident : Ident} (h : ident ∈ fieldIdents c) :
    ident.Valid := by
  obtain ⟨word, hword, rfl⟩ := List.mem_map.mp h
  exact valid_escapeKeyword (isFieldWord_of_mem_spellings hword)

theorem length_fieldIdents (c : ClassDef) : (fieldIdents c).length = c.fields.length := by
  have hlen (taken keys : List String) : (spellings taken keys).length = keys.length := by
    induction keys generalizing taken with
    | nil => rfl
    | cons key keys ih => simp [spellings, ih]
  rw [fieldIdents, List.length_map, hlen, List.length_map]

theorem valid_of_mem_zip {c : ClassDef} {p : FieldInfo × Ident} (h : p ∈ c.fields.zip (fieldIdents c)) :
    p.2.Valid :=
  valid_of_mem_fieldIdents (List.of_mem_zip h).2

/-- Every field has its identifier. -/
theorem map_zip_fieldIdents {β : Type} (c : ClassDef) (g : FieldInfo → β) :
    (c.fields.zip (fieldIdents c)).map (fun p => g p.1) = c.fields.map g := by
  calc (c.fields.zip (fieldIdents c)).map (fun p => g p.1)
      = ((c.fields.zip (fieldIdents c)).map Prod.fst).map g := by
        rw [List.map_map]
        rfl
    _ = c.fields.map g := by rw [List.map_fst_zip (length_fieldIdents c).ge]

end Specimen.Source.Rust
