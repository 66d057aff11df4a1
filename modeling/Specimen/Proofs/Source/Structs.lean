import Specimen.Proofs.Source.Tokens

/-! Structs as Rust source has them, and the JSON values that they accept.

`readStruct` reads the struct that a text begins with: its name, and of each field the type and what its
attributes say. `Accepts` gives the values of a type by the rules of derived deserialization; a type written
as a path is the struct of that name if the file has one, and only otherwise what the language or a library
calls so. Modules are left aside, as if every struct could be seen from every other. -/
namespace Specimen.Source.Rust
open Text

/-- A type as it is written. -/
inductive TypeExpr where
  | path (segments : List String)
  | apply (segments : List String) (argument : TypeExpr)
  | apply₂ (segments : List String) (first second : TypeExpr)
  deriving DecidableEq

structure FieldDecl where
  /-- The key that the field is read from. -/
  key : String
  mayBeMissing : Bool
  type : TypeExpr
  deriving DecidableEq

structure StructDecl where
  name : String
  fields : List FieldDecl
  deriving DecidableEq

/-! ### Reading -/

/-- A word that is an identifier. -/
def isIdentifier (word : String) : Bool :=
  !strictKeywords.contains word && !pathKeywords.contains word && word != "_" &&
    !word.toList.head?.any isAsciiDigit

/-- An item of an attribute: a word, with the text it is set to if there is one. -/
abbrev Item := String × Option String

/-- The items up to a closing parenthesis. -/
def readItems : List Token → Option (List Item × List Token)
  | .word w :: .mark '=' :: .literal text :: .mark ',' :: rest =>
    (readItems rest).map fun (items, rest) => ((w, some text) :: items, rest)
  | .word w :: .mark '=' :: .literal text :: .mark ')' :: rest => some ([(w, some text)], rest)
  | .word w :: .mark ',' :: rest =>
    (readItems rest).map fun (items, rest) => ((w, none) :: items, rest)
  | .word w :: .mark ')' :: rest => some ([(w, none)], rest)
  | _ => none

/-- The items of an attribute of the given name, if one comes first. -/
def readAttribute (name : String) : List Token → Option (List Item × List Token)
  | .mark '#' :: .mark '[' :: .word w :: .mark '(' :: rest =>
    if w = name then
      match readItems rest with
      | some (items, .mark ']' :: rest) => some (items, rest)
      | _ => none
    else none
  | _ => none

def skipVisibility : List Token → List Token
  | .word "pub" :: .mark '(' :: .word "crate" :: .mark ')' :: rest => rest
  | .word "pub" :: rest => rest
  | tokens => tokens

def readPath : List Token → Option (List String × List Token)
  | .word w :: .mark ':' :: .mark ':' :: rest =>
    if isIdentifier w then (readPath rest).map fun (path, rest) => (w :: path, rest) else none
  | .word w :: rest => if isIdentifier w then some ([w], rest) else none
  | _ => none

/-- A type, nested no deeper than the fuel. -/
def readType : Nat → List Token → Option (TypeExpr × List Token)
  | 0, _ => none
  | fuel + 1, tokens =>
    match readPath tokens with
    | some (path, .mark '<' :: rest) =>
      match readType fuel rest with
      | some (first, .mark '>' :: rest) => some (.apply path first, rest)
      | some (first, .mark ',' :: rest) =>
        match readType fuel rest with
        | some (second, .mark '>' :: rest) => some (.apply₂ path first second, rest)
        | _ => none
      | _ => none
    | some (path, rest) => some (.path path, rest)
    | none => none

/-- The name of a field, without what makes it a raw identifier. -/
def fieldName? : Token → Option String
  | .word w => if isIdentifier w then some w else none
  | .rawWord w => some w
  | _ => none

/-- The field of the given name and type, by what its attributes say. -/
def FieldDecl.ofItems (items : List Item) (name : String) (type : TypeExpr) : FieldDecl where
  key := ((items.lookup "rename").join).getD name
  mayBeMissing := (items.lookup "default").isSome
  type := type

/-- A field without its attributes, whose items are given. -/
def readField (items : List Item) (tokens : List Token) : Option (FieldDecl × List Token) :=
  match skipVisibility tokens with
  | ident :: .mark ':' :: rest =>
    match fieldName? ident, readType rest.length rest with
    | some name, some (type, .mark ',' :: rest) => some (.ofItems items name type, rest)
    | _, _ => none
  | _ => none

/-- Attributes and fields up to a closing brace. The items are those of the attributes read since the last
field. -/
def readFields : Nat → List Item → List Token → Option (List FieldDecl)
  | 0, _, _ => none
  | fuel + 1, items, tokens =>
    match readAttribute "serde" tokens with
    | some (more, rest) => readFields fuel (items ++ more) rest
    | none =>
      match readField items tokens with
      | some (field, rest) => (readFields fuel [] rest).map (field :: ·)
      | none => if items = [] ∧ tokens.head? = some (.mark '\x7d') then some [] else none

/-- The struct that a text begins with, if it derives how it is read. -/
def readStruct (text : String) : Option StructDecl :=
  let tokens := scan .between text.toList
  match readAttribute "derive" tokens with
  | some (items, rest) =>
    match skipVisibility rest with
    | .word "struct" :: .word name :: .mark '\x7b' :: rest =>
      if (items.lookup "Deserialize").isSome && isIdentifier name then
        (readFields tokens.length [] rest).map (⟨name, ·⟩)
      else none
    | _ => none
  | none => none

/-! ### Tokens of a type -/

def pathTokens : List String → List Token
  | [] => []
  | [w] => [.word w]
  | w :: path => .word w :: .mark ':' :: .mark ':' :: pathTokens path

namespace TypeExpr

def tokens : TypeExpr → List Token
  | .path p => pathTokens p
  | .apply p e => pathTokens p ++ .mark '<' :: e.tokens ++ [.mark '>']
  | .apply₂ p e f => pathTokens p ++ .mark '<' :: e.tokens ++ .mark ',' :: f.tokens ++ [.mark '>']

/-- All paths are of identifiers, and there is one wherever one has to be. -/
inductive WellFormed : TypeExpr → Prop where
  | path {p} (hne : p ≠ []) (hp : ∀ w ∈ p, isIdentifier w = true) : WellFormed (.path p)
  | apply {p e} (hne : p ≠ []) (hp : ∀ w ∈ p, isIdentifier w = true) (he : WellFormed e) :
    WellFormed (.apply p e)
  | apply₂ {p e f} (hne : p ≠ []) (hp : ∀ w ∈ p, isIdentifier w = true) (he : WellFormed e)
    (hf : WellFormed f) : WellFormed (.apply₂ p e f)

end TypeExpr

theorem readPath_tokens {p : List String} (hne : p ≠ []) (hp : ∀ w ∈ p, isIdentifier w = true)
    {c : Char} (hc : c ≠ ':') (rest : List Token) :
    readPath (pathTokens p ++ .mark c :: rest) = some (p, .mark c :: rest) := by
  induction p with
  | nil => exact absurd rfl hne
  | cons w p ih =>
    obtain ⟨hw, hp⟩ := List.forall_mem_cons.mp hp
    cases p with
    | nil =>
      rw [pathTokens, List.singleton_append, readPath, if_pos hw]
      intro rest' h
      cases h
      exact hc rfl
    | cons v p =>
      have hrest := ih (List.cons_ne_nil _ _) hp
      rw [pathTokens]
      · simp only [List.cons_append]
        rw [readPath, if_pos hw, hrest]
        rfl
      · exact List.cons_ne_nil _ _

theorem length_pathTokens_pos {p : List String} (hne : p ≠ []) : 0 < (pathTokens p).length := by
  cases p with
  | nil => exact absurd rfl hne
  | cons w p => cases p <;> exact Nat.succ_pos _

/-- A type is read back from its tokens, whatever mark comes after them that a type does not go on with. -/
theorem readType_tokens {e : TypeExpr} (he : e.WellFormed) {fuel : Nat}
    (hfuel : e.tokens.length ≤ fuel) {c : Char} (hcolon : c ≠ ':') (hless : c ≠ '<')
    (rest : List Token) :
    readType fuel (e.tokens ++ .mark c :: rest) = some (e, .mark c :: rest) := by
  induction he generalizing fuel c rest with
  | @path p hne hp =>
    have hpos := length_pathTokens_pos hne
    obtain ⟨fuel, rfl⟩ := Nat.exists_eq_add_of_le' (hpos.trans_le hfuel)
    rw [TypeExpr.tokens, readType, readPath_tokens hne hp hcolon]
    split
    case h_1 heq => cases heq; exact absurd rfl hless
    case h_2 heq => cases heq; rfl
    case h_3 heq => cases heq
  | @apply p e hne hp he ih =>
    simp only [TypeExpr.tokens, List.length_append, List.length_cons] at hfuel
    obtain ⟨fuel, rfl⟩ := Nat.exists_eq_add_of_le' (show 1 ≤ fuel by omega)
    have harg : readType fuel (e.tokens ++ .mark '>' :: .mark c :: rest) =
        some (e, .mark '>' :: .mark c :: rest) :=
      ih (by omega) (by decide) (by decide) _
    simp only [TypeExpr.tokens, List.append_assoc, List.cons_append, List.nil_append]
    rw [readType, readPath_tokens hne hp (by decide)]
    simp only [harg]
  | @apply₂ p e f hne hp he hf ihe ihf =>
    simp only [TypeExpr.tokens, List.length_append, List.length_cons] at hfuel
    obtain ⟨fuel, rfl⟩ := Nat.exists_eq_add_of_le' (show 1 ≤ fuel by omega)
    have hfirst : readType fuel (e.tokens ++ .mark ',' :: (f.tokens ++ .mark '>' :: .mark c :: rest)) =
        some (e, .mark ',' :: (f.tokens ++ .mark '>' :: .mark c :: rest)) :=
      ihe (by omega) (by decide) (by decide) _
    have hsecond : readType fuel (f.tokens ++ .mark '>' :: .mark c :: rest) =
        some (f, .mark '>' :: .mark c :: rest) :=
      ihf (by omega) (by decide) (by decide) _
    simp only [TypeExpr.tokens, List.append_assoc, List.cons_append, List.nil_append]
    rw [readType, readPath_tokens hne hp (by decide)]
    simp only [hfirst, hsecond]

/-! ### Tokens of fields -/

def itemTokens : Item → List Token
  | (w, none) => [.word w]
  | (w, some text) => [.word w, .mark '=', .literal text]

/-- The items of an attribute, with commas between them. -/
def itemsTokens : List Item → List Token
  | [] => []
  | [item] => itemTokens item
  | item :: items => itemTokens item ++ .mark ',' :: itemsTokens items

def attributeTokens (name : String) (items : List Item) : List Token :=
  [.mark '#', .mark '[', .word name, .mark '('] ++ itemsTokens items ++ [.mark ')', .mark ']']

theorem readItems_tokens {items : List Item} (hne : items ≠ []) (rest : List Token) :
    readItems (itemsTokens items ++ .mark ')' :: rest) = some (items, rest) := by
  induction items with
  | nil => exact absurd rfl hne
  | cons item items ih =>
    obtain ⟨w, text⟩ := item
    cases items with
    | nil => cases text <;> rfl
    | cons item items =>
      have hrest := ih (List.cons_ne_nil _ _)
      cases text <;> simp [itemsTokens, itemTokens, readItems, hrest]

theorem readAttribute_tokens {items : List Item} (hne : items ≠ []) (name : String)
    (rest : List Token) : readAttribute name (attributeTokens name items ++ rest) = some (items, rest) := by
  have hitems := readItems_tokens hne (.mark ']' :: rest)
  simp [attributeTokens, readAttribute, hitems]

/-- What may stand in front of the name of a field. -/
def visibilities : List (List Token) :=
  [[], [.word "pub"], [.word "pub", .mark '(', .word "crate", .mark ')']]

section Field
variable {vis : List Token} {ident : Token} {name : String} {items : List Item} {rest : List Token}

theorem skipVisibility_append (hvis : vis ∈ visibilities) {token : Token} (hpub : token ≠ .word "pub")
    (hmark : ∀ c, token ≠ .mark c) (rest : List Token) :
    skipVisibility (vis ++ token :: rest) = token :: rest := by
  simp only [visibilities, List.mem_cons, List.not_mem_nil, or_false] at hvis
  rcases hvis with rfl | rfl | rfl
  · rw [List.nil_append, skipVisibility]
    · rintro _ h
      exact hpub (List.cons.inj h).1
    · rintro _ h
      exact hpub (List.cons.inj h).1
  · rw [List.singleton_append, skipVisibility]
    rintro _ h
    exact hmark _ (List.cons.inj h).1
  · rfl

theorem skipVisibility_word (hvis : vis ∈ visibilities) {word : String} (hword : word ≠ "pub")
    (rest : List Token) : skipVisibility (vis ++ .word word :: rest) = .word word :: rest :=
  skipVisibility_append hvis (fun h => hword (Token.word.inj h)) nofun rest

theorem skipVisibility_tokens (hvis : vis ∈ visibilities) (hident : fieldName? ident = some name)
    (rest : List Token) : skipVisibility (vis ++ ident :: rest) = ident :: rest := by
  refine skipVisibility_append hvis ?_ ?_ rest
  · rintro rfl
    cases hident
  · rintro c rfl
    cases hident

theorem readField_tokens (hvis : vis ∈ visibilities) (hident : fieldName? ident = some name)
    {e : TypeExpr} (he : e.WellFormed) (items : List Item) (rest : List Token) :
    readField items (vis ++ ident :: .mark ':' :: (e.tokens ++ .mark ',' :: rest)) =
      some (.ofItems items name e, rest) := by
  have htype : readType (e.tokens ++ .mark ',' :: rest).length (e.tokens ++ .mark ',' :: rest) =
      some (e, .mark ',' :: rest) :=
    readType_tokens he (by simp) (by decide) (by decide) rest
  rw [readField, skipVisibility_tokens hvis hident]
  simp only [hident, htype]

theorem readAttribute_field (hvis : vis ∈ visibilities) (hident : fieldName? ident = some name)
    (attr : String) (rest : List Token) : readAttribute attr (vis ++ ident :: rest) = none := by
  have hmark : ∀ c, ident ≠ .mark c := by
    rintro c rfl
    cases hident
  simp only [visibilities, List.mem_cons, List.not_mem_nil, or_false] at hvis
  rcases hvis with rfl | rfl | rfl
  · cases ident with
    | mark c => exact absurd rfl (hmark c)
    | word | rawWord | literal => rfl
  · rfl
  · rfl

end Field

/-- The fields are read from the tokens whenever the fuel is not less than there are tokens. The items are
those of the attributes in front. -/
def Reads (items : List Item) (tokens : List Token) (fields : List FieldDecl) : Prop :=
  ∀ fuel, tokens.length ≤ fuel → readFields fuel items tokens = some fields

namespace Reads
variable {items more : List Item} {rest : List Token} {fields : List FieldDecl}

theorem close (rest : List Token) : Reads [] (.mark '\x7d' :: rest) [] := by
  have hfield : readField [] (.mark '\x7d' :: rest) = none := by
    rw [readField]
    split
    case h_1 heq => cases heq; rfl
    case h_2 => rfl
  rintro (_ | fuel) hfuel
  · cases hfuel
  · rw [readFields, hfield]
    rfl

theorem attributes (hmore : more ≠ []) (h : Reads (items ++ more) rest fields) :
    Reads items (attributeTokens "serde" more ++ rest) fields := by
  rintro (_ | fuel) hfuel
  · cases hfuel
  · have hlen : rest.length ≤ fuel := by
      simp only [attributeTokens, List.length_append, List.length_cons] at hfuel
      omega
    rw [readFields, readAttribute_tokens hmore]
    exact h fuel hlen

theorem field {vis : List Token} (hvis : vis ∈ visibilities) {ident : Token} {name : String}
    (hident : fieldName? ident = some name) {e : TypeExpr} (he : e.WellFormed)
    (h : Reads [] rest fields) :
    Reads items (vis ++ ident :: .mark ':' :: (e.tokens ++ .mark ',' :: rest))
      (.ofItems items name e :: fields) := by
  rintro (_ | fuel) hfuel
  · simp at hfuel
  · have hlen : rest.length ≤ fuel := by
      simp only [List.length_append, List.length_cons] at hfuel
      omega
    rw [readFields, readAttribute_field hvis hident, readField_tokens hvis hident he]
    simp only [h fuel hlen, Option.map_some]

end Reads

theorem readStruct_of_scan {text name : String} {vis rest : List Token} {fields : List FieldDecl}
    {items : List Item} (hscan : scan .between text.toList = attributeTokens "derive" items ++
      (vis ++ .word "struct" :: .word name :: .mark '\x7b' :: rest))
    (hvis : vis ∈ visibilities) (hitems : (items.lookup "Deserialize").isSome)
    (hname : isIdentifier name = true) (hrest : Reads [] rest fields) :
    readStruct text = some ⟨name, fields⟩ := by
  have hne : items ≠ [] := by
    rintro rfl
    cases hitems
  have hskip : skipVisibility (vis ++ .word "struct" :: .word name :: .mark '\x7b' :: rest) =
      .word "struct" :: .word name :: .mark '\x7b' :: rest := skipVisibility_word hvis (by decide) _
  have hfields := hrest (attributeTokens "derive" items ++
    (vis ++ .word "struct" :: .word name :: .mark '\x7b' :: rest)).length
    (by simp only [List.length_append, List.length_cons]; omega)
  rw [readStruct, hscan, readAttribute_tokens hne]
  simp only [hskip, hitems, hname, Bool.and_self, if_true, hfields, Option.map_some]

/-! ### Values -/

section Values
variable (file : List StructDecl)

/-- The path is not taken over by a struct of the file. -/
def Builtin (path : List String) : Prop := ∀ d ∈ file, path.head? ≠ some d.name

def valuePath : List String := ["serde_json", "Value"]

def mapPath : List String := ["std", "collections", "HashMap"]

/-- The value is read into the type without an error. -/
inductive Accepts : TypeExpr → Json → Prop where
  | bool (h : Builtin file ["bool"]) (b) : Accepts (.path ["bool"]) (.bool b)
  | int32 (h : Builtin file ["i32"]) {n : Int} (hlow : -2 ^ 31 ≤ n) (hhigh : n < 2 ^ 31) :
    Accepts (.path ["i32"]) (.number (.int n))
  | int64 (h : Builtin file ["i64"]) {n : Int} (hlow : -2 ^ 63 ≤ n) (hhigh : n < 2 ^ 63) :
    Accepts (.path ["i64"]) (.number (.int n))
  | float64 (h : Builtin file ["f64"]) (n) : Accepts (.path ["f64"]) (.number n)
  | string (h : Builtin file ["String"]) (s) : Accepts (.path ["String"]) (.string s)
  | value (h : Builtin file valuePath) (x) : Accepts (.path valuePath) x
  | none (h : Builtin file ["Option"]) (e) : Accepts (.apply ["Option"] e) .null
  | some (h : Builtin file ["Option"]) {e x} (he : Accepts e x) : Accepts (.apply ["Option"] e) x
  | box (h : Builtin file ["Box"]) {e x} (he : Accepts e x) : Accepts (.apply ["Box"] e) x
  | list (h : Builtin file ["Vec"]) {e xs} (hitems : ∀ x ∈ xs, Accepts e x) :
    Accepts (.apply ["Vec"] e) (.array xs)
  | map (h : Builtin file mapPath) (hkey : Builtin file ["String"]) {e ms}
    (hvalues : ∀ m ∈ ms, Accepts e m.2) :
    Accepts (.apply₂ mapPath (.path ["String"]) e) (.object ms)
  | struct {d ms} (hd : d ∈ file)
    (hvalues : ∀ f ∈ d.fields, ∀ m ∈ ms, m.1 = f.key → Accepts f.type m.2)
    (hmissing : ∀ f ∈ d.fields, f.key ∉ ms.map Prod.fst → f.mayBeMissing = true) :
    Accepts (.path [d.name]) (.object ms)

end Values

end Specimen.Source.Rust
