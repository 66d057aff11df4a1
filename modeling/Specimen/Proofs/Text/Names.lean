import Mathlib.Data.String.Basic
import Specimen.Text.Snake
import Specimen.Text.Basic

/-! The characters that names are made of. -/
namespace Specimen.Text

/-! ### Ranges of characters -/

/-- The characters of names but for the underscore. Beyond ASCII all count, also those that no identifier
may have. -/
def nameRanges : Ranges := [(0x30, 0x39), (0x41, 0x5a), (0x61, 0x7a), (0x80, 0x10ffff)]

/-- Those that no word in lower case has: digits, capitals, and what is beyond ASCII. -/
def capitalRanges : Ranges := [(0x30, 0x39), (0x41, 0x5a), (0x80, 0x10ffff)]

def isNameChar (c : Char) : Bool := c == '_' || nameRanges.covers c

namespace Ranges
variable {ranges targets : Ranges}

def includes (targets : Ranges) (range : Nat × Nat) : Bool :=
  targets.any fun target => target.1 ≤ range.1 && range.2 ≤ target.2

theorem covers_of_includes {range : Nat × Nat} (h : targets.includes range = true) {c : Char}
    (hlow : range.1 ≤ c.toNat) (hhigh : c.toNat ≤ range.2) : targets.covers c = true := by
  obtain ⟨target, hmem, htarget⟩ := List.any_eq_true.mp h
  rw [Bool.and_eq_true, decide_eq_true_eq, decide_eq_true_eq] at htarget
  refine List.any_eq_true.mpr ⟨target, hmem, ?_⟩
  rw [Bool.and_eq_true, decide_eq_true_eq, decide_eq_true_eq]
  omega

theorem covers_mono (h : ranges.all targets.includes = true) {c : Char}
    (hc : ranges.covers c = true) : targets.covers c = true := by
  obtain ⟨range, hmem, hrange⟩ := List.any_eq_true.mp hc
  rw [Bool.and_eq_true, decide_eq_true_eq, decide_eq_true_eq] at hrange
  exact covers_of_includes (List.all_eq_true.mp h range hmem) hrange.1 hrange.2

end Ranges

theorem isAsciiDigit_iff {c : Char} :
    isAsciiDigit c = true ↔ 0x30 ≤ c.toNat ∧ c.toNat ≤ 0x39 := by
  simp [isAsciiDigit, Char.le_def, UInt32.le_iff_toNat_le, ← Char.toNat_val]

theorem isAlpha_iff {c : Char} : c.isAlpha = true ↔
    (0x41 ≤ c.toNat ∧ c.toNat ≤ 0x5a) ∨ (0x61 ≤ c.toNat ∧ c.toNat ≤ 0x7a) := by
  have hupper : c.isUpper = true ↔ 'A' ≤ c ∧ c ≤ 'Z' := decide_eq_true_iff
  have hlower : c.isLower = true ↔ 'a' ≤ c ∧ c ≤ 'z' := by
    rw [← decide_eq_true_iff (p := 'a' ≤ c), ← decide_eq_true_iff (p := c ≤ 'z')]
    exact Bool.and_eq_true_iff
  have halpha : c.isAlpha = true ↔ c.isUpper = true ∨ c.isLower = true := Bool.or_eq_true_iff
  rw [halpha, hupper, hlower]
  simp [Char.le_def, UInt32.le_iff_toNat_le, ← Char.toNat_val]

theorem isNameChar_of_isAlpha {c : Char} (h : c.isAlpha = true) : isNameChar c = true := by
  have hcapitals : nameRanges.includes (0x41, 0x5a) = true := rfl
  have hsmall : nameRanges.includes (0x61, 0x7a) = true := rfl
  rw [isNameChar, Bool.or_eq_true]
  rcases isAlpha_iff.mp h with h | h
  · exact .inr (Ranges.covers_of_includes hcapitals h.1 h.2)
  · exact .inr (Ranges.covers_of_includes hsmall h.1 h.2)

theorem covers_of_capital {c : Char} (h : capitalRanges.covers c = true) :
    nameRanges.covers c = true :=
  Ranges.covers_mono (by decide) h

theorem covers_of_isAlphanumeric {c : Char} (h : isAlphanumeric c = true) :
    nameRanges.covers c = true := by
  rw [isAlphanumeric, Bool.or_eq_true] at h
  rcases h with h | h
  · exact Ranges.covers_mono (by decide +kernel) h
  · exact Ranges.covers_mono (by decide +kernel) h

/-! ### Letter case -/

/-- Where a shift moves its first and its last character. -/
def Shift.image (shift : Shift) : Nat × Nat :=
  ((shift.first + shift.distance).toNat, (shift.last + shift.distance).toNat)

/-- The tables move characters into the ranges only, and no character out of what a character can be. -/
structure MovesInto (shifts : List Shift) (expansions : List (Nat × List Nat)) (targets : Ranges) :
    Prop where
  valid : ∀ shift ∈ shifts, 0 ≤ shift.first + shift.distance ∧
    (shift.image.2 < 0xd800 ∨ 0xdfff < shift.image.1 ∧ shift.image.2 < 0x110000)
  image : ∀ shift ∈ shifts, targets.includes shift.image = true
  several : ∀ expansion ∈ expansions, expansion.2 ≠ []
  expansion : ∀ expansion ∈ expansions, ∀ code ∈ expansion.2,
    targets.covers (Char.ofNat code) = true

/-- A case form is one of the forms that the tables give, or the character itself. -/
theorem caseForm_cases {shifts : List Shift} {expansions : List (Nat × List Nat)} {P : List Char → Prop}
    {c : Char} (hexpansion : ∀ codes, (c.toNat, codes) ∈ expansions → P (codes.map Char.ofNat))
    (hshift : ∀ shift ∈ shifts, shift.applies c.toNat = true →
      P [Char.ofNat (c.toNat + shift.distance).toNat])
    (hself : (∀ shift ∈ shifts, shift.applies c.toNat = false) → P [c]) : P (caseForm shifts expansions c) := by
  unfold caseForm
  split
  case h_1 codes hcodes =>
    obtain ⟨before, after, hexpansions, -⟩ := List.lookup_eq_some_iff.mp hcodes
    exact hexpansion codes (by simp [hexpansions])
  case h_2 =>
    split
    case h_1 shift hfind =>
      exact hshift shift (List.mem_of_find?_eq_some hfind)
        (List.find?_some (p := (Shift.applies · c.toNat)) hfind)
    case h_2 hnone =>
      exact hself fun shift hmem => by simpa using List.find?_eq_none.mp hnone shift hmem

namespace MovesInto
variable {shifts : List Shift} {expansions : List (Nat × List Nat)} {targets : Ranges}

instance : Decidable (MovesInto shifts expansions targets) :=
  decidable_of_iff _ ⟨fun ⟨h₁, h₂, h₃, h₄⟩ => ⟨h₁, h₂, h₃, h₄⟩, fun ⟨h₁, h₂, h₃, h₄⟩ =>
    (⟨h₁, h₂, h₃, h₄⟩ : _ ∧ _ ∧ _ ∧ _)⟩

theorem toNat_shifted (h : MovesInto shifts expansions targets) {shift : Shift} (hshift : shift ∈ shifts)
    {code : Nat} (hcode : shift.applies code = true) :
    (Char.ofNat (code + shift.distance).toNat).toNat = (code + shift.distance).toNat := by
  have hvalid := h.valid shift hshift
  simp only [Shift.image] at hvalid
  rw [Shift.applies, Bool.and_eq_true, Bool.and_eq_true, decide_eq_true_eq, decide_eq_true_eq] at hcode
  have hchar : (code + shift.distance).toNat.isValidChar := by
    simp only [Nat.isValidChar]
    omega
  rw [Char.ofNat, dif_pos hchar]
  rfl

theorem covers_shifted (h : MovesInto shifts expansions targets) {shift : Shift}
    (hshift : shift ∈ shifts) {code : Nat} (hcode : shift.applies code = true) :
    targets.covers (Char.ofNat (code + shift.distance).toNat) = true := by
  have hnat := h.toNat_shifted hshift hcode
  rw [Shift.applies, Bool.and_eq_true, Bool.and_eq_true, decide_eq_true_eq, decide_eq_true_eq] at hcode
  refine Ranges.covers_of_includes (h.image shift hshift) ?_ ?_
  · rw [hnat, Shift.image]
    dsimp only
    omega
  · rw [hnat, Shift.image]
    dsimp only
    omega

/-- A form is not empty, and its characters are in the ranges if those that stay as they are are. -/
theorem caseForm (h : MovesInto shifts expansions targets) {c : Char}
    (hself : (∀ shift ∈ shifts, shift.applies c.toNat = false) → targets.covers c = true) :
    caseForm shifts expansions c ≠ [] ∧
      ∀ d ∈ caseForm shifts expansions c, targets.covers d = true := by
  refine caseForm_cases (P := fun cs => cs ≠ [] ∧ ∀ d ∈ cs, targets.covers d = true) (fun codes hmem => ?_)
    (fun shift hshift hcode => ?_) fun hnone => ?_
  · refine ⟨by simpa using h.several _ hmem, fun d hd => ?_⟩
    obtain ⟨code, hcode, rfl⟩ := List.mem_map.mp hd
    exact h.expansion _ hmem code hcode
  · exact ⟨List.cons_ne_nil _ _, List.forall_mem_singleton.mpr (h.covers_shifted hshift hcode)⟩
  · exact ⟨List.cons_ne_nil _ _, List.forall_mem_singleton.mpr (hself hnone)⟩

end MovesInto

theorem movesInto_lower : MovesInto lowerShifts lowerExpansions nameRanges := by
  decide +kernel

theorem movesInto_upper : MovesInto upperShifts upperExpansions capitalRanges := by
  decide +kernel

theorem lowerForm_covers {c : Char} (h : isAlphanumeric c = true) :
    ∀ d ∈ lowerForm c, nameRanges.covers d = true :=
  (movesInto_lower.caseForm fun _ => covers_of_isAlphanumeric h).2

theorem upperForm_covers {c : Char} (h : isAlphanumeric c = true) :
    upperForm c ≠ [] ∧ ∀ d ∈ upperForm c, capitalRanges.covers d = true := by
  refine movesInto_upper.caseForm fun hnone => ?_
  -- The letters from a to z are moved, so that one which is not moved is none of them.
  have hsmall : ¬(0x61 ≤ c.toNat ∧ c.toNat ≤ 0x7a) := by
    have hfirst := hnone ⟨0x61, 0x7a, 1, -32⟩ (.head _)
    simpa [Shift.applies, Nat.mod_one] using hfirst
  have hname := covers_of_isAlphanumeric h
  simp only [Ranges.covers, nameRanges, capitalRanges, List.any_cons, List.any_nil, Bool.or_false,
    Bool.or_eq_true, Bool.and_eq_true, decide_eq_true_eq] at hname ⊢
  omega

/-! ### Names in lower case -/

theorem mem_withUnderscore {written : List Char} {c : Char} (h : c ∈ withUnderscore written) :
    c = '_' ∨ c ∈ written := by
  unfold withUnderscore at h
  split at h
  · exact .inr h
  · exact .inr h
  · exact List.mem_cons.mp h

theorem snakeReversed_chars (before : Option Char) {written : List Char}
    (h : ∀ c ∈ written, isNameChar c = true) (cs : List Char) :
    ∀ c ∈ snakeReversed before written cs, isNameChar c = true := by
  have hunder {written : List Char} (h : ∀ c ∈ written, isNameChar c = true) :
      ∀ c ∈ withUnderscore written, isNameChar c = true := by
    intro c hc
    rcases mem_withUnderscore hc with rfl | hc
    · rfl
    · exact h c hc
  induction cs generalizing before written with
  | nil => exact h
  | cons d cs ih =>
    rw [snakeReversed]
    split
    case isTrue hd =>
      refine ih _ fun c hc => ?_
      rcases List.mem_append.mp hc with hc | hc
      · rw [isNameChar, lowerForm_covers hd c (List.mem_reverse.mp hc), Bool.or_true]
      · split at hc
        · exact hunder h c hc
        · exact h c hc
    case isFalse => exact ih _ (hunder h)

theorem guardDigit_chars {cs : List Char} (h : ∀ c ∈ cs, isNameChar c = true) :
    ∀ c ∈ guardDigit cs, isNameChar c = true := by
  intro c hc
  unfold guardDigit at hc
  split at hc
  · cases hc
  · split at hc
    · rcases List.mem_cons.mp hc with rfl | hc
      · rfl
      · exact h c hc
    · exact h c hc

theorem head?_guardDigit (cs : List Char) : (guardDigit cs).head?.any isAsciiDigit = false := by
  unfold guardDigit
  split
  · rfl
  · split
    case isTrue => rfl
    case isFalse h => simpa using h

/-- An identifier: one word that no digit begins, and not the underscore alone. -/
structure IsPlainName (name : List Char) : Prop where
  chars : ∀ c ∈ name, isNameChar c = true
  head : name.head?.any isAsciiDigit = false
  underscore : name ≠ ['_']

-- Decided with `List.all`, here and below: the instance that is found for all members of a list may go through
-- every character there is, since characters are a finite type.
instance (name : List Char) : Decidable (IsPlainName name) :=
  decidable_of_iff (name.all isNameChar = true ∧ name.head?.any isAsciiDigit = false ∧ name ≠ ['_'])
    ⟨fun ⟨h₁, h₂, h₃⟩ => ⟨List.all_eq_true.mp h₁, h₂, h₃⟩,
      fun ⟨h₁, h₂, h₃⟩ => ⟨List.all_eq_true.mpr h₁, h₂, h₃⟩⟩

/-- Only a digit gets an underscore in front of it. -/
theorem eq_of_guardDigit_eq {cs : List Char} (h : guardDigit cs = ['_']) : cs = ['_'] := by
  cases cs with
  | nil => cases h
  | cons c cs =>
    rw [guardDigit] at h
    split at h
    · cases (List.cons.inj h).2
    · exact h

theorem snakeCase_plain (key : String) : IsPlainName (snakeCase key).toList := by
  rw [snakeCase, String.toList_ofList]
  refine ⟨guardDigit_chars fun c hc => ?_, head?_guardDigit _, fun heq => ?_⟩
  · exact snakeReversed_chars none (List.forall_mem_nil _) _ c
      ((List.dropWhile_sublist _).subset (List.mem_reverse.mp hc))
  · have hhead := List.head?_dropWhile_not (· == '_') (snakeReversed none [] key.toList)
    rw [List.reverse_eq_iff.mp (eq_of_guardDigit_eq heq)] at hhead
    cases hhead

theorem getLast?_guardDigit (cs : List Char) : (guardDigit cs).getLast? = cs.getLast? := by
  cases cs with
  | nil => rfl
  | cons c cs =>
    rw [guardDigit]
    split
    · exact List.getLast?_cons_cons
    · rfl

/-- A name in lower case ends in no underscore. -/
theorem getLast?_snakeCase (key : String) : (snakeCase key).toList.getLast? ≠ some '_' := by
  have hhead := List.head?_dropWhile_not (· == '_') (snakeReversed none [] key.toList)
  rw [snakeCase, String.toList_ofList]
  generalize (snakeReversed none [] key.toList).dropWhile (· == '_') = written at hhead
  rw [getLast?_guardDigit, List.getLast?_reverse]
  intro hunder
  rw [hunder] at hhead
  cases hhead

/-! ### Capitalized names -/

/-- Those that can begin a capitalized name. -/
def leadRanges : Ranges := [(0x41, 0x5a), (0x5f, 0x5f), (0x80, 0x10ffff)]

/-- One word that begins with no small letter and no digit, with an underscore only in front of a digit. It
may be empty. -/
structure IsCapitalized (name : List Char) : Prop where
  chars : ∀ c ∈ name, isNameChar c = true
  head : ∀ c ∈ name.head?, leadRanges.covers c = true
  underscore : name.head? = some '_' → name.tail.head?.any isAsciiDigit = true

instance (name : List Char) : Decidable (IsCapitalized name) :=
  decidable_of_iff (name.all isNameChar = true ∧ name.head?.all leadRanges.covers = true ∧
    (name.head? = some '_' → name.tail.head?.any isAsciiDigit = true))
    ⟨fun ⟨h₁, h₂, h₃⟩ => ⟨List.all_eq_true.mp h₁, (Option.all_eq_true ..).mp h₂, h₃⟩,
      fun ⟨h₁, h₂, h₃⟩ => ⟨List.all_eq_true.mpr h₁, (Option.all_eq_true ..).mpr h₂, h₃⟩⟩

theorem joinCapitalized_chars (start : Bool) (cs : List Char) :
    ∀ c ∈ joinCapitalized start cs, nameRanges.covers c = true := by
  induction cs generalizing start with
  | nil => exact List.forall_mem_nil _
  | cons d cs ih =>
    rw [joinCapitalized]
    split
    case isTrue hd =>
      intro c hc
      rcases List.mem_append.mp hc with hc | hc
      · cases start with
        | true => exact covers_of_capital ((upperForm_covers hd).2 c hc)
        | false =>
          cases List.mem_singleton.mp hc
          exact covers_of_isAlphanumeric hd
      · exact ih false c hc
    case isFalse => exact ih true

theorem head?_joinCapitalized (cs : List Char) :
    ∀ c ∈ (joinCapitalized true cs).head?, capitalRanges.covers c = true := by
  induction cs with
  | nil => rintro c ⟨⟩
  | cons d cs ih =>
    rw [joinCapitalized]
    split
    case isTrue hd =>
      obtain ⟨hne, hcovers⟩ := upperForm_covers hd
      obtain ⟨u, us, hupper⟩ := List.exists_cons_of_ne_nil hne
      rintro c hc
      rw [if_pos rfl, hupper, List.cons_append, List.head?_cons] at hc
      cases hc
      exact hcovers u (hupper ▸ List.mem_cons_self ..)
    case isFalse => exact ih

theorem pascalCase_capitalized (key : String) : IsCapitalized (pascalCase key).toList := by
  have hchars := joinCapitalized_chars true key.toList
  have hhead := head?_joinCapitalized key.toList
  rw [pascalCase, String.toList_ofList]
  generalize joinCapitalized true key.toList = name at hchars hhead
  refine ⟨guardDigit_chars fun c hc => ?_, fun c hc => ?_, fun hunder => ?_⟩
  · rw [isNameChar, hchars c hc, Bool.or_true]
  · cases name with
    | nil => cases hc
    | cons d name =>
      rw [guardDigit] at hc
      split at hc
      · cases hc
        rfl
      case isFalse hdigit =>
        cases hc
        have hcapital := hhead c rfl
        rw [isAsciiDigit_iff] at hdigit
        simp only [Ranges.covers, capitalRanges, leadRanges, List.any_cons, List.any_nil, Bool.or_false,
          Bool.or_eq_true, Bool.and_eq_true, decide_eq_true_eq] at hcapital ⊢
        omega
  · cases name with
    | nil => cases hunder
    | cons d name =>
      rw [guardDigit] at hunder ⊢
      split at hunder
      case isTrue hdigit => simp [hdigit]
      · cases hunder
        exact absurd (hchars '_' (List.mem_cons_self ..)) (by decide)

/-! ### Singulars -/

theorem endsIn_iff {word : List Char} {ending : String} :
    endsIn word ending = true ↔ ending.toList <:+ word.map Char.toLower := by
  rw [endsIn, beq_iff_eq, ← String.length_toList, ← List.reverse_prefix, List.prefix_iff_eq_take,
    List.length_reverse, eq_comm]

theorem isAlpha_of_isLower_toLower {c : Char} (h : c.toLower.isLower = true) : c.isAlpha = true := by
  refine Bool.or_eq_true_iff.mpr ?_
  by_cases hupper : c.isUpper = true
  · exact .inl hupper
  · have hsame : c.toLower = c := dif_neg fun hcapital => hupper (decide_eq_true hcapital)
    exact .inr (hsame ▸ h)

/-- A word that ends in small letters, whatever their case, ends in letters. -/
theorem exists_of_endsIn {word : List Char} {ending : String} (h : endsIn word ending = true)
    (hsmall : ending.toList.all Char.isLower = true) :
    ∃ dropped, word = dropEnd ending.length word ++ dropped ∧ dropped.length = ending.length ∧
      (∀ c ∈ dropped, c.isAlpha = true) ∧ dropped.map Char.toLower = ending.toList := by
  obtain ⟨dropped, ⟨stem, hword⟩, hlower⟩ := List.suffix_map_iff.mp (endsIn_iff.mp h)
  have hlen : dropped.length = ending.length := by
    rw [← String.length_toList, hlower, List.length_map]
  have hstem : dropEnd ending.length word = stem := by
    simp [dropEnd, ← hword, ← hlen]
  refine ⟨dropped, hstem ▸ hword.symm, hlen, fun c hc => ?_, hlower.symm⟩
  exact isAlpha_of_isLower_toLower (List.all_eq_true.mp hsmall _ (hlower ▸ List.mem_map_of_mem hc))

/-- Another end that is made of letters keeps a name capitalized if something stays in front of it. -/
theorem IsCapitalized.replaceEnd {stem dropped tail : List Char} (h : IsCapitalized (stem ++ dropped))
    (hstem : stem ≠ []) (hdropped : ∀ c ∈ dropped, c.isAlpha = true)
    (htail : ∀ c ∈ tail, isNameChar c = true) : IsCapitalized (stem ++ tail) := by
  obtain ⟨c, stem, rfl⟩ := List.exists_cons_of_ne_nil hstem
  refine ⟨fun d hd => ?_, fun d hd => h.head d hd, fun hunder => ?_⟩
  · rcases List.mem_append.mp hd with hd | hd
    · exact h.chars d (List.mem_append_left _ hd)
    · exact htail d hd
  · have hdigit := h.underscore hunder
    -- The digit after the underscore is not one of the letters that are dropped.
    cases stem with
    | nil =>
      cases dropped with
      | nil => cases hdigit
      | cons d dropped =>
        have hletter := isAlpha_iff.mp (hdropped d (List.mem_cons_self ..))
        have hdigit := isAsciiDigit_iff.mp hdigit
        omega
    | cons d stem => exact hdigit

theorem utf8Len_of_letters {cs : List Char} (h : ∀ c ∈ cs, c.isAlpha = true) :
    String.utf8Len cs = cs.length := by
  induction cs with
  | nil => rfl
  | cons c cs ih =>
    obtain ⟨hc, hcs⟩ := List.forall_mem_cons.mp h
    have hsize : c.utf8Size = 1 := by
      have hletter := isAlpha_iff.mp hc
      rw [Char.utf8Size_eq_one_iff, UInt32.le_iff_toNat_le, Char.toNat_val]
      change c.toNat ≤ 127
      omega
    rw [String.utf8Len_cons, ih hcs, hsize, List.length_cons]

/-- If more bytes are there than the ending has letters, something stands in front of it. -/
theorem dropEnd_ne_nil {word : List Char} {ending : String} (h : endsIn word ending = true)
    (hsmall : ending.toList.all Char.isLower = true)
    (hsize : ending.length < (String.ofList word).utf8ByteSize) : dropEnd ending.length word ≠ [] := by
  obtain ⟨dropped, hword, hlen, hletters, -⟩ := exists_of_endsIn h hsmall
  intro hnil
  rw [hnil, List.nil_append] at hword
  rw [String.utf8ByteSize_ofList, hword, utf8Len_of_letters hletters] at hsize
  omega

/-- A capitalized name that is made of letters only begins with a capital. -/
theorem IsCapitalized.isUppercase_head {c : Char} {cs : List Char} (h : IsCapitalized (c :: cs))
    (hletter : c.isAlpha = true) : isUppercase c = true := by
  have hlead := h.head c rfl
  have hletter := isAlpha_iff.mp hletter
  simp only [Ranges.covers, leadRanges, List.any_cons, List.any_nil, Bool.or_false, Bool.or_eq_true,
    Bool.and_eq_true, decide_eq_true_eq] at hlead
  exact List.any_eq_true.mpr ⟨(0x41, 0x5a), .head _, by simp; omega⟩

/-- The singular of an irregular plural that is capitalized if the plural is. -/
def irregularForm (capital : Bool) (singular : String) : List Char :=
  if capital then joinCapitalized true singular.toList else singular.toList

theorem irregularForm_letters : ∀ p ∈ irregularPlurals, ∀ capital,
    irregularForm capital p.2 ≠ [] ∧ (irregularForm capital p.2).all Char.isAlpha = true ∧
      IsCapitalized (irregularForm true p.2) := by
  decide +kernel

/-- All endings in front of whose last two letters something stays end in es. -/
theorem long_of_endsIn_es {word : List Char}
    (h : ["sses", "shes", "ches", "xes", "zes"].any (endsIn word) = true) :
    endsIn word "es" = true ∧ 3 ≤ word.length := by
  obtain ⟨ending, hmem, hends⟩ := List.any_eq_true.mp h
  have hall : ∀ ending ∈ ["sses", "shes", "ches", "xes", "zes"],
      "es".toList <:+ ending.toList ∧ 3 ≤ ending.toList.length := by
    decide +kernel
  obtain ⟨hes, hlong⟩ := hall ending hmem
  have hsuffix := endsIn_iff.mp hends
  refine ⟨endsIn_iff.mpr (hes.trans hsuffix), ?_⟩
  have := hsuffix.length_le
  rw [List.length_map] at this
  omega

/-- How a singular comes about: the word is kept, or a few letters at its end are replaced by others behind
what stays of it, or all of it is an irregular plural. -/
inductive SingularOf (word : List Char) : List Char → Prop where
  | same : SingularOf word word
  | replaced {stem dropped tail} (hword : word = stem ++ dropped) (hstem : stem ≠ [])
    (hdropped : ∀ c ∈ dropped, c.isAlpha = true) (htail : ∀ c ∈ tail, c.isAlpha = true) :
    SingularOf word (stem ++ tail)
  | irregular {p} (hp : p ∈ irregularPlurals) (hne : word ≠ []) (hword : ∀ c ∈ word, c.isAlpha = true) :
    SingularOf word (irregularForm ((word.take 1).all isUppercase) p.2)

theorem singularOf_irregular {word singular : List Char} (h : irregularSingular? word = some singular) :
    SingularOf word singular := by
  have hall : ∀ p ∈ irregularPlurals, p.1.toList.all Char.isLower = true ∧ p.1.length ≠ 0 := by
    decide +kernel
  obtain ⟨p, hp, h⟩ := List.exists_of_findSome?_eq_some h
  obtain ⟨hsmall, hlen⟩ := hall p hp
  dsimp only at h
  split at h
  case isFalse => cases h
  case isTrue hends =>
    obtain ⟨dropped, hword, hdropped, hletters, -⟩ := exists_of_endsIn hends hsmall
    generalize dropEnd p.1.length word = stem at h hword
    subst hword
    rw [List.drop_left] at h
    cases h
    by_cases hstem : stem = []
    · subst hstem
      exact .irregular hp (List.ne_nil_of_length_pos (by rw [List.nil_append]; omega)) hletters
    · exact .replaced rfl hstem hletters
        (List.all_eq_true.mp (irregularForm_letters p hp ((dropped.take 1).all isUppercase)).2.1)

theorem singularOf_singularChars (word : List Char) : SingularOf word (singularChars word) := by
  rw [singularChars]
  split
  case h_1 singular hsingular => exact singularOf_irregular hsingular
  case h_2 =>
    split
    case isTrue hies =>
      rw [Bool.and_eq_true, decide_eq_true_eq] at hies
      obtain ⟨dropped, hword, -, hletters, -⟩ := exists_of_endsIn hies.1 rfl
      exact .replaced hword (dropEnd_ne_nil hies.1 rfl hies.2) hletters
        (List.all_eq_true.mp (by decide))
    split
    case isTrue hes =>
      obtain ⟨hend, hlong⟩ := long_of_endsIn_es hes
      obtain ⟨dropped, hword, -, hletters, -⟩ := exists_of_endsIn hend rfl
      have hstem : dropEnd "es".length word ≠ [] := by
        have : "es".length = 2 := rfl
        simp only [dropEnd, ne_eq, List.take_eq_nil_iff, not_or]
        exact ⟨by omega, List.ne_nil_of_length_pos (by omega)⟩
      have h := SingularOf.replaced hword hstem hletters (List.forall_mem_nil _)
      rwa [List.append_nil] at h
    split
    case isTrue => exact .same
    split
    case isTrue hs =>
      rw [Bool.and_eq_true, decide_eq_true_eq] at hs
      obtain ⟨dropped, hword, -, hletters, -⟩ := exists_of_endsIn hs.1 rfl
      have h := SingularOf.replaced hword (dropEnd_ne_nil hs.1 rfl hs.2) hletters (List.forall_mem_nil _)
      rwa [List.append_nil] at h
    case isFalse => exact .same

/-- The singular of a capitalized name is capitalized. -/
theorem singularChars_capitalized {word : List Char} (h : IsCapitalized word) :
    IsCapitalized (singularChars word) := by
  have hsingular := singularOf_singularChars word
  generalize singularChars word = singular at hsingular
  cases hsingular with
  | same => exact h
  | replaced hword hstem hdropped htail =>
    exact IsCapitalized.replaceEnd (hword ▸ h) hstem hdropped fun c hc => isNameChar_of_isAlpha (htail c hc)
  | irregular hp hne hletters =>
    obtain ⟨c, cs, rfl⟩ := List.exists_cons_of_ne_nil hne
    have hupper : ((c :: cs).take 1).all isUppercase = true := by
      simpa using h.isUppercase_head (hletters c (List.mem_cons_self ..))
    rw [hupper]
    exact (irregularForm_letters _ hp true).2.2

/-! ### Numbers -/

theorem isAsciiDigit_of_mem_digitsOf {n : Nat} {c : Char} (h : c ∈ digitsOf n) :
    isAsciiDigit c = true := by
  have h := Nat.isDigit_of_mem_toDigits (by decide) (by decide) h
  rw [Char.isDigit, Bool.and_eq_true, decide_eq_true_eq, decide_eq_true_eq] at h
  simpa [isAsciiDigit, Char.le_def] using h

theorem isNameChar_of_mem_decimal {n : Nat} {c : Char} (h : c ∈ (decimal n).toList) :
    isNameChar c = true := by
  rw [decimal, String.toList_ofList] at h
  have hdigit := isAsciiDigit_iff.mp (isAsciiDigit_of_mem_digitsOf h)
  have hdigits : nameRanges.includes (0x30, 0x39) = true := rfl
  rw [isNameChar, Ranges.covers_of_includes hdigits hdigit.1 hdigit.2, Bool.or_true]

end Specimen.Text
