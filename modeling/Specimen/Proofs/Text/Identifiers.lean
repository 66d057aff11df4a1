import Mathlib.Data.List.TakeWhile
import Specimen.Proofs.Text.Names
import Specimen.Proofs.Text.IdentifierRanges

/-! Names as identifiers in the sense of Unicode.

A name keeps of its key the characters that are alphanumeric, and puts them in upper or in lower case. That
neither brings characters into the name that may not follow in an identifier nor takes any out of it
(`FormOf.continue_iff`), and but for one mark it does the same for those that may begin one
(`FormOf.isLead_head`). So a name is an identifier just if the characters of its key spell one
(`isUnicodeIdentifier_snakeCase_iff`, `isUnicodeIdentifier_pascalCase_iff`), and neither the singular nor a
number makes a difference. -/
namespace Specimen.Text

/-- A text that begins with an underscore or a character that may begin an identifier, goes on with characters
that may follow, and is not an underscore alone. -/
structure IsUnicodeIdentifier (name : List Char) : Prop where
  head : ∀ c ∈ name.head?, c = '_' ∨ isXidStart c = true
  chars : ∀ c ∈ name, isXidContinue c = true
  nonempty : name ≠ []
  underscore : name ≠ ['_']

instance (name : List Char) : Decidable (IsUnicodeIdentifier name) :=
  decidable_of_iff (name.head?.all (fun c => c == '_' || isXidStart c) = true ∧
    name.all isXidContinue = true ∧ name ≠ [] ∧ name ≠ ['_'])
    ⟨fun ⟨h₁, h₂, h₃, h₄⟩ => ⟨by simpa [Option.all_eq_true] using h₁, List.all_eq_true.mp h₂, h₃, h₄⟩,
      fun ⟨h₁, h₂, h₃, h₄⟩ => ⟨by simpa [Option.all_eq_true] using h₁, List.all_eq_true.mpr h₂, h₃, h₄⟩⟩

/-! ### Ranges -/

namespace Ranges

theorem covers_append (ranges ranges' : Ranges) (c : Char) :
    covers (ranges ++ ranges') c = (ranges.covers c || ranges'.covers c) := List.any_append ..

theorem covers_eq_includes (ranges : Ranges) (c : Char) :
    ranges.covers c = ranges.includes (c.toNat, c.toNat) := rfl

/-- None of the ranges meets the given one. -/
def avoids (ranges : Ranges) (range : Nat × Nat) : Bool :=
  ranges.all fun r => r.2 < range.1 || range.2 < r.1

theorem covers_of_avoids {ranges : Ranges} {range : Nat × Nat} (h : ranges.avoids range = true) {c : Char}
    (hlow : range.1 ≤ c.toNat) (hhigh : c.toNat ≤ range.2) : ranges.covers c = false := by
  refine List.any_eq_false.mpr fun r hr => ?_
  have haway := List.all_eq_true.mp h r hr
  rw [Bool.or_eq_true, decide_eq_true_eq, decide_eq_true_eq] at haway
  rw [Bool.and_eq_true, decide_eq_true_eq, decide_eq_true_eq]
  omega

end Ranges

/-- The character may begin a name, if need be with an underscore in front of it. -/
def isLead (c : Char) : Bool := isAsciiDigit c || isXidStart c

theorem isXidStart_of_cased {c : Char} (h : casedRanges.covers c = true) : isXidStart c = true := by
  rw [isXidStart, startRanges, Ranges.covers_append, h, Bool.true_or]

theorem isXidContinue_of_isXidStart {c : Char} (h : isXidStart c = true) : isXidContinue c = true := by
  rw [isXidContinue, continueRanges, Ranges.covers_append, ← isXidStart, h, Bool.true_or]

theorem isXidContinue_of_isAsciiDigit {c : Char} (h : isAsciiDigit c = true) : isXidContinue c = true := by
  have hdigits : followingRanges.includes (0x30, 0x39) = true := rfl
  obtain ⟨hlow, hhigh⟩ := isAsciiDigit_iff.mp h
  rw [isXidContinue, continueRanges, Ranges.covers_append, Ranges.covers_of_includes hdigits hlow hhigh,
    Bool.or_true]

theorem isXidContinue_of_isLead {c : Char} (h : isLead c = true) : isXidContinue c = true := by
  rw [isLead, Bool.or_eq_true] at h
  exact h.elim isXidContinue_of_isAsciiDigit isXidContinue_of_isXidStart

theorem isXidStart_of_isAlpha {c : Char} (h : c.isAlpha = true) : isXidStart c = true := by
  have hcapitals : casedRanges.includes (0x41, 0x5a) = true := rfl
  have hsmall : casedRanges.includes (0x61, 0x7a) = true := rfl
  refine isXidStart_of_cased ?_
  rcases isAlpha_iff.mp h with h | h
  · exact Ranges.covers_of_includes hcapitals h.1 h.2
  · exact Ranges.covers_of_includes hsmall h.1 h.2

/-! ### Letter case -/

/-- How the form of a character in upper or lower case can be told from it, as far as identifiers go. -/
inductive FormOf (c : Char) : List Char → Prop where
  | same : FormOf c [c]
  /-- A letter turns into a letter, maybe with characters after it that may follow. -/
  | letter {d rest} (hc : casedRanges.covers c = true) (hd : casedRanges.covers d = true)
    (hrest : ∀ e ∈ rest, isXidContinue e = true) : FormOf c (d :: rest)
  /-- What no identifier has turns into what no identifier has. -/
  | outside {d} (hc : isXidContinue c = false) (hd : isXidContinue d = false) : FormOf c [d]

namespace FormOf
variable {c : Char} {cs : List Char}

theorem continue_iff (h : FormOf c cs) : (∀ d ∈ cs, isXidContinue d = true) ↔ isXidContinue c = true := by
  have hcased {e : Char} (he : casedRanges.covers e = true) : isXidContinue e = true :=
    isXidContinue_of_isXidStart (isXidStart_of_cased he)
  cases h with
  | same => exact List.forall_mem_singleton
  | letter hc hd hrest => exact iff_of_true (List.forall_mem_cons.mpr ⟨hcased hd, hrest⟩) (hcased hc)
  | outside hc hd => rw [List.forall_mem_singleton, hc, hd]

theorem isLead_head (h : FormOf c cs) : ∃ d rest, cs = d :: rest ∧ isLead d = isLead c := by
  have hcased {e : Char} (he : casedRanges.covers e = true) : isLead e = true := by
    rw [isLead, isXidStart_of_cased he, Bool.or_true]
  have houtside {e : Char} (he : isXidContinue e = false) : isLead e = false :=
    Bool.eq_false_iff.mpr fun hlead => Bool.eq_false_iff.mp he (isXidContinue_of_isLead hlead)
  cases h with
  | same => exact ⟨c, [], rfl, rfl⟩
  | letter hc hd _ => exact ⟨_, _, rfl, (hcased hd).trans (hcased hc).symm⟩
  | outside hc hd => exact ⟨_, _, rfl, (houtside hd).trans (houtside hc).symm⟩

end FormOf

namespace Shift

/-- What the shift moves are letters, and so is what it moves them to. Runs that hold other characters between
those that are moved are decided one by one. -/
def movesLetters (shift : Shift) : Bool :=
  casedRanges.includes (shift.first, shift.last) && casedRanges.includes shift.image ||
  (List.range ((shift.last - shift.first) / shift.step + 1)).all fun k =>
    let code := shift.first + k * shift.step
    let moved := (code + shift.distance).toNat
    casedRanges.includes (code, code) && casedRanges.includes (moved, moved)

/-- Neither what the shift moves nor what it moves it to may be in an identifier. -/
def movesOthers (shift : Shift) : Bool :=
  continueRanges.avoids (shift.first, shift.last) && continueRanges.avoids shift.image

variable {shift : Shift} {code : Nat}

theorem le_of_applies (h : shift.applies code = true) : shift.first ≤ code ∧ code ≤ shift.last ∧
    code = shift.first + (code - shift.first) / shift.step * shift.step := by
  rw [applies, Bool.and_eq_true, Bool.and_eq_true, decide_eq_true_eq, decide_eq_true_eq, beq_iff_eq] at h
  obtain ⟨⟨hlow, hhigh⟩, hstep⟩ := h
  rw [Nat.div_mul_cancel (Nat.dvd_of_mod_eq_zero hstep)]
  omega

theorem includes_of_le {ranges : Ranges} {range : Nat × Nat} (h : ranges.includes range = true)
    (hlow : range.1 ≤ code) (hhigh : code ≤ range.2) : ranges.includes (code, code) = true := by
  obtain ⟨target, hmem, htarget⟩ := List.any_eq_true.mp h
  refine List.any_eq_true.mpr ⟨target, hmem, ?_⟩
  rw [Bool.and_eq_true, decide_eq_true_eq, decide_eq_true_eq] at htarget ⊢
  exact ⟨htarget.1.trans hlow, hhigh.trans htarget.2⟩

theorem includes_of_movesLetters (h : shift.movesLetters = true) (hcode : shift.applies code = true) :
    casedRanges.includes (code, code) = true ∧
      casedRanges.includes ((code + shift.distance).toNat, (code + shift.distance).toNat) = true := by
  obtain ⟨hlow, hhigh, hstep⟩ := le_of_applies hcode
  rw [movesLetters, Bool.or_eq_true, Bool.and_eq_true] at h
  rcases h with ⟨hsource, himage⟩ | hall
  · refine ⟨includes_of_le hsource hlow hhigh, includes_of_le himage ?_ ?_⟩ <;>
    · rw [image]
      dsimp only
      omega
  · have hk : (code - shift.first) / shift.step < (shift.last - shift.first) / shift.step + 1 :=
      Nat.lt_succ_of_le (Nat.div_le_div_right (Nat.sub_le_sub_right hhigh _))
    have hcode := List.all_eq_true.mp hall _ (List.mem_range.mpr hk)
    dsimp only at hcode
    rwa [← hstep, Bool.and_eq_true] at hcode

end Shift

/-- A letter turns into a letter, with characters after it that may follow. -/
def expandsLetter (expansion : Nat × List Nat) : Bool :=
  casedRanges.includes (expansion.1, expansion.1) &&
    expansion.2.head?.all (fun code => casedRanges.covers (Char.ofNat code)) &&
      expansion.2.all fun code => isXidContinue (Char.ofNat code)

theorem formOf_caseForm {shifts : List Shift} {expansions : List (Nat × List Nat)} {targets : Ranges}
    (hmoves : MovesInto shifts expansions targets) {c : Char}
    (hshifts : ∀ shift ∈ shifts, shift.applies c.toNat = true →
      shift.movesLetters = true ∨ shift.movesOthers = true)
    (hexpansions : expansions.all expandsLetter = true) :
    FormOf c (caseForm shifts expansions c) := by
  refine caseForm_cases (fun codes hmem => ?_) (fun shift hshift hcode => ?_) fun _ => .same
  · have hletter := List.all_eq_true.mp hexpansions _ hmem
    obtain ⟨code, codes, rfl⟩ := List.exists_cons_of_ne_nil (hmoves.several _ hmem)
    rw [expandsLetter, Bool.and_eq_true, Bool.and_eq_true, List.all_eq_true] at hletter
    obtain ⟨⟨hc, hhead⟩, hchars⟩ := hletter
    exact .letter hc hhead (List.forall_mem_map.mpr (List.forall_mem_cons.mp hchars).2)
  · have hnat := hmoves.toNat_shifted hshift hcode
    rcases hshifts shift hshift hcode with hletters | hothers
    · obtain ⟨hc, hd⟩ := Shift.includes_of_movesLetters hletters hcode
      exact .letter hc (by rwa [Ranges.covers_eq_includes, hnat]) (List.forall_mem_nil _)
    · obtain ⟨hlow, hhigh, -⟩ := Shift.le_of_applies hcode
      rw [Shift.movesOthers, Bool.and_eq_true] at hothers
      refine .outside (Ranges.covers_of_avoids hothers.1 hlow hhigh)
        (Ranges.covers_of_avoids hothers.2 ?_ ?_) <;>
      · rw [hnat, Shift.image]
        dsimp only
        omega

theorem formOf_lowerForm (c : Char) : FormOf c (lowerForm c) := by
  have hshifts : lowerShifts.all (fun shift => shift.movesLetters || shift.movesOthers) = true := by
    decide +kernel
  have hexpansions : lowerExpansions.all expandsLetter = true := by decide +kernel
  exact formOf_caseForm movesInto_lower (fun shift hshift _ => by
    simpa using List.all_eq_true.mp hshifts shift hshift) hexpansions

/-- The mark that turns into a letter in upper case. -/
def iotaMark : Char := '\u0345'

theorem formOf_upperForm {c : Char} (h : c ≠ iotaMark) : FormOf c (upperForm c) := by
  have hshifts : upperShifts.all (fun shift => shift.movesLetters || shift.movesOthers ||
      (shift.first == 0x345 && shift.last == 0x345)) = true := by
    decide +kernel
  have hexpansions : upperExpansions.all expandsLetter = true := by decide +kernel
  refine formOf_caseForm movesInto_upper (fun shift hshift hcode => ?_) hexpansions
  have hshift := List.all_eq_true.mp hshifts shift hshift
  rw [Bool.or_eq_true, Bool.or_eq_true, Bool.and_eq_true, beq_iff_eq, beq_iff_eq] at hshift
  refine hshift.resolve_right fun ⟨hfirst, hlast⟩ => h ?_
  obtain ⟨hlow, hhigh, -⟩ := Shift.le_of_applies hcode
  have hcode : c.toNat = iotaMark.toNat := by
    change c.toNat = 0x345
    omega
  rw [← Char.ofNat_toNat c, hcode, Char.ofNat_toNat]

/-! ### Keys -/

/-- What a name keeps of a key. -/
def keptChars (key : String) : List Char := key.toList.filter isAlphanumeric

/-- What a name keeps of the key may be in an identifier, and the first of it may begin a name. -/
structure SpellsName (lead : Char → Bool) (key : String) : Prop where
  head : ∀ c ∈ (keptChars key).head?, lead c = true
  chars : ∀ c ∈ keptChars key, isXidContinue c = true

instance (lead : Char → Bool) (key : String) : Decidable (SpellsName lead key) :=
  decidable_of_iff ((keptChars key).head?.all lead = true ∧ (keptChars key).all isXidContinue = true)
    ⟨fun ⟨h₁, h₂⟩ => ⟨(Option.all_eq_true ..).mp h₁, List.all_eq_true.mp h₂⟩,
      fun ⟨h₁, h₂⟩ => ⟨(Option.all_eq_true ..).mpr h₁, List.all_eq_true.mpr h₂⟩⟩

/-- The character may begin a name in upper case. -/
def isCapitalLead (c : Char) : Bool := isLead c || c == iotaMark

theorem SpellsName.capital {key : String} (h : SpellsName isLead key) : SpellsName isCapitalLead key where
  head c hc := by rw [isCapitalLead, h.head c hc, Bool.true_or]
  chars := h.chars

theorem isUnicodeIdentifier_guardDigit_iff {c : Char} {cs : List Char} (hc : c ≠ '_') :
    IsUnicodeIdentifier (guardDigit (c :: cs)) ↔
      isLead c = true ∧ ∀ d ∈ c :: cs, isXidContinue d = true := by
  have hunder : isXidContinue '_' = true := by decide +kernel
  rw [guardDigit, isLead, Bool.or_eq_true]
  split
  case isTrue hdigit =>
    refine ⟨fun h => ⟨.inl hdigit, fun d hd => h.chars d (.tail _ hd)⟩, fun h => ⟨?_, ?_, ?_, ?_⟩⟩
    · rintro d ⟨⟩
      exact .inl rfl
    · exact List.forall_mem_cons.mpr ⟨hunder, h.2⟩
    · exact List.cons_ne_nil _ _
    · simp
  case isFalse hdigit =>
    refine ⟨fun h => ⟨.inr ((h.head c rfl).resolve_left hc), h.chars⟩, fun h => ⟨?_, h.2, ?_, ?_⟩⟩
    · rintro d ⟨⟩
      exact .inr (h.1.resolve_left hdigit)
    · exact List.cons_ne_nil _ _
    · simp [hc]

/-- A name that begins as the first character that it keeps of the key does in some form. -/
theorem isUnicodeIdentifier_guarded_iff {key : String} {name : List Char} {form : Char → List Char}
    {lead : Char → Bool} {fallback : String} (hfallback : IsUnicodeIdentifier fallback.toList)
    (hform : ∀ c, isAlphanumeric c = true → ∃ d rest, form c = d :: rest ∧ isLead d = lead c ∧ d ≠ '_')
    (hhead : name.head? = (keptChars key).head?.bind fun c => (form c).head?)
    (hchars : (∀ d ∈ name, isXidContinue d = true) ↔ ∀ c ∈ keptChars key, isXidContinue c = true) :
    IsUnicodeIdentifier (if (String.ofList (guardDigit name)).isEmpty then fallback
      else String.ofList (guardDigit name)).toList ↔ SpellsName lead key := by
  have hspells : SpellsName lead key ↔ (∀ c ∈ (keptChars key).head?, lead c = true) ∧
      ∀ d ∈ name, isXidContinue d = true :=
    ⟨fun h => ⟨h.head, hchars.mpr h.chars⟩, fun h => ⟨h.1, hchars.mp h.2⟩⟩
  rw [hspells]
  cases hkept : (keptChars key).head? with
  | none =>
    rw [hkept, Option.bind_none, List.head?_eq_none_iff] at hhead
    subst hhead
    exact iff_of_true hfallback ⟨nofun, List.forall_mem_nil _⟩
  | some c =>
    have hc : isAlphanumeric c = true := (List.mem_filter.mp (List.mem_of_mem_head? hkept)).2
    obtain ⟨d, rest, hd, hlead, hunder⟩ := hform c hc
    rw [hkept, Option.bind_some, hd, List.head?_cons] at hhead
    obtain ⟨name, rfl⟩ := List.head?_eq_some_iff.mp hhead
    have hne : guardDigit (d :: name) ≠ [] := by
      rw [guardDigit]
      split <;> exact List.cons_ne_nil _ _
    rw [if_neg (by simpa using hne), String.toList_ofList, isUnicodeIdentifier_guardDigit_iff hunder, hlead]
    simp

theorem ne_underscore_of_covers {c : Char} (h : nameRanges.covers c = true) : c ≠ '_' := by
  rintro rfl
  exact absurd h (by decide)

/-! ### Names in lower case -/

theorem getLast?_withUnderscore (written : List Char) :
    (withUnderscore written).getLast? = written.getLast? := by
  unfold withUnderscore
  split
  · rfl
  · rfl
  case h_3 hne _ =>
    obtain ⟨c, cs, rfl⟩ := List.exists_cons_of_ne_nil hne
    exact List.getLast?_cons_cons

theorem continue_withUnderscore (written : List Char) :
    (∀ d ∈ withUnderscore written, isXidContinue d = true) ↔ ∀ d ∈ written, isXidContinue d = true := by
  have hunder : isXidContinue '_' = true := by decide +kernel
  unfold withUnderscore
  split
  · rfl
  · rfl
  · rw [List.forall_mem_cons, and_iff_right hunder]

/-- The name is made of the lower case of what it keeps, with underscores. -/
theorem snakeReversed_kept (before : Option Char) (written cs : List Char) :
    (snakeReversed before written cs).getLast? =
        written.getLast?.or ((cs.filter isAlphanumeric).head?.bind fun c => (lowerForm c).head?) ∧
      ((∀ d ∈ snakeReversed before written cs, isXidContinue d = true) ↔
        (∀ d ∈ written, isXidContinue d = true) ∧ ∀ c ∈ cs.filter isAlphanumeric, isXidContinue c = true) := by
  induction cs generalizing before written with
  | nil => simp [snakeReversed]
  | cons c cs ih =>
    rw [snakeReversed]
    split
    case isTrue hc =>
      have hlast : (if startsWord before c cs then withUnderscore written else written).getLast? =
          written.getLast? := by
        split
        · exact getLast?_withUnderscore written
        · rfl
      have hchars : (∀ d ∈ if startsWord before c cs then withUnderscore written else written,
          isXidContinue d = true) ↔ ∀ d ∈ written, isXidContinue d = true := by
        split
        · exact continue_withUnderscore written
        · rfl
      obtain ⟨d, rest, hform, -⟩ := (formOf_lowerForm c).isLead_head
      obtain ⟨hlast', hchars'⟩ := ih (some c) ((lowerForm c).reverse ++
        if startsWord before c cs then withUnderscore written else written)
      constructor
      · rw [hlast', List.getLast?_append, hlast, List.getLast?_reverse, List.filter_cons_of_pos hc,
          List.head?_cons, Option.bind_some, hform, List.head?_cons, Option.or_assoc, Option.some_or]
      · simp only [hchars', List.forall_mem_append, hchars, List.mem_reverse,
          (formOf_lowerForm c).continue_iff, List.filter_cons_of_pos hc, List.forall_mem_cons]
        tauto
    case isFalse hc =>
      obtain ⟨hlast, hchars⟩ := ih (some c) (withUnderscore written)
      rw [List.filter_cons_of_neg hc, hlast, hchars, getLast?_withUnderscore, continue_withUnderscore]
      exact ⟨rfl, Iff.rfl⟩

/-- Without the underscores at its end the name ends as it does if it ends in none. -/
theorem getLast?_dropUnderscores {written : List Char} (h : written.reverse.head? ≠ some '_') :
    (written.dropWhile (· == '_')).getLast? = written.getLast? := by
  have hsplit := List.takeWhile_append_dropWhile (p := (· == '_')) (l := written)
  rw [List.head?_reverse] at h
  cases hdrop : written.dropWhile (· == '_') with
  | nil =>
    rw [hdrop, List.append_nil] at hsplit
    cases hlast : written.getLast? with
    | none => rfl
    | some c =>
      have hmem := List.mem_of_getLast? hlast
      rw [← hsplit] at hmem
      have hunder : (c == '_') = true := List.mem_takeWhile_imp (p := (· == '_')) hmem
      exact absurd (hlast.trans (congrArg some (eq_of_beq hunder))) h
  | cons c rest =>
    rw [hdrop] at hsplit
    rw [← hsplit, List.getLast?_append_of_ne_nil _ (List.cons_ne_nil c rest)]

theorem continue_dropUnderscores (written : List Char) :
    (∀ d ∈ written.dropWhile (· == '_'), isXidContinue d = true) ↔ ∀ d ∈ written, isXidContinue d = true := by
  have hunder : isXidContinue '_' = true := by decide +kernel
  refine ⟨fun h d hd => ?_, fun h d hd => h d ((List.dropWhile_sublist _).subset hd)⟩
  rw [← List.takeWhile_append_dropWhile (p := (· == '_')) (l := written)] at hd
  rcases List.mem_append.mp hd with hd | hd
  · have hd : (d == '_') = true := List.mem_takeWhile_imp (p := (· == '_')) hd
    rw [eq_of_beq hd]
    exact hunder
  · exact h d hd

theorem isUnicodeIdentifier_snakeCase_iff {fallback : String} (hfallback : IsUnicodeIdentifier fallback.toList)
    (key : String) : IsUnicodeIdentifier
      (if (snakeCase key).isEmpty then fallback else snakeCase key).toList ↔ SpellsName isLead key := by
  have hform : ∀ c, isAlphanumeric c = true →
      ∃ d rest, lowerForm c = d :: rest ∧ isLead d = isLead c ∧ d ≠ '_' := by
    intro c hc
    obtain ⟨d, rest, hform, hlead⟩ := (formOf_lowerForm c).isLead_head
    exact ⟨d, rest, hform, hlead, ne_underscore_of_covers (lowerForm_covers hc d (hform ▸ .head _))⟩
  obtain ⟨hlast, hchars⟩ := snakeReversed_kept none [] key.toList
  rw [List.getLast?_nil, Option.none_or, ← keptChars] at hlast
  rw [iff_true_intro (List.forall_mem_nil _), true_and, ← keptChars] at hchars
  have hunder : (snakeReversed none [] key.toList).getLast? ≠ some '_' := by
    rw [hlast]
    intro hsome
    obtain ⟨c, hc, hd⟩ := Option.bind_eq_some_iff.mp hsome
    have hkept := (List.mem_filter.mp (List.mem_of_mem_head? hc)).2
    obtain ⟨d, rest, hd', -, hne⟩ := hform c hkept
    rw [hd', List.head?_cons] at hd
    exact hne (Option.some.inj hd)
  refine isUnicodeIdentifier_guarded_iff hfallback hform ?_ ?_
  · rw [List.head?_reverse, getLast?_dropUnderscores (by rwa [List.head?_reverse]), hlast]
  · simp only [List.mem_reverse, continue_dropUnderscores, hchars]

/-! ### Capitalized names -/

theorem isLead_upperForm (c : Char) :
    ∃ d rest, upperForm c = d :: rest ∧ isLead d = isCapitalLead c := by
  by_cases hmark : c = iotaMark
  · have hform : upperForm iotaMark = ['\u0399'] := by decide +kernel
    have hlead : isLead '\u0399' = isCapitalLead iotaMark := by decide +kernel
    exact hmark ▸ ⟨_, _, hform, hlead⟩
  · obtain ⟨d, rest, hform, hlead⟩ := (formOf_upperForm hmark).isLead_head
    refine ⟨d, rest, hform, ?_⟩
    rw [hlead, isCapitalLead, beq_false_of_ne hmark, Bool.or_false]

theorem continue_upperForm (c : Char) :
    (∀ d ∈ upperForm c, isXidContinue d = true) ↔ isXidContinue c = true := by
  by_cases hmark : c = iotaMark
  · have hform : (upperForm iotaMark).all isXidContinue = true := by decide +kernel
    have hcontinue : isXidContinue iotaMark = true := by decide +kernel
    exact hmark ▸ iff_of_true (List.all_eq_true.mp hform) hcontinue
  · exact (formOf_upperForm hmark).continue_iff

theorem continue_joinCapitalized (start : Bool) (cs : List Char) :
    (∀ d ∈ joinCapitalized start cs, isXidContinue d = true) ↔
      ∀ c ∈ cs.filter isAlphanumeric, isXidContinue c = true := by
  induction cs generalizing start with
  | nil => simp [joinCapitalized]
  | cons c cs ih =>
    rw [joinCapitalized]
    split
    case isTrue hc =>
      rw [List.filter_cons_of_pos hc, List.forall_mem_append, List.forall_mem_cons, ih]
      cases start with
      | true => rw [if_pos rfl, continue_upperForm]
      | false => simp
    case isFalse hc => rw [List.filter_cons_of_neg hc, ih]

theorem head?_joinCapitalized_kept (cs : List Char) : (joinCapitalized true cs).head? =
    (cs.filter isAlphanumeric).head?.bind fun c => (upperForm c).head? := by
  induction cs with
  | nil => rfl
  | cons c cs ih =>
    rw [joinCapitalized]
    split
    case isTrue hc =>
      obtain ⟨d, rest, hform, -⟩ := isLead_upperForm c
      rw [List.filter_cons_of_pos hc, List.head?_cons, Option.bind_some, if_pos rfl, hform, List.cons_append,
        List.head?_cons, List.head?_cons]
    case isFalse hc => rw [List.filter_cons_of_neg hc, ih]

theorem isUnicodeIdentifier_pascalCase_iff {fallback : String}
    (hfallback : IsUnicodeIdentifier fallback.toList) (key : String) : IsUnicodeIdentifier
      (if (pascalCase key).isEmpty then fallback else pascalCase key).toList ↔ SpellsName isCapitalLead key := by
  have hleads : ∀ c, isAlphanumeric c = true →
      ∃ d rest, upperForm c = d :: rest ∧ isLead d = isCapitalLead c ∧ d ≠ '_' := by
    intro c hc
    obtain ⟨d, rest, hform, hlead⟩ := isLead_upperForm c
    have hcovers := covers_of_capital ((upperForm_covers hc).2 d (hform ▸ .head _))
    exact ⟨d, rest, hform, hlead, ne_underscore_of_covers hcovers⟩
  exact isUnicodeIdentifier_guarded_iff hfallback hleads
    (head?_joinCapitalized_kept key.toList) (continue_joinCapitalized true key.toList)

/-! ### Singulars and numbers -/

/-- What is put behind a name that is not an underscore alone makes no difference if it may follow. -/
theorem isUnicodeIdentifier_append_iff {stem suffix : List Char} (hstem : stem ≠ []) (hunder : stem ≠ ['_'])
    (hsuffix : ∀ c ∈ suffix, isXidContinue c = true) :
    IsUnicodeIdentifier (stem ++ suffix) ↔ IsUnicodeIdentifier stem := by
  obtain ⟨c, stem, rfl⟩ := List.exists_cons_of_ne_nil hstem
  have hchars : (∀ d ∈ c :: stem ++ suffix, isXidContinue d = true) ↔
      ∀ d ∈ c :: stem, isXidContinue d = true := by
    rw [List.forall_mem_append, and_iff_left hsuffix]
  refine ⟨fun h => ⟨h.head, hchars.mp h.chars, hstem, hunder⟩,
    fun h => ⟨h.head, hchars.mpr h.chars, List.cons_ne_nil _ _, fun heq => ?_⟩⟩
  obtain ⟨rfl, hnil⟩ := List.cons.inj heq
  rw [(List.append_eq_nil_iff.mp hnil).1] at hunder
  exact hunder rfl

theorem isXidContinue_of_isAlpha {c : Char} (h : c.isAlpha = true) : isXidContinue c = true :=
  isXidContinue_of_isXidStart (isXidStart_of_isAlpha h)

theorem isUnicodeIdentifier_of_letters {word : List Char} (hne : word ≠ [])
    (h : ∀ c ∈ word, c.isAlpha = true) : IsUnicodeIdentifier word where
  head c hc := .inr (isXidStart_of_isAlpha (h c (List.mem_of_mem_head? hc)))
  chars c hc := isXidContinue_of_isAlpha (h c hc)
  nonempty := hne
  underscore heq := absurd (h '_' (heq ▸ .head _)) (by decide)

theorem IsCapitalized.ne_underscore {name : List Char} (h : IsCapitalized name) : name ≠ ['_'] := by
  rintro rfl
  cases h.underscore rfl

theorem SingularOf.isUnicodeIdentifier_iff {word singular : List Char} (h : SingularOf word singular)
    (hcapital : IsCapitalized word) : IsUnicodeIdentifier singular ↔ IsUnicodeIdentifier word := by
  cases h with
  | same => rfl
  | @replaced stem dropped tail hword hstem hdropped htail =>
    subst hword
    have hunder : stem ≠ ['_'] := by
      rintro rfl
      have hdigit := hcapital.underscore rfl
      cases dropped with
      | nil => cases hdigit
      | cons d dropped =>
        have hletter := isAlpha_iff.mp (hdropped d (List.mem_cons_self ..))
        have hdigit := isAsciiDigit_iff.mp hdigit
        omega
    rw [isUnicodeIdentifier_append_iff hstem hunder fun c hc => isXidContinue_of_isAlpha (htail c hc),
      isUnicodeIdentifier_append_iff hstem hunder fun c hc => isXidContinue_of_isAlpha (hdropped c hc)]
  | @irregular p hp hne hletters =>
    obtain ⟨hform, hirregular, -⟩ := irregularForm_letters p hp ((word.take 1).all isUppercase)
    exact iff_of_true (isUnicodeIdentifier_of_letters hform (List.all_eq_true.mp hirregular))
      (isUnicodeIdentifier_of_letters hne hletters)

theorem SingularOf.eq_nil_iff {word singular : List Char} (h : SingularOf word singular) :
    singular = [] ↔ word = [] := by
  cases h with
  | same => rfl
  | replaced hword hstem _ _ => simp [hword, hstem]
  | irregular hp hne _ => exact iff_of_false (irregularForm_letters _ hp _).1 hne

theorem isUnicodeIdentifier_singularize_iff {fallback : String}
    (hfallback : IsUnicodeIdentifier fallback.toList) (key : String) : IsUnicodeIdentifier
      (if (singularize (pascalCase key)).isEmpty then fallback else singularize (pascalCase key)).toList ↔
        SpellsName isCapitalLead key := by
  rw [← isUnicodeIdentifier_pascalCase_iff hfallback key]
  have hsingular := singularOf_singularChars (pascalCase key).toList
  have hempty : singularize (pascalCase key) = "" ↔ pascalCase key = "" := by
    rw [← String.toList_eq_nil_iff, ← String.toList_eq_nil_iff, singularize, String.toList_ofList]
    exact hsingular.eq_nil_iff
  by_cases hnil : pascalCase key = ""
  · rw [hempty.mpr hnil, hnil]
  · have hne : singularize (pascalCase key) ≠ "" := fun h => hnil (hempty.mp h)
    rw [if_neg (by simpa using hne), if_neg (by simpa using hnil)]
    rw [singularize, String.toList_ofList]
    exact hsingular.isUnicodeIdentifier_iff (pascalCase_capitalized key)

theorem isXidContinue_of_mem_decimal {n : Nat} {c : Char} (h : c ∈ (decimal n).toList) :
    isXidContinue c = true := by
  rw [decimal, String.toList_ofList] at h
  exact isXidContinue_of_isAsciiDigit (isAsciiDigit_of_mem_digitsOf h)

end Specimen.Text
