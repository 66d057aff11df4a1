import Specimen.Proofs.Json.Separators
import Specimen.Proofs.Settings.Decoding
import Specimen.Settings.Reader

/-! A reader of the settings reads the values that can be decoded, and no others (`Decodes`). -/
namespace Specimen.Settings
open Json

variable {α σ : Type}

/-! ### Results -/

theorem malformed_eq_ok_iff {result : Except Stop α} {x : α} : malformed result = .ok x ↔ result = .ok x :=
  mapError_eq_ok_iff

theorem within_eq_ok_iff {step : Step} {result : Except Refusal α} {x : α} :
    within step result = .ok x ↔ result = .ok x :=
  mapError_eq_ok_iff

theorem refuseType_ne_ok {expected : String} {input : Bytes} {x : α} : refuseType expected input ≠ .ok x := by
  intro h
  unfold refuseType at h
  cases input with
  | nil => cases h
  | cons b rest =>
    dsimp only at h
    split_ifs at h
    all_goals first
      | cases h
      | obtain ⟨_, -, h⟩ := bind_eq_ok_iff.mp h
        cases h

/-- What the reader reads is a value and what it is decoded to. A number is read as far as it goes. -/
structure Decodes (read : Bytes → Reading α) (decode : Tree → Option α) : Prop where
  sound : ∀ {input rest : Bytes} {value : α}, read input = .ok (value, rest) →
    ∃ start tree, Blanks input start ∧ Value start tree rest ∧ decode tree = some value
  complete : ∀ {input start rest : Bytes} {tree : Tree} {value : α}, Blanks input start → Value start tree rest →
    EndsNumeral rest → decode tree = some value → read input = .ok (value, rest)

theorem decodes_readText : Decodes readText text? where
  sound {input rest value} h := by
    unfold readText at h
    dsimp only at h
    split at h
    case h_1 b after hinput =>
      split_ifs at h with hquote
      · obtain rfl := isByte_iff.mp hquote
        exact ⟨_, _, (skipBlanks_eq_cons_iff.mp hinput).1,
          .string (scanString_eq_ok_iff.mp (malformed_eq_ok_iff.mp h)), rfl⟩
      · exact absurd h refuseType_ne_ok
    case h_2 => exact absurd h refuseType_ne_ok
  complete {input start rest tree value} hblanks hvalue _ hdecode := by
    cases hvalue with
    | string hchars =>
      obtain rfl := Option.some.inj hdecode
      simp only [readText, skipBlanks_eq_cons_iff.mpr ⟨hblanks, by decide⟩]
      exact malformed_eq_ok_iff.mpr (scanString_eq_ok_iff.mpr hchars)
    | _ => cases hdecode

theorem decodes_readOptionalText : Decodes readOptionalText optionalText? where
  sound {input rest value} h := by
    have hsome {text : String} {rest : Bytes} (htext : readText input = .ok (text, rest)) :
        ∃ start tree, Blanks input start ∧ Value start tree rest ∧ optionalText? tree = some (some text) := by
      obtain ⟨start, tree, hblanks, hvalue, hdecode⟩ := decodes_readText.sound htext
      refine ⟨start, tree, hblanks, hvalue, ?_⟩
      cases tree <;> cases hdecode
      rfl
    unfold readOptionalText at h
    split at h
    case h_1 b after hinput =>
      split_ifs at h with hn
      · obtain ⟨_, hscan, ⟨⟩⟩ := map_eq_ok_iff.mp (malformed_eq_ok_iff.mp h)
        obtain rfl := isByte_iff.mp hn
        rw [scanWord_eq_ok_iff.mp hscan] at hinput
        exact ⟨_, _, (skipBlanks_eq_cons_iff.mp hinput).1, .null _, rfl⟩
      · obtain ⟨_, htext, ⟨⟩⟩ := map_eq_ok_iff.mp h
        exact hsome htext
    case h_2 =>
      obtain ⟨_, htext, ⟨⟩⟩ := map_eq_ok_iff.mp h
      exact hsome htext
  complete {input start rest tree value} hblanks hvalue hends hdecode := by
    cases hvalue with
    | null =>
      obtain rfl := Option.some.inj hdecode
      have hblanks : Blanks input ('n'.toUInt8 :: (ascii "ull" ++ rest)) := hblanks
      simp only [readOptionalText, skipBlanks_eq_cons_iff.mpr ⟨hblanks, by decide⟩]
      exact malformed_eq_ok_iff.mpr (map_eq_ok_iff.mpr ⟨rest, scanWord_eq_ok_iff.mpr rfl, rfl⟩)
    | string hchars =>
      obtain rfl := Option.some.inj hdecode
      have htext := decodes_readText.complete hblanks (.string hchars) hends rfl
      simp only [readOptionalText, skipBlanks_eq_cons_iff.mpr ⟨hblanks, by decide⟩]
      exact map_eq_ok_iff.mpr ⟨_, htext, rfl⟩
    | _ => cases hdecode

theorem decodes_readFlag : Decodes readFlag flag? where
  sound {input rest value} h := by
    unfold readFlag at h
    dsimp only at h
    split at h
    case h_1 b after hinput =>
      split_ifs at h with ht hf
      · obtain ⟨_, hscan, ⟨⟩⟩ := map_eq_ok_iff.mp (malformed_eq_ok_iff.mp h)
        obtain rfl := isByte_iff.mp ht
        rw [scanWord_eq_ok_iff.mp hscan] at hinput
        exact ⟨_, _, (skipBlanks_eq_cons_iff.mp hinput).1, .true _, rfl⟩
      · obtain ⟨_, hscan, ⟨⟩⟩ := map_eq_ok_iff.mp (malformed_eq_ok_iff.mp h)
        obtain rfl := isByte_iff.mp hf
        rw [scanWord_eq_ok_iff.mp hscan] at hinput
        exact ⟨_, _, (skipBlanks_eq_cons_iff.mp hinput).1, .false _, rfl⟩
      · exact absurd h refuseType_ne_ok
    case h_2 => exact absurd h refuseType_ne_ok
  complete {input start rest tree value} hblanks hvalue _ hdecode := by
    cases hvalue with
    | true =>
      obtain rfl := Option.some.inj hdecode
      have hblanks : Blanks input ('t'.toUInt8 :: (ascii "rue" ++ rest)) := hblanks
      simp only [readFlag, skipBlanks_eq_cons_iff.mpr ⟨hblanks, by decide⟩]
      exact malformed_eq_ok_iff.mpr (map_eq_ok_iff.mpr ⟨rest, scanWord_eq_ok_iff.mpr rfl, rfl⟩)
    | false =>
      obtain rfl := Option.some.inj hdecode
      have hblanks : Blanks input ('f'.toUInt8 :: (ascii "alse" ++ rest)) := hblanks
      simp only [readFlag, skipBlanks_eq_cons_iff.mpr ⟨hblanks, by decide⟩]
      rw [if_neg (by decide)]
      exact malformed_eq_ok_iff.mpr (map_eq_ok_iff.mpr ⟨rest, scanWord_eq_ok_iff.mpr rfl, rfl⟩)
    | _ => cases hdecode

theorem isNumeral_of_isWhole {whole : Bytes} (h : IsWhole whole) : IsNumeral whole :=
  ⟨[], whole, [], [], by simp, .inl rfl, h, .inl rfl, .inl rfl⟩

/-- A numeral of digits alone is a whole number. -/
theorem isWhole_of_isNumeral {literal : Bytes} (h : IsNumeral literal)
    (hdigits : ∀ b ∈ literal, isDigitByte b = true) : IsWhole literal := by
  obtain ⟨minus, whole, fraction, exponent, rfl, hminus, hwhole, hfraction, hexponent⟩ := h
  simp only [List.forall_mem_append] at hdigits
  obtain ⟨hsign, -, hpoint, hmarks⟩ := hdigits
  obtain rfl : minus = [] := hminus.resolve_right fun h => absurd (hsign '-'.toUInt8) (by rw [h]; decide)
  obtain rfl : fraction = [] := hfraction.resolve_right fun ⟨digits, h, _⟩ =>
    absurd (hpoint '.'.toUInt8 (h ▸ List.mem_cons_self)) (by decide)
  obtain rfl : exponent = [] := hexponent.resolve_right fun ⟨mark, sign, digits, h, hmark, _⟩ => by
    have hnot : ∀ b ∈ ascii "eE", isDigitByte b = false := List.all_iff_forall_prop.mp (by decide)
    exact Bool.false_ne_true ((hnot mark hmark).symm.trans (hmarks mark (h ▸ List.mem_cons_self)))
  simpa using hwhole

theorem decodes_readCount : Decodes readCount count? where
  sound {input rest value} h := by
    unfold readCount at h
    dsimp only at h
    split at h
    case h_1 b after hinput =>
      by_cases hnumber : (isByte b '-' || isDigitByte b) = true
      · rw [if_pos hnumber] at h
        obtain ⟨⟨found, after'⟩, hscan, h⟩ := bind_eq_ok_iff.mp h
        obtain ⟨rfl, rfl⟩ : found = .int (.ofNat value) ∧ after' = rest := by
          rcases found with (n | n) | x <;> cases h
          exact ⟨rfl, rfl⟩
        rw [malformed_eq_ok_iff] at hscan
        split_ifs at hscan with hminus
        · obtain ⟨_, hnot, -⟩ := scanNumber_ofNat_sound hscan
          cases hnot
        · obtain ⟨whole, -, hwhole, hdigits, hfits, rfl⟩ := scanNumber_ofNat_sound hscan
          have hblanks := (skipBlanks_eq_cons_iff.mp hinput).1
          rw [← hinput, hwhole] at hblanks
          refine ⟨_, _, hblanks, .number (isNumeral_of_isWhole hdigits) _, if_pos ⟨?_, hfits⟩⟩
          exact List.all_eq_true.mpr hdigits.allDigits.2
      · rw [if_neg hnumber] at h
        exact absurd h refuseType_ne_ok
    case h_2 => exact absurd h refuseType_ne_ok
  complete {input start rest tree value} hblanks hvalue hends hdecode := by
    cases hvalue with
    | @number literal hnumeral =>
      simp only [count?] at hdecode
      split_ifs at hdecode with hcount
      obtain rfl := Option.some.inj hdecode
      obtain ⟨hdigits, hfits⟩ := hcount
      rw [List.all_eq_true] at hdigits
      have hscan := scanNumber_whole (isWhole_of_isNumeral hnumeral hdigits) hfits hends
      obtain ⟨b, digits, rfl, -⟩ := hnumeral.exists_head
      have hdigit := hdigits b List.mem_cons_self
      have hminus : isByte b '-' = false := by
        refine beq_eq_false_iff_ne.mpr ?_
        rintro rfl
        cases hdigit
      rw [List.cons_append] at hblanks hscan
      simp only [readCount, skipBlanks_eq_cons_iff.mpr ⟨hblanks, (isStart_of_isDigitByte hdigit).1⟩, hminus, hdigit]
      exact bind_eq_ok_iff.mpr ⟨_, malformed_eq_ok_iff.mpr hscan, rfl⟩
    | _ => cases hdecode

/-! ### Lists of texts -/

theorem items_of_readTextItems {fuel n : Nat} {input rest : Bytes} {texts : List String}
    (h : readTextItems fuel n input = .ok (texts, rest)) :
    ∃ items, Items (n == 0) input items rest ∧ items.mapM text? = some texts := by
  induction fuel generalizing n input texts with
  | zero => cases h
  | succ fuel ih =>
    obtain ⟨⟨more, start⟩, hnext, h⟩ := bind_eq_ok_iff.mp h
    rw [malformed_eq_ok_iff] at hnext
    cases more with
    | false =>
      obtain ⟨rfl, rfl⟩ := Prod.mk.inj (Except.ok.inj h)
      exact ⟨[], .close (nextItem_eq_end_iff.mp hnext), rfl⟩
    | true =>
      obtain ⟨⟨text, after⟩, htext, h⟩ := bind_eq_ok_iff.mp h
      obtain ⟨⟨texts, _⟩, htexts, h⟩ := bind_eq_ok_iff.mp h
      obtain ⟨rfl, rfl⟩ := Prod.mk.inj (Except.ok.inj h)
      obtain ⟨item, tree, hblanks, hvalue, hdecode⟩ := decodes_readText.sound (within_eq_ok_iff.mp htext)
      obtain ⟨items, hitems, hmap⟩ := ih htexts
      refine ⟨tree :: items, .item ((lead_of_nextItem hnext).trans hblanks) hvalue hitems, ?_⟩
      rw [List.mapM_cons, hdecode, hmap]
      rfl

theorem readTextItems_of_items {fuel n : Nat} {input rest : Bytes} {items : List Tree} {texts : List String}
    (hitems : Items (n == 0) input items rest) (hmap : items.mapM text? = some texts)
    (hfuel : items.length < fuel) : readTextItems fuel n input = .ok (texts, rest) := by
  induction fuel generalizing n input items texts with
  | zero => cases hfuel
  | succ fuel ih =>
    cases hitems with
    | close hclose =>
      obtain rfl := Option.some.inj hmap
      exact bind_eq_ok_iff.mpr ⟨_, malformed_eq_ok_iff.mpr (nextItem_eq_end_iff.mpr hclose), rfl⟩
    | item hlead hvalue hitems =>
      rw [List.mapM_cons] at hmap
      obtain ⟨text, hdecode, hmap⟩ := Option.bind_eq_some_iff.mp hmap
      obtain ⟨texts, htexts, hmap⟩ := Option.bind_eq_some_iff.mp hmap
      obtain rfl := Option.some.inj hmap
      have htext := decodes_readText.complete (.refl _) hvalue hitems.endsNumeral hdecode
      obtain ⟨b, tail, rfl, hb⟩ := hvalue.exists_start
      refine bind_eq_ok_iff.mpr ⟨_, malformed_eq_ok_iff.mpr (hlead.nextItem_eq hb), ?_⟩
      refine bind_eq_ok_iff.mpr ⟨_, within_eq_ok_iff.mpr htext, ?_⟩
      exact bind_eq_ok_iff.mpr ⟨_, ih hitems htexts (Nat.lt_of_succ_lt_succ hfuel), rfl⟩

theorem decodes_readTexts : Decodes readTexts texts? where
  sound {input rest value} h := by
    unfold readTexts at h
    dsimp only at h
    split at h
    case h_1 b after hinput =>
      split_ifs at h with hopen
      · obtain rfl := isByte_iff.mp hopen
        obtain ⟨items, hitems, hmap⟩ := items_of_readTextItems h
        exact ⟨_, _, (skipBlanks_eq_cons_iff.mp hinput).1, .array hitems, hmap⟩
      · exact absurd h refuseType_ne_ok
    case h_2 => exact absurd h refuseType_ne_ok
  complete {input start rest tree value} hblanks hvalue _ hdecode := by
    cases hvalue with
    | array hitems =>
      simp only [readTexts, skipBlanks_eq_cons_iff.mpr ⟨hblanks, by decide⟩]
      exact readTextItems_of_items hitems hdecode
        (Nat.lt_succ_of_le (Nat.le_of_add_right_le hitems.length_add_le))
    | _ => cases hdecode

end Specimen.Settings
