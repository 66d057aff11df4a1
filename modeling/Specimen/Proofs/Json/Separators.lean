import Specimen.Proofs.Json.Strings

/-! The scanners of words and separators stop just where the grammar says. -/
namespace Specimen.Json

theorem scanWord_eq_ok_iff {letters : List Char} {input rest : Bytes} :
    scanWord letters input = .ok rest ↔ input = letters.map Char.toUInt8 ++ rest := by
  induction letters generalizing input with
  | nil => simp [scanWord]
  | cons c letters ih =>
    cases input with
    | nil => simp [scanWord, stopAt]
    | cons b input =>
      simp only [scanWord]
      split_ifs with hb
      · rw [ih, isByte_iff.mp hb, List.map_cons, List.cons_append, List.cons.injEq, and_iff_right rfl]
      · refine iff_of_false nofun fun h => hb (isByte_iff.mpr ?_)
        exact (List.cons.inj h).1

theorem nextItem_eq_end_iff {first : Bool} {input rest : Bytes} :
    nextItem first input = .ok (false, rest) ↔ Blanks input (']'.toUInt8 :: rest) := by
  constructor
  · intro h
    unfold nextItem at h
    dsimp only at h
    split at h
    case h_1 => cases h
    case h_2 b after hinput =>
      split_ifs at h with hclose
      · obtain rfl := isByte_iff.mp hclose
        obtain ⟨-, rfl⟩ := Prod.mk.inj (Except.ok.inj h)
        exact (skipBlanks_eq_cons_iff.mp hinput).1
      · cases Prod.mk.inj (Except.ok.inj h) |>.1
      · split at h
        case h_1 => cases h
        case h_2 => split_ifs at h <;> cases h
      · cases h
  · intro h
    simp only [nextItem, skipBlanks_eq_cons_iff.mpr ⟨h, by decide⟩]
    rfl

theorem lead_of_nextItem {first : Bool} {input start : Bytes} (h : nextItem first input = .ok (true, start)) :
    Lead first input start := by
  unfold nextItem at h
  dsimp only at h
  split at h
  case h_1 => cases h
  case h_2 b after hinput =>
    split_ifs at h with hclose hfirst hcomma
    · cases Prod.mk.inj (Except.ok.inj h) |>.1
    · subst hfirst
      obtain ⟨-, rfl⟩ := Prod.mk.inj (Except.ok.inj h)
      exact blanks_skipBlanks input
    · split at h
      case h_1 => cases h
      case h_2 =>
        split_ifs at h
        · cases h
        · obtain ⟨-, rfl⟩ := Prod.mk.inj (Except.ok.inj h)
          obtain rfl := isByte_iff.mp hcomma
          obtain rfl := Bool.eq_false_iff.mpr hfirst
          exact ⟨after, (skipBlanks_eq_cons_iff.mp hinput).1, blanks_skipBlanks after⟩
    · cases h

theorem Lead.nextItem_eq {first : Bool} {input tail : Bytes} {b : UInt8} (h : Lead first input (b :: tail))
    (hb : IsStart b) : nextItem first input = .ok (true, b :: tail) := by
  have hend : isByte b ']' = false := beq_eq_false_iff_ne.mpr hb.2
  cases first with
  | true => simp [nextItem, skipBlanks_eq_cons_iff.mpr ⟨h, hb.1⟩, hend]
  | false =>
    obtain ⟨after, hcomma, hblanks⟩ := h
    simp [nextItem, skipBlanks_eq_cons_iff.mpr ⟨hcomma, by decide⟩, skipBlanks_eq_cons_iff.mpr ⟨hblanks, hb.1⟩,
      hend]
    rfl

theorem nextKey_eq_end_iff {first : Bool} {input rest : Bytes} :
    nextKey first input = .ok (none, rest) ↔ Blanks input ('\x7d'.toUInt8 :: rest) := by
  constructor
  · intro h
    unfold nextKey at h
    dsimp only at h
    split at h
    case h_1 => cases h
    case h_2 b after hinput =>
      split_ifs at h with hclose
      · obtain rfl := isByte_iff.mp hclose
        obtain ⟨-, rfl⟩ := Prod.mk.inj (Except.ok.inj h)
        exact (skipBlanks_eq_cons_iff.mp hinput).1
      · obtain ⟨_, _, hkey⟩ := map_eq_ok_iff.mp h
        cases hkey
      · cases h
      · split at h
        case h_1 => cases h
        case h_2 =>
          split_ifs at h
          · obtain ⟨_, _, hkey⟩ := map_eq_ok_iff.mp h
            cases hkey
          · cases h
          · cases h
      · cases h
  · intro h
    simp only [nextKey, skipBlanks_eq_cons_iff.mpr ⟨h, by decide⟩]
    rfl

theorem nextKey_eq_key_iff {first : Bool} {input rest : Bytes} {key : String} :
    nextKey first input = .ok (some key, rest) ↔
      ∃ start, Lead first input ('"'.toUInt8 :: start) ∧ Chars start (toUtf8 key) rest := by
  constructor
  · intro h
    unfold nextKey at h
    dsimp only at h
    split at h
    case h_1 => cases h
    case h_2 b after hinput =>
      split_ifs at h with hclose hfirst hquote hcomma
      · cases Prod.mk.inj (Except.ok.inj h) |>.1
      · subst hfirst
        obtain rfl := isByte_iff.mp hquote
        obtain ⟨_, hscan, ⟨⟩⟩ := map_eq_ok_iff.mp h
        exact ⟨after, (skipBlanks_eq_cons_iff.mp hinput).1, scanString_eq_ok_iff.mp hscan⟩
      · cases h
      · split at h
        case h_1 => cases h
        case h_2 c start hkey =>
          split_ifs at h with hquote
          · obtain rfl := isByte_iff.mp hquote
            obtain rfl := isByte_iff.mp hcomma
            obtain rfl := Bool.eq_false_iff.mpr hfirst
            obtain ⟨_, hscan, ⟨⟩⟩ := map_eq_ok_iff.mp h
            exact ⟨start, ⟨after, (skipBlanks_eq_cons_iff.mp hinput).1, (skipBlanks_eq_cons_iff.mp hkey).1⟩,
              scanString_eq_ok_iff.mp hscan⟩
          · cases h
          · cases h
      · cases h
  · rintro ⟨start, hlead, hchars⟩
    have hscan := scanString_eq_ok_iff.mpr hchars
    cases first with
    | true =>
      simp only [nextKey, skipBlanks_eq_cons_iff.mpr ⟨hlead, by decide⟩]
      exact map_eq_ok_iff.mpr ⟨(key, rest), hscan, rfl⟩
    | false =>
      obtain ⟨after, hcomma, hblanks⟩ := hlead
      simp only [nextKey, skipBlanks_eq_cons_iff.mpr ⟨hcomma, by decide⟩,
        skipBlanks_eq_cons_iff.mpr ⟨hblanks, by decide⟩]
      exact map_eq_ok_iff.mpr ⟨(key, rest), hscan, rfl⟩

theorem colon_eq_ok_iff {input rest : Bytes} : colon input = .ok rest ↔ Blanks input (':'.toUInt8 :: rest) := by
  constructor
  · intro h
    unfold colon at h
    dsimp only at h
    split at h
    case h_1 => cases h
    case h_2 b after hinput =>
      split_ifs at h with hcolon
      · obtain rfl := isByte_iff.mp hcolon
        obtain rfl := Except.ok.inj h
        exact (skipBlanks_eq_cons_iff.mp hinput).1
      · cases h
  · intro h
    simp only [colon, skipBlanks_eq_cons_iff.mpr ⟨h, by decide⟩]
    rfl

end Specimen.Json
