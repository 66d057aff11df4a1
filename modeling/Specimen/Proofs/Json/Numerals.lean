import Mathlib.Data.Bool.AllAny
import Specimen.Proofs.Json.Grammar

/-! The scanner of numbers reads a numeral (`scanNumber_sound`), and the whole of one that fits 64 bits
(`scanNumber_whole`): it goes on as long as it can. -/
namespace Specimen.Json

/-! ### Values of digits -/

/-- The number that digits lead to from the one before them. -/
def valueFrom : Nat → Bytes → Nat
  | n, [] => n
  | n, b :: rest => valueFrom (n * 10 + digitValue b) rest

theorem le_valueFrom (n : Nat) (digits : Bytes) : n ≤ valueFrom n digits := by
  induction digits generalizing n with
  | nil => exact Nat.le_refl n
  | cons b digits ih =>
    have hnext : n ≤ n * 10 + digitValue b := Nat.le_add_right_of_le (Nat.le_mul_of_pos_right n (by decide))
    exact Nat.le_trans hnext (ih _)

theorem fitDigits_of_lt {n : Nat} {digits : Bytes} (h : valueFrom n digits < twoTo 64) :
    fitDigits n digits = (valueFrom n digits, []) := by
  induction digits generalizing n with
  | nil => rfl
  | cons b digits ih =>
    have hnext : n * 10 + digitValue b < twoTo 64 := Nat.lt_of_le_of_lt (le_valueFrom _ digits) h
    rw [fitDigits, if_pos hnext, ih h]
    rfl

theorem valueFrom_lt_of_fitDigits {n m : Nat} {digits : Bytes} (hn : n < twoTo 64)
    (h : fitDigits n digits = (m, [])) : valueFrom n digits < twoTo 64 := by
  induction digits generalizing n with
  | nil => exact hn
  | cons b digits ih =>
    simp only [fitDigits] at h
    split_ifs at h with hnext
    · exact ih hnext h
    · cases (Prod.mk.inj h).2

/-! ### What is read -/

def Number.IsFloat (x : Number) : Prop := ∃ y, x = .float y

theorem finishFloat_sound {negative : Bool} {significand : Nat} {exponent : Int} {input rest : Bytes} {x : Number}
    (h : finishFloat negative significand exponent input = .ok (x, rest)) : rest = input ∧ x.IsFloat := by
  unfold finishFloat toFloat at h
  cases hvalue : Binary64.ofDecimal significand exponent with
  | none => rw [hvalue] at h; cases h
  | some y =>
    rw [hvalue] at h
    obtain ⟨rfl, rfl⟩ := Prod.mk.inj (Except.ok.inj h)
    exact ⟨rfl, _, rfl⟩

theorem takeWhile_isDigitByte (input : Bytes) : ∀ b ∈ input.takeWhile isDigitByte, isDigitByte b = true :=
  fun _ => List.mem_takeWhile_imp

theorem scanExponentDigits_sound {negative down : Bool} {significand exponent : Nat} {start : Int}
    {input rest : Bytes} {x : Number}
    (h : scanExponentDigits negative significand start down exponent input = .ok (x, rest)) :
    ∃ digits, input = digits ++ rest ∧ (∀ b ∈ digits, isDigitByte b = true) ∧ x.IsFloat := by
  induction input generalizing exponent with
  | nil =>
    obtain ⟨rfl, hx⟩ := finishFloat_sound h
    exact ⟨[], rfl, nofun, hx⟩
  | cons b input ih =>
    simp only [scanExponentDigits] at h
    split_ifs at h with hdigit hbig hover
    · cases h
    · obtain ⟨rfl, rfl⟩ := Prod.mk.inj (Except.ok.inj h)
      refine ⟨b :: input.takeWhile isDigitByte, ?_, ?_, _, rfl⟩
      · rw [List.cons_append, List.takeWhile_append_dropWhile]
      · exact List.forall_mem_cons.mpr ⟨hdigit, takeWhile_isDigitByte input⟩
    · obtain ⟨digits, rfl, hdigits, hx⟩ := ih h
      exact ⟨b :: digits, rfl, List.forall_mem_cons.mpr ⟨hdigit, hdigits⟩, hx⟩
    all_goals
      obtain ⟨rfl, hx⟩ := finishFloat_sound h
      exact ⟨[], rfl, nofun, hx⟩

/-- The sign in front of an exponent, whether it is a minus, and what comes after it. -/
def splitSign (input : Bytes) : Bytes × Bool × Bytes :=
  match input with
  | b :: rest =>
    if isByte b '+' then ([b], false, rest)
    else if isByte b '-' then ([b], true, rest)
    else ([], false, input)
  | [] => ([], false, input)

theorem splitSign_sound (input : Bytes) :
    (splitSign input).1 ++ (splitSign input).2.2 = input ∧
      ((splitSign input).1 = [] ∨ (splitSign input).1 = ascii "+" ∨ (splitSign input).1 = ascii "-") := by
  unfold splitSign
  split
  case h_1 b rest =>
    split_ifs with hplus hminus
    · exact ⟨rfl, .inr (.inl (congrArg (fun b => [b]) (isByte_iff.mp hplus)))⟩
    · exact ⟨rfl, .inr (.inr (congrArg (fun b => [b]) (isByte_iff.mp hminus)))⟩
    · exact ⟨rfl, .inl rfl⟩
  case h_2 => exact ⟨rfl, .inl rfl⟩

theorem scanExponent_eq (negative : Bool) (significand : Nat) (start : Int) (input : Bytes) :
    scanExponent negative significand start input =
      match (splitSign input).2.2 with
      | [] => stopAt .endInValue []
      | b :: rest =>
        if isDigitByte b then
          scanExponentDigits negative significand start (splitSign input).2.1 (digitValue b) rest
        else stopAt .invalidNumber rest := by
  unfold scanExponent splitSign
  cases input with
  | nil => rfl
  | cons b rest =>
    dsimp only
    split_ifs <;> rfl

theorem scanExponent_sound {negative : Bool} {significand : Nat} {start : Int} {input rest : Bytes} {x : Number}
    (h : scanExponent negative significand start input = .ok (x, rest)) :
    ∃ sign digits, input = sign ++ (digits ++ rest) ∧ (sign = [] ∨ sign = ascii "+" ∨ sign = ascii "-") ∧
      IsDigits digits ∧ x.IsFloat := by
  obtain ⟨hinput, hsign⟩ := splitSign_sound input
  rw [scanExponent_eq] at h
  split at h
  case h_1 => cases h
  case h_2 b after hafter =>
    split_ifs at h with hdigit
    · obtain ⟨digits, rfl, hdigits, hx⟩ := scanExponentDigits_sound h
      refine ⟨_, b :: digits, ?_, hsign, ⟨List.cons_ne_nil _ _, List.forall_mem_cons.mpr ⟨hdigit, hdigits⟩⟩, hx⟩
      rw [List.cons_append, ← hafter, hinput]
    · cases h

theorem scanMarked_sound {negative : Bool} {significand : Nat} {start : Int} {b : UInt8} {input rest : Bytes}
    {x : Number} (hmark : (isByte b 'e' || isByte b 'E') = true)
    (h : scanExponent negative significand start input = .ok (x, rest)) :
    ∃ exponent, b :: input = exponent ++ rest ∧ IsExponent exponent ∧ x.IsFloat := by
  obtain ⟨sign, digits, rfl, hsign, hdigits, hx⟩ := scanExponent_sound h
  refine ⟨b :: (sign ++ digits), by simp, .inr ⟨b, sign, digits, rfl, ?_, hsign, hdigits⟩, hx⟩
  simpa [isByte_iff, ascii] using hmark

theorem scanTail_sound {negative : Bool} {significand : Nat} {start : Int} {input rest : Bytes} {x : Number}
    (h : scanTail negative significand start input = .ok (x, rest)) :
    ∃ exponent, input = exponent ++ rest ∧ IsExponent exponent ∧ x.IsFloat := by
  unfold scanTail at h
  split at h
  case h_1 b input =>
    split_ifs at h with hmark
    · exact scanMarked_sound hmark h
    · obtain ⟨rfl, hx⟩ := finishFloat_sound h
      exact ⟨[], rfl, .inl rfl, hx⟩
  case h_2 =>
    obtain ⟨rfl, hx⟩ := finishFloat_sound h
    exact ⟨[], rfl, .inl rfl, hx⟩

theorem scanFraction_sound {negative : Bool} {significand : Nat} {start : Int} {input rest : Bytes} {x : Number}
    (h : scanFraction negative significand start input = .ok (x, rest)) :
    ∃ digits exponent, input = digits ++ (exponent ++ rest) ∧ IsDigits digits ∧ IsExponent exponent ∧
      x.IsFloat := by
  unfold scanFraction at h
  dsimp only at h
  split_ifs at h with hempty hend
  · cases h
  · cases h
  · obtain ⟨exponent, hrest, hexponent, hx⟩ := scanTail_sound h
    refine ⟨input.takeWhile isDigitByte, exponent, ?_, ⟨?_, takeWhile_isDigitByte input⟩, hexponent, hx⟩
    · rw [← hrest, List.takeWhile_append_dropWhile]
    · simpa using hempty

/-! ### Whole numbers -/

/-- The digits in front of the point, and what comes after them. A zero stands alone. -/
def splitWhole (first : UInt8) (others : Bytes) : Bytes × Bytes :=
  if isByte first '0' then ([first], others)
  else (first :: others.takeWhile isDigitByte, others.dropWhile isDigitByte)

/-- What comes after the digits in front of the point. -/
def scanAfterWhole (negative : Bool) (digits rest : Bytes) : Scan Number :=
  let (significand, extra) := fitDigits 0 digits
  match rest with
  | b :: after =>
    if isDigitByte b then stopPast .invalidNumber rest
    else if isByte b '.' then scanFraction negative significand extra.length after
    else if isByte b 'e' || isByte b 'E' then scanExponent negative significand extra.length after
    else if extra.isEmpty then .ok (wholeNumber negative significand, rest)
    else finishFloat negative significand extra.length rest
  | [] =>
    if extra.isEmpty then .ok (wholeNumber negative significand, rest)
    else finishFloat negative significand extra.length rest

theorem scanNumber_cons {first : UInt8} (h : isDigitByte first = true) (negative : Bool) (others : Bytes) :
    scanNumber negative (first :: others) =
      scanAfterWhole negative (splitWhole first others).1 (splitWhole first others).2 := by
  simp only [scanNumber, h, Bool.not_true, Bool.false_eq_true, if_false, splitWhole]
  cases isByte first '0' <;> rfl

theorem splitWhole_sound {first : UInt8} (h : isDigitByte first = true) (others : Bytes) :
    (splitWhole first others).1 ++ (splitWhole first others).2 = first :: others ∧
      IsWhole (splitWhole first others).1 := by
  unfold splitWhole
  split_ifs with hzero
  · exact ⟨rfl, ⟨List.cons_ne_nil _ _, by simpa using h⟩, fun _ => by rw [isByte_iff.mp hzero]⟩
  · refine ⟨?_, ⟨List.cons_ne_nil _ _, List.forall_mem_cons.mpr ⟨h, takeWhile_isDigitByte others⟩⟩, fun hhead => ?_⟩
    · rw [List.cons_append, List.takeWhile_append_dropWhile]
    · exact absurd (isByte_iff.mpr (Option.some.inj hhead)) hzero

/-- What a numeral without fraction and exponent is read as. -/
structure IsWholeReading (negative : Bool) (whole fraction exponent : Bytes) (x : Number) : Prop where
  fraction : fraction = []
  exponent : exponent = []
  fits : valueFrom 0 whole < twoTo 64
  value : x = wholeNumber negative (valueFrom 0 whole)

theorem finishWhole_sound {negative : Bool} {significand : Nat} {digits extra input rest : Bytes} {x : Number}
    (hfit : fitDigits 0 digits = (significand, extra))
    (h : (if extra.isEmpty then .ok (wholeNumber negative significand, input)
      else finishFloat negative significand extra.length input) = .ok (x, rest)) :
    rest = input ∧ (IsWholeReading negative digits [] [] x ∨ x.IsFloat) := by
  split_ifs at h with hempty
  · obtain ⟨rfl, rfl⟩ := Prod.mk.inj (Except.ok.inj h)
    obtain rfl := List.isEmpty_iff.mp hempty
    have hfits := valueFrom_lt_of_fitDigits (by decide) hfit
    rw [fitDigits_of_lt hfits] at hfit
    exact ⟨rfl, .inl ⟨rfl, rfl, hfits, by rw [(Prod.mk.inj hfit).1]⟩⟩
  · obtain ⟨hrest, hx⟩ := finishFloat_sound h
    exact ⟨hrest, .inr hx⟩

theorem scanAfterWhole_sound {negative : Bool} {digits input rest : Bytes} {x : Number}
    (h : scanAfterWhole negative digits input = .ok (x, rest)) :
    ∃ fraction exponent, input = fraction ++ (exponent ++ rest) ∧ IsFraction fraction ∧ IsExponent exponent ∧
      (IsWholeReading negative digits fraction exponent x ∨ x.IsFloat) := by
  unfold scanAfterWhole at h
  cases hfit : fitDigits 0 digits with | mk significand extra
  rw [hfit] at h
  dsimp only at h
  split at h
  case h_1 b after =>
    split_ifs at h with hdigit hpoint hmark hempty
    · cases h
    · obtain ⟨fraction, exponent, rfl, hfraction, hexponent, hx⟩ := scanFraction_sound h
      obtain rfl := isByte_iff.mp hpoint
      exact ⟨'.'.toUInt8 :: fraction, exponent, rfl, .inr ⟨fraction, rfl, hfraction⟩, hexponent, .inr hx⟩
    · obtain ⟨exponent, hinput, hexponent, hx⟩ := scanMarked_sound hmark h
      exact ⟨[], exponent, hinput, .inl rfl, hexponent, .inr hx⟩
    · obtain ⟨rfl, hx⟩ := finishWhole_sound hfit ((if_pos hempty).trans h)
      exact ⟨[], [], rfl, .inl rfl, .inl rfl, hx⟩
    · obtain ⟨rfl, hx⟩ := finishWhole_sound hfit ((if_neg hempty).trans h)
      exact ⟨[], [], rfl, .inl rfl, .inl rfl, hx⟩
  case h_2 =>
    obtain ⟨rfl, hx⟩ := finishWhole_sound hfit h
    exact ⟨[], [], rfl, .inl rfl, .inl rfl, hx⟩

theorem scanNumber_sound {negative : Bool} {input rest : Bytes} {x : Number}
    (h : scanNumber negative input = .ok (x, rest)) :
    ∃ whole fraction exponent, input = whole ++ (fraction ++ (exponent ++ rest)) ∧ IsWhole whole ∧
      IsFraction fraction ∧ IsExponent exponent ∧
      (IsWholeReading negative whole fraction exponent x ∨ x.IsFloat) := by
  cases input with
  | nil => cases h
  | cons first others =>
    by_cases hfirst : isDigitByte first = true
    · obtain ⟨hinput, hwhole⟩ := splitWhole_sound hfirst others
      rw [scanNumber_cons hfirst] at h
      obtain ⟨fraction, exponent, hafter, hparts⟩ := scanAfterWhole_sound h
      exact ⟨_, fraction, exponent, by rw [← hafter, hinput], hwhole, hparts⟩
    · rw [Bool.not_eq_true] at hfirst
      simp only [scanNumber, hfirst] at h
      cases h

theorem isFloat_wholeNumber_zero : (wholeNumber true 0).IsFloat := by
  obtain ⟨y, hy⟩ : ∃ y, Binary64.ofDecimal 0 0 = some y := Option.isSome_iff_exists.mp (by decide +kernel)
  exact ⟨y.neg, by simp [wholeNumber, toFloat, hy]⟩

theorem wholeNumber_true_ne (significand n : Nat) : Number.int (.ofNat n) ≠ wholeNumber true significand := by
  intro h
  by_cases hzero : significand = 0
  · subst hzero
    obtain ⟨y, hy⟩ := isFloat_wholeNumber_zero
    cases h.trans hy
  · have hneg : Number.int (.ofNat n) ≠ .int (-significand) := fun h => by
      have hvalue : (n : Int) = -significand := Number.int.inj h
      omega
    simp only [wholeNumber, Bool.not_true, Bool.false_eq_true, if_false] at h
    split_ifs at h
    · cases hvalue : toFloat true significand 0 with
      | none => exact hneg (by rwa [hvalue] at h)
      | some x =>
        obtain ⟨y, -, rfl⟩ := Option.map_eq_some_iff.mp hvalue
        rw [hvalue] at h
        cases h
    · exact hneg h

/-- A number is a whole one only if it is written so, and without a minus. -/
theorem scanNumber_ofNat_sound {negative : Bool} {input rest : Bytes} {n : Nat}
    (h : scanNumber negative input = .ok (.int (.ofNat n), rest)) :
    ∃ whole, negative = false ∧ input = whole ++ rest ∧ IsWhole whole ∧ valueFrom 0 whole < twoTo 64 ∧
      n = valueFrom 0 whole := by
  obtain ⟨whole, fraction, exponent, rfl, hwhole, -, -, ⟨rfl, rfl, hfits, hvalue⟩ | ⟨y, hy⟩⟩ :=
    scanNumber_sound h
  · cases negative with
    | true => exact absurd hvalue (wholeNumber_true_ne _ _)
    | false => exact ⟨whole, rfl, rfl, hwhole, hfits, Int.ofNat.inj (Number.int.inj hvalue)⟩
  · cases hy

/-! ### What is read on -/

/-- No digit, point or exponent mark comes next. -/
def EndsNumeral (rest : Bytes) : Prop :=
  ∀ b ∈ rest.head?, isDigitByte b = false ∧ b ∉ ascii ".eE"

theorem endsNumeral_of_blanks {input rest : Bytes} {b : UInt8} (h : Blanks input (b :: rest))
    (hb : isDigitByte b = false ∧ b ∉ ascii ".eE") : EndsNumeral input := by
  obtain ⟨blanks, rfl, hblanks⟩ := h
  cases blanks with
  | nil => exact fun _ hhead => Option.some.inj hhead ▸ hb
  | cons blank blanks =>
    have hends : ∀ b ∈ blankBytes, isDigitByte b = false ∧ b ∉ ascii ".eE" :=
      List.all_iff_forall_prop.mp (by decide)
    exact fun _ hhead => Option.some.inj hhead ▸ hends blank (hblanks blank List.mem_cons_self)

theorem Items.endsNumeral {input rest : Bytes} {items : List Tree} (h : Items false input items rest) :
    EndsNumeral input := by
  cases h with
  | close hclose => exact endsNumeral_of_blanks hclose (by decide)
  | item hlead =>
    obtain ⟨after, hcomma, -⟩ := hlead
    exact endsNumeral_of_blanks hcomma (by decide)

theorem Members.endsNumeral {input rest : Bytes} {members : List (String × Tree)}
    (h : Members false input members rest) : EndsNumeral input := by
  cases h with
  | close hclose => exact endsNumeral_of_blanks hclose (by decide)
  | member hlead =>
    obtain ⟨after, hcomma, -⟩ := hlead
    exact endsNumeral_of_blanks hcomma (by decide)

theorem splitWhole_whole {first : UInt8} {others rest : Bytes} (hwhole : IsWhole (first :: others))
    (hends : EndsNumeral rest) : splitWhole first (others ++ rest) = (first :: others, rest) := by
  have hrest : rest.takeWhile isDigitByte = [] ∧ rest.dropWhile isDigitByte = rest := by
    cases rest with
    | nil => exact ⟨rfl, rfl⟩
    | cons b rest =>
      have hb : ¬isDigitByte b = true := Bool.not_eq_true _ ▸ (hends b rfl).1
      exact ⟨List.takeWhile_cons_of_neg hb, List.dropWhile_cons_of_neg hb⟩
  have hothers : ∀ b ∈ others, isDigitByte b = true := fun b hb =>
    hwhole.allDigits.2 b (List.mem_cons_of_mem first hb)
  unfold splitWhole
  split_ifs with hzero
  · obtain rfl : others = [] := (List.cons.inj (hwhole.zero (by rw [isByte_iff.mp hzero]; rfl))).2
    rfl
  · rw [List.takeWhile_append_of_pos hothers, List.dropWhile_append_of_pos hothers, hrest.1, hrest.2,
      List.append_nil]

theorem scanNumber_whole {whole rest : Bytes} (hwhole : IsWhole whole) (hfits : valueFrom 0 whole < twoTo 64)
    (hends : EndsNumeral rest) : scanNumber false (whole ++ rest) = .ok (.int (valueFrom 0 whole), rest) := by
  -- The scanner would go on with more digits, a point or an exponent.
  obtain ⟨hne, hdigits⟩ := hwhole.allDigits
  obtain ⟨first, others, rfl⟩ := List.exists_cons_of_ne_nil hne
  rw [List.cons_append, scanNumber_cons (hdigits first List.mem_cons_self), splitWhole_whole hwhole hends]
  unfold scanAfterWhole
  rw [fitDigits_of_lt hfits]
  cases rest with
  | nil => rfl
  | cons b rest =>
    obtain ⟨hdigit, hmark⟩ := hends b rfl
    obtain ⟨hpoint, he, hE⟩ : b ≠ '.'.toUInt8 ∧ b ≠ 'e'.toUInt8 ∧ b ≠ 'E'.toUInt8 := by
      simpa [ascii] using hmark
    simp [hdigit, isByte, hpoint, he, hE, wholeNumber]

end Specimen.Json
