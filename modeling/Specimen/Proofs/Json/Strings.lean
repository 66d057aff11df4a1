import Mathlib.Data.Bool.AllAny
import Mathlib.Data.List.Basic
import Specimen.Proofs.Json.Grammar
import Specimen.Proofs.Json.Keys

/-! The scanner of strings stops just where the grammar says (`scanString_eq_ok_iff`): its state stands for the bytes
of a character that is read in part. -/
namespace Specimen.Json

/-! ### Texts in UTF-8 -/

theorem toList_loop_eq (bytes : ByteArray) (i : Nat) (read : Bytes) :
    ByteArray.toList.loop bytes i read = read.reverse ++ bytes.data.toList.drop i := by
  unfold ByteArray.toList.loop
  split
  case isTrue h =>
    have hi : i < bytes.data.toList.length := h
    have hget : bytes.get! i = bytes.data.toList[i] := by simp [ByteArray.get!, getElem!_pos bytes.data i h]
    rw [toList_loop_eq, List.reverse_cons, List.append_assoc, List.drop_eq_getElem_cons hi, hget]
    rfl
  case isFalse h => rw [List.drop_eq_nil_of_le (Nat.le_of_not_lt h), List.append_nil]
termination_by bytes.size - i

theorem toList_eq (bytes : ByteArray) : bytes.toList = bytes.data.toList := toList_loop_eq bytes 0 []

theorem toUtf8_append (text more : String) : toUtf8 (text ++ more) = toUtf8 text ++ toUtf8 more := by
  simp only [toUtf8, toList_eq, String.toUTF8, String.toByteArray_append, ByteArray.data_append,
    Array.toList_append]

theorem ofUtf8?_eq_some_iff {bytes : Bytes} {text : String} :
    ofUtf8? bytes = some text ↔ toUtf8 text = bytes := by
  have hbytes (array : ByteArray) : array = ⟨bytes.toArray⟩ ↔ array.toList = bytes := by
    rw [toList_eq, ByteArray.ext_iff, ← Array.toList_inj]
  rw [toUtf8, String.toUTF8, ← hbytes, ofUtf8?, String.fromUTF8?]
  split
  case isTrue h =>
    rw [Option.some.injEq, ← String.toByteArray_inj]
    exact eq_comm
  case isFalse h =>
    refine iff_of_false nofun fun htext => h ?_
    rw [← htext]
    exact text.isValidUTF8

/-! ### Escapes -/

theorem simpleEscape_eq_some_iff {letter b : UInt8} : simpleEscape letter = some b ↔ (letter, b) ∈ escapes := by
  constructor
  · intro h
    unfold simpleEscape at h
    split_ifs at h with hself
    case pos =>
      obtain rfl : letter = b := Option.some.inj h
      simp only [Bool.or_eq_true, isByte_iff] at hself
      obtain (rfl | rfl) | rfl := hself <;> decide
    all_goals
      simp only [isByte_iff] at *
      obtain rfl := Option.some.inj h
      subst letter
      decide
  · have hall : ∀ pair ∈ escapes, simpleEscape pair.1 = some pair.2 := List.all_iff_forall_prop.mp (by decide)
    exact hall (letter, b)

theorem hexValue_eq_some_iff {b : UInt8} {v : Nat} : hexValue b = some v ↔ (b, v) ∈ hexDigits := by
  constructor
  · intro h
    have hall : ∀ n < 256, ∀ v ∈ hexValue (UInt8.ofNat n), (UInt8.ofNat n, v) ∈ hexDigits := by decide +kernel
    simpa using hall b.toNat b.toNat_lt v (by simpa using h)
  · have hall : ∀ pair ∈ hexDigits, hexValue pair.1 = some pair.2 :=
      List.all_iff_forall_prop.mp (by decide +kernel)
    exact hall (b, v)

theorem hexNumber_eq_some_iff {a b c d : UInt8} {unit : Nat} :
    hexNumber [d, c, b, a] = some unit ↔ IsUnit a b c d unit := by
  simp only [hexNumber, IsUnit, ← hexValue_eq_some_iff]
  cases hexValue a <;> cases hexValue b <;> cases hexValue c <;> cases hexValue d <;> simp [eq_comm]

/-! ### Characters -/

theorem isHighSurrogate_iff {unit : Nat} : isHighSurrogate unit = true ↔ 0xd800 ≤ unit ∧ unit ≤ 0xdbff := by
  simp [isHighSurrogate]

theorem isLowSurrogate_iff {unit : Nat} : isLowSurrogate unit = true ↔ 0xdc00 ≤ unit ∧ unit ≤ 0xdfff := by
  simp [isLowSurrogate]

/-- The bytes of a character that have been read when the scanner is in the state. -/
inductive Begun : StringState → Bytes → Prop where
  | plain : Begun .plain []
  | escape : Begun .escape ['\\'.toUInt8]
  | hex {digits : Bytes} (hlength : digits.length < 4) :
    Begun (.hex digits none) ('\\'.toUInt8 :: 'u'.toUInt8 :: digits.reverse)
  | pairBackslash {a b c d : UInt8} {high : Nat} (hhigh : IsUnit a b c d high)
    (hhigh' : 0xd800 ≤ high ∧ high ≤ 0xdbff) :
    Begun (.pairBackslash high) ['\\'.toUInt8, 'u'.toUInt8, a, b, c, d]
  | pairMark {a b c d : UInt8} {high : Nat} (hhigh : IsUnit a b c d high)
    (hhigh' : 0xd800 ≤ high ∧ high ≤ 0xdbff) :
    Begun (.pairMark high) ['\\'.toUInt8, 'u'.toUInt8, a, b, c, d, '\\'.toUInt8]
  | pairHex {a b c d : UInt8} {high : Nat} {digits : Bytes} (hhigh : IsUnit a b c d high)
    (hhigh' : 0xd800 ≤ high ∧ high ≤ 0xdbff) (hlength : digits.length < 4) :
    Begun (.hex digits (some high))
      ('\\'.toUInt8 :: 'u'.toUInt8 :: a :: b :: c :: d :: '\\'.toUInt8 :: 'u'.toUInt8 :: digits.reverse)

theorem stringStep_hex {digits added : Bytes} {high : Option Nat} {b : UInt8} {next : StringState}
    (hlength : digits.length < 4) (hstep : stringStep (.hex digits high) b = .ok (next, added)) :
    ((b :: digits).length < 4 ∧ next = .hex (b :: digits) high ∧ added = []) ∨
      ∃ x y z unit, digits = [z, y, x] ∧ IsUnit x y z b unit ∧ escapedUnit high unit = .ok (next, added) := by
  simp only [stringStep] at hstep
  split_ifs at hstep with hmore
  · obtain ⟨rfl, rfl⟩ := Prod.mk.inj (Except.ok.inj hstep)
    exact .inl ⟨Nat.succ_lt_succ hmore, rfl, rfl⟩
  · obtain ⟨z, y, x, rfl⟩ := List.length_eq_three.mp (Nat.eq_of_lt_succ_of_not_lt hlength hmore)
    split at hstep
    case h_1 unit hunit => exact .inr ⟨x, y, z, unit, rfl, hexNumber_eq_some_iff.mp hunit, hstep⟩
    case h_2 => cases hstep

/-- A byte either goes on with a character or ends it. -/
theorem begun_stringStep {state next : StringState} {begun added : Bytes} {b : UInt8} (hbegun : Begun state begun)
    (hquote : state = .plain → b ≠ '"'.toUInt8) (hstep : stringStep state b = .ok (next, added)) :
    (Begun next (begun ++ [b]) ∧ added = []) ∨
      (next = .plain ∧ ∀ {input value rest : Bytes}, Chars input value rest →
        Chars (begun ++ b :: input) (added ++ value) rest) := by
  cases hbegun with
  | plain =>
    simp only [stringStep] at hstep
    split_ifs at hstep with hslash hspace
    · obtain ⟨rfl, rfl⟩ := Prod.mk.inj (Except.ok.inj hstep)
      obtain rfl := isByte_iff.mp hslash
      exact .inl ⟨.escape, rfl⟩
    · obtain ⟨rfl, rfl⟩ := Prod.mk.inj (Except.ok.inj hstep)
      have hslash' : b ≠ '\\'.toUInt8 := fun hb => hslash (isByte_iff.mpr hb)
      exact .inr ⟨rfl, .plain (UInt8.not_lt.mp hspace) (hquote rfl) hslash'⟩
  | escape =>
    simp only [stringStep] at hstep
    split_ifs at hstep with hu
    · obtain ⟨rfl, rfl⟩ := Prod.mk.inj (Except.ok.inj hstep)
      obtain rfl := isByte_iff.mp hu
      exact .inl ⟨.hex (by decide), rfl⟩
    · split at hstep
      case h_1 byte hbyte =>
        obtain ⟨rfl, rfl⟩ := Prod.mk.inj (Except.ok.inj hstep)
        exact .inr ⟨rfl, .escape (simpleEscape_eq_some_iff.mp hbyte)⟩
      case h_2 => cases hstep
  | hex hlength =>
    rcases stringStep_hex hlength hstep with ⟨hmore, rfl, rfl⟩ | ⟨x, y, z, unit, rfl, hunit, hescaped⟩
    · exact .inl ⟨by simpa using Begun.hex hmore, rfl⟩
    · simp only [escapedUnit] at hescaped
      split_ifs at hescaped with hlow hhigh
      · obtain ⟨rfl, rfl⟩ := Prod.mk.inj (Except.ok.inj hescaped)
        exact .inl ⟨.pairBackslash hunit (isHighSurrogate_iff.mp hhigh), rfl⟩
      · obtain ⟨rfl, rfl⟩ := Prod.mk.inj (Except.ok.inj hescaped)
        rw [isLowSurrogate_iff] at hlow
        rw [isHighSurrogate_iff] at hhigh
        exact .inr ⟨rfl, .unit hunit (by omega)⟩
  | pairBackslash hhigh hhigh' =>
    simp only [stringStep] at hstep
    split_ifs at hstep with hslash
    obtain ⟨rfl, rfl⟩ := Prod.mk.inj (Except.ok.inj hstep)
    obtain rfl := isByte_iff.mp hslash
    exact .inl ⟨.pairMark hhigh hhigh', rfl⟩
  | pairMark hhigh hhigh' =>
    simp only [stringStep] at hstep
    split_ifs at hstep with hu
    obtain ⟨rfl, rfl⟩ := Prod.mk.inj (Except.ok.inj hstep)
    obtain rfl := isByte_iff.mp hu
    exact .inl ⟨.pairHex hhigh hhigh' (by decide), rfl⟩
  | pairHex hhigh hhigh' hlength =>
    rcases stringStep_hex hlength hstep with ⟨hmore, rfl, rfl⟩ | ⟨x, y, z, unit, rfl, hunit, hescaped⟩
    · exact .inl ⟨by simpa using Begun.pairHex hhigh hhigh' hmore, rfl⟩
    · simp only [escapedUnit] at hescaped
      split_ifs at hescaped with hlow
      obtain ⟨rfl, rfl⟩ := Prod.mk.inj (Except.ok.inj hescaped)
      exact .inr ⟨rfl, .pair hhigh hhigh' hunit (isLowSurrogate_iff.mp hlow)⟩

/-! ### Strings -/

theorem scanStringBytes_quote (read rest : Bytes) :
    scanStringBytes .plain read ('"'.toUInt8 :: rest) = .ok (read.reverse, rest) := rfl

theorem scanStringBytes_step {state next : StringState} {b : UInt8} {added : Bytes}
    (hquote : state = .plain → b ≠ '"'.toUInt8) (hstep : stringStep state b = .ok (next, added)) (read rest : Bytes) :
    scanStringBytes state read (b :: rest) = scanStringBytes next (added.reverse ++ read) rest := by
  cases state with
  | plain =>
    have hb : isByte b '"' = false := beq_eq_false_iff_ne.mpr (hquote rfl)
    simp only [scanStringBytes, hb, hstep]
  | _ => simp only [scanStringBytes, hstep]

theorem scanStringBytes_fault {state : StringState} {b : UInt8} {fault : Fault}
    (hquote : state = .plain → b ≠ '"'.toUInt8) (hstep : stringStep state b = .error fault) (read rest : Bytes) :
    scanStringBytes state read (b :: rest) = stopAt fault rest := by
  cases state with
  | plain =>
    have hb : isByte b '"' = false := beq_eq_false_iff_ne.mpr (hquote rfl)
    simp only [scanStringBytes, hb, hstep]
  | _ => simp only [scanStringBytes, hstep]

theorem chars_of_scanStringBytes {state : StringState} {begun read input bytes rest : Bytes}
    (hbegun : Begun state begun) (h : scanStringBytes state read input = .ok (bytes, rest)) :
    ∃ value, bytes = read.reverse ++ value ∧ Chars (begun ++ input) value rest := by
  -- Along the input the unfinished character grows until it is one, and then it is empty again.
  induction input generalizing state begun read with
  | nil => cases h
  | cons b input ih =>
    by_cases hquote : state = .plain ∧ b = '"'.toUInt8
    · obtain ⟨rfl, rfl⟩ := hquote
      cases hbegun
      obtain ⟨rfl, rfl⟩ := Prod.mk.inj (Except.ok.inj h)
      exact ⟨[], (List.append_nil _).symm, .close _⟩
    · have hquote' : state = .plain → b ≠ '"'.toUInt8 := fun hstate hb => hquote ⟨hstate, hb⟩
      cases hstep : stringStep state b with
      | error fault =>
        rw [scanStringBytes_fault hquote' hstep] at h
        cases h
      | ok step =>
        obtain ⟨next, added⟩ := step
        rw [scanStringBytes_step hquote' hstep] at h
        rcases begun_stringStep hbegun hquote' hstep with ⟨hnext, rfl⟩ | ⟨rfl, hchars⟩
        · obtain ⟨value, rfl, hvalue⟩ := ih hnext h
          exact ⟨value, rfl, by simpa using hvalue⟩
        · obtain ⟨value, rfl, hvalue⟩ := ih .plain h
          exact ⟨added ++ value, by simp, hchars hvalue⟩

theorem scanStringBytes_backslash (read rest : Bytes) :
    scanStringBytes .plain read ('\\'.toUInt8 :: rest) = scanStringBytes .escape read rest := rfl

theorem scanStringBytes_u (read rest : Bytes) :
    scanStringBytes .escape read ('u'.toUInt8 :: rest) = scanStringBytes (.hex [] none) read rest := rfl

theorem scanStringBytes_pair (high : Nat) (read rest : Bytes) :
    scanStringBytes (.pairBackslash high) read ('\\'.toUInt8 :: 'u'.toUInt8 :: rest) =
      scanStringBytes (.hex [] (some high)) read rest := rfl

/-- Four digits, whatever they are part of. -/
theorem scanStringBytes_unit {a b c d : UInt8} {unit : Nat} {high : Option Nat} {next : StringState}
    {added : Bytes} (hunit : IsUnit a b c d unit) (hescaped : escapedUnit high unit = .ok (next, added))
    (read rest : Bytes) :
    scanStringBytes (.hex [] high) read (a :: b :: c :: d :: rest) =
      scanStringBytes next (added.reverse ++ read) rest := by
  have hstep : stringStep (.hex [c, b, a] high) d = .ok (next, added) := by
    simp only [stringStep, hexNumber_eq_some_iff.mpr hunit]
    exact hescaped
  exact scanStringBytes_step (by rintro ⟨⟩) hstep read rest

theorem Chars.scan {input value rest : Bytes} (h : Chars input value rest) (read : Bytes) :
    scanStringBytes .plain read input = .ok (read.reverse ++ value, rest) := by
  induction h generalizing read with
  | close rest => rw [scanStringBytes_quote, List.append_nil]
  | @plain b input value rest hspace hquote hslash _ ih =>
    have hstep : stringStep .plain b = .ok (.plain, [b]) := by
      simp [stringStep, isByte, hslash, UInt8.not_lt.mpr hspace]
    rw [scanStringBytes_step (fun _ => hquote) hstep, ih]
    simp
  | @escape letter b input value rest hescape _ ih =>
    have hstep : stringStep .escape letter = .ok (.plain, [b]) := by
      have hall : ∀ pair ∈ escapes, isByte pair.1 'u' = false := List.all_iff_forall_prop.mp (by decide)
      have hu : isByte letter 'u' = false := hall _ hescape
      simp [stringStep, hu, simpleEscape_eq_some_iff.mpr hescape]
    rw [scanStringBytes_backslash, scanStringBytes_step (by rintro ⟨⟩) hstep, ih]
    simp
  | @unit a b c d unit input value rest hunit halone _ ih =>
    have hescaped : escapedUnit none unit = .ok (.plain, encodeUtf8 unit) := by
      have hlow : isLowSurrogate unit = false := by simp [isLowSurrogate]; omega
      have hhigh : isHighSurrogate unit = false := by simp [isHighSurrogate]; omega
      simp [escapedUnit, hlow, hhigh]
    rw [scanStringBytes_backslash, scanStringBytes_u, scanStringBytes_unit hunit hescaped, ih]
    simp
  | @pair a b c d a' b' c' d' high low input value rest hhigh hhigh' hlow hlow' _ ih =>
    have hescaped : escapedUnit none high = .ok (.pairBackslash high, []) := by
      have hnot : isLowSurrogate high = false := by simp [isLowSurrogate]; omega
      simp [escapedUnit, hnot, isHighSurrogate_iff.mpr hhigh']
    have hescaped' : escapedUnit (some high) low =
        .ok (.plain, encodeUtf8 ((high - 0xd800) * 0x400 + (low - 0xdc00) + 0x10000)) := by
      simp [escapedUnit, isLowSurrogate_iff.mpr hlow']
    rw [scanStringBytes_backslash, scanStringBytes_u, scanStringBytes_unit hhigh hescaped, scanStringBytes_pair,
      scanStringBytes_unit hlow hescaped', ih]
    simp

theorem scanString_eq_ok_iff {input rest : Bytes} {text : String} :
    scanString input = .ok (text, rest) ↔ Chars input (toUtf8 text) rest := by
  constructor
  · intro h
    obtain ⟨⟨bytes, after⟩, hscan, h⟩ := bind_eq_ok_iff.mp h
    dsimp only at h
    split at h
    case h_1 text' htext =>
      obtain ⟨rfl, rfl⟩ := Prod.mk.inj (Except.ok.inj h)
      obtain ⟨value, rfl, hchars⟩ := chars_of_scanStringBytes .plain hscan
      rwa [ofUtf8?_eq_some_iff.mp htext]
    case h_2 => cases h
  · intro h
    refine bind_eq_ok_iff.mpr ⟨(toUtf8 text, rest), h.scan [], ?_⟩
    dsimp only
    rw [ofUtf8?_eq_some_iff.mpr rfl]

end Specimen.Json
