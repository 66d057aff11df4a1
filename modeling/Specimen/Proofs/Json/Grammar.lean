import Mathlib.Data.List.TakeWhile
import Specimen.Json.Reader

/-! The grammar of JSON texts, on bytes.

A text is read as a `Tree`, which keeps what a reader may still refuse: keys that are there twice and the spelling
of numbers. `Value input tree rest` says that a value is written at the beginning of the input and what comes after
it; the grammar does not say where a number ends, since what comes after it may be digits again. -/
namespace Specimen.Json

/-! ### What is read -/

/-- A value as it is written: numbers by their literals, and all members in the order of the text. -/
inductive Tree where
  | null
  | bool (value : Bool)
  | number (literal : Bytes)
  | string (value : String)
  | array (items : List Tree)
  | object (members : List (String × Tree))

def ascii (text : String) : Bytes := text.toList.map Char.toUInt8

def blankBytes : Bytes := ascii " \n\t\r"

/-- What is left after some blanks. -/
def Blanks (input rest : Bytes) : Prop := ∃ blanks, input = blanks ++ rest ∧ ∀ b ∈ blanks, b ∈ blankBytes

/-- What comes before an item or member: blanks, and unless it is the first a comma among them. -/
def Lead (first : Bool) (input rest : Bytes) : Prop :=
  if first then Blanks input rest
  else ∃ after, Blanks input (','.toUInt8 :: after) ∧ Blanks after rest

/-! ### Strings -/

/-- The letters after a backslash, and what they stand for. -/
def escapes : List (UInt8 × UInt8) :=
  [('"'.toUInt8, 0x22), ('\\'.toUInt8, 0x5c), ('/'.toUInt8, 0x2f), ('b'.toUInt8, 8), ('f'.toUInt8, 12),
   ('n'.toUInt8, 10), ('r'.toUInt8, 13), ('t'.toUInt8, 9)]

def hexDigits : List (UInt8 × Nat) :=
  (ascii "0123456789abcdef").zipIdx ++ (ascii "ABCDEF").zipIdx 10

/-- Four hexadecimal digits and their value. -/
def IsUnit (a b c d : UInt8) (unit : Nat) : Prop :=
  ∃ w x y z, (a, w) ∈ hexDigits ∧ (b, x) ∈ hexDigits ∧ (c, y) ∈ hexDigits ∧ (d, z) ∈ hexDigits ∧
    unit = ((w * 16 + x) * 16 + y) * 16 + z

/-- The inside of a string with its closing quote, the bytes that it stands for, and what comes after it. A
surrogate stands only for half of a character. -/
inductive Chars : Bytes → Bytes → Bytes → Prop where
  | close (rest : Bytes) : Chars ('"'.toUInt8 :: rest) [] rest
  | plain {b : UInt8} {input value rest : Bytes} (hspace : 0x20 ≤ b) (hquote : b ≠ '"'.toUInt8)
    (hslash : b ≠ '\\'.toUInt8) (h : Chars input value rest) : Chars (b :: input) (b :: value) rest
  | escape {letter b : UInt8} {input value rest : Bytes} (hescape : (letter, b) ∈ escapes)
    (h : Chars input value rest) : Chars ('\\'.toUInt8 :: letter :: input) (b :: value) rest
  | unit {a b c d : UInt8} {unit : Nat} {input value rest : Bytes} (hunit : IsUnit a b c d unit)
    (halone : unit < 0xd800 ∨ 0xdfff < unit) (h : Chars input value rest) :
    Chars ('\\'.toUInt8 :: 'u'.toUInt8 :: a :: b :: c :: d :: input) (encodeUtf8 unit ++ value) rest
  | pair {a b c d a' b' c' d' : UInt8} {high low : Nat} {input value rest : Bytes}
    (hhigh : IsUnit a b c d high) (hhigh' : 0xd800 ≤ high ∧ high ≤ 0xdbff)
    (hlow : IsUnit a' b' c' d' low) (hlow' : 0xdc00 ≤ low ∧ low ≤ 0xdfff) (h : Chars input value rest) :
    Chars ('\\'.toUInt8 :: 'u'.toUInt8 :: a :: b :: c :: d ::
        '\\'.toUInt8 :: 'u'.toUInt8 :: a' :: b' :: c' :: d' :: input)
      (encodeUtf8 ((high - 0xd800) * 0x400 + (low - 0xdc00) + 0x10000) ++ value) rest

/-! ### Numbers -/

def IsDigits (digits : Bytes) : Prop := digits ≠ [] ∧ ∀ b ∈ digits, isDigitByte b = true

/-- Digits without a zero in front. -/
structure IsWhole (digits : Bytes) : Prop where
  allDigits : IsDigits digits
  zero : digits.head? = some '0'.toUInt8 → digits = ['0'.toUInt8]

def IsFraction (fraction : Bytes) : Prop :=
  fraction = [] ∨ ∃ digits, fraction = '.'.toUInt8 :: digits ∧ IsDigits digits

def IsExponent (exponent : Bytes) : Prop :=
  exponent = [] ∨ ∃ mark sign digits, exponent = mark :: (sign ++ digits) ∧ mark ∈ ascii "eE" ∧
    (sign = [] ∨ sign = ascii "+" ∨ sign = ascii "-") ∧ IsDigits digits

def IsNumeral (literal : Bytes) : Prop :=
  ∃ minus whole fraction exponent, literal = minus ++ (whole ++ (fraction ++ exponent)) ∧
    (minus = [] ∨ minus = ascii "-") ∧ IsWhole whole ∧ IsFraction fraction ∧ IsExponent exponent

/-! ### Values -/

mutual

/-- A value at the beginning of the input, and what comes after it. -/
inductive Value : Bytes → Tree → Bytes → Prop where
  | null (rest : Bytes) : Value (ascii "null" ++ rest) .null rest
  | true (rest : Bytes) : Value (ascii "true" ++ rest) (.bool true) rest
  | false (rest : Bytes) : Value (ascii "false" ++ rest) (.bool false) rest
  | number {literal : Bytes} (h : IsNumeral literal) (rest : Bytes) :
    Value (literal ++ rest) (.number literal) rest
  | string {value : String} {input rest : Bytes} (h : Chars input (toUtf8 value) rest) :
    Value ('"'.toUInt8 :: input) (.string value) rest
  | array {items : List Tree} {input rest : Bytes} (h : Items true input items rest) :
    Value ('['.toUInt8 :: input) (.array items) rest
  | object {members : List (String × Tree)} {input rest : Bytes} (h : Members true input members rest) :
    Value ('\x7b'.toUInt8 :: input) (.object members) rest

/-- The items of an array with the closing bracket. Before them others may have been read. -/
inductive Items : Bool → Bytes → List Tree → Bytes → Prop where
  | close {first : Bool} {input rest : Bytes} (h : Blanks input (']'.toUInt8 :: rest)) :
    Items first input [] rest
  | item {first : Bool} {input start after rest : Bytes} {tree : Tree} {items : List Tree}
    (hlead : Lead first input start) (hvalue : Value start tree after)
    (hitems : Items false after items rest) : Items first input (tree :: items) rest

/-- The members of an object with the closing brace. -/
inductive Members : Bool → Bytes → List (String × Tree) → Bytes → Prop where
  | close {first : Bool} {input rest : Bytes} (h : Blanks input ('\x7d'.toUInt8 :: rest)) :
    Members first input [] rest
  | member {first : Bool} {input start spelled after colon value rest : Bytes} {key : String} {tree : Tree}
    {members : List (String × Tree)} (hlead : Lead first input ('"'.toUInt8 :: start))
    (hkey : Chars start (toUtf8 key) spelled) (hcolon : Blanks spelled (':'.toUInt8 :: colon))
    (hblanks : Blanks colon value) (hvalue : Value value tree after)
    (hmembers : Members false after members rest) : Members first input ((key, tree) :: members) rest

end

/-- The bytes are one value, with blanks around it. -/
def IsText (bytes : Bytes) (tree : Tree) : Prop :=
  ∃ start rest, Blanks bytes start ∧ Value start tree rest ∧ Blanks rest []

/-! ### Blanks -/

theorem isByte_iff {b : UInt8} {c : Char} : isByte b c = true ↔ b = c.toUInt8 := beq_iff_eq

theorem isBlankByte_iff {b : UInt8} : isBlankByte b = true ↔ b ∈ blankBytes := by
  simp [isBlankByte, isByte_iff, blankBytes, ascii, or_assoc]

theorem Blanks.refl (input : Bytes) : Blanks input input := ⟨[], rfl, nofun⟩

theorem Blanks.trans {input start rest : Bytes} (h : Blanks input start) (h' : Blanks start rest) :
    Blanks input rest := by
  obtain ⟨before, rfl, hbefore⟩ := h
  obtain ⟨blanks, rfl, hblanks⟩ := h'
  exact ⟨before ++ blanks, (List.append_assoc ..).symm, List.forall_mem_append.mpr ⟨hbefore, hblanks⟩⟩

theorem Lead.trans {first : Bool} {input start rest : Bytes} (h : Lead first input start)
    (h' : Blanks start rest) : Lead first input rest := by
  cases first with
  | true => exact Blanks.trans h h'
  | false =>
    obtain ⟨after, hcomma, hblanks⟩ := h
    exact ⟨after, hcomma, hblanks.trans h'⟩

theorem blanks_skipBlanks (input : Bytes) : Blanks input (skipBlanks input) :=
  ⟨input.takeWhile isBlankByte, List.takeWhile_append_dropWhile.symm,
    fun _ hb => isBlankByte_iff.mp (List.mem_takeWhile_imp hb)⟩

theorem Blanks.skipBlanks_eq {input rest : Bytes} (h : Blanks input rest) : skipBlanks input = skipBlanks rest := by
  obtain ⟨blanks, rfl, hblanks⟩ := h
  exact List.dropWhile_append_of_pos fun b hb => isBlankByte_iff.mpr (hblanks b hb)

theorem skipBlanks_of_not_mem {b : UInt8} {rest : Bytes} (h : b ∉ blankBytes) :
    skipBlanks (b :: rest) = b :: rest :=
  List.dropWhile_cons_of_neg fun hb => h (isBlankByte_iff.mp hb)

theorem skipBlanks_eq_cons_iff {input rest : Bytes} {b : UInt8} :
    skipBlanks input = b :: rest ↔ Blanks input (b :: rest) ∧ b ∉ blankBytes := by
  constructor
  · intro h
    refine ⟨h ▸ blanks_skipBlanks input, fun hb => ?_⟩
    have hhead := List.head?_dropWhile_not isBlankByte input
    rw [show input.dropWhile isBlankByte = b :: rest from h] at hhead
    exact Bool.false_ne_true (hhead.symm.trans (isBlankByte_iff.mpr hb))
  · rintro ⟨h, hb⟩
    rw [h.skipBlanks_eq, skipBlanks_of_not_mem hb]

theorem skipBlanks_eq_nil_iff {input : Bytes} : skipBlanks input = [] ↔ Blanks input [] :=
  ⟨fun h => h ▸ blanks_skipBlanks input, fun h => h.skipBlanks_eq⟩

theorem Blanks.length_le {input rest : Bytes} (h : Blanks input rest) : rest.length ≤ input.length := by
  obtain ⟨blanks, rfl, -⟩ := h
  rw [List.length_append]
  exact Nat.le_add_left ..

theorem Lead.length_le {first : Bool} {input rest : Bytes} (h : Lead first input rest) :
    rest.length ≤ input.length := by
  cases first with
  | true => exact Blanks.length_le h
  | false =>
    obtain ⟨after, hcomma, hblanks⟩ := h
    exact Nat.le_trans hblanks.length_le (Nat.le_trans (Nat.le_succ _) hcomma.length_le)

/-! ### Beginnings -/

theorem IsNumeral.exists_head {literal : Bytes} (h : IsNumeral literal) :
    ∃ b digits, literal = b :: digits ∧ (b = '-'.toUInt8 ∨ isDigitByte b = true) := by
  obtain ⟨minus, whole, fraction, exponent, rfl, rfl | rfl, hwhole, -, -⟩ := h
  · obtain ⟨hne, hdigits⟩ := hwhole.allDigits
    obtain ⟨b, others, rfl⟩ := List.exists_cons_of_ne_nil hne
    exact ⟨b, _, rfl, .inr (hdigits b List.mem_cons_self)⟩
  · exact ⟨_, _, rfl, .inl rfl⟩

/-- Neither a blank nor the end of an array. -/
def IsStart (b : UInt8) : Prop := b ∉ blankBytes ∧ b ≠ ']'.toUInt8

instance (b : UInt8) : Decidable (IsStart b) := inferInstanceAs (Decidable (_ ∧ _))

theorem isStart_of_isDigitByte {b : UInt8} (h : isDigitByte b = true) : IsStart b := by
  constructor
  · intro hb
    rcases (show b = _ ∨ _ by simpa [blankBytes, ascii] using hb) with rfl | rfl | rfl | rfl <;>
      exact absurd h (by decide)
  · rintro rfl
    exact absurd h (by decide)

theorem Value.exists_start {input rest : Bytes} {tree : Tree} (h : Value input tree rest) :
    ∃ b tail, input = b :: tail ∧ IsStart b := by
  cases h with
  | number hnumeral =>
    obtain ⟨b, digits, rfl, rfl | hdigit⟩ := hnumeral.exists_head
    · exact ⟨_, _, rfl, by decide⟩
    · exact ⟨b, _, rfl, isStart_of_isDigitByte hdigit⟩
  | _ => exact ⟨_, _, rfl, by decide⟩

/-! ### Lengths -/

theorem Chars.length_lt {input value rest : Bytes} (h : Chars input value rest) : rest.length < input.length := by
  induction h with
  | close rest => exact Nat.lt_succ_self _
  | _ =>
    simp only [List.length_cons]
    omega

mutual

theorem Value.length_lt {input rest : Bytes} {tree : Tree} : Value input tree rest → rest.length < input.length
  | .null _ | .true _ | .false _ => by
    simp only [ascii, List.length_append, List.length_map]
    exact Nat.lt_add_of_pos_left (by decide)
  | .number hnumeral _ => by
    obtain ⟨b, digits, rfl, -⟩ := hnumeral.exists_head
    simp only [List.cons_append, List.length_cons, List.length_append]
    omega
  | .string h => Nat.lt_succ_of_lt h.length_lt
  | .array h => Nat.lt_succ_of_le (Nat.le_of_add_left_le h.length_add_le)
  | .object h => Nat.lt_succ_of_le (Nat.le_of_add_left_le h.length_add_le)

theorem Items.length_add_le {first : Bool} {input rest : Bytes} {items : List Tree} :
    Items first input items rest → items.length + rest.length ≤ input.length
  | .close h => by
    have := h.length_le
    grind
  | .item hlead hvalue hitems => by
    have := hlead.length_le
    have := hvalue.length_lt
    have := hitems.length_add_le
    grind

theorem Members.length_add_le {first : Bool} {input rest : Bytes} {members : List (String × Tree)} :
    Members first input members rest → members.length + rest.length ≤ input.length
  | .close h => by
    have := h.length_le
    grind
  | .member hlead hkey hcolon hblanks hvalue hmembers => by
    have := hlead.length_le
    have := hkey.length_lt
    have := hcolon.length_le
    have := hblanks.length_le
    have := hvalue.length_lt
    have := hmembers.length_add_le
    grind

end

/-! ### What comes after -/

theorem Blanks.append {input rest : Bytes} (h : Blanks input rest) (more : Bytes) :
    Blanks (input ++ more) (rest ++ more) := by
  obtain ⟨blanks, rfl, hblanks⟩ := h
  exact ⟨blanks, List.append_assoc .., hblanks⟩

theorem Lead.append {first : Bool} {input rest : Bytes} (h : Lead first input rest) (more : Bytes) :
    Lead first (input ++ more) (rest ++ more) := by
  cases first with
  | true => exact Blanks.append h more
  | false =>
    obtain ⟨after, hcomma, hblanks⟩ := h
    exact ⟨after ++ more, hcomma.append more, hblanks.append more⟩

theorem Chars.append {input value rest : Bytes} (h : Chars input value rest) (more : Bytes) :
    Chars (input ++ more) value (rest ++ more) := by
  induction h with
  | close rest => exact .close _
  | plain hspace hquote hslash _ ih => exact .plain hspace hquote hslash ih
  | escape hescape _ ih => exact .escape hescape ih
  | unit hunit halone _ ih => exact .unit hunit halone ih
  | pair hhigh hhigh' hlow hlow' _ ih => exact .pair hhigh hhigh' hlow hlow' ih

mutual

/-- A value is one whatever comes after it. -/
theorem Value.append {input rest : Bytes} {tree : Tree} :
    Value input tree rest → ∀ more, Value (input ++ more) tree (rest ++ more)
  | .null rest, more => .null (rest ++ more)
  | .true rest, more => .true (rest ++ more)
  | .false rest, more => .false (rest ++ more)
  | .number hnumeral rest, more => by
    rw [List.append_assoc]
    exact .number hnumeral (rest ++ more)
  | .string h, more => .string (h.append more)
  | .array h, more => .array (h.append more)
  | .object h, more => .object (h.append more)

theorem Items.append {first : Bool} {input rest : Bytes} {items : List Tree} :
    Items first input items rest → ∀ more, Items first (input ++ more) items (rest ++ more)
  | .close h, more => .close (h.append more)
  | .item hlead hvalue hitems, more => .item (hlead.append more) (hvalue.append more) (hitems.append more)

theorem Members.append {first : Bool} {input rest : Bytes} {members : List (String × Tree)} :
    Members first input members rest → ∀ more, Members first (input ++ more) members (rest ++ more)
  | .close h, more => .close (h.append more)
  | .member hlead hkey hcolon hblanks hvalue hmembers, more =>
    .member (hlead.append more) (hkey.append more) (hcolon.append more) (hblanks.append more)
      (hvalue.append more) (hmembers.append more)

end

end Specimen.Json
