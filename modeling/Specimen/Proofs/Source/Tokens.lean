import Mathlib.Data.Nat.Digits.Defs
import Specimen.Source.Rust
import Specimen.Proofs.Text.Names

/-! The tokens of Rust source.

`scan` reads a text character by character: words, raw words, string literals with their escapes undone, and
marks of a single character. Space and line comments separate tokens and are left out. What the writer puts
together, names, quoted texts and comments, is scanned to what it stands for (`scan_word`, `scan_quoted`,
`scan_comment`), whatever comes after it. -/
namespace Specimen.Source.Rust
open Text

inductive Token where
  /-- An identifier or a keyword. -/
  | word (text : String)
  | rawWord (text : String)
  | literal (text : String)
  | mark (c : Char)
  deriving DecidableEq

/-- What the scanner is in the middle of. The characters read so far are given last to first. -/
inductive Mode where
  | between
  | word (read : List Char)
  | rawWord (read : List Char)
  /-- After a slash that may begin a comment. -/
  | slash
  | comment
  | literal (read : List Char)
  /-- After a backslash. -/
  | escape (read : List Char)
  /-- In the digits of a code point. -/
  | codePoint (read : List Char) (code : Nat)
  /-- After something that is no token of those above. -/
  | failed

namespace Mode

def start (c : Char) : Mode × List Token :=
  if c = ' ' || c = '\n' then (.between, [])
  else if c = '"' then (.literal [], [])
  else if c = '/' then (.slash, [])
  else if isNameChar c then (.word [c], [])
  else (.between, [.mark c])

def startAfter (token : Token) (c : Char) : Mode × List Token :=
  ((start c).1, token :: (start c).2)

/-- What a character stands for after a backslash. -/
def escaped? : Char → Option Char
  | 'n' => some '\n'
  | 'r' => some '\r'
  | 't' => some '\t'
  | '0' => some '\x00'
  | '\\' => some '\\'
  | '"' => some '"'
  | '\'' => some '\''
  | _ => none

def hexValue (c : Char) : Nat :=
  if c ≤ '9' then c.toNat - '0'.toNat
  else if c ≤ 'F' then c.toNat - 'A'.toNat + 10
  else c.toNat - 'a'.toNat + 10

/-- The mode after another character, and the tokens that it completes. -/
def step (mode : Mode) (c : Char) : Mode × List Token :=
  match mode with
  | .between => start c
  | .word read =>
    if isNameChar c then (.word (c :: read), [])
    else if c = '#' && read = ['r'] then (.rawWord [], [])
    else startAfter (.word (String.ofList read.reverse)) c
  | .rawWord read =>
    if isNameChar c then (.rawWord (c :: read), [])
    else startAfter (.rawWord (String.ofList read.reverse)) c
  | .slash =>
    if c = '/' then (.comment, [])
    else if c = '*' then (.failed, [])
    else startAfter (.mark '/') c
  | .comment => (if c = '\n' then .between else .comment, [])
  | .literal read =>
    if c = '"' then (.between, [.literal (String.ofList read.reverse)])
    else if c = '\\' then (.escape read, [])
    else (.literal (c :: read), [])
  | .escape read =>
    if c = 'u' then (.codePoint read 0, [])
    else match escaped? c with
      | some d => (.literal (d :: read), [])
      | none => (.failed, [])
  | .codePoint read code =>
    if c = '\x7b' then (.codePoint read code, [])
    else if c = '\x7d' then (.literal (Char.ofNat code :: read), [])
    else if isHexDigit c then (.codePoint read (code * 16 + hexValue c), [])
    else (.failed, [])
  | .failed => (.failed, [])

end Mode

/-- The tokens of a text. A literal or an escape that does not end is left out. -/
def scan : Mode → List Char → List Token
  | .word read, [] => [.word (String.ofList read.reverse)]
  | .rawWord read, [] => [.rawWord (String.ofList read.reverse)]
  | .slash, [] => [.mark '/']
  | _, [] => []
  | mode, c :: rest => (mode.step c).2 ++ scan (mode.step c).1 rest

theorem scan_cons (mode : Mode) (c : Char) (rest : List Char) :
    scan mode (c :: rest) = (mode.step c).2 ++ scan (mode.step c).1 rest := by
  cases mode <;> rfl

/-! ### Words -/

/-- A text that is one word. -/
structure IsName (name : String) : Prop where
  nonempty : name ≠ ""
  chars : ∀ c ∈ name.toList, isNameChar c = true

instance (name : String) : Decidable (IsName name) :=
  decidable_of_iff (name ≠ "" ∧ name.toList.all isNameChar = true)
    ⟨fun ⟨h₁, h₂⟩ => ⟨h₁, List.all_eq_true.mp h₂⟩, fun ⟨h₁, h₂⟩ => ⟨h₁, List.all_eq_true.mpr h₂⟩⟩

/-- A character that ends a word and does not turn it into a raw one. -/
structure EndsWord (c : Char) : Prop where
  outside : isNameChar c = false
  hash : c ≠ '#'

theorem scan_word_append {read cs : List Char} (h : ∀ c ∈ cs, isNameChar c = true)
    (rest : List Char) : scan (.word read) (cs ++ rest) = scan (.word (cs.reverse ++ read)) rest := by
  induction cs generalizing read with
  | nil => rfl
  | cons c cs ih =>
    obtain ⟨hc, hcs⟩ := List.forall_mem_cons.mp h
    rw [List.cons_append, scan_cons, Mode.step, if_pos hc, List.nil_append, ih hcs]
    simp

theorem scan_rawWord_append {read cs : List Char} (h : ∀ c ∈ cs, isNameChar c = true)
    (rest : List Char) :
    scan (.rawWord read) (cs ++ rest) = scan (.rawWord (cs.reverse ++ read)) rest := by
  induction cs generalizing read with
  | nil => rfl
  | cons c cs ih =>
    obtain ⟨hc, hcs⟩ := List.forall_mem_cons.mp h
    rw [List.cons_append, scan_cons, Mode.step, if_pos hc, List.nil_append, ih hcs]
    simp

theorem start_of_isNameChar {c : Char} (h : isNameChar c = true) :
    Mode.start c = (.word [c], []) := by
  have hother : c ≠ ' ' ∧ c ≠ '\n' ∧ c ≠ '"' ∧ c ≠ '/' := by
    refine ⟨?_, ?_, ?_, ?_⟩ <;> rintro rfl <;> cases h
  simp [Mode.start, hother, h]

/-- A name is scanned as one word. -/
theorem scan_word {name : String} (h : IsName name) {c : Char} (hc : EndsWord c) (rest : List Char) :
    scan .between (name.toList ++ c :: rest) = .word name :: scan .between (c :: rest) := by
  obtain ⟨d, cs, hcs⟩ : ∃ d cs, name.toList = d :: cs :=
    List.exists_cons_of_ne_nil (by simpa using h.nonempty)
  have hchars := h.chars
  rw [hcs] at hchars
  obtain ⟨hd, hrest⟩ := List.forall_mem_cons.mp hchars
  have hname : String.ofList (cs.reverse ++ [d]).reverse = name := by
    rw [List.reverse_append, List.reverse_reverse, List.reverse_singleton, List.singleton_append, ← hcs,
      String.ofList_toList]
  have hend : (Mode.word (cs.reverse ++ [d])).step c = Mode.startAfter (.word name) c := by
    rw [Mode.step, if_neg (Bool.not_eq_true _ ▸ hc.outside), if_neg (by simp [hc.hash]), hname]
  rw [hcs, List.cons_append, scan_cons, Mode.step, start_of_isNameChar hd, List.nil_append,
    scan_word_append hrest, scan_cons, hend, scan_cons]
  rfl

theorem scan_rawWord {name : String} (h : ∀ c ∈ name.toList, isNameChar c = true) {c : Char}
    (hc : isNameChar c = false) (rest : List Char) :
    scan .between ('r' :: '#' :: name.toList ++ c :: rest) =
      .rawWord name :: scan .between (c :: rest) := by
  have hstart : scan .between ('r' :: '#' :: name.toList ++ c :: rest) =
      scan (.rawWord []) (name.toList ++ c :: rest) := rfl
  rw [hstart, scan_rawWord_append h, scan_cons, scan_cons]
  simp [Mode.step, hc, Mode.startAfter]

/-! ### Comments -/

theorem scan_comment {text : List Char} (h : '\n' ∉ text) (rest : List Char) :
    scan .comment (text ++ '\n' :: rest) = scan .between rest := by
  induction text with
  | nil => rfl
  | cons c text ih =>
    rw [List.mem_cons, not_or] at h
    rw [List.cons_append, scan_cons, Mode.step, if_neg (Ne.symm h.1), ih h.2]
    rfl

/-! ### Quoted texts -/

theorem hexDigit_digitChar {d : Nat} (h : d < 16) :
    isHexDigit d.digitChar = true ∧ Mode.hexValue d.digitChar = d := by
  have hall : ∀ d < 16, isHexDigit (Nat.digitChar d) = true ∧ Mode.hexValue (Nat.digitChar d) = d := by
    decide
  exact hall d h

theorem scan_codePoint_digit {d : Nat} (h : d < 16) (read : List Char) (code : Nat)
    (rest : List Char) : scan (.codePoint read code) (d.digitChar :: rest) =
      scan (.codePoint read (code * 16 + d)) rest := by
  obtain ⟨hhex, hvalue⟩ := hexDigit_digitChar h
  have hbrace : d.digitChar ≠ '\x7b' ∧ d.digitChar ≠ '\x7d' := by
    constructor <;> intro h <;> rw [h] at hhex <;> cases hhex
  rw [scan_cons]
  simp [Mode.step, hbrace, hhex, hvalue]

/-- The digits of a number are read as the number. -/
theorem scan_codePoint_hexDigits (n : Nat) (read rest : List Char) :
    scan (.codePoint read 0) (hexDigits n ++ rest) = scan (.codePoint read n) rest := by
  induction n using Nat.strongRecOn generalizing rest with
  | ind n ih =>
    rw [hexDigits, Nat.toDigits_eq_if (by decide)]
    split
    case isTrue h =>
      rw [List.singleton_append, scan_codePoint_digit h, Nat.zero_mul, Nat.zero_add]
    case isFalse h =>
      have hlt : n / 16 < n := Nat.div_lt_self (by omega) (by decide)
      rw [← hexDigits, List.append_assoc, ih _ hlt, List.singleton_append,
        scan_codePoint_digit (Nat.mod_lt _ (by decide)), Nat.div_add_mod']

/-- A character in quotes is read as itself. -/
theorem scan_quotedChar (c : Char) (read rest : List Char) :
    scan (.literal read) (quotedChar c ++ rest) = scan (.literal (c :: read)) rest := by
  unfold quotedChar
  split
  case isTrue h => exact h ▸ rfl
  split
  case isTrue h => exact h ▸ rfl
  split
  case isTrue h => exact h ▸ rfl
  split
  case isTrue h => exact h ▸ rfl
  split
  case isTrue h =>
    rw [Bool.or_eq_true, decide_eq_true_eq, decide_eq_true_eq] at h
    rcases h with rfl | rfl <;> rfl
  case isFalse h =>
    rw [Bool.or_eq_true, decide_eq_true_eq, decide_eq_true_eq, not_or] at h
    split
    · rw [List.singleton_append, scan_cons]
      simp [Mode.step, h]
    · have hstart : scan (.literal read) (codePointEscape c ++ rest) =
          scan (.codePoint read 0) (hexDigits c.toNat ++ '\x7d' :: rest) := by
        rw [codePointEscape, List.append_assoc, List.append_assoc]
        rfl
      rw [hstart, scan_codePoint_hexDigits, scan_cons]
      simp [Mode.step]

/-- A quoted text is read as the text. -/
theorem scan_quoted (s : String) (rest : List Char) :
    scan .between ((quoted s).toList ++ rest) = .literal s :: scan .between rest := by
  have hchars : ∀ (cs read : List Char), scan (.literal read) (cs.flatMap quotedChar ++ '"' :: rest) =
      .literal (String.ofList (read.reverse ++ cs)) :: scan .between rest := by
    intro cs
    induction cs with
    | nil =>
      intro read
      rw [List.append_nil]
      rfl
    | cons c cs ih =>
      intro read
      rw [List.flatMap_cons, List.append_assoc, scan_quotedChar, ih]
      simp
  have hstart : scan .between ((quoted s).toList ++ rest) =
      scan (.literal []) (s.toList.flatMap quotedChar ++ '"' :: rest) := by
    simp [quoted, scan_cons, Mode.step, Mode.start]
  rw [hstart, hchars]
  simp

end Specimen.Source.Rust
