import Specimen.Inference
import Specimen.Proofs.Text.Names
import Specimen.Source.TypeScript

/-! The members of classes in TypeScript source.

`scan` reads a text by the lexical grammar of the language. A key that is written as the name of a member, or
after an object, is read as the key (`readName_memberName`, `readAccess_memberAccess`,
`readOptionalAccess_optionalAccess`), except for one that holds a line feed or a carriage return: a literal that
goes on in another line is no token. A class declares the other keys, and its two methods read and write the
members under the keys that these have in the data (`statementsOf_typeLines`). -/
namespace Specimen.Source.TypeScript
open Text

/-! ### Tokens -/

inductive Token where
  | name (text : String)
  /-- A string literal with its escapes undone. -/
  | literal (value : String)
  | mark (c : Char)
  /-- Something that is no token. What comes after it is not read. -/
  | broken
  deriving DecidableEq

/-- What the scanner is in the middle of. The characters read so far are given last to first. -/
inductive Mode where
  | between
  | name (read : List Char)
  | literal (read : List Char)
  /-- After a backslash. -/
  | escape (read : List Char)
  | failed

/-- The characters of names in ASCII. -/
def continuesName (c : Char) : Bool := c.isAlphanum || c == '_' || c == '$'

namespace Mode

/-- A name begins with no digit, and a literal in single quotes. Other quotes are not read. -/
def start (c : Char) : Mode × List Token :=
  if c.isWhitespace then (.between, [])
  else if c = '\'' then (.literal [], [])
  else if c = '"' || c = '\x60' then (.failed, [])
  else if continuesName c && !c.isDigit then (.name [c], [])
  else (.between, [.mark c])

/-- What a character stands for after a backslash. The writer escapes no character by its number and breaks no
line inside of a literal, so that neither is read. -/
def escaped? : Char → Option Char
  | 'b' => some '\x08'
  | 't' => some '\t'
  | 'n' => some '\n'
  | 'v' => some '\x0b'
  | 'f' => some '\x0c'
  | 'r' => some '\r'
  | c => if c.isDigit || c ∈ ['x', 'u', '\n', '\r', '\u2028', '\u2029'] then none else some c

/-- The mode after another character, and the tokens that it completes. -/
def step (mode : Mode) (c : Char) : Mode × List Token :=
  match mode with
  | .between => start c
  | .name read =>
    if continuesName c then (.name (c :: read), [])
    else ((start c).1, .name (String.ofList read.reverse) :: (start c).2)
  | .literal read =>
    if c = '\'' then (.between, [.literal (String.ofList read.reverse)])
    else if c = '\\' then (.escape read, [])
    else if c = '\n' || c = '\r' then (.failed, [])
    else (.literal (c :: read), [])
  | .escape read =>
    match escaped? c with
    | some d => (.literal (d :: read), [])
    | none => (.failed, [])
  | .failed => (.failed, [])

end Mode

/-- The tokens of a text. A literal that does not end is no token. -/
def scan : Mode → List Char → List Token
  | .between, [] => []
  | .name read, [] => [.name (String.ofList read.reverse)]
  | _, [] => [.broken]
  | mode, c :: rest => (mode.step c).2 ++ scan (mode.step c).1 rest

theorem scan_cons (mode : Mode) (c : Char) (rest : List Char) :
    scan mode (c :: rest) = (mode.step c).2 ++ scan (mode.step c).1 rest := by
  cases mode <;> rfl

theorem scan_failed (cs : List Char) : scan .failed cs = [.broken] := by
  induction cs with
  | nil => rfl
  | cons c cs ih => rw [scan_cons, Mode.step, ih, List.nil_append]

/-! ### Names and literals -/

theorem isAsciiLetter_iff {c : Char} : isAsciiLetter c = true ↔ c.isAlpha = true := by
  rw [isAlpha_iff]
  simp [isAsciiLetter, Char.le_def, UInt32.le_iff_toNat_le, ← Char.toNat_val]
  tauto

theorem isAsciiDigit_eq (c : Char) : isAsciiDigit c = c.isDigit := by
  rw [Bool.eq_iff_iff, isAsciiDigit_iff]
  simp [Char.isDigit, UInt32.le_iff_toNat_le, ← Char.toNat_val]

theorem isNamePart_eq (c : Char) : isNamePart c = continuesName c := by
  have hletter : isAsciiLetter c = c.isAlpha := Bool.eq_iff_iff.mpr isAsciiLetter_iff
  rw [isNamePart, isNameStart, hletter, isAsciiDigit_eq, continuesName, Char.isAlphanum]
  cases c.isAlpha <;> cases c.isDigit <;> simp

theorem isDigit_of_isNameStart {c : Char} (h : isNameStart c = true) : c.isDigit = false := by
  rw [← isAsciiDigit_eq, ← Bool.not_eq_true, isAsciiDigit_iff]
  rw [isNameStart, Bool.or_eq_true, Bool.or_eq_true, beq_iff_eq, beq_iff_eq, isAsciiLetter_iff,
    isAlpha_iff] at h
  rcases h with (h | rfl) | rfl
  · omega
  · decide
  · decide

theorem start_of_isNameStart {c : Char} (h : isNameStart c = true) : Mode.start c = (.name [c], []) := by
  have hother : c.isWhitespace = false ∧ c ≠ '\'' ∧ c ≠ '"' ∧ c ≠ '\x60' := by
    refine ⟨Bool.eq_false_iff.mpr fun hspace => ?_, ?_, ?_, ?_⟩
    · simp only [Char.isWhitespace, Bool.or_eq_true, decide_eq_true_eq] at hspace
      rcases hspace with ((rfl | rfl) | rfl) | rfl <;> cases h
    all_goals rintro rfl; cases h
  have hpart : continuesName c = true := by rw [← isNamePart_eq, isNamePart, h, Bool.true_or]
  simp [Mode.start, hother, hpart, isDigit_of_isNameStart h]

theorem scan_name_append {read cs : List Char} (h : ∀ c ∈ cs, continuesName c = true) (rest : List Char) :
    scan (.name read) (cs ++ rest) = scan (.name (cs.reverse ++ read)) rest := by
  induction cs generalizing read with
  | nil => rfl
  | cons c cs ih =>
    obtain ⟨hc, hcs⟩ := List.forall_mem_cons.mp h
    rw [List.cons_append, scan_cons, Mode.step, if_pos hc, List.nil_append, ih hcs]
    simp

/-- What comes next is not part of a name. -/
def EndsName (rest : List Char) : Prop := ∀ c ∈ rest.head?, continuesName c = false

/-- A name ends where something comes that is not part of it. -/
theorem scan_name_end {read rest : List Char} (h : EndsName rest) :
    scan (.name read) rest = .name (String.ofList read.reverse) :: scan .between rest := by
  cases rest with
  | nil => rfl
  | cons c rest =>
    have hc : ¬ continuesName c = true := Bool.eq_false_iff.mp (h c rfl)
    rw [scan_cons, Mode.step, if_neg hc, scan_cons]
    rfl

theorem scan_identifier {key : String} (h : isIdentifier key = true) {rest : List Char}
    (hrest : EndsName rest) : scan .between (key.toList ++ rest) = .name key :: scan .between rest := by
  unfold isIdentifier at h
  split at h
  case h_1 => cases h
  case h_2 c cs hkey =>
    rw [Bool.and_eq_true, List.all_eq_true] at h
    have hparts : ∀ c ∈ cs, continuesName c = true := fun c hc => isNamePart_eq c ▸ h.2 c hc
    have hname : String.ofList (cs.reverse ++ [c]).reverse = key := by
      rw [List.reverse_append, List.reverse_reverse, List.reverse_singleton, List.singleton_append, ← hkey,
        String.ofList_toList]
    rw [hkey, List.cons_append, scan_cons, Mode.step, start_of_isNameStart h.1, List.nil_append,
      scan_name_append hparts, scan_name_end hrest, hname]

/-- The key holds no line feed and no carriage return. -/
def isOneLine (key : String) : Bool := key.toList.all fun c => c != '\n' && c != '\r'

theorem isOneLine_of_isIdentifier {key : String} (h : isIdentifier key = true) : isOneLine key = true := by
  refine List.all_eq_true.mpr fun c hc => ?_
  have hpart : isNamePart c = true := by
    unfold isIdentifier at h
    split at h
    case h_1 => cases h
    case h_2 d cs hkey =>
      rw [Bool.and_eq_true, List.all_eq_true] at h
      rw [hkey] at hc
      rcases List.mem_cons.mp hc with rfl | hc
      · rw [isNamePart, h.1, Bool.true_or]
      · exact h.2 c hc
  rw [Bool.and_eq_true, bne_iff_ne, bne_iff_ne]
  constructor <;> rintro rfl <;> cases hpart

/-- What both passes together make of a character. -/
def quotedKeyChar (c : Char) : List Char :=
  if c = '\\' || c = '\'' then ['\\', c] else [c]

/-- No quote is among what the first pass puts in, so the second one escapes the quotes of the key alone. -/
theorem escapeEach_escapeEach (cs : List Char) :
    escapeEach '\'' (escapeEach '\\' cs) = cs.flatMap quotedKeyChar := by
  rw [escapeEach, escapeEach, List.flatMap_assoc]
  refine List.flatMap_congr fun c _ => ?_
  by_cases hbackslash : c = '\\'
  · subst hbackslash
    rfl
  · by_cases hquote : c = '\''
    · subst hquote
      rfl
    · simp [quotedKeyChar, hbackslash, hquote]

theorem toList_quotedKey (key : String) :
    (quotedKey key).toList = '\'' :: (key.toList.flatMap quotedKeyChar ++ ['\'']) := by
  rw [quotedKey, String.toList_ofList, escapeEach_escapeEach, List.cons_append]

/-- A character in quotes is read as itself, unless it breaks the line. -/
theorem scan_quotedKeyChar (c : Char) (read rest : List Char) :
    scan (.literal read) (quotedKeyChar c ++ rest) =
      if c != '\n' && c != '\r' then scan (.literal (c :: read)) rest else [.broken] := by
  unfold quotedKeyChar
  split
  case isTrue h =>
    rw [Bool.or_eq_true, decide_eq_true_eq, decide_eq_true_eq] at h
    rcases h with rfl | rfl <;> rfl
  case isFalse h =>
    rw [Bool.or_eq_true, decide_eq_true_eq, decide_eq_true_eq, not_or] at h
    rw [List.singleton_append, scan_cons, Mode.step, if_neg h.2, if_neg h.1]
    by_cases hbreak : c = '\n' ∨ c = '\r'
    · rcases hbreak with rfl | rfl <;> exact scan_failed rest
    · rw [not_or] at hbreak
      simp [hbreak]

/-- A quoted key is read as the key, unless it goes over lines. -/
theorem scan_quotedKey (key : String) (rest : List Char) : scan .between ((quotedKey key).toList ++ rest) =
    if isOneLine key then .literal key :: scan .between rest else [.broken] := by
  have hchars : ∀ cs read, scan (.literal read) (cs.flatMap quotedKeyChar ++ '\'' :: rest) =
      if cs.all fun c => c != '\n' && c != '\r' then
        .literal (String.ofList (read.reverse ++ cs)) :: scan .between rest
      else [.broken] := by
    intro cs
    induction cs with
    | nil =>
      intro read
      rw [List.append_nil]
      rfl
    | cons c cs ih =>
      intro read
      rw [List.flatMap_cons, List.append_assoc, scan_quotedKeyChar, ih, List.all_cons]
      cases c != '\n' && c != '\r' <;> simp
  have hstart : scan .between ((quotedKey key).toList ++ rest) =
      scan (.literal []) (key.toList.flatMap quotedKeyChar ++ '\'' :: rest) := by
    simp [toList_quotedKey, scan_cons, Mode.step, Mode.start, Char.isWhitespace]
  rw [hstart, hchars]
  simp [isOneLine]

/-! ### Members -/

/-- The name of a member, and what comes after it. -/
def readName : List Token → Option (String × List Token)
  | .name key :: rest => some (key, rest)
  | .literal key :: rest => some (key, rest)
  | _ => none

/-- The member that is read of an object, and what comes after it. -/
def readAccess : List Token → Option (String × List Token)
  | .mark '.' :: .name key :: rest => some (key, rest)
  | .mark '[' :: .literal key :: .mark ']' :: rest => some (key, rest)
  | _ => none

/-- The member that is read of an object if there is one, after the question mark. -/
def readOptionalAccess : List Token → Option (String × List Token)
  | .mark '.' :: .name key :: rest => some (key, rest)
  | .mark '.' :: .mark '[' :: .literal key :: .mark ']' :: rest => some (key, rest)
  | _ => none

section Read
variable (key : String) {rest : List Char} (hrest : EndsName rest)
include hrest

theorem readName_memberName : readName (scan .between ((memberName key).toList ++ rest)) =
    if isOneLine key then some (key, scan .between rest) else none := by
  unfold memberName
  split
  case isTrue h =>
    rw [scan_identifier h hrest, isOneLine_of_isIdentifier h]
    rfl
  case isFalse =>
    rw [scan_quotedKey]
    split <;> rfl

theorem scan_dotted (h : isIdentifier key = true) : scan .between (("." ++ key).toList ++ rest) =
    .mark '.' :: .name key :: scan .between rest := by
  rw [String.toList_append, List.append_assoc, ← scan_identifier h hrest]
  rfl

omit hrest in
theorem scan_bracketed (rest : List Char) : scan .between (("[" ++ quotedKey key ++ "]").toList ++ rest) =
    .mark '[' :: if isOneLine key then .literal key :: .mark ']' :: scan .between rest else [.broken] := by
  have hopen (cs : List Char) : scan .between ("[".toList ++ cs) = .mark '[' :: scan .between cs := rfl
  have hclose : scan .between (']' :: rest) = .mark ']' :: scan .between rest := rfl
  have htext : ("[" ++ quotedKey key ++ "]").toList ++ rest =
      "[".toList ++ ((quotedKey key).toList ++ ']' :: rest) := by
    simp [String.toList_append]
  rw [htext, hopen, scan_quotedKey, hclose]

theorem readAccess_memberAccess : readAccess (scan .between ((memberAccess key).toList ++ rest)) =
    if isOneLine key then some (key, scan .between rest) else none := by
  unfold memberAccess
  split
  case isTrue h =>
    rw [scan_dotted key hrest h, isOneLine_of_isIdentifier h]
    rfl
  case isFalse =>
    rw [scan_bracketed]
    split <;> rfl

theorem readOptionalAccess_optionalAccess :
    readOptionalAccess (scan .between ((optionalAccess key).toList ++ rest)) =
      if isOneLine key then some (key, scan .between rest) else none := by
  unfold optionalAccess
  split
  case isTrue h =>
    rw [scan_dotted key hrest h, isOneLine_of_isIdentifier h]
    rfl
  case isFalse =>
    have hdot (cs : List Char) : scan .between ('.' :: cs) = .mark '.' :: scan .between cs := rfl
    have htext : (".[" ++ quotedKey key ++ "]").toList ++ rest =
        '.' :: (("[" ++ quotedKey key ++ "]").toList ++ rest) := by
      simp [String.toList_append]
    rw [htext, hdot, scan_bracketed]
    split <;> rfl

end Read

/-! ### Different keys -/

/-- What a character turns into in quotes begins with a backslash just if it is escaped. -/
theorem quotedKeyChar_cases (c : Char) :
    quotedKeyChar c = ['\\', c] ∨ quotedKeyChar c = [c] ∧ c ≠ '\\' := by
  unfold quotedKeyChar
  split
  case isTrue => exact .inl rfl
  case isFalse h =>
    rw [Bool.or_eq_true, decide_eq_true_eq, decide_eq_true_eq, not_or] at h
    exact .inr ⟨rfl, h.1⟩

theorem flatMap_quotedKeyChar_injective :
    Function.Injective fun cs : List Char => cs.flatMap quotedKeyChar := by
  have hne (c : Char) : quotedKeyChar c ≠ [] := by
    rcases quotedKeyChar_cases c with h | ⟨h, -⟩ <;> simp [h]
  intro cs ds h
  induction cs generalizing ds with
  | nil =>
    cases ds with
    | nil => rfl
    | cons d ds => exact absurd (List.append_eq_nil_iff.mp h.symm).1 (hne d)
  | cons c cs ih =>
    cases ds with
    | nil => exact absurd (List.append_eq_nil_iff.mp h).1 (hne c)
    | cons d ds =>
      simp only [List.flatMap_cons] at h
      rcases quotedKeyChar_cases c with hc | ⟨hc, hplain⟩ <;>
        rcases quotedKeyChar_cases d with hd | ⟨hd, hplain'⟩ <;>
        rw [hc, hd] at h <;> simp only [List.cons_append, List.nil_append, List.cons.injEq] at h
      · rw [h.2.1, ih h.2.2]
      · exact absurd h.1.symm hplain'
      · exact absurd h.1 hplain
      · rw [h.1, ih h.2]

theorem quotedKey_injective : Function.Injective quotedKey := by
  intro a b h
  have h := congrArg String.toList h
  rw [toList_quotedKey, toList_quotedKey, List.cons.injEq] at h
  exact String.toList_inj.mp (flatMap_quotedKeyChar_injective (List.append_cancel_right h.2))

/-- What begins with a mark is no identifier. -/
theorem isIdentifier_of_head? {text : String} {c : Char} (h : text.toList.head? = some c)
    (hc : isNameStart c = false) : isIdentifier text = false := by
  unfold isIdentifier
  split
  · rfl
  case h_2 d cs htext =>
    rw [htext, List.head?_cons, Option.some.injEq] at h
    rw [h, hc, Bool.false_and]

theorem memberName_injective : Function.Injective memberName := by
  have hquoted (key : String) : isIdentifier (quotedKey key) = false :=
    isIdentifier_of_head? (c := '\'') (by rw [toList_quotedKey]; rfl) (by decide)
  intro a b h
  unfold memberName at h
  split at h <;> split at h
  · exact h
  case isTrue.isFalse ha _ => rw [h, hquoted] at ha; cases ha
  case isFalse.isTrue hb => rw [← h, hquoted] at hb; cases hb
  · exact quotedKey_injective h

/-- An access by a name is not one by a literal, however the brackets are opened. -/
theorem access_injective {opening : String}
    (hopening : ∀ name rest, isIdentifier name = true → "." ++ name ≠ opening ++ rest) :
    Function.Injective fun key => if isIdentifier key then "." ++ key else opening ++ quotedKey key ++ "]" := by
  intro a b h
  dsimp only at h
  rw [String.append_assoc, String.append_assoc] at h
  split at h <;> split at h
  · exact (String.append_right_inj ".").mp h
  case isTrue.isFalse ha _ => exact absurd h (hopening a _ ha)
  case isFalse.isTrue hb => exact absurd h.symm (hopening b _ hb)
  · exact quotedKey_injective ((String.append_left_inj "]").mp ((String.append_right_inj opening).mp h))

theorem memberAccess_injective : Function.Injective memberAccess :=
  access_injective fun name rest _ h => by
    have hhead := congrArg (fun text : String => text.toList.head?) h
    simp [String.toList_append] at hhead

theorem optionalAccess_injective : Function.Injective optionalAccess :=
  access_injective fun name rest hname h => by
    have hchars := congrArg String.toList h
    have hhead : name.toList.head? = some '[' := by
      simp only [String.toList_append] at hchars
      have := congrArg (fun cs : List Char => cs.tail.head?) hchars
      simpa using this
    rw [isIdentifier_of_head? hhead (by decide)] at hname
    cases hname

/-! ### The statements of a class, line by line -/

inductive Statement where
  | declares (key : String)
  /-- Sets a member to what the data has under a key, if it has anything there. -/
  | loads (member key : String)
  /-- Sets what the result has under a key to a member. -/
  | stores (key member : String)
  deriving DecidableEq

def declaration? (tokens : List Token) : Option Statement :=
  match readName tokens with
  | some (key, .mark ':' :: _) => some (.declares key)
  | some (key, .mark '?' :: .mark ':' :: _) => some (.declares key)
  | _ => none

/-- `this.member = data?.key ?? …` -/
def load? : List Token → Option Statement
  | .name "this" :: rest =>
    match readAccess rest with
    | some (member, .mark '=' :: .name "data" :: .mark '?' :: rest) =>
      match readOptionalAccess rest with
      | some (key, .mark '?' :: .mark '?' :: _) => some (.loads member key)
      | _ => none
    | _ => none
  | _ => none

/-- `obj.key = this.member;` -/
def store? : List Token → Option Statement
  | .name "obj" :: rest =>
    match readAccess rest with
    | some (key, .mark '=' :: .name "this" :: rest) =>
      match readAccess rest with
      | some (member, [.mark ';']) => some (.stores key member)
      | _ => none
    | _ => none
  | _ => none

def statement? (tokens : List Token) : Option Statement :=
  (load? tokens).or ((store? tokens).or (declaration? tokens))

section Statement
variable {name member key : String} {rest rest' rest'' : List Token}

theorem statement?_loads
    (hmember : readAccess rest = some (member, .mark '=' :: .name "data" :: .mark '?' :: rest'))
    (hkey : readOptionalAccess rest' = some (key, .mark '?' :: .mark '?' :: rest'')) :
    statement? (.name "this" :: rest) = some (.loads member key) := by
  rw [statement?, load?, hmember]
  simp only [hkey]
  rfl

theorem statement?_stores (hkey : readAccess rest = some (key, .mark '=' :: .name "this" :: rest'))
    (hmember : readAccess rest' = some (member, [.mark ';'])) :
    statement? (.name "obj" :: rest) = some (.stores key member) := by
  rw [statement?, store?, hkey]
  simp only [hmember]
  rfl

/-- Where no member is read of a name, there is a declaration if anything. -/
theorem statement?_name (h : readAccess rest = none) :
    statement? (.name name :: rest) = declaration? (.name name :: rest) := by
  have hload : load? (.name name :: rest) = none := by
    unfold load?
    split
    case h_1 heq =>
      obtain ⟨-, rfl⟩ := List.cons.inj heq
      rw [h]
    case h_2 => rfl
  have hstore : store? (.name name :: rest) = none := by
    unfold store?
    split
    case h_1 heq =>
      obtain ⟨-, rfl⟩ := List.cons.inj heq
      rw [h]
    case h_2 => rfl
  rw [statement?, hload, hstore]
  rfl

theorem statement?_of_readName {tokens : List Token} (hname : readName tokens = some (key, rest))
    (h : readAccess rest = none) : statement? tokens = declaration? tokens := by
  unfold readName at hname
  split at hname
  case h_1 =>
    cases hname
    exact statement?_name h
  case h_2 => rfl
  case h_3 => cases hname

theorem statement?_declares {tokens : List Token} {optional : Bool}
    (h : readName tokens = some (key, (if optional then [.mark '?'] else []) ++ .mark ':' :: rest)) :
    statement? tokens = some (.declares key) := by
  cases optional <;>
  · rw [statement?_of_readName h rfl, declaration?, h]
    rfl

theorem statement?_of_readName_none {tokens : List Token} (hname : readName tokens = none) :
    statement? tokens = none := by
  unfold readName at hname
  split at hname
  case h_1 => cases hname
  case h_2 => cases hname
  case h_3 hnoname hnoliteral =>
    have hload : load? tokens = none := by
      unfold load?
      split
      case h_1 => exact absurd rfl (hnoname _ _)
      case h_2 => rfl
    have hstore : store? tokens = none := by
      unfold store?
      split
      case h_1 => exact absurd rfl (hnoname _ _)
      case h_2 => rfl
    have hdeclaration : declaration? tokens = none := by
      unfold declaration? readName
      split <;> simp_all
    rw [statement?, hload, hstore, hdeclaration]
    rfl

end Statement

def lineTokens (line : String) : List Token := scan .between line.toList

def statements (lines : List String) : List Statement := (lines.map lineTokens).filterMap statement?

/-- The statements in the lines of a class after the one that names it. -/
def statementsOf (lines : List String) : List Statement := statements (lines.drop 1)

/-! ### What is written -/

theorem endsName_memberAccess (key : String) (rest : List Char) :
    EndsName ((memberAccess key).toList ++ rest) := by
  unfold memberAccess EndsName
  split <;> simp [String.toList_append, continuesName]

/-- An object and a member of it are no declaration. -/
theorem declaration?_memberAccess (name key : String) {rest : List Char} (hrest : EndsName rest) :
    declaration? (.name name :: scan .between ((memberAccess key).toList ++ rest)) = none := by
  unfold memberAccess
  split
  case isTrue h => rw [scan_dotted key hrest h]; rfl
  case isFalse => rw [scan_bracketed]; rfl

/-- A name and a member of it after some blanks. -/
theorem scan_member {name : String} (hname : isIdentifier name = true) (key : String) (rest : List Char) :
    scan .between (("        " ++ name).toList ++ ((memberAccess key).toList ++ rest)) =
      .name name :: scan .between ((memberAccess key).toList ++ rest) := by
  rw [← scan_identifier hname (endsName_memberAccess key rest), String.toList_append, List.append_assoc]
  rfl

section Lines
variable (m : TypeModel) (s : Settings) (scope : Option String) (f : FieldInfo)

theorem statement?_constructorLine : statement? (lineTokens (constructorLine m scope f)) =
    if isOneLine f.sourceName then some (.loads f.sourceName f.sourceName) else none := by
  have hends (cs : List Char) : EndsName (" = data?".toList ++ cs) ∧ EndsName (" ?? ".toList ++ cs) :=
    ⟨fun c hc => by cases hc; decide, fun c hc => by cases hc; decide⟩
  have hline : (constructorLine m scope f).toList = ("        " ++ "this").toList ++
      ((memberAccess f.sourceName).toList ++ (" = data?".toList ++ ((optionalAccess f.sourceName).toList ++
        (" ?? ".toList ++ ((if f.nullable then "null" else defaultValue m scope f.type) ++ ";").toList)))) := by
    unfold constructorLine
    simp only [String.toList_append, List.append_assoc]
    rfl
  generalize ((if f.nullable then "null" else defaultValue m scope f.type) ++ ";").toList = value at hline
  have hkey := readOptionalAccess_optionalAccess f.sourceName (hends value).2
  obtain ⟨hrest, -⟩ := hends ((optionalAccess f.sourceName).toList ++ (" ?? ".toList ++ value))
  have hmember := readAccess_memberAccess f.sourceName hrest
  have hother := declaration?_memberAccess "this" f.sourceName hrest
  rw [lineTokens, hline, scan_member (by decide)]
  cases h : isOneLine f.sourceName with
  | false =>
    rw [h] at hmember
    exact (statement?_name hmember).trans hother
  | true =>
    rw [h] at hmember hkey
    exact statement?_loads hmember hkey

theorem statement?_serviceLine : statement? (lineTokens (serviceLine f)) =
    if isOneLine f.sourceName then some (.stores f.sourceName f.sourceName) else none := by
  have hends (cs : List Char) : EndsName (" = this".toList ++ cs) ∧ EndsName ";".toList :=
    ⟨fun c hc => by cases hc; decide, fun c hc => by cases hc; decide⟩
  have hline : (serviceLine f).toList = ("        " ++ "obj").toList ++ ((memberAccess f.sourceName).toList ++
      (" = this".toList ++ ((memberAccess f.sourceName).toList ++ ";".toList))) := by
    unfold serviceLine
    simp only [String.toList_append, List.append_assoc]
    rfl
  have hthis (cs : List Char) (hcs : EndsName cs) :
      scan .between (" = this".toList ++ cs) = .mark '=' :: .name "this" :: scan .between cs := by
    have hname : isIdentifier "this" = true := by decide
    rw [← scan_identifier hname hcs]
    rfl
  have hmember := readAccess_memberAccess f.sourceName (hends []).2
  obtain ⟨hrest, -⟩ := hends ((memberAccess f.sourceName).toList ++ ";".toList)
  have hkey := readAccess_memberAccess f.sourceName hrest
  have hother := declaration?_memberAccess "obj" f.sourceName hrest
  rw [lineTokens, hline, scan_member (by decide)]
  cases h : isOneLine f.sourceName with
  | false =>
    rw [h] at hkey
    exact (statement?_name hkey).trans hother
  | true =>
    rw [h] at hmember hkey
    exact statement?_stores (hkey.trans (congrArg _ (congrArg _ (hthis _ (endsName_memberAccess _ _))))) hmember

theorem statement?_declarationLine (type : String) : statement? (lineTokens ("    " ++
    memberName f.sourceName ++ (if f.nullable then "?" else "") ++ ": " ++ type ++ ";")) =
      if isOneLine f.sourceName then some (.declares f.sourceName) else none := by
  have hmark (more : List Char) :
      EndsName ((if f.nullable then "?" else "").toList ++ (": ".toList ++ more)) ∧
      scan .between ((if f.nullable then "?" else "").toList ++ (": ".toList ++ more)) =
        (if f.nullable then [.mark '?'] else []) ++ .mark ':' :: scan .between more := by
    cases f.nullable <;> exact ⟨fun c hc => by cases hc; decide, rfl⟩
  have hline : ("    " ++ memberName f.sourceName ++ (if f.nullable then "?" else "") ++ ": " ++ type ++
      ";").toList = "    ".toList ++ ((memberName f.sourceName).toList ++
        ((if f.nullable then "?" else "").toList ++ (": ".toList ++ (type ++ ";").toList))) := by
    simp only [String.toList_append, List.append_assoc]
  have hblank (cs : List Char) : scan .between ("    ".toList ++ cs) = scan .between cs := rfl
  obtain ⟨hends, hscan⟩ := hmark (type ++ ";").toList
  have hname := readName_memberName f.sourceName hends
  rw [hscan] at hname
  rw [lineTokens, hline, hblank]
  cases h : isOneLine f.sourceName with
  | false =>
    rw [h] at hname
    exact statement?_of_readName_none hname
  | true =>
    rw [h] at hname
    exact statement?_declares hname

theorem statements_append (lines lines' : List String) :
    statements (lines ++ lines') = statements lines ++ statements lines' := by
  rw [statements, List.map_append, List.filterMap_append]
  rfl

/-- One line for each field, from which the key is read if it is in one line. -/
theorem statements_map {line : FieldInfo → String} {statement : String → Statement}
    (h : ∀ f, statement? (lineTokens (line f)) =
      if isOneLine f.sourceName then some (statement f.sourceName) else none) (fields : List FieldInfo) :
    statements (fields.map line) =
      ((fields.map FieldInfo.sourceName).filter isOneLine).map statement := by
  induction fields with
  | nil => rfl
  | cons f fields ih =>
    rw [List.map_cons, ← List.singleton_append, statements_append, ih, List.map_cons]
    have hline : statements [line f] =
        if isOneLine f.sourceName then [statement f.sourceName] else [] := by
      rw [statements, List.map_singleton, List.filterMap_cons, h]
      cases isOneLine f.sourceName <;> rfl
    rw [hline, List.filter_cons]
    cases isOneLine f.sourceName <;> rfl

theorem statements_flatMap_fieldLines (fields : List FieldInfo) :
    statements (fields.flatMap (fieldLines m s scope)) =
      ((fields.map FieldInfo.sourceName).filter isOneLine).map .declares := by
  rw [← statements_map fun f => statement?_declarationLine f (qualifiedName m scope f.type)]
  induction fields with
  | nil => rfl
  | cons f fields ih =>
    have hexamples : statements (if showsExamples s f then
        ["", "    /**", "     * Examples: " ++ examplesText s f, "     */"] else []) = [] := by
      have hline : statement? (lineTokens ("     * Examples: " ++ examplesText s f)) = none := by
        rw [lineTokens, String.toList_append]
        rfl
      have hother : statement? (lineTokens "") = none ∧ statement? (lineTokens "    /**") = none ∧
          statement? (lineTokens "     */") = none := ⟨rfl, rfl, rfl⟩
      split
      · simp [statements, hline, hother]
      · rfl
    rw [List.flatMap_cons, statements_append, ih, fieldLines, statements_append, hexamples, List.nil_append,
      ← statements_append]
    rfl

theorem lineTokens_indent (line : String) : lineTokens (indentation ++ line) = lineTokens line := by
  rw [lineTokens, String.toList_append]
  rfl

theorem statements_indent (lines : List String) : statements (indent lines) = statements lines := by
  rw [statements, indent, List.map_map, statements]
  refine congrArg _ (List.map_congr_left fun line _ => ?_)
  rw [Function.comp]
  split
  · rfl
  · exact lineTokens_indent line

/-- A class declares the keys that are in one line, sets each of its members to what the data has under the key of
the member, and writes each back under its key. -/
theorem statementsOf_typeLines (c : ClassDef) : statementsOf (writer.typeLines m s c) =
    ((c.fields.map FieldInfo.sourceName).filter isOneLine).map .declares ++
      ((c.fields.map FieldInfo.sourceName).filter isOneLine).map (fun key => .loads key key) ++
        ((c.fields.map FieldInfo.sourceName).filter isOneLine).map fun key => .stores key key := by
  have hlines : statementsOf (writer.typeLines m s c) = statements ((classLines m s c).drop 1) := by
    change statements ((inNamespace s c.isRoot (classLines m s c)).drop 1) = _
    unfold inNamespace
    split
    · rw [indent, ← List.map_drop, ← indent, statements_indent]
    · rfl
  have hdrop : (classLines m s c).drop 1 = c.fields.flatMap (fieldLines m s (scopeOf s c)) ++
      (["", "    constructor(data?: any) \x7b"] ++ (c.fields.map (constructorLine m (scopeOf s c)) ++
        (["    \x7d", "", "    public toService(): any \x7b", "        const obj: any = \x7b\x7d;"] ++
          (c.fields.map serviceLine ++ ["        return obj;", "    \x7d", "\x7d", ""])))) := by
    simp [classLines]
  have hconstructor : statements ["", "    constructor(data?: any) \x7b"] = [] := rfl
  have hservice : statements ["    \x7d", "", "    public toService(): any \x7b",
      "        const obj: any = \x7b\x7d;"] = [] := rfl
  have hend : statements ["        return obj;", "    \x7d", "\x7d", ""] = [] := rfl
  have hloads : statements (c.fields.map (constructorLine m (scopeOf s c))) =
      ((c.fields.map FieldInfo.sourceName).filter isOneLine).map fun key => .loads key key :=
    statements_map (statement?_constructorLine m (scopeOf s c)) c.fields
  have hstores : statements (c.fields.map serviceLine) =
      ((c.fields.map FieldInfo.sourceName).filter isOneLine).map fun key => .stores key key :=
    statements_map statement?_serviceLine c.fields
  simp only [hlines, hdrop, statements_append, hconstructor, hservice, hend, List.nil_append, List.append_nil,
    statements_flatMap_fieldLines, hloads, hstores, List.append_assoc]

end Lines

/-- A key that is in one line is read as it is from its name as a member and from each access to it, and no other
key is; different keys are written differently. So the keys in one line are those that a class declares, and its
methods read and write the members by them. -/
theorem members_keep_keys (m : TypeModel) (s : Settings) (c : ClassDef) :
    (∀ key, readName (scan .between (memberName key).toList) = (if isOneLine key then some (key, []) else none) ∧
      readAccess (scan .between (memberAccess key).toList) =
        (if isOneLine key then some (key, []) else none) ∧
      readOptionalAccess (scan .between (optionalAccess key).toList) =
        (if isOneLine key then some (key, []) else none)) ∧
    Function.Injective memberName ∧ Function.Injective memberAccess ∧ Function.Injective optionalAccess ∧
    statementsOf (writer.typeLines m s c) =
      ((c.fields.map FieldInfo.sourceName).filter isOneLine).map .declares ++
        ((c.fields.map FieldInfo.sourceName).filter isOneLine).map (fun key => .loads key key) ++
          ((c.fields.map FieldInfo.sourceName).filter isOneLine).map fun key => .stores key key := by
  have hend : EndsName [] := nofun
  refine ⟨fun key => ?_, memberName_injective, memberAccess_injective, optionalAccess_injective,
    statementsOf_typeLines m s c⟩
  have hname := readName_memberName key hend
  have haccess := readAccess_memberAccess key hend
  have hoptional := readOptionalAccess_optionalAccess key hend
  rw [List.append_nil] at hname haccess hoptional
  exact ⟨hname, haccess, hoptional⟩

/-- An object with a key that goes over two lines. -/
def twoLineKey : List Json := [.object [("a\nb", .number (.int 1))]]

/-- The name of the member is no token, and the class has no statement that can be read. -/
theorem not_read_twoLineKey :
    (inferValues {} twoLineKey).classes.map (fun c => c.fields.map FieldInfo.sourceName) = [["a\nb"]] ∧
      scan .between (memberName "a\nb").toList = [.broken] ∧
      (inferValues {} twoLineKey).classes.map
        (fun c => statementsOf (writer.typeLines (inferValues {} twoLineKey) {} c)) = [[]] := by
  decide +kernel

end Specimen.Source.TypeScript
