import Specimen.Json.Basic
import Specimen.Json.Scan

/-! Reading a JSON text. The scanners of the separators (`nextItem`, `nextKey`, `colon`) are also
what a reader of a fixed kind of value is built from. -/
namespace Specimen.Json

/-! ### Separators -/

/-- Goes to the next item of a list: its first byte is left in front, or the closing bracket has
been consumed and there is none. -/
def nextItem (first : Bool) (input : Bytes) : Scan Bool :=
  let input := skipBlanks input
  match input with
  | [] => stopAt .endInList []
  | b :: rest =>
    if isByte b ']' then .ok (false, rest)
    else if first then .ok (true, input)
    else if isByte b ',' then
      let item := skipBlanks rest
      match item with
      | [] => stopAt .endInValue []
      | c :: _ => if isByte c ']' then stopPast .trailingComma item else .ok (true, item)
    else stopPast .listCommaOrEndExpected input

/-- Reads the next key of an object, or consumes the closing brace and there is none. -/
def nextKey (first : Bool) (input : Bytes) : Scan (Option String) :=
  let input := skipBlanks input
  match input with
  | [] => stopAt .endInObject []
  | b :: rest =>
    if isByte b '\x7d' then .ok (none, rest)
    else if first then
      if isByte b '"' then (scanString rest).map fun (key, after) => (some key, after)
      else stopPast .keyNotString input
    else if isByte b ',' then
      let key := skipBlanks rest
      match key with
      | [] => stopAt .endInValue []
      | c :: after =>
        if isByte c '"' then (scanString after).map fun (key, after) => (some key, after)
        else if isByte c '\x7d' then stopPast .trailingComma key
        else stopPast .keyNotString key
    else stopPast .objectCommaOrEndExpected input

/-- The colon between a key and its value. -/
def colon (input : Bytes) : Except Stop Bytes :=
  let input := skipBlanks input
  match input with
  | [] => stopAt .endInObject []
  | b :: rest => if isByte b ':' then .ok rest else stopPast .colonExpected input

/-! ### Values -/

/-- The items of a list after its opening bracket. Each takes a byte at least, so the fuel need not
exceed the length of the input. -/
def readItems (readItem : Bytes → Scan Json) : Nat → Bool → Bytes → Except Stop (List Json × Bytes)
  | 0, _, input => stopAt .endInList input
  | fuel + 1, first, input => do
    let (more, input) ← nextItem first input
    if more then
      let (item, input) ← readItem input
      let (items, input) ← readItems readItem fuel false input
      return (item :: items, input)
    else return ([], input)

/-- The members of an object after its opening brace, added to those read so far. -/
def readMembers (readItem : Bytes → Scan Json) :
    Nat → Bool → List (String × Json) → Bytes → Except Stop (List (String × Json) × Bytes)
  | 0, _, _, input => stopAt .endInObject input
  | fuel + 1, first, members, input => do
    let (key?, input) ← nextKey first input
    match key? with
    | none => return (members, input)
    | some key =>
      let input ← colon input
      let (item, input) ← readItem input
      readMembers readItem fuel false (setMember key item members) input

/-- Reads one value. Only `depth` further arrays and objects may be open at a time, and none is read
beyond `most` items; the length of the text is enough for that. -/
def readValue (most : Nat) : Nat → Bytes → Scan Json
  | depth, input =>
    let input := skipBlanks input
    match input with
    | [] => stopAt .endInValue []
    | b :: rest =>
      if isByte b 'n' then (scanWord "ull".toList rest).map (.null, ·)
      else if isByte b 't' then (scanWord "rue".toList rest).map (.bool true, ·)
      else if isByte b 'f' then (scanWord "alse".toList rest).map (.bool false, ·)
      else if isByte b '-' then (scanNumber true rest).map fun (n, rest) => (.number n, rest)
      else if isDigitByte b then (scanNumber false input).map fun (n, rest) => (.number n, rest)
      else if isByte b '"' then (scanString rest).map fun (s, rest) => (.string s, rest)
      else if isByte b '[' then
        match depth with
        | 0 => stopPast .nestingTooDeep input
        | depth + 1 =>
          (readItems (readValue most depth) (most + 1) true rest).map fun (xs, rest) =>
            (.array xs, rest)
      else if isByte b '\x7b' then
        match depth with
        | 0 => stopPast .nestingTooDeep input
        | depth + 1 =>
          (readMembers (readValue most depth) (most + 1) true [] rest).map fun (ms, rest) =>
            (.object ms, rest)
      else stopPast .valueExpected input

/-- The number of arrays and objects that may be open at a time. -/
def greatestDepth : Nat := 127

/-- The place of a stop within the whole text. -/
def Stop.locate (whole : Bytes) (stop : Stop) : ReadError :=
  ⟨stop.fault, .after (whole.take (whole.length - stop.rest.length))⟩

/-- The one value that a text consists of, blanks around it aside. -/
def read (whole : Bytes) : Except ReadError Json :=
  match readValue whole.length greatestDepth whole with
  | .error stop => .error (stop.locate whole)
  | .ok (value, rest) =>
    match skipBlanks rest with
    | [] => .ok value
    | extra => .error (Stop.locate whole ⟨.trailingCharacters, extra.tail⟩)

def parse (text : String) : Except ReadError Json := read (toUtf8 text)

end Specimen.Json
