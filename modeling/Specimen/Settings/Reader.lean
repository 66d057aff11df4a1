import Specimen.Settings.Basic
import Specimen.Json.Reader
import Specimen.Text.Quoted

/-! Reading settings from a JSON text. A record is written as an object, or as the array of its
first fields in order; what is missing keeps its default. Anything else is refused with the path to
the offending place. The text is read up to the end of the record and no further. -/
namespace Specimen.Settings
open Json Text

/-! ### Refusals -/

/-- A step from a record or list to one of its parts. The key may be unknown because it could not be
read. -/
inductive Step where
  | key (name : String)
  | unreadableKey
  | index (n : Nat)

/-- What a text has in place of what was expected. -/
inductive Found where
  | null
  | bool (value : Bool)
  | number (value : Number)
  | string (value : String)
  | sequence
  | map

inductive Cause where
  | malformed (fault : Json.Fault)
  | wrongType (found : Found) (expected : String)
  | wrongValue (found : Found) (expected : String)
  | unknownField (name : String) (known : List String)
  | duplicateField (name : String)

/-- A refusal, with the bytes left where it arose. -/
structure Refusal where
  path : List Step
  cause : Cause
  rest : Bytes

def Found.phrase : Found → String
  | .null => "null"
  | .bool true => "boolean `true`"
  | .bool false => "boolean `false`"
  | .number (.int n) => "integer `" ++ signedDecimal n ++ "`"
  | .number (.float x) => "floating point `" ++ (Number.float x).text ++ "`"
  | .string s => "string " ++ quoted s
  | .sequence => "sequence"
  | .map => "map"

def fieldList (names : List String) : String :=
  String.intercalate ", " (names.map fun name => "`" ++ name ++ "`")

def Cause.message : Cause → String
  | .malformed fault => fault.message
  | .wrongType found expected => "invalid type: " ++ found.phrase ++ ", expected " ++ expected
  | .wrongValue found expected => "invalid value: " ++ found.phrase ++ ", expected " ++ expected
  | .unknownField name known =>
    "unknown field `" ++ name ++ "`, expected one of " ++ fieldList known
  | .duplicateField name => "duplicate field `" ++ name ++ "`"

/-- The rest of a path that has begun already. -/
def pathTail : List Step → String
  | [] => ""
  | .key name :: steps => "." ++ name ++ pathTail steps
  | .unreadableKey :: steps => ".?" ++ pathTail steps
  | .index n :: steps => "[" ++ decimal n ++ "]" ++ pathTail steps

/-- Keys are separated by points, places in a list stand in brackets; the whole text is a point. -/
def pathText : List Step → String
  | [] => "."
  | .key name :: steps => name ++ pathTail steps
  | .unreadableKey :: steps => "?" ++ pathTail steps
  | .index n :: steps => "[" ++ decimal n ++ "]" ++ pathTail steps

/-- Why a text is no settings. -/
structure ReadError where
  path : String
  message : String
  deriving DecidableEq

/-! ### Readers -/

abbrev Reading (α : Type) := Except Refusal (α × Bytes)

def malformed {α : Type} (result : Except Stop α) : Except Refusal α :=
  result.mapError fun stop => ⟨[], .malformed stop.fault, stop.rest⟩

/-- Puts a step in front of the path of a refusal. -/
def within {α : Type} (step : Step) (result : Except Refusal α) : Except Refusal α :=
  result.mapError fun r => { r with path := step :: r.path }

def refuse {α : Type} (cause : Cause) (rest : Bytes) : Except Refusal α := .error ⟨[], cause, rest⟩

/-- Refuses a value of the wrong type; a value without parts is read first. -/
def refuseType {α : Type} (expected : String) (input : Bytes) : Except Refusal α := do
  match input with
  | [] => refuse (.malformed .endInValue) []
  | b :: rest =>
    if isByte b 'n' then
      refuse (.wrongType .null expected) (← malformed (scanWord "ull".toList rest))
    else if isByte b 't' then
      refuse (.wrongType (.bool true) expected) (← malformed (scanWord "rue".toList rest))
    else if isByte b 'f' then
      refuse (.wrongType (.bool false) expected) (← malformed (scanWord "alse".toList rest))
    else if isByte b '-' || isDigitByte b then
      let (n, after) ← malformed
        (if isByte b '-' then scanNumber true rest else scanNumber false input)
      refuse (.wrongType (.number n) expected) after
    else if isByte b '"' then
      let (text, after) ← malformed (scanString rest)
      refuse (.wrongType (.string text) expected) after
    else if isByte b '[' then refuse (.wrongType .sequence expected) input
    else if isByte b '\x7b' then refuse (.wrongType .map expected) input
    else malformed (stopPast .valueExpected input)

/-- Reads a value that begins with one of the expected bytes. -/
def readText (input : Bytes) : Reading String :=
  let input := skipBlanks input
  match input with
  | b :: rest =>
    if isByte b '"' then malformed (scanString rest) else refuseType "a string" input
  | [] => refuseType "a string" input

def readOptionalText (input : Bytes) : Reading (Option String) :=
  match skipBlanks input with
  | b :: rest =>
    if isByte b 'n' then malformed ((scanWord "ull".toList rest).map (none, ·))
    else (readText input).map fun (text, rest) => (some text, rest)
  | [] => (readText input).map fun (text, rest) => (some text, rest)

def readFlag (input : Bytes) : Reading Bool :=
  let input := skipBlanks input
  match input with
  | b :: rest =>
    if isByte b 't' then malformed ((scanWord "rue".toList rest).map (true, ·))
    else if isByte b 'f' then malformed ((scanWord "alse".toList rest).map (false, ·))
    else refuseType "a boolean" input
  | [] => refuseType "a boolean" input

/-- What counts are expected to be. -/
def countTitle : String := "usize"

def readCount (input : Bytes) : Except Refusal (Nat × Bytes) := do
  let input := skipBlanks input
  match input with
  | b :: rest =>
    if isByte b '-' || isDigitByte b then
      let (found, after) ← malformed
        (if isByte b '-' then scanNumber true rest else scanNumber false input)
      match found with
      | .int (.ofNat n) => return (n, after)
      | .int n => refuse (.wrongValue (.number (.int n)) countTitle) after
      | .float x => refuse (.wrongType (.number (.float x)) countTitle) after
    else refuseType countTitle input
  | [] => refuseType countTitle input

/-- The items of a list of texts after its opening bracket, the first being number `n`. -/
def readTextItems : Nat → Nat → Bytes → Except Refusal (List String × Bytes)
  | 0, _, input => malformed (stopAt .endInList input)
  | fuel + 1, n, input => do
    let (more, input) ← malformed (nextItem (n == 0) input)
    if more then
      let (item, input) ← within (.index n) (readText input)
      let (items, input) ← readTextItems fuel (n + 1) input
      return (item :: items, input)
    else return ([], input)

def readTexts (input : Bytes) : Reading (List String) :=
  let input := skipBlanks input
  match input with
  | b :: rest =>
    if isByte b '[' then readTextItems (rest.length + 1) 0 rest else refuseType "a sequence" input
  | [] => refuseType "a sequence" input

/-! ### Records -/

/-- A field of a record: its name, and how its value is read and stored. -/
structure RecordField (σ : Type) where
  name : String
  read : Bytes → Reading (σ → σ)

def RecordField.of {σ α : Type} (name : String) (readValue : Bytes → Reading α)
    (store : α → σ → σ) : RecordField σ where
  name
  read input := (readValue input).map fun (value, rest) => (store value, rest)

/-- What is left when a key has been refused: blanks are passed over, and the closing brace if the
object ends right after the key. -/
def afterRefusedKey (input : Bytes) : Bytes :=
  match skipBlanks input with
  | [] => []
  | b :: rest => if isByte b '\x7d' then rest else b :: rest

/-- The members of a record written as an object, stored in turn. -/
def readRecordMembers {σ : Type} (fields : List (RecordField σ)) :
    Nat → Bool → List String → σ → Bytes → Except Refusal (σ × Bytes)
  | 0, _, _, _, input => malformed (stopAt .endInObject input)
  | fuel + 1, first, seen, record, input => do
    let (key?, input) ← within .unreadableKey (malformed (nextKey first input))
    match key? with
    | none => return (record, input)
    | some key =>
      match fields.find? (·.name == key) with
      | none =>
        within (.key key) (refuse (.unknownField key (fields.map (·.name))) (afterRefusedKey input))
      | some field =>
        if seen.contains key then refuse (.duplicateField key) (afterRefusedKey input)
        else
          let (store, input) ← within (.key key) do field.read (← malformed (colon input))
          readRecordMembers fields fuel false (key :: seen) (store record) input

/-- The closing bracket after the last field of a record written as an array. -/
def closeRecord (input : Bytes) : Except Stop Bytes :=
  let input := skipBlanks input
  match input with
  | [] => stopAt .endInList []
  | b :: rest =>
    if isByte b ']' then .ok rest
    else if isByte b ',' then
      match skipBlanks rest with
      | c :: after => stopAt (if isByte c ']' then .trailingComma else .trailingCharacters) after
      | [] => stopAt .trailingCharacters []
    else stopPast .trailingCharacters input

/-- The values of a record written as an array, for the fields in order from number `n` on. -/
def readRecordItems {σ : Type} :
    List (RecordField σ) → Nat → σ → Bytes → Except Refusal (σ × Bytes)
  | [], _, record, input => do return (record, ← malformed (closeRecord input))
  | field :: fields, n, record, input => do
    let (more, input) ← malformed (nextItem (n == 0) input)
    if more then
      let (store, input) ← within (.index n) (field.read input)
      readRecordItems fields (n + 1) (store record) input
    else return (record, input)

def readRecord {σ : Type} (title : String) (fields : List (RecordField σ)) (record : σ)
    (input : Bytes) : Reading σ :=
  let input := skipBlanks input
  match input with
  | b :: rest =>
    if isByte b '[' then readRecordItems fields 0 record rest
    else if isByte b '\x7b' then readRecordMembers fields (rest.length + 1) true [] record rest
    else refuseType title input
  | [] => refuseType title input

/-! ### Settings -/

def dictionaryFields : List (RecordField DictionaryPolicy) :=
  [.of "enabled" readFlag fun enabled p => { p with enabled },
   .of "max_fields" readCount fun maxFields p => { p with maxFields },
   .of "identifier_keys" readFlag fun identifierKeys p => { p with identifierKeys }]

def settingsFields : List (RecordField Settings) :=
  [.of "root_name" readText fun rootName s => { s with rootName },
   .of "namespace" readOptionalText fun mainNamespace s => { s with mainNamespace },
   .of "secondary_namespace" readOptionalText fun secondaryNamespace s =>
     { s with secondaryNamespace },
   .of "internal_visibility" readFlag fun internalVisibility s => { s with internalVisibility },
   .of "use_properties" readFlag fun useProperties s => { s with useProperties },
   .of "examples_in_documentation" readFlag fun examplesInDocumentation s =>
     { s with examplesInDocumentation },
   .of "example_limit" readCount fun exampleLimit s => { s with exampleLimit },
   .of "date_formats" readTexts fun dateFormats s => { s with dateFormats },
   .of "dictionaries" (readRecord "struct DictionaryDetection" dictionaryFields {})
     fun dictionaries s => { s with dictionaries }]

def Refusal.locate (whole : Bytes) (r : Refusal) : ReadError where
  path := pathText r.path
  message :=
    r.cause.message ++ (Position.after (whole.take (whole.length - r.rest.length))).phrase

/-- The root class needs a name that is not blank. -/
def validate (s : Settings) : Except ReadError Settings :=
  if isBlankText s.rootName then .error ⟨"root_name", "must not be empty"⟩ else .ok s

/-- Reads settings from the bytes of a file. -/
def read (whole : Bytes) : Except ReadError Settings :=
  match readRecord "struct Config" settingsFields {} whole with
  | .ok (s, _) => validate s
  | .error r => .error (r.locate whole)

def parse (text : String) : Except ReadError Settings := read (toUtf8 text)

end Specimen.Settings
