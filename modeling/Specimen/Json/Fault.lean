import Specimen.Text.Basic

/-! What can be wrong with a JSON text, and where. -/
namespace Specimen.Json
open Text

inductive Fault where
  | endInList
  | endInObject
  | endInString
  | endInValue
  | colonExpected
  | listCommaOrEndExpected
  | objectCommaOrEndExpected
  | wordExpected
  | valueExpected
  | invalidEscape
  | invalidNumber
  | numberOutOfRange
  | invalidCodePoint
  | controlCharacter
  | keyNotString
  | loneSurrogate
  | trailingComma
  | trailingCharacters
  | unfinishedSurrogatePair
  | nestingTooDeep
  deriving DecidableEq

def Fault.message : Fault → String
  | .endInList => "EOF while parsing a list"
  | .endInObject => "EOF while parsing an object"
  | .endInString => "EOF while parsing a string"
  | .endInValue => "EOF while parsing a value"
  | .colonExpected => "expected `:`"
  | .listCommaOrEndExpected => "expected `,` or `]`"
  | .objectCommaOrEndExpected => "expected `,` or `\x7d`"
  | .wordExpected => "expected ident"
  | .valueExpected => "expected value"
  | .invalidEscape => "invalid escape"
  | .invalidNumber => "invalid number"
  | .numberOutOfRange => "number out of range"
  | .invalidCodePoint => "invalid unicode code point"
  | .controlCharacter => "control character (\\u0000-\\u001F) found while parsing a string"
  | .keyNotString => "key must be a string"
  | .loneSurrogate => "lone leading surrogate in hex escape"
  | .trailingComma => "trailing comma"
  | .trailingCharacters => "trailing characters"
  | .unfinishedSurrogatePair => "unexpected end of hex escape"
  | .nestingTooDeep => "recursion limit exceeded"

/-- A place in a text: its line, counted from one, and the bytes consumed on that line. -/
structure Position where
  line : Nat
  column : Nat
  deriving DecidableEq

/-- The place that follows the given bytes. -/
def Position.after (consumed : List UInt8) : Position where
  line := consumed.count 10 + 1
  column := (consumed.reverse.takeWhile (· != 10)).length

def Position.phrase (p : Position) : String :=
  " at line " ++ decimal p.line ++ " column " ++ decimal p.column

/-- A fault with its place. -/
structure ReadError where
  fault : Fault
  position : Position
  deriving DecidableEq

def ReadError.message (e : ReadError) : String := e.fault.message ++ e.position.phrase

end Specimen.Json
