import Specimen.Json.Scan
import Specimen.Text.Alphanumeric
import Specimen.Text.Basic

/-! The tokens of a filter. Brackets are matched here, so that a token may hold the tokens between
them, and a string those of its interpolations. -/
namespace Specimen.Filter
open Text

inductive Bracket where
  | round
  | square
  | curly
  deriving DecidableEq

def Bracket.closing : Bracket → Char
  | .round => ')'
  | .square => ']'
  | .curly => '\x7d'

def Bracket.ofOpening? (c : Char) : Option Bracket :=
  if c = '(' then some .round
  else if c = '[' then some .square
  else if c = '\x7b' then some .curly
  else none

mutual

inductive Token where
  | word (name : String)
  /-- A word with a point right before it. -/
  | field (name : String)
  | variable (name : String)
  | number (literal : String)
  | symbol (text : String)
  | text (pieces : List Piece)
  | block (bracket : Bracket) (inside : List Token)

inductive Piece where
  | chars (value : String)
  | filter (inside : List Token)

end

/-! ### Words, numbers, blanks -/

def isWordStart (c : Char) : Bool := isAsciiLetter c || c == '_'

def isWordChar (c : Char) : Bool := isWordStart c || isAsciiDigit c

def isOperatorChar (c : Char) : Bool := "|=!<>+-*/%".contains c

/-- Operator characters run together into one symbol, but a minus begins a symbol of its own: it
may be the sign of the operand that follows. -/
def continuesSymbol (c : Char) : Bool := isOperatorChar c && c != '-'

/-- Digits, at least one. -/
def scanDigits? (cs : List Char) : Option (List Char × List Char) :=
  let digits := cs.takeWhile isAsciiDigit
  if digits.isEmpty then none else some (digits, cs.dropWhile isAsciiDigit)

/-- Digits, then perhaps a fraction, then perhaps an exponent. -/
def scanNumber? (cs : List Char) : Option (List Char × List Char) := do
  let (whole, cs) ← scanDigits? cs
  let (fraction, cs) ← match cs with
    | '.' :: cs => (scanDigits? cs).map fun (digits, cs) => ('.' :: digits, cs)
    | cs => some ([], cs)
  let (exponent, cs) ← match cs with
    | 'e' :: cs => scanPower? cs
    | 'E' :: cs => scanPower? cs
    | cs => some ([], cs)
  return (whole ++ fraction ++ exponent, cs)
where
  scanPower? (cs : List Char) : Option (List Char × List Char) :=
    match cs with
    | '+' :: cs => (scanDigits? cs).map fun (digits, cs) => ('e' :: '+' :: digits, cs)
    | '-' :: cs => (scanDigits? cs).map fun (digits, cs) => ('e' :: '-' :: digits, cs)
    | cs => (scanDigits? cs).map fun (digits, cs) => ('e' :: digits, cs)

/-- What stands between tokens: blanks, and comments from `#` to the end of the line. A comment goes
on in the next line if an odd number of backslashes ends its line; `continued` tells that the
backslashes so far are of odd number. -/
inductive Gap where
  | blank
  | comment (continued : Bool)

/-- Where a comment stands after the end of a line. -/
def Gap.afterLine (continued : Bool) : Gap := if continued then .comment false else .blank

def skipGap : Gap → List Char → List Char
  | _, [] => []
  | .comment continued, '\r' :: '\n' :: cs => skipGap (.afterLine continued) cs
  | .comment continued, c :: cs =>
    if c = '\n' then skipGap (.afterLine continued) cs
    else skipGap (.comment (c = '\\' && !continued)) cs
  | .blank, c :: cs =>
    if c = '#' then skipGap (.comment false) cs
    else if isBlank c then skipGap .blank cs
    else c :: cs

/-! ### Strings -/

/-- The character that an escape stands for, after its backslash. -/
def scanEscape? : List Char → Option (Char × List Char)
  | 'b' :: cs => some ('\x08', cs)
  | 'f' :: cs => some ('\x0c', cs)
  | 'n' :: cs => some ('\n', cs)
  | 'r' :: cs => some ('\r', cs)
  | 't' :: cs => some ('\t', cs)
  | 'u' :: a :: b :: c :: d :: cs => do
    guard ([a, b, c, d].all isHexDigit)
    let code ← Json.hexNumber ([d, c, b, a].map Char.toUInt8)
    guard code.isValidChar
    return (Char.ofNat code, cs)
  | c :: cs => if c = '\\' || c = '/' || c = '"' then some (c, cs) else none
  | [] => none

def isPlain (c : Char) : Bool := c != '"' && c != '\\'

def addChars (cs : List Char) (pieces : List Piece) : List Piece :=
  if cs.isEmpty then pieces else .chars (String.ofList cs) :: pieces

/-! ### Tokens -/

mutual

/-- Tokens up to the end, or to a closing bracket, which is left in front. Of three nested
steps one takes a character, so three times the length of the text is fuel enough. -/
def scanTokens? : Nat → List Char → Option (List Token × List Char)
  | 0, _ => none
  | fuel + 1, cs =>
    match skipGap .blank cs with
    | [] => some ([], [])
    | c :: rest =>
      if c = ')' || c = ']' || c = '\x7d' then some ([], c :: rest)
      else do
        let (token, rest) ← scanToken? fuel c rest
        let (tokens, rest) ← scanTokens? fuel rest
        return (token :: tokens, rest)

/-- One token from its first character on. -/
def scanToken? : Nat → Char → List Char → Option (Token × List Char)
  | 0, _, _ => none
  | fuel + 1, c, rest =>
    if isWordStart c then
      some (.word (String.ofList (c :: rest.takeWhile isWordChar)), rest.dropWhile isWordChar)
    else if isAsciiDigit c then
      (scanNumber? (c :: rest)).map fun (number, rest) => (.number (String.ofList number), rest)
    else if isOperatorChar c then
      some (.symbol (String.ofList (c :: rest.takeWhile continuesSymbol)),
        rest.dropWhile continuesSymbol)
    else if c = '$' && rest.head?.any isWordStart then
      some (.variable (String.ofList (rest.takeWhile isWordChar)), rest.dropWhile isWordChar)
    else if c = '.' then
      if rest.head? = some '.' then some (.symbol "..", rest.tail)
      else if rest.head?.any isWordStart then
        some (.field (String.ofList (rest.takeWhile isWordChar)), rest.dropWhile isWordChar)
      else some (.symbol ".", rest)
    else if c = ':' || c = ';' || c = ',' || c = '?' then
      some (.symbol (String.ofList [c]), rest)
    else if c = '"' then (scanPieces? fuel rest).map fun (pieces, rest) => (.text pieces, rest)
    else do
      let bracket ← Bracket.ofOpening? c
      let (inside, rest) ← scanInside? fuel bracket rest
      return (.block bracket inside, rest)

/-- The tokens up to the bracket that closes here, which is consumed. -/
def scanInside? : Nat → Bracket → List Char → Option (List Token × List Char)
  | 0, _, _ => none
  | fuel + 1, bracket, cs => do
    let (inside, rest) ← scanTokens? fuel cs
    guard (rest.head? = some bracket.closing)
    return (inside, rest.tail)

/-- A string after its opening quote. -/
def scanPieces? : Nat → List Char → Option (List Piece × List Char)
  | 0, _ => none
  | fuel + 1, cs =>
    let plain := cs.takeWhile isPlain
    match cs.dropWhile isPlain with
    | '"' :: rest => some (addChars plain [], rest)
    | '\\' :: '(' :: rest => do
      let (inside, rest) ← scanInside? fuel .round rest
      let (pieces, rest) ← scanPieces? fuel rest
      return (addChars plain (.filter inside :: pieces), rest)
    | '\\' :: rest => do
      let (c, rest) ← scanEscape? rest
      let (pieces, rest) ← scanPieces? fuel rest
      return (addChars (plain ++ [c]) pieces, rest)
    | _ => none

end

/-- The tokens of a whole text, or `none` if it is not made of tokens. -/
def tokens? (text : String) : Option (List Token) := do
  let cs := text.toList
  let (tokens, rest) ← scanTokens? (3 * cs.length + 3) cs
  guard rest.isEmpty
  return tokens

end Specimen.Filter
