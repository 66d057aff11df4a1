import Specimen.Json.Basic

/-! JSON values as text, compact or indented. Only the quote, the backslash and the controls below
the space are escaped inside strings; everything else stands for itself. -/
namespace Specimen.Json
open Text

/-- The two lowercase hexadecimal digits of a control character's code. -/
def controlDigits (c : Char) : List Char :=
  [Nat.digitChar (c.toNat / 16), Nat.digitChar (c.toNat % 16)]

def escapedChar (c : Char) : List Char :=
  if c = '"' then ['\\', '"']
  else if c = '\\' then ['\\', '\\']
  else if c = '\x08' then ['\\', 'b']
  else if c = '\x0c' then ['\\', 'f']
  else if c = '\n' then ['\\', 'n']
  else if c = '\r' then ['\\', 'r']
  else if c = '\t' then ['\\', 't']
  else if c.toNat < 0x20 then ['\\', 'u', '0', '0'] ++ controlDigits c
  else [c]

def stringChars (s : String) : List Char := '"' :: s.toList.flatMap escapedChar ++ ['"']

mutual

def compactChars : Json → List Char
  | .null => "null".toList
  | .bool true => "true".toList
  | .bool false => "false".toList
  | .number n => n.text.toList
  | .string s => stringChars s
  | .array [] => ['[', ']']
  | .array (x :: xs) => '[' :: compactChars x ++ compactItems xs
  | .object [] => ['\x7b', '\x7d']
  | .object ((k, v) :: ms) =>
    '\x7b' :: stringChars k ++ ':' :: compactChars v ++ compactMembers ms
termination_by structural x => x

/-- The items after the first, with the closing bracket. -/
def compactItems : List Json → List Char
  | [] => [']']
  | x :: xs => ',' :: compactChars x ++ compactItems xs
termination_by structural xs => xs

/-- The members after the first, with the closing brace. -/
def compactMembers : List (String × Json) → List Char
  | [] => ['\x7d']
  | (k, v) :: ms => ',' :: stringChars k ++ ':' :: compactChars v ++ compactMembers ms
termination_by structural ms => ms

end

/-- The text without any space. -/
def compact (x : Json) : String := String.ofList (compactChars x)

/-- A new line, indented by two spaces a level. -/
def newline (level : Nat) : List Char := '\n' :: List.replicate (2 * level) ' '

mutual

def prettyChars : Nat → Json → List Char
  | level, .array (x :: xs) =>
    '[' :: newline (level + 1) ++ prettyChars (level + 1) x ++ prettyItems level xs
  | level, .object ((k, v) :: ms) =>
    '\x7b' :: newline (level + 1) ++ stringChars k ++ ':' :: ' ' :: prettyChars (level + 1) v ++
      prettyMembers level ms
  | _, .array [] => ['[', ']']
  | _, .object [] => ['\x7b', '\x7d']
  | _, .null => "null".toList
  | _, .bool true => "true".toList
  | _, .bool false => "false".toList
  | _, .number n => n.text.toList
  | _, .string s => stringChars s
termination_by structural _ x => x

def prettyItems : Nat → List Json → List Char
  | level, [] => newline level ++ [']']
  | level, x :: xs =>
    ',' :: newline (level + 1) ++ prettyChars (level + 1) x ++ prettyItems level xs
termination_by structural _ xs => xs

def prettyMembers : Nat → List (String × Json) → List Char
  | level, [] => newline level ++ ['\x7d']
  | level, (k, v) :: ms =>
    ',' :: newline (level + 1) ++ stringChars k ++ ':' :: ' ' :: prettyChars (level + 1) v ++
      prettyMembers level ms
termination_by structural _ ms => ms

end

/-- One item or member a line. -/
def pretty (x : Json) : String := String.ofList (prettyChars 0 x)

end Specimen.Json
