import Specimen.Filter.Numeral
import Specimen.Json.Printer

/-! The values filters compute with: JSON values whose numbers may also be results of arithmetic.
Values of all kinds are ordered: nulls, booleans, numbers, strings, arrays, objects. -/
namespace Specimen.Filter

inductive Value where
  | null
  | bool (value : Bool)
  | number (value : Numeral)
  | string (value : String)
  | array (items : List Value)
  | object (members : List (String × Value))

namespace Value

def int (n : Int) : Value := .number (.int n)

/-- Nulls and `false` count as false. -/
def isTrue : Value → Bool
  | .null | .bool false => false
  | _ => true

def kindName : Value → String
  | .null => "null"
  | .bool _ => "boolean"
  | .number _ => "number"
  | .string _ => "string"
  | .array _ => "array"
  | .object _ => "object"

/-! ### From JSON and to text -/

mutual

def ofJson : Json → Value
  | .null => .null
  | .bool b => .bool b
  | .number n => .number (.ofJson n)
  | .string s => .string s
  | .array items => .array (ofItems items)
  | .object members => .object (ofMembers members)
termination_by structural x => x

def ofItems : List Json → List Value
  | [] => []
  | x :: xs => ofJson x :: ofItems xs
termination_by structural xs => xs

def ofMembers : List (String × Json) → List (String × Value)
  | [] => []
  | (k, x) :: rest => (k, ofJson x) :: ofMembers rest
termination_by structural ms => ms

end

/-- Inside quotes, a control character other than a tab or the end of a line goes by its code. -/
def escapedChar (c : Char) : List Char :=
  if c = '"' then ['\\', '"']
  else if c = '\\' then ['\\', '\\']
  else if c = '\n' then ['\\', 'n']
  else if c = '\r' then ['\\', 'r']
  else if c = '\t' then ['\\', 't']
  else if c.toNat < 0x20 || c = '\x7f' then ['\\', 'u', '0', '0'] ++ Json.controlDigits c
  else [c]

def quotedChars (s : String) : List Char := '"' :: s.toList.flatMap escapedChar ++ ['"']

mutual

def chars : Value → List Char
  | .null => "null".toList
  | .bool true => "true".toList
  | .bool false => "false".toList
  | .number n => n.text.toList
  | .string s => quotedChars s
  | .array [] => ['[', ']']
  | .array (x :: xs) => '[' :: chars x ++ itemChars xs
  | .object [] => ['\x7b', '\x7d']
  | .object ((k, x) :: rest) =>
    '\x7b' :: quotedChars k ++ ':' :: chars x ++ memberChars rest
termination_by structural x => x

/-- The items after the first, with the closing bracket. -/
def itemChars : List Value → List Char
  | [] => [']']
  | x :: xs => ',' :: chars x ++ itemChars xs
termination_by structural xs => xs

/-- The members after the first, with the closing brace. -/
def memberChars : List (String × Value) → List Char
  | [] => ['\x7d']
  | (k, x) :: rest => ',' :: quotedChars k ++ ':' :: chars x ++ memberChars rest
termination_by structural ms => ms

end

/-- JSON text, except that a number keeps a form that JSON may not admit. -/
def text (x : Value) : String := String.ofList x.chars

/-- What an interpolation puts into a string: a string itself, any other value as text. -/
def shown : Value → String
  | .string s => s
  | x => x.text

/-! ### Order -/

/-- Inserts a member before the first with a greater key. -/
def insertMember (key : String) (x : Value) : List (String × Value) → List (String × Value)
  | [] => [(key, x)]
  | (k, y) :: rest =>
    if k < key then (k, y) :: insertMember key x rest else (key, x) :: (k, y) :: rest

mutual

/-- The same value with the members of every object in the order of their keys. -/
def sortMembers : Value → Value
  | .array items => .array (sortInItems items)
  | .object members => .object (sortInMembers members)
  | x => x
termination_by structural x => x

def sortInItems : List Value → List Value
  | [] => []
  | x :: xs => sortMembers x :: sortInItems xs
termination_by structural xs => xs

def sortInMembers : List (String × Value) → List (String × Value)
  | [] => []
  | (k, x) :: rest => insertMember k (sortMembers x) (sortInMembers rest)
termination_by structural ms => ms

end

def rank : Value → Nat
  | .null => 0
  | .bool _ => 1
  | .number _ => 2
  | .string _ => 3
  | .array _ => 4
  | .object _ => 5

/-- Lists of keys, item by item, a list before any it begins. -/
def compareKeys : List String → List String → Ordering
  | [], [] => .eq
  | [], _ => .lt
  | _, [] => .gt
  | k :: ks, l :: ls => (Ord.compare k l).then (compareKeys ks ls)

/-- Objects without members come first; others go by their keys, then by their values. -/
def compareKeySets (ms ns : List (String × Value)) : Ordering :=
  match ms, ns with
  | [], [] => .eq
  | [], _ => .lt
  | _, [] => .gt
  | _, _ => compareKeys (ms.map Prod.fst) (ns.map Prod.fst)

mutual

/-- Order of values whose objects have their members in the order of the keys. -/
def compareSorted : Value → Value → Ordering
  | .bool a, .bool b => Ord.compare a b
  | .number m, .number n => m.compare n
  | .string s, .string t => Ord.compare s t
  | .array xs, .array ys => compareItems xs ys
  | .object ms, .object ns => (compareKeySets ms ns).then (compareMembers ms ns)
  | x, y => Ord.compare x.rank y.rank
termination_by structural x => x

def compareItems : List Value → List Value → Ordering
  | [], [] => .eq
  | [], _ => .lt
  | _, [] => .gt
  | x :: xs, y :: ys => (compareSorted x y).then (compareItems xs ys)
termination_by structural xs => xs

def compareMembers : List (String × Value) → List (String × Value) → Ordering
  | [], [] => .eq
  | [], _ => .lt
  | _, [] => .gt
  | (_, x) :: ms, (_, y) :: ns => (compareSorted x y).then (compareMembers ms ns)
termination_by structural ms => ms

end

def compare (x y : Value) : Ordering := compareSorted x.sortMembers y.sortMembers

def same (x y : Value) : Bool := compare x y == .eq

end Value

end Specimen.Filter
