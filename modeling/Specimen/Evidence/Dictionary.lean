import Specimen.Evidence.Basic
import Specimen.Text.Alphanumeric

/-! Objects used as dictionaries from strings to values of one kind. An object is taken for one by
its keys, if they are many or all look like identifiers, provided that its values agree. -/
namespace Specimen
open Text

/-- When an object may count as a dictionary. -/
structure DictionaryPolicy where
  enabled : Bool := true
  /-- Objects with more keys than this may, whatever the keys. -/
  maxFields : Nat := 64
  /-- Objects whose keys all look like identifiers may, however few. -/
  identifierKeys : Bool := true
  deriving DecidableEq

/-- Digits, after at most one minus sign. -/
def isIntegerKey (key : List Char) : Bool :=
  let digits := match key with
    | '-' :: rest => rest
    | _ => key
  !digits.isEmpty && digits.all isAsciiDigit

/-- Hexadecimal groups of the given lengths with a hyphen between them. -/
def isHexGroups : List Nat → List Char → Bool
  | [], _ => false
  | [n], key => key.length == n && key.all isHexDigit
  | n :: ns, key =>
    (key.take n).length == n && (key.take n).all isHexDigit &&
      match key.drop n with
      | '-' :: rest => isHexGroups ns rest
      | _ => false

def isUuidKey (key : List Char) : Bool := isHexGroups [8, 4, 4, 4, 12] key

/-- Eight hexadecimal digits or more, one of them decimal: shorter keys, and keys of letters alone,
are too easily words. -/
def isHexKey (key : List Char) : Bool :=
  8 ≤ key.length && key.all isHexDigit && key.any isAsciiDigit

def looksLikeIdentifier (isDate : String → Bool) (key : String) : Bool :=
  let cs := key.toList
  isIntegerKey cs || isUuidKey cs || isHexKey cs || isDate key

namespace DictionaryPolicy

/-- The keys alone would make the object a dictionary. -/
def admitsKeys (policy : DictionaryPolicy) (isDate : String → Bool) (keys : List String) : Bool :=
  policy.enabled && !keys.isEmpty &&
    (policy.maxFields < keys.length ||
      (policy.identifierKeys && keys.all (looksLikeIdentifier isDate)))

/-- The evidence of a dictionary's values, or `none` for an object that is a record. -/
def detect {O : Type} [Mergeable O] (policy : DictionaryPolicy) (isDate : String → Bool)
    (entries : List (String × Evidence O)) : Option (Evidence O) :=
  if policy.admitsKeys isDate (entries.map Prod.fst) then
    let value := Evidence.joinAll (entries.map Prod.snd)
    if value.isAnything then none else some value
  else none

end DictionaryPolicy

end Specimen
