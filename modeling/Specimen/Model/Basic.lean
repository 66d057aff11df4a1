import Specimen.Classes.Table

/-! The finished model: the type of the documents and the classes it refers to, numbered in the order
in which they are to be emitted. -/
namespace Specimen

/-- What a type is. The scalars that may be null have kinds of their own. -/
inductive Kind where
  | anything
  | string
  | boolean
  | integer
  | long
  | float
  | date
  | object
  | array
  | dictionary
  | nullableInteger
  | nullableLong
  | nullableFloat
  | nullableBoolean
  | nullableDate
  /-- Only nulls were seen, or values of several kinds and nulls. -/
  | nullableSomething
  /-- Nothing was seen, as in an array that was always empty. -/
  | nonConstrained
  deriving DecidableEq

namespace Kind

def name : Kind → String
  | .anything => "Anything"
  | .string => "String"
  | .boolean => "Boolean"
  | .integer => "Integer"
  | .long => "Long"
  | .float => "Float"
  | .date => "Date"
  | .object => "Object"
  | .array => "Array"
  | .dictionary => "Dictionary"
  | .nullableInteger => "NullableInteger"
  | .nullableLong => "NullableLong"
  | .nullableFloat => "NullableFloat"
  | .nullableBoolean => "NullableBoolean"
  | .nullableDate => "NullableDate"
  | .nullableSomething => "NullableSomething"
  | .nonConstrained => "NonConstrained"

def all : List Kind :=
  [.anything, .string, .boolean, .integer, .long, .float, .date, .object, .array, .dictionary,
   .nullableInteger, .nullableLong, .nullableFloat, .nullableBoolean, .nullableDate,
   .nullableSomething, .nonConstrained]

def isNullable : Kind → Bool
  | .nullableInteger | .nullableLong | .nullableFloat | .nullableBoolean | .nullableDate
  | .nullableSomething => true
  | _ => false

def isNumeric : Kind → Bool
  | .integer | .long | .float | .nullableInteger | .nullableLong | .nullableFloat => true
  | _ => false

/-- The kind that admits a null as well, for the kinds that have one. -/
def nullable? : Kind → Option Kind
  | .integer => some .nullableInteger
  | .long => some .nullableLong
  | .float => some .nullableFloat
  | .boolean => some .nullableBoolean
  | .date => some .nullableDate
  | kind => if kind.isNullable then some kind else none

/-- Any JSON value will do. -/
def isDynamic : Kind → Bool
  | .anything | .nullableSomething | .nonConstrained => true
  | _ => false

end Kind

/-- What is marked at a node. -/
structure Flags where
  /-- A null was seen here, or the key was missing. Set for every kind, also for those that say so
  themselves. -/
  nullable : Bool := false
  /-- The type of the documents. -/
  isRoot : Bool := false
  deriving DecidableEq

/-- The type at one position. A leaf's kind is none of the three with something inside. -/
inductive TypeNode where
  | leaf (kind : Kind) (flags : Flags)
  | array (element : TypeNode) (flags : Flags)
  | dictionary (element : TypeNode) (flags : Flags)
  | object (id : ClassId) (flags : Flags)

namespace TypeNode

def kind : TypeNode → Kind
  | .leaf kind _ => kind
  | .array _ _ => .array
  | .dictionary _ _ => .dictionary
  | .object _ _ => .object

def flags : TypeNode → Flags
  | .leaf _ flags => flags
  | .array _ flags => flags
  | .dictionary _ flags => flags
  | .object _ flags => flags

def nullable (type : TypeNode) : Bool := type.flags.nullable

def isRoot (type : TypeNode) : Bool := type.flags.isRoot

/-- The type, marked as that of the documents or as another. What is inside is left as it is. -/
def withRoot (isRoot : Bool) : TypeNode → TypeNode
  | .leaf kind flags => .leaf kind { flags with isRoot }
  | .array element flags => .array element { flags with isRoot }
  | .dictionary element flags => .dictionary element { flags with isRoot }
  | .object id flags => .object id { flags with isRoot }

def element? : TypeNode → Option TypeNode
  | .array element _ => some element
  | .dictionary element _ => some element
  | _ => none

def class? : TypeNode → Option ClassId
  | .object id _ => some id
  | _ => none

/-- The class that the type leads to, directly or through elements. -/
def innermost? : TypeNode → Option ClassId
  | .array element _ => element.innermost?
  | .dictionary element _ => element.innermost?
  | .object id _ => some id
  | .leaf _ _ => none

end TypeNode

/-- A field of a class. -/
structure FieldInfo where
  /-- The key as it was first seen. -/
  sourceName : String
  type : TypeNode
  /-- The key was missing somewhere, or held a null. -/
  nullable : Bool
  /-- How many objects of the class had the key. -/
  presentIn : Nat
  examples : List Json

structure ClassDef where
  id : ClassId
  name : String
  fields : List FieldInfo
  isRoot : Bool
  /-- How many objects were merged into the class. -/
  samples : Nat

def ClassDef.field? (c : ClassDef) (sourceName : String) : Option FieldInfo :=
  c.fields.find? (·.sourceName == sourceName)

structure TypeModel where
  root : TypeNode
  classes : List ClassDef

namespace TypeModel

def class? (m : TypeModel) (id : ClassId) : Option ClassDef := m.classes[id.index]?

def classNamed? (m : TypeModel) (name : String) : Option ClassDef :=
  m.classes.find? (·.name == name)

def rootClass? (m : TypeModel) : Option ClassDef := m.classes.find? (·.isRoot)

/-- The name of the class that a type is. -/
def assignedName? (m : TypeModel) (type : TypeNode) : Option String :=
  type.class?.bind fun id => (m.class? id).map ClassDef.name

end TypeModel

end Specimen
