import Specimen.Source.Writer
import Specimen.Json.Printer
import Specimen.Text.Alphanumeric

/-! Classes in TypeScript, each with a constructor that takes any data and a method that gives the
data back. -/
namespace Specimen.Source.TypeScript
open Text

/-! ### Member names -/

def isNameStart (c : Char) : Bool := isAsciiLetter c || c == '_' || c == '$'

def isNamePart (c : Char) : Bool := isNameStart c || isAsciiDigit c

/-- The key may stand as a name without quotes. -/
def isIdentifier (key : String) : Bool :=
  match key.toList with
  | [] => false
  | c :: rest => isNameStart c && rest.all isNamePart

/-- A backslash in front of every occurrence of the character. -/
def escapeEach (escaped : Char) (cs : List Char) : List Char :=
  cs.flatMap fun c => if c = escaped then ['\\', escaped] else [c]

/-- The key between single quotes. The quotes are escaped after the backslashes. -/
def quotedKey (key : String) : String :=
  String.ofList ('\x27' :: escapeEach '\x27' (escapeEach '\\' key.toList) ++ ['\x27'])

def memberName (key : String) : String := if isIdentifier key then key else quotedKey key

def memberAccess (key : String) : String :=
  if isIdentifier key then "." ++ key else "[" ++ quotedKey key ++ "]"

/-- The access after a question mark. -/
def optionalAccess (key : String) : String :=
  if isIdentifier key then "." ++ key else ".[" ++ quotedKey key ++ "]"

/-! ### Types -/

def leafName : Kind → String
  | .string => "string"
  | .boolean | .nullableBoolean => "boolean"
  | .integer | .long | .float | .nullableInteger | .nullableLong | .nullableFloat => "number"
  | .date | .nullableDate => "Date"
  | _ => "any"

/-- An element that may be null says so, unless its type admits anything. -/
def orNull (element : TypeNode) (name : String) : String :=
  if element.nullable && !element.kind.isDynamic then name ++ " | null" else name

/-- A reference to a type. Inside the root's block, `scope` is the namespace in front of the names of
classes that are not the root. -/
def qualifiedName (m : TypeModel) (scope : Option String) : TypeNode → String
  | .leaf kind _ => leafName kind
  | .array element _ => "Array<" ++ orNull element (qualifiedName m scope element) ++ ">"
  | .dictionary element _ =>
    "\x7b [key: string]: " ++ orNull element (qualifiedName m scope element) ++ "; \x7d"
  | .object id _ =>
    match m.class? id, scope with
    | some c, some space => if c.isRoot then c.name else space ++ "." ++ c.name
    | some c, none => c.name
    | none, _ => "any"

/-- The namespace that a class has to name to reach the others: only the root class does, and only
if they are in another namespace. -/
def scopeOf (s : Settings) (c : ClassDef) : Option String :=
  if c.isRoot && s.mainNamespace != s.secondaryNamespace then s.secondaryNamespace else none

/-- The value of a field that the data does not give. -/
def defaultValue (m : TypeModel) (scope : Option String) (type : TypeNode) : String :=
  match type.kind with
  | .string => "\x27\x27"
  | .integer | .long | .float => "0"
  | .boolean => "false"
  | .date => "new Date()"
  | .array => "[]"
  | .dictionary => "\x7b\x7d"
  | .object => "new " ++ qualifiedName m scope type ++ "()"
  | _ => "null"

/-! ### Examples -/

/-- Keeps a comment from ending early. -/
def guardCommentEnd : List Char → List Char
  | '*' :: '/' :: rest => '*' :: '\\' :: '/' :: guardCommentEnd rest
  | c :: rest => c :: guardCommentEnd rest
  | [] => []

def exampleText (x : Json) : String := String.ofList (guardCommentEnd x.compactChars)

def examplesText (s : Settings) (f : FieldInfo) : String :=
  String.intercalate ", " ((shownExamples s f).map exampleText)

/-! ### Classes -/

def fieldLines (m : TypeModel) (s : Settings) (scope : Option String) (f : FieldInfo) :
    List String :=
  (if showsExamples s f then
    ["", "    /**", "     * Examples: " ++ examplesText s f, "     */"] else []) ++
  ["    " ++ memberName f.sourceName ++ (if f.nullable then "?" else "") ++ ": " ++
    qualifiedName m scope f.type ++ ";"]

def constructorLine (m : TypeModel) (scope : Option String) (f : FieldInfo) : String :=
  "        this" ++ memberAccess f.sourceName ++ " = data?" ++ optionalAccess f.sourceName ++ " ?? " ++
    (if f.nullable then "null" else defaultValue m scope f.type) ++ ";"

def serviceLine (f : FieldInfo) : String :=
  "        obj" ++ memberAccess f.sourceName ++ " = this" ++ memberAccess f.sourceName ++ ";"

def classLines (m : TypeModel) (s : Settings) (c : ClassDef) : List String :=
  let scope := scopeOf s c
  -- Classes in a namespace of their own must be exported to be reached from the root's.
  let visible := !s.internalVisibility || s.secondaryNamespace.isSome
  [(if visible then "export " else "") ++ "class " ++ c.name ++ " \x7b"] ++
    c.fields.flatMap (fieldLines m s scope) ++
    ["", "    constructor(data?: any) \x7b"] ++
    c.fields.map (constructorLine m scope) ++
    ["    \x7d", "", "    public toService(): any \x7b", "        const obj: any = \x7b\x7d;"] ++
    c.fields.map serviceLine ++
    ["        return obj;", "    \x7d", "\x7d", ""]

def blockStart (s : Settings) (root : Bool) : List String :=
  match s.namespaceFor root with
  | some space => ["export namespace " ++ space ++ " \x7b", ""]
  | none => []

def blockEnd (s : Settings) (root : Bool) : List String :=
  if (s.namespaceFor root).isSome then ["\x7d", ""] else []

def writer : Writer where
  fileExtension := "ts"
  displayName := "TypeScript"
  typeName m := qualifiedName m none
  typeLines m s c := inNamespace s c.isRoot (classLines m s c)
  fileStart := headerLines ++ [""]
  fileEnd := []
  blockStart := blockStart
  blockEnd := blockEnd

end Specimen.Source.TypeScript
