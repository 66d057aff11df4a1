import Specimen.Dates.Formats
import Specimen.Evidence.Observer
import Specimen.Model.Freeze
import Specimen.Json.Basic

/-! The settings of a run: what inference goes by, and how generated code looks. -/
namespace Specimen

structure Settings where
  /-- The name of the class that describes the documents. -/
  rootName : String := "Root"
  /-- The namespace around the root class. -/
  mainNamespace : Option String := none
  /-- The namespace around all other classes, if not the main one. -/
  secondaryNamespace : Option String := none
  /-- Generated types are not visible outside. -/
  internalVisibility : Bool := false
  /-- Generated fields are reached through accessors. -/
  useProperties : Bool := false
  /-- Literals are kept, and shown as comments. -/
  examplesInDocumentation : Bool := false
  exampleLimit : Nat := 5
  dateFormats : List String := ["rfc3339", "%Y-%m-%dT%H:%M:%S%.f", "%Y-%m-%d %H:%M:%S", "%Y-%m-%d"]
  dictionaries : DictionaryPolicy := {}
  deriving DecidableEq

namespace Settings

/-- The namespace that a class is emitted into. -/
def namespaceFor (s : Settings) (root : Bool) : Option String :=
  if root then s.mainNamespace else s.secondaryNamespace.or s.mainNamespace

/-- Whether a string counts as a date. -/
def isDateText (s : Settings) : String → Bool := (Dates.Formats.ofList s.dateFormats).accepts

def observer (s : Settings) : Observer where
  isDate := s.isDateText
  dictionaries := s.dictionaries
  keepsExamples := s.examplesInDocumentation

def examplePolicy (s : Settings) : ExamplePolicy where
  shown := s.examplesInDocumentation
  limit := s.exampleLimit

def textOrNull : Option String → Json
  | some s => .string s
  | none => .null

/-- The settings as a JSON document, with every member. -/
def json (s : Settings) : Json :=
  .object [("root_name", .string s.rootName), ("namespace", textOrNull s.mainNamespace),
    ("secondary_namespace", textOrNull s.secondaryNamespace),
    ("internal_visibility", .bool s.internalVisibility), ("use_properties", .bool s.useProperties),
    ("examples_in_documentation", .bool s.examplesInDocumentation),
    ("example_limit", .number (.int s.exampleLimit)),
    ("date_formats", .array (s.dateFormats.map .string)),
    ("dictionaries", .object [("enabled", .bool s.dictionaries.enabled),
      ("max_fields", .number (.int s.dictionaries.maxFields)),
      ("identifier_keys", .bool s.dictionaries.identifierKeys)])]

end Settings

end Specimen
