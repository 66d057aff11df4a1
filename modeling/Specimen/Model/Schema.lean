import Specimen.Model.Basic
import Specimen.Json.Printer

/-! The model as a JSON document. Members that would say nothing are left out: a flag that is not
set, an element or a class that is not there, an empty list of examples. -/
namespace Specimen

namespace TypeNode

/-- The members of a node. -/
def json : TypeNode → Json
  | .leaf kind flags => node kind [] flags
  | .array element flags => node .array [("element", element.json)] flags
  | .dictionary element flags => node .dictionary [("element", element.json)] flags
  | .object id flags => node .object [("class", .number (.int id.index))] flags
where
  node (kind : Kind) (content : List (String × Json)) (flags : Flags) : Json :=
    .object (("kind", .string kind.name) :: content ++
      (if flags.nullable then [("nullable", .bool true)] else []) ++
      (if flags.isRoot then [("is_root", .bool true)] else []))

end TypeNode

def FieldInfo.json (f : FieldInfo) : Json :=
  .object ([("source_name", .string f.sourceName), ("type", f.type.json),
    ("nullable", .bool f.nullable), ("present_in", .number (.int f.presentIn))] ++
    (if f.examples.isEmpty then [] else [("examples", .array f.examples)]))

def ClassDef.json (c : ClassDef) : Json :=
  .object [("id", .number (.int c.id.index)), ("name", .string c.name),
    ("fields", .array (c.fields.map FieldInfo.json)), ("is_root", .bool c.isRoot),
    ("samples", .number (.int c.samples))]

def TypeModel.json (m : TypeModel) : Json :=
  .object [("root", m.root.json), ("classes", .array (m.classes.map ClassDef.json))]

end Specimen
