import Specimen.Filter.Evaluation
import Specimen.Filter.Grammar
import Specimen.Filter.Scope

/-! The filters that every filter may use, written in the language itself over the primitives. -/
namespace Specimen.Filter

def preludeText : String :=
  "def null: [][0];
   def true: 0 == 0;
   def false: 0 != 0;
   def not: if . then false else true end;
   def infinite: 1 / 0;
   def nan: 0 / 0;
   def empty: [][];
   def error(f): (f | error) // .;
   def select(f): if f then . else empty end;
   def map(f): [.[] | f];
   def keys: keys_unsorted | sort;
   def to_entries: [keys_unsorted[] as $k | \x7bkey: $k, value: .[$k]\x7d];
   def add(f): [f] | add;
   def first: .[0];
   def last: .[-1];
   def range($from; $to): range($from; $to; 1);
   def range($to): range(0; $to);
   def recurse(f): def all: ., (f | all); all;
   def recurse: recurse(.[]?);
   def tostring: \"\\(.)\";
   def inputs: empty;
   def input: first(inputs);
   def nulls: select(type == \"null\");
   def booleans: select(type == \"boolean\");
   def numbers: select(type == \"number\");
   def strings: select(type == \"string\");
   def arrays: select(type == \"array\");
   def objects: select(type == \"object\");
   def values: select(. != null);
   def iterables: select(. >= []);
   def scalars: select(. < []);"

def prelude : List Definition := (Definition.ofText? preludeText).getD []

def preludeEnvironment : Environment := prelude.foldl (fun env d => .definition d env) .empty

/-- Everything a filter may mention. -/
def preludeScope : Scope where
  filters := prelude.map (fun d => (d.name, d.parameters.length)) ++ Primitive.names.map Prod.fst

end Specimen.Filter
