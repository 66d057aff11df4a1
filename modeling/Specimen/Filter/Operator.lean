import Specimen.Filter.Syntax
import Specimen.Filter.Token

/-! Operators between operands, and how a row of operands is joined according to precedence. -/
namespace Specimen.Filter

inductive Operator where
  | pipe
  /-- `as`, a pattern, `|` -/
  | bind (pattern : Pattern)
  | comma
  | otherwise
  | logic (connective : Logic)
  | compare (relation : Comparison)
  | calculate (operation : Arithmetic)

namespace Operator

/-- Operators of a higher precedence hold their operands more tightly. -/
def precedence : Operator → Nat
  | .pipe | .bind _ => 0
  | .comma => 1
  | .otherwise => 2
  | .logic .or => 3
  | .logic .and => 4
  | .compare .eq | .compare .ne => 5
  | .compare _ => 6
  | .calculate .add | .calculate .sub => 7
  | .calculate .mul | .calculate .div => 8
  | .calculate .rem => 9

def isRightAssociative : Operator → Bool
  | .pipe | .bind _ | .otherwise => true
  | _ => false

def join : Operator → Term → Term → Term
  | .pipe, f, g => .pipe f g
  | .bind pattern, f, g => .bind f pattern g
  | .comma, f, g => .comma f g
  | .otherwise, f, g => .otherwise f g
  | .logic connective, f, g => .logic connective f g
  | .compare relation, f, g => .compare relation f g
  | .calculate operation, f, g => .calculate operation f g

def symbols : List (String × Operator) :=
  [("|", .pipe), (",", .comma), ("//", .otherwise), ("==", .compare .eq), ("!=", .compare .ne),
   ("<", .compare .lt), (">", .compare .gt), ("<=", .compare .le), (">=", .compare .ge),
   ("+", .calculate .add), ("-", .calculate .sub), ("*", .calculate .mul), ("/", .calculate .div),
   ("%", .calculate .rem)]

/-- The operator at the front, if it has no parts. Inside an object a comma is none. -/
def read? (comma : Bool) : List Token → Option (Operator × List Token)
  | .word "and" :: ts => some (.logic .and, ts)
  | .word "or" :: ts => some (.logic .or, ts)
  | .symbol s :: ts =>
    if s = "," && !comma then none else (symbols.lookup s).map fun operator => (operator, ts)
  | _ => none

end Operator

/-- Joins an operand to those after it, as far as operators hold at least as tightly as `least`;
gives what is left over. The number of operands bounds the steps. -/
def climb : Nat → Nat → Term → List (Operator × Term) → Term × List (Operator × Term)
  | 0, _, f, others => (f, others)
  | _ + 1, _, f, [] => (f, [])
  | fuel + 1, least, f, (operator, g) :: others =>
    if operator.precedence < least then (f, (operator, g) :: others)
    else
      let inner :=
        if operator.isRightAssociative then operator.precedence else operator.precedence + 1
      let (g, others) := climb fuel inner g others
      climb fuel least (operator.join f g) others

end Specimen.Filter
