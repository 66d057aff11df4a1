import Specimen.Filter.Combination
import Specimen.Filter.Environment
import Specimen.Filter.Primitive

/-! What is left to do in an evaluation. A task knows the frames that its outputs go through, so an
output can be handed on before those after it are computed. -/
namespace Specimen.Filter

/-- What becomes of an output on its way out of a filter. -/
inductive Frame where
  | pipe (env : Environment) (next : Term)
  | bind (env : Environment) (input : Value) (pattern : Pattern) (body : Term)
  /-- The output is a key of what a pattern takes apart; the patterns left to match come after. -/
  | part (env : Environment) (input : Value) (body : Term) (whole : Value) (pattern : Pattern)
      (left : List (Pattern × Value)) (scope : Environment)
  | negate
  /-- The output is the left side of a connective. -/
  | decide (connective : Logic) (env : Environment) (input : Value) (right : Term)
  | truth
  | branch (env : Environment) (input : Value) (yes no : Term)
  /-- The output is the base of accesses. -/
  | base (env : Environment) (input : Value) (accesses : List Access)
  /-- The output is the next one chosen, last first, for a combination. If one of the filters had a
  fault, the combination has it too, provided that the other filters have outputs to combine. -/
  | choice (combination : Combination) (env : Environment) (input : Value) (chosen : List Value)
      (fault : Option Fault) (filters : List Term)
  /-- The output is the next argument, last first, of a primitive. -/
  | operand (primitive : Primitive) (env : Environment) (input : Value) (chosen : List Value)
      (arguments : List Term)
  /-- The output is bound to a parameter before the body runs in its scope. -/
  | argument (name : String) (env : Environment) (input : Value) (parameters : List Parameter)
      (arguments : List Term) (scope : Environment) (body : Term)

/-- What a filter does with the outputs of another that it watches over. -/
inductive Watch where
  /-- All outputs go into one array; those so far are kept last first. -/
  | collect (items : List Value)
  /-- A fault ends the outputs. -/
  | attempt
  /-- Only true outputs count; if none is found, the alternative runs on the input. -/
  | otherwise (found : Bool) (env : Environment) (input : Value) (alternative : Term)
  /-- The first output ends the outputs. -/
  | first

inductive Task where
  | evaluate (env : Environment) (filter : Term) (input : Value) (frames : List Frame)
  | outcomes (outcomes : List Outcome) (frames : List Frame)
  /-- Counts on from a value by steps of another until a third is reached. -/
  | count (step stop next : Value) (frames : List Frame)
  /-- Goes on with the tasks of a level that was left with an output. -/
  | resume (watch : Watch) (tasks : List Task) (frames : List Frame)

/-- Looks for outputs of the remaining filters, and combines when there is one of each. -/
def choose (combination : Combination) (env : Environment) (x : Value) (chosen : List Value)
    (fault : Option Fault) (frames : List Frame) : List Term → Task
  | f :: filters =>
    .evaluate env f x (.choice combination env x chosen fault filters :: frames)
  | [] =>
    match fault with
    | some fault => .outcomes [.error fault] frames
    | none => .outcomes (combination.outcomes chosen.reverse) frames

/-- Matches values with patterns and then runs the body in the scope of what they give. -/
def takeApart (env : Environment) (x : Value) (body : Term) (frames : List Frame) :
    List (Pattern × Value) → Environment → Task
  | [], scope => .evaluate scope body x frames
  | (.variable name, y) :: left, scope =>
    takeApart env x body frames left (.variable name y scope)
  | (.parts [], _) :: left, scope => takeApart env x body frames left scope
  | (.parts ((key, pattern) :: entries), y) :: left, scope =>
    .evaluate env key y (.part env x body y pattern ((.parts entries, y) :: left) scope :: frames)

/-- Runs a body in its scope after binding the arguments to the parameters. -/
def enter (env : Environment) (x : Value) (body : Term) (frames : List Frame) :
    List Parameter → List Term → Environment → Task
  | .filter name :: parameters, f :: arguments, scope =>
    enter env x body frames parameters arguments (.argument name f env scope)
  | .variable name :: parameters, f :: arguments, scope =>
    .evaluate env f x (.argument name env x parameters arguments scope body :: frames)
  | _, _, scope => .evaluate scope body x frames

/-- Applies a primitive when there is an output of each argument. -/
def operate (primitive : Primitive) (env : Environment) (x : Value) (chosen : List Value)
    (frames : List Frame) : List Term → Task
  | f :: arguments => .evaluate env f x (.operand primitive env x chosen arguments :: frames)
  | [] =>
    match primitive, chosen with
    | .count, [step, stop, start] => .count step stop start frames
    | _, _ => .outcomes (primitive.outcomes x chosen.reverse) frames

/-- What an output leads to in a frame, the frames behind it being given. -/
def Frame.receive (y : Value) (frames : List Frame) : Frame → Task
  | .pipe env g => .evaluate env g y frames
  | .bind env x pattern body => takeApart env x body frames [(pattern, y)] env
  | .part env x body whole pattern left scope =>
    match whole.index y with
    | .ok z => takeApart env x body frames ((pattern, z) :: left) scope
    | .error fault => .outcomes [.error fault] frames
  | .negate => .outcomes [y.negate] frames
  | .decide connective env x right =>
    -- The right side is not looked at where the left decides.
    if y.isTrue == (connective == .or) then .outcomes [.ok (.bool y.isTrue)] frames
    else .evaluate env right x (.truth :: frames)
  | .truth => .outcomes [.ok (.bool y.isTrue)] frames
  | .branch env x yes no => .evaluate env (if y.isTrue then yes else no) x frames
  | .base env x accesses =>
    choose (.access y accesses) env x [] none frames (accesses.flatMap Access.filters)
  | .choice combination env x chosen fault filters =>
    choose combination env x (y :: chosen) fault frames filters
  | .operand primitive env x chosen arguments =>
    operate primitive env x (y :: chosen) frames arguments
  | .argument name env x parameters arguments scope body =>
    enter env x body frames parameters arguments (.variable name y scope)

/-- What a fault leads to: only a choice holds it back, until the other filters have outputs. -/
def raise (fault : Fault) : List Frame → Option Task
  | [] => none
  | .choice combination env x chosen earlier filters :: frames =>
    some (choose combination env x chosen (some (earlier.getD fault)) frames filters)
  | _ :: frames => raise fault frames

end Specimen.Filter
