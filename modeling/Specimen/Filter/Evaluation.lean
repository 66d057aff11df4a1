import Specimen.Filter.Task

/-! Evaluation of filters, one task after the other. A filter that watches over the outputs of
another, such as an array that collects them, opens a level of tasks of its own; the innermost level
is left with an output, at the end of its tasks, or by a fault. -/
namespace Specimen.Filter

/-- A level of tasks inside of others: who watches over it, the frames that its outputs go through
afterwards, and the tasks outside. -/
structure Level where
  watch : Watch
  frames : List Frame
  tasks : List Task

structure State where
  tasks : List Task
  levels : List Level

inductive Progress where
  | running (state : State)
  | output (value : Value) (state : State)
  | finished
  | failed (fault : Fault)

namespace State

/-- Hands an output out of the innermost level. -/
def emit (y : Value) (s : State) : Progress :=
  match s.levels with
  | [] => .output y s
  | level :: levels =>
    let handOn (watch : Watch) : Progress :=
      let later :=
        if s.tasks.isEmpty then level.tasks
        else .resume watch s.tasks level.frames :: level.tasks
      .running ⟨.outcomes [.ok y] level.frames :: later, levels⟩
    match level.watch with
    | .collect items => .running ⟨s.tasks, { level with watch := .collect (y :: items) } :: levels⟩
    | .attempt => handOn .attempt
    | .otherwise _ env x g => if y.isTrue then handOn (.otherwise true env x g) else .running s
    | .first => .running ⟨.outcomes [.ok y] level.frames :: level.tasks, levels⟩

/-- Ends the innermost level when it has no tasks left. -/
def close : List Level → Progress
  | [] => .finished
  | level :: levels =>
    match level.watch with
    | .collect items =>
      .running ⟨.outcomes [.ok (.array items.reverse)] level.frames :: level.tasks, levels⟩
    | .otherwise false env x g => .running ⟨.evaluate env g x level.frames :: level.tasks, levels⟩
    | _ => .running ⟨level.tasks, levels⟩

/-- Ends levels by a fault, up to the first that is not concerned by it. -/
def fail (fault : Fault) : List Level → Progress
  | [] => .failed fault
  | level :: levels =>
    match level.watch, raise fault level.frames with
    | .attempt, _ => .running ⟨level.tasks, levels⟩
    | _, some task => .running ⟨task :: level.tasks, levels⟩
    | _, none => fail fault levels

/-- Begins to call what a name stands for. -/
def call (env : Environment) (name : String) (arguments : List Term) (x : Value)
    (frames : List Frame) (s : State) : State :=
  match env.target? name arguments.length with
  | some (.argument body scope) => { s with tasks := .evaluate scope body x frames :: s.tasks }
  | some (.definition d scope) =>
    { s with tasks := enter env x d.body frames d.parameters arguments scope :: s.tasks }
  | none =>
    match Primitive.ofName? name arguments.length with
    | some .first =>
      ⟨arguments.map fun f => .evaluate env f x [], ⟨.first, frames, s.tasks⟩ :: s.levels⟩
    | some primitive =>
      { s with tasks := operate primitive env x [] frames arguments :: s.tasks }
    | none => s

/-- Begins to evaluate a filter. -/
def evaluate (env : Environment) (f : Term) (x : Value) (frames : List Frame) (s : State) : State :=
  let go (tasks : List Task) : State := { s with tasks := tasks ++ s.tasks }
  let watchOver (watch : Watch) (f : Term) : State :=
    ⟨[.evaluate env f x []], ⟨watch, frames, s.tasks⟩ :: s.levels⟩
  match f with
  | .identity => go [.outcomes [.ok x] frames]
  | .number n => go [.outcomes [.ok (.number n)] frames]
  | .text fragments => go [choose (.text fragments) env x [] none frames (filtersIn fragments)]
  | .array none => go [.outcomes [.ok (.array [])] frames]
  | .array (some f) => watchOver (.collect []) f
  | .object members =>
    go [choose .object env x [] none frames (members.flatMap fun (key, f) => [key, f])]
  | .negate f => go [.evaluate env f x (.negate :: frames)]
  | .pipe f g => go [.evaluate env f x (.pipe env g :: frames)]
  | .bind f pattern g => go [.evaluate env f x (.bind env x pattern g :: frames)]
  | .comma f g => go [.evaluate env f x frames, .evaluate env g x frames]
  | .calculate operation f g => go [choose (.calculate operation) env x [] none frames [f, g]]
  | .compare relation f g => go [choose (.compare relation) env x [] none frames [f, g]]
  | .logic connective f g => go [.evaluate env f x (.decide connective env x g :: frames)]
  | .otherwise f g => watchOver (.otherwise false env x g) f
  | .branch f g h => go [.evaluate env f x (.branch env x g h :: frames)]
  | .define d f => go [.evaluate (.definition d env) f x frames]
  | .call name arguments => s.call env name arguments x frames
  | .variable name => go [.outcomes ((env.binding? name).toList.map .ok) frames]
  | .access f accesses => go [.evaluate env f x (.base env x accesses :: frames)]
  | .attempt f => watchOver .attempt f

/-- Takes up the next task. -/
def step (s : State) : Progress :=
  match s.tasks with
  | [] => close s.levels
  | .evaluate env f x frames :: tasks => .running (evaluate env f x frames ⟨tasks, s.levels⟩)
  | .outcomes [] _ :: tasks => .running ⟨tasks, s.levels⟩
  | .outcomes (.ok y :: rest) frames :: tasks =>
    let later := if rest.isEmpty then tasks else .outcomes rest frames :: tasks
    match frames with
    | [] => emit y ⟨later, s.levels⟩
    | frame :: frames => .running ⟨frame.receive y frames :: later, s.levels⟩
  | .outcomes (.error fault :: rest) frames :: tasks =>
    match raise fault frames with
    | some task => .running ⟨task :: .outcomes rest frames :: tasks, s.levels⟩
    | none => fail fault s.levels
  | .count step stop next frames :: tasks =>
    if Value.countsOn step stop next then
      let later := match Value.calculate .add next step with
        | .ok following => .count step stop following frames
        | .error fault => .outcomes [.error fault] frames
      .running ⟨.outcomes [.ok next] frames :: later :: tasks, s.levels⟩
    else .running ⟨tasks, s.levels⟩
  | .resume watch inner frames :: tasks => .running ⟨inner, ⟨watch, frames, tasks⟩ :: s.levels⟩

/-- All outputs in order, in front of those so far, which stand last first. -/
def outputs : Nat → State → List Value → Except Fault (List Value)
  | 0, _, _ => .error .tooLong
  | fuel + 1, s, found =>
    match s.step with
    | .running s => outputs fuel s found
    | .output y s => outputs fuel s (y :: found)
    | .finished => .ok found.reverse
    | .failed fault => .error fault

end State

/-- The outputs of a filter for a value, or the fault that ends them. -/
def Term.outputs (fuel : Nat) (env : Environment) (f : Term) (x : Value) :
    Except Fault (List Value) :=
  State.outputs fuel ⟨[.evaluate env f x []], []⟩ []

end Specimen.Filter
