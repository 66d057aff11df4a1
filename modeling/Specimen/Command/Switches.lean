/-! Reading a command line made of switches. A switch takes no value, exactly one, or one or more. A
value may be attached (`--name=value`, `-nvalue`, `-n=value`), and is then the only one; else the
arguments that follow are values, up to one that begins with a hyphen. A hyphen alone is a value. -/
namespace Specimen.Command

/-- What a switch does to the record `σ` of everything read. -/
inductive Action (σ : Type) where
  | flag (set : σ → σ)
  /-- Takes one value, which it may refuse. -/
  | single (set : String → σ → Option σ)
  /-- Takes at least one value, and may be given again. -/
  | several (add : List String → σ → σ)
  | help

structure Switch (σ : Type) where
  long : String
  short : Option Char := none
  action : Action σ

/-- Why reading ends early. -/
inductive Halt where
  | help
  /-- The arguments make no sense. -/
  | misuse
  deriving DecidableEq

/-- What has been read. The arguments from `waiting` on still may become values of its switch. -/
structure Progress (σ : Type) where
  record : σ
  given : List String := []
  waiting : Option (Switch σ × List String) := none
  /-- No more switches follow. -/
  ended : Bool := false

namespace Progress
variable {σ : Type}

/-- Only a switch of several values may be given twice. -/
def once (progress : Progress σ) (switch : Switch σ) : Except Halt (Progress σ) :=
  if progress.given.contains switch.long then .error .misuse
  else .ok { progress with given := switch.long :: progress.given }

/-- Carries out a switch with its values. -/
def act (progress : Progress σ) (switch : Switch σ) (values : List String) :
    Except Halt (Progress σ) :=
  match switch.action, values with
  | .help, [] => .error .help
  | .flag set, [] =>
    (progress.once switch).map fun p => { p with record := set p.record }
  | .single set, [value] => do
    let p ← progress.once switch
    match set value p.record with
    | some record => return { p with record }
    | none => throw .misuse
  | .several add, value :: values =>
    .ok { progress with record := add (value :: values) progress.record }
  | _, _ => .error .misuse

/-- Carries out the switch that waits for values, if one does. -/
def settle (progress : Progress σ) : Except Halt (Progress σ) :=
  match progress.waiting with
  | some (switch, values) => act { progress with waiting := none } switch values.reverse
  | none => .ok progress

/-- A switch was named, perhaps with a value attached. -/
def meet (progress : Progress σ) (switch : Switch σ) (attached : Option String) :
    Except Halt (Progress σ) := do
  let progress ← progress.settle
  match attached, switch.action with
  | some value, _ => progress.act switch [value]
  | none, .flag _ | none, .help => progress.act switch []
  | none, _ => return { progress with waiting := some (switch, []) }

/-- Text that is not a switch: a value of the switch that waits for one. -/
def value (progress : Progress σ) (text : String) : Except Halt (Progress σ) :=
  match progress.waiting with
  | none => .error .misuse
  | some (switch, values) =>
    let progress := { progress with waiting := some (switch, text :: values) }
    match switch.action with
    | .single _ => progress.settle
    | _ => .ok progress

/-- The value after an equals sign, if there is one. -/
def attachedTo (name : List Char) : List Char × Option String :=
  match name.dropWhile (· != '=') with
  | _ :: value => (name.takeWhile (· != '='), some (String.ofList value))
  | [] => (name, none)

/-- The value that follows a short name in the same argument. -/
def attachedShort : List Char → Option String
  | [] => none
  | '=' :: value => some (String.ofList value)
  | value => some (String.ofList value)

/-- Short names in one argument: those without values may be followed by others. -/
def meetShort (switches : List (Switch σ)) (progress : Progress σ) :
    List Char → Except Halt (Progress σ)
  | [] => .ok progress
  | c :: cs =>
    match switches.find? (·.short == some c) with
    | none => .error .misuse
    | some switch =>
      match switch.action with
      | .flag _ | .help => do meetShort switches (← progress.meet switch none) cs
      | _ => progress.meet switch (attachedShort cs)

/-- Reads one argument. After `--` none is a switch, and there is nothing else for them to be. -/
def step (switches : List (Switch σ)) (progress : Progress σ) (argument : String) :
    Except Halt (Progress σ) :=
  if progress.ended then .error .misuse
  else match argument.toList with
    | ['-', '-'] => .ok { progress with ended := true }
    | '-' :: '-' :: cs =>
      let (name, attached) := attachedTo cs
      match switches.find? (·.long == String.ofList name) with
      | some switch => progress.meet switch attached
      | none => .error .misuse
    | '-' :: c :: cs => meetShort switches progress (c :: cs)
    | _ => progress.value argument

end Progress

/-- The record that the arguments make of an empty one. -/
def readSwitches {σ : Type} (switches : List (Switch σ)) (record : σ) (arguments : List String) :
    Except Halt σ := do
  let progress ← arguments.foldlM (Progress.step switches) ({ record } : Progress σ)
  return (← progress.settle).record

end Specimen.Command
