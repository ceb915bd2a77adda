/-
  PromptEngine.CommandLine.Options — the arguments of a command line, read from left to right.

  A value may stand behind its slot as an argument of its own, or be attached to it.  A slot is
  filled only when the next one begins or the line ends: until then its value is pending, and a
  fault of the value is told only after faults of what stands before it.
-/
import PromptEngine.CommandLine.Usage
import PromptEngine.Text.WhiteSpace

namespace PromptEngine.CommandLine

/-- What a command line asks for. -/
structure Options where
  /-- The file of the template; without one the template is read from the standard input. -/
  input : Option String := none
  /-- The values of variables. -/
  bindings : List (String × String) := []
  /-- The file of the settings. -/
  config : Option String := none
  trust : Bool := false
  blocks : Bool := false
  tools : Bool := false
  deriving DecidableEq, Repr

/-- Why the reading of a command line stops. -/
inductive Stop where
  | help
  | refused (error : UsageError)
  deriving DecidableEq, Repr

/-- A command line that is being read. -/
structure Draft where
  options : Options := {}
  /-- The slots that are filled, in the order in which they were filled first. -/
  filled : List Slot := []
  /-- A slot that has been named, with its value if that has come. -/
  pending : Option (Slot × Option String) := none
  /-- Two dashes have come: whatever follows is an input. -/
  inputsOnly : Bool := false
  deriving DecidableEq, Repr

/-! ## §1. Filling slots. -/

/-- A name and a value with an equals sign between them; the name has no white space around it and
is not empty. -/
def binding? (text : String) : Option (String × String) :=
  let name := trim (text.toList.takeWhile (· != '='))
  match text.toList.dropWhile (· != '=') with
  | '=' :: value => if name.isEmpty then none else some (String.ofList name, String.ofList value)
  | _ => none

namespace Options

/-- Put a value into its slot. -/
def put (options : Options) (value : String) : Slot → Except UsageError Options
  | .var =>
    match binding? value with
    | some binding => .ok { options with bindings := options.bindings ++ [binding] }
    | none => .error (.binding value)
  | .input =>
    if value.isEmpty then .error (.noValue .input) else .ok { options with input := some value }
  | .config =>
    if value.isEmpty then .error (.noValue .config) else .ok { options with config := some value }
  | .trust => .ok { options with trust := true }
  | .blocks => .ok { options with blocks := true }
  | .tools => .ok { options with tools := true }
  | .help => .ok options

end Options

namespace Draft

/-- Fill a slot. -/
def fill (d : Draft) (slot : Slot) (value? : Option String) : Except Stop Draft :=
  if slot == .help then .error .help
  else if slot.takesValue && value?.isNone then .error (.refused (.noValue slot))
  else if d.filled.contains slot && !slot.isRepeatable then .error (.refused (.repeated slot))
  else
    match d.options.put (value?.getD "") slot with
    | .ok options => .ok { d with options, filled := slot.joining d.filled, pending := none }
    | .error error => .error (.refused error)

/-- Fill the pending slot. -/
def settle (d : Draft) : Except Stop Draft :=
  match d.pending with
  | some (slot, value?) => fill { d with pending := none } slot value?
  | none => .ok d

/-- The slots that have been given a value, be it a wrong one.  A slot that may be given only once
does not count if it is pending for the second time. -/
def given (d : Draft) : List Slot :=
  match d.pending with
  | some (slot, some _) =>
    if d.filled.contains slot && !slot.isRepeatable then d.filled.erase slot
    else slot.joining d.filled
  | _ => d.filled

/-- Whether there is an input. -/
def hasInput (d : Draft) : Bool :=
  d.filled.contains .input || (d.pending.map (·.1)) == some .input

/-! ## §2. Reading arguments. -/

/-- Fill a slot with an attached value, or wait for its value. -/
def begin (d : Draft) (slot : Slot) (attached : Option String) : Except Stop Draft := do
  let d ← d.settle
  match attached with
  | some value => d.fill slot (some value)
  | none => if slot.takesValue then .ok { d with pending := some (slot, none) } else d.fill slot none

/-- Take an argument as the input. -/
def takeInput (d : Draft) (argument : String) : Except Stop Draft := do
  if d.hasInput then .error (.refused (.stray argument))
  else return { ← d.settle with pending := some (.input, some argument) }

/-- Take the name of a slot, behind two dashes; a value may be attached by an equals sign. -/
def takeLong (d : Draft) (text : List Char) : Except Stop Draft :=
  let name := String.ofList (text.takeWhile (· != '='))
  let attached := (text.dropWhile (· != '=')).tail?.map String.ofList
  match Slot.ofLong? name with
  | none => .error (.refused (.unknownName name d.given))
  | some slot =>
    match slot.takesValue, attached with
    | false, some value => .error (.refused (.needlessValue slot value !d.filled.isEmpty))
    | _, _ => d.begin slot attached

/-- Take the letters of slots, behind one dash.  What follows the letter of a slot with a value is
the value; an equals sign may stand in between. -/
def takeShort (d : Draft) : List Char → Except Stop Draft
  | [] => .ok d
  | letter :: rest =>
    match Slot.ofShort? letter with
    | none => .error (.refused (.unknownLetter letter))
    | some slot =>
      if slot.takesValue then
        match rest with
        | [] => d.begin slot none
        | '=' :: value => d.begin slot (some (String.ofList value))
        | value => d.begin slot (some (String.ofList value))
      else do
        let d ← d.begin slot none
        d.takeShort rest

/-- Take the next argument. -/
def take (d : Draft) (argument : String) : Except Stop Draft :=
  if d.inputsOnly then d.takeInput argument
  else
    match argument.toList with
    | ['-', '-'] => .ok { d with inputsOnly := true }
    | '-' :: '-' :: text => d.takeLong text
    | '-' :: letter :: rest => d.takeShort (letter :: rest)
    | _ =>
      match d.pending with
      | some (slot, none) => .ok { d with pending := some (slot, some argument) }
      | _ => d.takeInput argument

end Draft

/-- Read a command line. -/
def Options.read (arguments : List String) : Except Stop Options := do
  let d ← arguments.foldlM Draft.take {}
  return (← d.settle).options

end PromptEngine.CommandLine
