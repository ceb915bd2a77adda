/-
  PromptEngine.CommandLine.Slot — what can be given on the command line, and how it is shown.
-/

namespace PromptEngine.CommandLine

/-- The places that arguments can go to. -/
inductive Slot where
  | input
  | var
  | config
  | trust
  | blocks
  | tools
  | help
  deriving DecidableEq, Repr

namespace Slot

/-- The slots that have a name, in the order in which they are listed. -/
def named : List Slot :=
  [.var, .config, .trust, .blocks, .tools, .help]

/-- The name of a slot behind two dashes. -/
def long : Slot → String
  | .input => ""
  | .var => "var"
  | .config => "config"
  | .trust => "trust"
  | .blocks => "blocks"
  | .tools => "tools"
  | .help => "help"

/-- The letter of a slot behind one dash. -/
def short? : Slot → Option Char
  | .var => some 'v'
  | .config => some 'c'
  | .trust => some 't'
  | .blocks => some 'b'
  | .help => some 'h'
  | .input | .tools => none

/-- What the value of a slot is called, if it takes one. -/
def valueName? : Slot → Option String
  | .input => some "INPUT"
  | .var => some "NAME=VALUE"
  | .config => some "CONFIG"
  | _ => none

/-- Whether a slot takes a value. -/
def takesValue (slot : Slot) : Bool :=
  slot.valueName?.isSome

/-- Whether a slot may be given more than once. -/
def isRepeatable (slot : Slot) : Bool :=
  slot == .var

/-- How a slot is shown in messages. -/
def shown (slot : Slot) : String :=
  match slot, slot.valueName? with
  | .input, _ => "[INPUT]"
  | _, some value => "--" ++ slot.long ++ " <" ++ value ++ ">"
  | _, none => "--" ++ slot.long

/-- The slot behind others, unless it is one of them. -/
def joining (slot : Slot) (slots : List Slot) : List Slot :=
  if slots.contains slot then slots else slots ++ [slot]

/-- The slot with a name. -/
def ofLong? (name : String) : Option Slot :=
  named.find? (·.long == name)

/-- The slot with a letter. -/
def ofShort? (letter : Char) : Option Slot :=
  named.find? (·.short? == some letter)

end Slot

end PromptEngine.CommandLine
