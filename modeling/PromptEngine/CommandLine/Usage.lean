/-
  PromptEngine.CommandLine.Usage — the help text, and what is said about a wrong command line.

  Messages about wrong command lines quote parts of it in bold letters, and are shown without
  control sequences.  The switch to other letters ends a sequence that a quoted part leaves open.
-/
import PromptEngine.CommandLine.Slot
import PromptEngine.Text.ControlSequence
import PromptEngine.Text.Similarity

namespace PromptEngine.CommandLine

/-! ## §1. Usage. -/

/-- The name of the program. -/
def programName : String := "prompt-kernel"

/-- How the program is used. -/
def usage : String :=
  programName ++ " [OPTIONS] [INPUT]"

/-- The help text. -/
def helpText : String :=
  "Render prompt templates with built-in functions\n\nUsage: " ++ usage ++
"

Arguments:
  [INPUT]  Template file (reads from stdin if not provided)

Options:
  -v, --var <NAME=VALUE>  Template variable as NAME=VALUE
  -c, --config <CONFIG>   Kernel configuration file (TOML format)
  -t, --trust             Trust all content: nothing is escaped
  -b, --blocks            Print the parsed block tree instead of rendering
      --tools             Print the tool schemas advertised to models and exit
  -h, --help              Print help
"

/-- All slots but the one for help, as alternatives. -/
def alternatives : String :=
  "<" ++ "|".intercalate ("INPUT" :: (Slot.named.filter (· != .help)).map Slot.shown) ++ ">"

/-- How the program is used with given slots: the named ones in the order given, then the input. -/
def usageWith (slots : List Slot) : String :=
  if slots.isEmpty then usage
  else
    let named := (slots.filter (· != .input)).map Slot.shown
    let input := if slots.contains .input then "<INPUT>" else Slot.input.shown
    " ".intercalate (programName :: named ++ [input])

/-- How the program is used with a slot, all others but the one for help being alternatives. -/
def usageAmong (slot : Slot) : String :=
  " ".intercalate
    (programName :: (if slot == .help then [slot.shown] else []) ++ [alternatives])

/-! ## §2. Wrong command lines. -/

/-- What can be wrong with a command line. -/
inductive UsageError where
  /-- The value of a variable that does not say the variable's name. -/
  | binding (value : String)
  | noValue (slot : Slot)
  | repeated (slot : Slot)
  /-- A value for a slot that takes none; `begun` tells whether a slot had been filled before. -/
  | needlessValue (slot : Slot) (value : String) (begun : Bool)
  /-- A second input. -/
  | stray (argument : String)
  | unknownLetter (letter : Char)
  /-- A name that no slot has, behind the slots that were given. -/
  | unknownName (name : String) (given : List Slot)
  deriving DecidableEq, Repr

/-- The slot whose name looks most like a word, if one looks enough like it.  Of two that look
equally like it the later one counts. -/
def similar? (word : String) : Option Slot :=
  let candidates := Slot.named.map fun slot =>
    (Similarity.jaro word.toList slot.long.toList, slot)
  let best := candidates.foldl
    (fun best candidate =>
      if candidate.1 ≤ 0.7 then best
      else
        match best with
        | some other => if other.1 ≤ candidate.1 then some candidate else best
        | none => some candidate)
    (none : Option (Float × Slot))
  best.map (·.2)

/-- A part of a command line in a message. -/
def quoted (part : String) : String :=
  "'" ++ ControlSequence.emphasised part ++ "'"

/-- The hint that an argument can be given as it is. -/
def literalTip (argument : String) : String :=
  "\n\n  tip: to pass " ++ quoted argument ++ " as a value, use " ++ quoted ("-- " ++ argument)

/-- What is said about an argument that is not known. -/
def unknownText (argument tip usage : String) : String :=
  "unexpected argument " ++ quoted argument ++ " found" ++ tip ++ "\n\nUsage: " ++ usage

namespace UsageError

/-- What is wrong, with control sequences. -/
def text : UsageError → String
  | .binding value =>
    "invalid value " ++ quoted value ++ " for " ++ quoted Slot.var.shown
      ++ ": expected NAME=VALUE, got '" ++ value ++ "'"
  | .noValue slot => "a value is required for " ++ quoted slot.shown ++ " but none was supplied"
  | .repeated slot =>
    "the argument " ++ quoted slot.shown ++ " cannot be used multiple times\n\nUsage: " ++ usage
  | .needlessValue slot value begun =>
    "unexpected value " ++ quoted value ++ " for " ++ quoted slot.shown
      ++ " found; no more were expected\n\nUsage: "
      ++ (if begun then usageAmong slot else usageWith [slot])
  | .stray argument => unknownText argument "" usage
  | .unknownLetter letter =>
    let argument := "-" ++ letter.toString
    unknownText argument (literalTip argument) usage
  | .unknownName name given =>
    let argument := "--" ++ name
    match similar? name with
    | some slot =>
      unknownText argument
        ("\n\n  tip: a similar argument exists: " ++ quoted ("--" ++ slot.long))
        (usageWith (slot.joining given))
    | none => unknownText argument (literalTip argument) (usageWith given)

/-- The message about a wrong command line. -/
def message (e : UsageError) : String :=
  ControlSequence.visible <|
    "error: " ++ e.text ++ "\n\nFor more information, try " ++ quoted "--help" ++ ".\n"

end UsageError

end PromptEngine.CommandLine
