/-
  PromptEngine.CommandLine.Basic — what the program does with its arguments, files and input.

  Everything the program needs from outside is an argument of `run`: the contents of files, the
  standard input and the clock.  Its result is all that the program tells.
-/
import PromptEngine.Builtin.Basic
import PromptEngine.CommandLine.Options
import PromptEngine.Config.Reader
import PromptEngine.Engine.Invoke
import PromptEngine.Report.Drawing
import PromptEngine.Template.Outline

namespace PromptEngine.CommandLine

/-! ## §1. Results and surroundings. -/

/-- What the program tells when it ends. -/
structure Finish where
  status : Nat
  output : String := ""
  complaint : String := ""
  deriving DecidableEq, Repr

/-- Why a file cannot be read: the words of the system, and its number for them. -/
structure FileFault where
  text : String
  code : Option Nat := none
  deriving DecidableEq, Repr

namespace FileFault

/-- The wording of a fault. -/
def message (fault : FileFault) : String :=
  match fault.code with
  | some code => s!"{fault.text} (os error {code})"
  | none => fault.text

/-- There is no such file. -/
def notFound : FileFault := ⟨"No such file or directory", some 2⟩

end FileFault

/-- What the program finds around itself. -/
structure Surroundings where
  file : String → Except FileFault String
  input : String
  clock : Clock

/-- A run that ends well. -/
def Finish.success (output : String) : Finish :=
  { status := 0, output }

/-- A run that ends with a complaint. -/
def Finish.failure (complaint : String) : Finish :=
  { status := 1, complaint }

/-! ## §2. Steps. -/

/-- The settings that the command line asks for. -/
def loadConfig (s : Surroundings) (options : Options) : Except Finish Config :=
  match options.config with
  | none => .ok {}
  | some path =>
    let refuse (reason : String) : Except Finish Config :=
      .error (.failure s!"Error loading config '{path}': {reason}\n")
    match s.file path with
    | .error fault => refuse ("Failed to read config file: " ++ fault.message)
    | .ok content =>
      match Config.read? content with
      | some config => .ok config
      | none => refuse "Failed to parse config TOML: not a configuration"

/-- The source of the template, and its name in reports. -/
def loadSource (s : Surroundings) (options : Options) : Except Finish (String × String) :=
  match options.input with
  | none => .ok (s.input, "<stdin>")
  | some path =>
    match s.file path with
    | .ok content => .ok (content, path)
    | .error fault => .error (.failure s!"Error reading file '{path}': {fault.message}\n")

/-- The template in a source. -/
def parseSource (source name : String) : Except Finish Template :=
  match Template.parse source with
  | .ok template => .ok template
  | .error error => .error (.failure (Report.draw error.diagnostic name source))

/-- An engine with the built-in functions. -/
def makeEngine (config : Config) (clock : Clock) : Except Finish (Engine Unit) :=
  match Engine.addBuiltins { config } clock with
  | (.ok (), engine) => .ok engine
  | (.error error, _) => .error (.failure s!"Error: {error.message}\n")

/-- The descriptions of the built-in functions for models. -/
def showTools (config : Config) (clock : Clock) : Except Finish Finish := do
  let engine ← makeEngine config clock
  return .success ((Json.array engine.registry.toolSchemas).pretty ++ "\n")

/-- The text that a template stands for.  The built-in functions call no other functions. -/
def renderTemplate (config : Config) (clock : Clock) (template : Template)
    (bindings : List (String × String)) : Except Finish Finish := do
  let engine ← makeEngine config clock
  let arguments := Arguments.ofList (bindings.map fun (name, value) => (name, .string value))
  match engine.renderTemplate (engine.caller 1) template arguments config.trust () with
  | some (.ok text, _) => return .success text
  | some (.error error, _) => .error (.failure s!"Error: {error.message}\n")
  | none => .error (.failure "")

/-! ## §3. The program. -/

/-- Do what the options ask for. -/
def perform (s : Surroundings) (options : Options) : Except Finish Finish := do
  let config ← loadConfig s options
  if options.tools then showTools config s.clock
  else do
    let (source, name) ← loadSource s options
    let template ← parseSource source name
    if options.blocks then return .success template.outline
    else
      let trust := { config.trust with everything := options.trust || config.trust.everything }
      renderTemplate { config with trust } s.clock template options.bindings

/-- The result of the program. -/
def run (s : Surroundings) (arguments : List String) : Finish :=
  match Options.read arguments with
  | .error .help => .success helpText
  | .error (.refused error) => { status := 2, complaint := error.message }
  | .ok options =>
    match perform s options with
    | .ok finish => finish
    | .error finish => finish

end PromptEngine.CommandLine
