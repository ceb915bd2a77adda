/-
  PromptEngine.Config.Basic — the settings of an engine, and whom a render trusts.
-/

namespace PromptEngine

/-- What a render puts into its text without escaping it. -/
structure Trust where
  /-- Nothing is escaped. -/
  everything : Bool := false
  /-- The values of these variables are not escaped. -/
  trusted : List String := []
  deriving DecidableEq, Repr

namespace Trust

/-- Whether the value of a variable is put in as it is. -/
def trustsVariable (t : Trust) (name : String) : Bool :=
  t.everything || t.trusted.contains name

/-- Whether the result of a function is put in as it is. -/
def trustsOutput (t : Trust) : Bool :=
  t.everything

end Trust

/-- The settings of an engine. -/
structure Config where
  /-- How often the hooks of one call may ask for another attempt. -/
  maxRepeats : Nat := 3
  /-- Whether the tool calls that a model requests are carried out. -/
  autoInvoke : Bool := true
  /-- How often one conversation may ask the model. -/
  maxAttempts : Nat := 5
  /-- Whom renders trust. -/
  trust : Trust := {}
  /-- Which messages are logged. -/
  logFilter : String := "warn"
  deriving DecidableEq, Repr

instance : Inhabited Config := ⟨{}⟩

end PromptEngine
