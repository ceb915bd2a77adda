/-
  PromptEngine.Text.Outline — structured values on one line, for people who debug.

  A record shows its name and its fields, a variant its name and its parts, and texts stand in
  quotes.
-/
import PromptEngine.Text.Quoted
import PromptEngine.Text.Span

namespace PromptEngine.Outline

/-- Texts with commas between them. -/
def commas (items : List String) : String :=
  ", ".intercalate items

/-- A variant with its parts. -/
def variant (name : String) (parts : List String) : String :=
  name ++ "(" ++ commas parts ++ ")"

/-- A record with its fields. -/
def record (name : String) (fields : List (String × String)) : String :=
  name ++ " \x7b " ++ commas (fields.map fun (field, value) => field ++ ": " ++ value) ++ " \x7d"

/-- A list. -/
def list (items : List String) : String :=
  "[" ++ commas items ++ "]"

/-- A map from texts. -/
def map (entries : List (String × String)) : String :=
  "\x7b" ++ commas (entries.map fun (key, value) => Quoted.text key ++ ": " ++ value) ++ "\x7d"

/-- A value that may be absent. -/
def option : Option String → String
  | some value => variant "Some" [value]
  | none => "None"

/-- A truth value. -/
def bool : Bool → String
  | true => "true"
  | false => "false"

/-- A value with its place. -/
def spanned {α : Type} (outline : α → String) (s : Spanned α) : String :=
  record "Spanned" [("node", outline s.node), ("span", s.span.toText)]

end PromptEngine.Outline
