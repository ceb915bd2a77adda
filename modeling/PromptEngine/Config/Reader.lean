/-
  PromptEngine.Config.Reader — settings from a TOML document.

      [invocation]  max_repeats
      [tool_calls]  auto_invoke, max_auto_invoke_attempts
      [render]      allow_unsafe_content, trusted_variables
      [logging]     filter

  Sections and fields may be missing, and other members are passed over.  A section may also be
  written as an array of its fields in this order; a section that is a date has no fields.
-/
import PromptEngine.Config.Basic
import PromptEngine.Toml.Reader

namespace PromptEngine.Config

open Toml (Value Members)

/-! ## §1. Fields of a section. -/

/-- The fields that a section gives, by name or by place. -/
def fields? (declared : List String) : Value → Option Members
  | .table _ members => some members
  | .array items => some (declared.zip items)
  | .tables items => some (declared.zip (items.map (.table .headed)))
  | .moment _ => some []
  | _ => none

/-- A member of a table, which stands for `absent` if it is not there. -/
def field? {α : Type} (members : Members) (name : String) (absent : α)
    (read : Value → Option α) : Option α :=
  match members.lookup name with
  | none => some absent
  | some value => read value

/-- The fields of a section of a document; a missing section has none. -/
def sectionFields? (document : Members) (name : String) (declared : List String) :
    Option Members :=
  field? document name [] (fields? declared)

/-! ## §2. Leaves. -/

/-- A number that counts something. -/
def count? : Value → Option Nat
  | .integer n => if 0 ≤ n then some n.toNat else none
  | _ => none

/-- A truth value. -/
def bool? : Value → Option Bool
  | .bool b => some b
  | _ => none

/-- A text. -/
def text? : Value → Option String
  | .string s => some s
  | _ => none

/-- A list of texts. -/
def texts? : Value → Option (List String)
  | .array items => items.mapM text?
  | _ => none

/-! ## §3. Settings. -/

/-- The settings that a document gives. -/
def ofDocument? (document : Members) : Option Config := do
  let invocation ← sectionFields? document "invocation" ["max_repeats"]
  let toolCalls ← sectionFields? document "tool_calls" ["auto_invoke", "max_auto_invoke_attempts"]
  let render ← sectionFields? document "render" ["allow_unsafe_content", "trusted_variables"]
  let logging ← sectionFields? document "logging" ["filter"]
  let standard : Config := {}
  return {
    maxRepeats := ← field? invocation "max_repeats" standard.maxRepeats count?
    autoInvoke := ← field? toolCalls "auto_invoke" standard.autoInvoke bool?
    maxAttempts := ← field? toolCalls "max_auto_invoke_attempts" standard.maxAttempts count?
    trust := {
      everything := ← field? render "allow_unsafe_content" standard.trust.everything bool?
      trusted := ← field? render "trusted_variables" standard.trust.trusted texts? }
    logFilter := ← field? logging "filter" standard.logFilter text? }

/-- The settings that a TOML text says; nothing if it is no document, or a field has a value of
another kind. -/
def read? (text : String) : Option Config :=
  (Toml.read? text).bind ofDocument?

end PromptEngine.Config
