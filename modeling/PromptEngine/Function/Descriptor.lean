/-
  PromptEngine.Function.Descriptor — what is known about a function without calling it.

  A descriptor names the function, its parameters and its kind.  `toolSchema` is the form in which
  the function is offered to a chat model.
-/
import PromptEngine.Json.Basic

namespace PromptEngine

/-- How a function comes to its result. -/
inductive FunctionKind where
  /-- It computes it. -/
  | native
  /-- It renders a template and asks a chat service. -/
  | prompt
  deriving DecidableEq, Repr

/-- A declared parameter. -/
structure Parameter where
  name : String
  description : Option String := none
  required : Bool := false
  /-- The value that stands in for a missing argument. -/
  default? : Option Json := none
  /-- The JSON type of the argument. -/
  typeName : Option String := none

/-- The description of a function. -/
structure Descriptor where
  /-- The collection that the function belongs to; empty until it is registered. -/
  collection : String := ""
  name : String
  description : Option String := none
  parameters : List Parameter := []
  returns : Option String := none
  kind : FunctionKind := .native

namespace FunctionKind

/-- The name of a kind. -/
def toText : FunctionKind → String
  | .native => "native"
  | .prompt => "prompt"

end FunctionKind

namespace Parameter

/-- The schema of the argument; its type is text unless declared otherwise. -/
def schema (p : Parameter) : Json :=
  .ofMembers <| Json.present
    [("type", some (.string (p.typeName.getD "string"))),
     ("description", p.description.map .string),
     ("default", p.default?)]

/-- The parameter as a JSON value. -/
def toJson (p : Parameter) : Json :=
  .object
    [("name", .string p.name), ("description", .ofString? p.description),
     ("required", .bool p.required), ("default", p.default?.getD .null),
     ("type_name", .ofString? p.typeName)]

end Parameter

namespace Descriptor

/-- The name of the function after that of its collection, with a separator between them. -/
def joinedName (d : Descriptor) (separator : String) : String :=
  if d.collection.isEmpty then d.name else d.collection ++ separator ++ d.name

/-- The name by which templates and error messages call the function. -/
def qualifiedName (d : Descriptor) : String :=
  d.joinedName "."

/-- The name by which chat models call the function. -/
def toolName (d : Descriptor) : String :=
  d.joinedName "-"

/-- The names of the required parameters. -/
def requiredNames (d : Descriptor) : List String :=
  (d.parameters.filter (·.required)).map (·.name)

/-- The function as a tool that a chat model may call. -/
def toolSchema (d : Descriptor) : Json :=
  .ofMembers
    [("type", .string "function"),
     ("function", .ofMembers
       [("name", .string d.toolName),
        ("description", .string (d.description.getD "")),
        ("parameters", .ofMembers
          [("type", .string "object"),
           ("properties", .ofMembers (d.parameters.map fun p => (p.name, p.schema))),
           ("required", .array (d.requiredNames.map .string))])])]

/-- The descriptor as a JSON value. -/
def toJson (d : Descriptor) : Json :=
  .object
    [("collection", .string d.collection), ("name", .string d.name),
     ("description", .ofString? d.description), ("parameters", .array (d.parameters.map (·.toJson))),
     ("return_description", .ofString? d.returns), ("kind", .string d.kind.toText)]

end Descriptor

end PromptEngine
