/-
  PromptEngine.Text.Identifier — names of collections, functions, parameters and variables.

  A name is a non-empty word over ASCII letters, digits and the underscore.  The alphabet is ASCII
  by definition of the template language, so core's ASCII character classes are exact here.
-/

namespace PromptEngine

/-- The characters that names are made of. -/
def isNameChar (c : Char) : Bool :=
  c.isAlphanum || c == '_'

/-- Whether a text may name a function or a collection. -/
def isIdentifier (text : String) : Bool :=
  match text.toList with
  | [] => false
  | cs => cs.all isNameChar

end PromptEngine
