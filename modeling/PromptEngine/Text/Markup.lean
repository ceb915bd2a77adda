/-
  PromptEngine.Text.Markup — escaping text that is embedded in markup.

  Five characters have entities.  They are replaced one after the other over the whole text, the
  ampersand first, so that no entity written by one step is touched by a later one.
-/

namespace PromptEngine.Markup

/-- Replace every occurrence of a character. -/
def replaceChar (c : Char) (replacement text : List Char) : List Char :=
  text.flatMap fun d => if d = c then replacement else [d]

/-- The characters that are escaped and their entities, in the order of replacement. -/
def entities : List (Char × List Char) :=
  [('&', "&amp;".toList), ('<', "&lt;".toList), ('>', "&gt;".toList), ('"', "&quot;".toList),
   ('\'', "&apos;".toList)]

/-- Escape a text for markup. -/
def escape (text : List Char) : List Char :=
  entities.foldl (fun text (c, entity) => replaceChar c entity text) text

/-- Escape a string for markup. -/
def escapeString (text : String) : String :=
  String.ofList (escape text.toList)

end PromptEngine.Markup
