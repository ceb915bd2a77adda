/-
  PromptEngine.Template.Basic — templates: text with code regions, read into blocks.

  A template is cut into pieces, and each piece becomes one block that spans exactly the bytes of
  the piece.  A region with nothing but blanks in it stays text, braces included.
-/
import PromptEngine.Template.Code
import PromptEngine.Template.Piece

namespace PromptEngine

/-- Remove the blanks at both ends of a text. -/
def trimBlanks (text : List Char) : List Char :=
  ((text.dropWhile isBlank).reverse.dropWhile isBlank).reverse

/-- The block that a piece stands for, if the piece begins at byte `pos`. -/
def Piece.block (pos : Nat) (piece : Piece) : Except SyntaxError Block :=
  match piece with
  | .plain text => .ok (.text (String.ofList text))
  | .region interior =>
    let code := trimBlanks interior
    if code.isEmpty then .ok (.text (String.ofList piece.raw))
    else Code.parse (String.ofList code) (pos + 2 + byteSize (interior.takeWhile isBlank))

/-- The blocks of consecutive pieces of which the first begins at byte `pos`. -/
def blocksFrom (pos : Nat) : List Piece → Except SyntaxError (List (Spanned Block))
  | [] => .ok []
  | piece :: rest => do
    let stop := pos + byteSize piece.raw
    let block ← piece.block pos
    let more ← blocksFrom stop rest
    return ⟨block, ⟨pos, stop⟩⟩ :: more

/-- A template: its text and its blocks, each with the bytes that it was read from. -/
structure Template where
  source : String
  blocks : List (Spanned Block)
  deriving DecidableEq, Repr

namespace Template

/-- Read a template. -/
def parse (source : String) : Except SyntaxError Template := do
  let blocks ← blocksFrom 0 (Piece.cut source.toList)
  return { source, blocks }

/-- The text that a block of the template was read from. -/
def raw (template : Template) (block : Spanned Block) : String :=
  String.ofList (slice template.source.toList block.span)

/-- Names are told apart up to the case of ASCII letters when variables are listed. -/
def sameName (a b : String) : Bool :=
  a.toLower == b.toLower

/-- Keep the first of several names that are the same up to case. -/
def distinctNames (names : List String) : List String :=
  names.foldl (fun seen name => if seen.any (sameName name) then seen else seen ++ [name]) []

/-- The variables of a template in the order of their first references, each spelled as there. -/
def variableNames (template : Template) : List String :=
  distinctNames (template.blocks.flatMap fun block => block.node.variableNames)

end Template

end PromptEngine
