/-
  PromptEngine.Template.Code — the grammar of a code block.

      content    ::= value | variable | invocation
      invocation ::= [word "."] word argument*
      argument   ::= value | variable | word "=" (value | variable)

  `Code.read` follows the grammar alone; `Code.check` then asks that variables have names, that
  positional arguments come first and that the names of named ones differ.  Where the grammar
  fails, the error stands at the furthest token that some alternative reached.  Where a token is
  missing at the end, it spans from the end of the block back to the end of the last token.
-/
import PromptEngine.Template.Block
import PromptEngine.Template.Lexer

namespace PromptEngine

namespace Code

/-! ## §1. The grammar. -/

/-- An argument in the order of the source, before the ordering rules are checked. -/
inductive CallArgument where
  | positional (operand : Spanned Operand)
  | named (argument : Spanned NamedOperand)
  deriving DecidableEq, Repr

/-- What the grammar recognises in a block. -/
inductive Content where
  | value (value : QuotedValue)
  | variable (name : Spanned String)
  | invocation (function : Spanned FunctionRef) (arguments : List CallArgument)
  deriving DecidableEq, Repr

/-- The operand that a token stands for. -/
def operand? (token : Spanned Token) : Option (Spanned Operand) :=
  match token.node with
  | .literal quote text => some ⟨.value ⟨text, quote⟩, token.span⟩
  | .variable name => some ⟨.variable name, token.span⟩
  | _ => none

/-- The place behind the tokens of a block that ends at byte `stop`: it starts at the end of the
block and stops where the last token does. -/
def placeBehind (stop : Nat) (tokens : List (Spanned Token)) : Span :=
  ⟨stop, (tokens.getLast?.map (·.span.stop)).getD stop⟩

/-- The failure of the grammar at the first of the remaining tokens, or `behind` all tokens. -/
def unexpectedAt (behind : Span) (rest : List (Spanned Token)) (expected : List Expectation) :
    SyntaxError :=
  match rest with
  | [] => { span := behind, fault := .unexpected none expected }
  | token :: _ => { span := token.span, fault := .unexpected (some token.node) expected }

/-- Read the arguments of an invocation up to the end of the block.  `here` are the expectations
that stand open in front of the first token. -/
def readArguments (behind : Span) (here : List Expectation) :
    List (Spanned Token) → Except SyntaxError (List CallArgument)
  | [] => .ok []
  | token :: rest =>
    match operand? token with
    | some operand =>
      (readArguments behind [.endOfBlock] rest).map (.positional operand :: ·)
    | none =>
      match token.node, rest with
      | .word name, ⟨.equals, _⟩ :: value :: rest =>
        match operand? value with
        | some operand =>
          let argument : Spanned NamedOperand :=
            ⟨⟨⟨name, token.span⟩, operand⟩, token.span.through operand.span⟩
          (readArguments behind [.endOfBlock] rest).map (.named argument :: ·)
        | none => .error (unexpectedAt behind (value :: rest) [])
      | .word _, [⟨.equals, _⟩] => .error (unexpectedAt behind [] [])
      | .word _, rest => .error (unexpectedAt behind rest [.token .equals])
      | _, _ => .error (unexpectedAt behind (token :: rest) here)

/-- A value or a variable has to be the whole block. -/
def readAlone (behind : Span) (content : Content) (rest : List (Spanned Token)) :
    Except SyntaxError Content :=
  match rest with
  | [] => .ok content
  | _ => .error (unexpectedAt behind rest [.endOfBlock])

/-- Read the tokens of a whole block. -/
def read (behind : Span) : List (Spanned Token) → Except SyntaxError Content
  | ⟨.literal quote text, _⟩ :: rest => readAlone behind (.value ⟨text, quote⟩) rest
  | ⟨.variable name, span⟩ :: rest => readAlone behind (.variable ⟨name, span⟩) rest
  | ⟨.word collection, first⟩ :: ⟨.dot, _⟩ :: ⟨.word name, last⟩ :: rest =>
    (readArguments behind [.endOfBlock] rest).map
      (.invocation ⟨⟨some collection, name⟩, first.through last⟩)
  | ⟨.word _, _⟩ :: ⟨.dot, _⟩ :: rest => .error (unexpectedAt behind rest [])
  | ⟨.word name, span⟩ :: rest =>
    (readArguments behind [.token .dot, .endOfBlock] rest).map
      (.invocation ⟨⟨none, name⟩, span⟩)
  | tokens => .error (unexpectedAt behind tokens [])

/-! ## §2. Names and order. -/

/-- A variable has to have a name. -/
def checkOperand (operand : Spanned Operand) : Except SyntaxError Unit :=
  match operand.node with
  | .variable "" => .error { span := operand.span, fault := .namelessVariable }
  | _ => .ok ()

/-- Sort arguments into positional and named ones.  `positional` are those before, the last one
first, and `named` are those before under their names. -/
def arrange (positional : List (Spanned Operand)) (named : Table (Spanned NamedOperand)) :
    List CallArgument → Except SyntaxError (List (Spanned Operand) × Table (Spanned NamedOperand))
  | [] => .ok (positional.reverse, named)
  | .positional operand :: rest => do
    checkOperand operand
    if named.isEmpty then arrange (operand :: positional) named rest
    else .error { span := operand.span, fault := .positionalAfterNamed }
  | .named argument :: rest => do
    checkOperand argument.node.operand
    let name := argument.node.name.node
    if named.contains name then
      .error { span := argument.span, fault := .repeatedName name }
    else arrange positional (named.insert name argument) rest

/-- Apply the rules on names and order. -/
def check : Content → Except SyntaxError Block
  | .value value => .ok (.value value)
  | .variable name => do
    checkOperand ⟨.variable name.node, name.span⟩
    return .variable name.node
  | .invocation function arguments => do
    let (positional, named) ← arrange [] .empty arguments
    return .invocation { function, positional, named }

/-! ## §3. The whole. -/

/-- Read the code of a block that begins at byte `offset` of its template. -/
def parse (code : String) (offset : Nat := 0) : Except SyntaxError Block :=
  let steps := do
    let tokens ← lex code.toList offset
    let content ← read (placeBehind (offset + code.utf8ByteSize) tokens) tokens
    check content
  steps.mapError (SyntaxError.inBlock code)

end Code

end PromptEngine
