import PromptEngine.Arguments
import PromptEngine.Builtin.Basic
import PromptEngine.Builtin.Math
import PromptEngine.Builtin.Text
import PromptEngine.Chat.Accumulator
import PromptEngine.Chat.Fragment
import PromptEngine.Chat.Message
import PromptEngine.Chat.ToolArguments
import PromptEngine.Chat.WireFormat
import PromptEngine.CommandLine.Basic
import PromptEngine.CommandLine.Options
import PromptEngine.CommandLine.Slot
import PromptEngine.CommandLine.Usage
import PromptEngine.Config.Basic
import PromptEngine.Config.Reader
import PromptEngine.Decimal.Real
import PromptEngine.Decimal.Shortest
import PromptEngine.Engine.Basic
import PromptEngine.Engine.Conversation
import PromptEngine.Engine.Error
import PromptEngine.Engine.Exec
import PromptEngine.Engine.Function
import PromptEngine.Engine.Hook
import PromptEngine.Engine.Invoke
import PromptEngine.Engine.Outline
import PromptEngine.Engine.Pipeline
import PromptEngine.Engine.Registry
import PromptEngine.Engine.Render
import PromptEngine.Engine.Round
import PromptEngine.Function.Binding
import PromptEngine.Function.Descriptor
import PromptEngine.Function.Result
import PromptEngine.Json.Basic
import PromptEngine.Json.Document
import PromptEngine.Json.Number
import PromptEngine.Json.Printer
import PromptEngine.Json.Reader
import PromptEngine.Json.Record
import PromptEngine.Main
import PromptEngine.Report.Drawing
import PromptEngine.Report.Source
import PromptEngine.Table
import PromptEngine.Template.Basic
import PromptEngine.Template.Block
import PromptEngine.Template.Code
import PromptEngine.Template.Lexer
import PromptEngine.Template.Outline
import PromptEngine.Template.Piece
import PromptEngine.Template.SyntaxError
import PromptEngine.Template.Token
import PromptEngine.Text.Casing
import PromptEngine.Text.CasingTable
import PromptEngine.Text.Identifier
import PromptEngine.Text.Markup
import PromptEngine.Text.Outline
import PromptEngine.Text.PrintableTable
import PromptEngine.Text.Quoted
import PromptEngine.Text.Similarity
import PromptEngine.Text.Span
import PromptEngine.Text.WhiteSpace
import PromptEngine.Text.Width
import PromptEngine.Text.WidthTable
import PromptEngine.Toml.Quoted
import PromptEngine.Toml.Reader
import PromptEngine.Toml.Scalar
import PromptEngine.Toml.Value
import PromptEngine.Proofs.Template.Bare
import PromptEngine.Proofs.Template.Lexing
import PromptEngine.Proofs.Template.Grammar
import PromptEngine.Proofs.Template.Cutting
import PromptEngine.Proofs.Template.RoundTrip
import PromptEngine.Proofs.Engine.Conversation
import PromptEngine.Proofs.Engine.Attempts
import PromptEngine.Proofs.Engine.RenderSafety
import PromptEngine.Proofs.Template.Literals
import PromptEngine.Proofs.Template.Regions
import PromptEngine.Proofs.Template.Tiling
import PromptEngine.Proofs.Template.Shift
import PromptEngine.Proofs.Template.Lexemes
import PromptEngine.Proofs.Template.Agreement
import PromptEngine.Proofs.Chat.Aggregation
import PromptEngine.Proofs.Chat.Regrouping
import PromptEngine.Proofs.Engine.Registration
import PromptEngine.Proofs.Engine.Simulation
import PromptEngine.Proofs.Engine.Refusal
import PromptEngine.Proofs.Engine.Streaming
import PromptEngine.Proofs.Template.Border
import PromptEngine.Proofs.Table
import PromptEngine.Proofs.Engine.Reachable
import PromptEngine.Proofs.Json.Objects
import PromptEngine.Proofs.Engine.ToolJobs
import PromptEngine.Proofs.Engine.Tools
import PromptEngine.Proofs.Engine.Asking
import PromptEngine.Proofs.Engine.Nesting
import PromptEngine.Proofs.Engine.Failure
import PromptEngine.Proofs.Engine.RenderTrust
import PromptEngine.Proofs.Template.Variables
import PromptEngine.Proofs.Engine.Declared
import PromptEngine.Proofs.Json.Scalars
import PromptEngine.Proofs.Json.Printing
import PromptEngine.Proofs.Json.Records
import PromptEngine.Proofs.Chat.WireFormat
import PromptEngine.Proofs.Chat.Interleaving
import PromptEngine.Proofs.Engine.LastWriter
import PromptEngine.Proofs.Template.Readings
import PromptEngine.Proofs.Engine.Beside
import PromptEngine.Proofs.Engine.Observers
import PromptEngine.Proofs.Engine.Answers
import PromptEngine.Proofs.Engine.Handover
import PromptEngine.Proofs.Engine.Rendering
import PromptEngine.Proofs.Engine.Hearing
import PromptEngine.Proofs.Function.Operands
import PromptEngine.Proofs.Function.Defaults
import PromptEngine.Proofs.Template.Layout
import PromptEngine.Proofs.Template.Places
import PromptEngine.Proofs.Template.Spans
import PromptEngine.Proofs.Engine.Merging
import PromptEngine.Proofs.Engine.Isolation
import PromptEngine.Proofs.Engine.Round
import PromptEngine.Proofs.Engine.Selection
import PromptEngine.Proofs.Text.Unescaping
import PromptEngine.Proofs.Text.Numerals
import PromptEngine.Proofs.Engine.Handles
import PromptEngine.Proofs.Chat.Naming
import PromptEngine.Proofs.Report.Lines
import PromptEngine.Proofs.Report.Heading
import PromptEngine.Proofs.Template.References
import PromptEngine.Proofs.Template.Listing
