import CaseSynthesis.Command.Basic
import CaseSynthesis.Command.Outcome
import CaseSynthesis.Command.Run
import CaseSynthesis.Command.Usage
import CaseSynthesis.Files.Basic
import CaseSynthesis.Files.Directory
import CaseSynthesis.Form.Node
import CaseSynthesis.Form.Output
import CaseSynthesis.Form.Report
import CaseSynthesis.Form.Request
import CaseSynthesis.Form.Switch
import CaseSynthesis.Grammar.Entry
import CaseSynthesis.Grammar.Expr
import CaseSynthesis.Grammar.Item
import CaseSynthesis.Grammar.Parser
import CaseSynthesis.Grammar.Path
import CaseSynthesis.Grammar.Pattern
import CaseSynthesis.Grammar.Phrase
import CaseSynthesis.Grammar.Statement
import CaseSynthesis.Grammar.Type
import CaseSynthesis.Json.Basic
import CaseSynthesis.Json.Decode
import CaseSynthesis.Json.Printer
import CaseSynthesis.Json.Reader
import CaseSynthesis.Json.Record
import CaseSynthesis.Main
import CaseSynthesis.Node
import CaseSynthesis.Output
import CaseSynthesis.Program.AddedCase
import CaseSynthesis.Program.CaseName
import CaseSynthesis.Program.Expansion
import CaseSynthesis.Program.Lowering
import CaseSynthesis.Program.Marked
import CaseSynthesis.Program.Reading
import CaseSynthesis.Program.Rendering
import CaseSynthesis.Program.Samples
import CaseSynthesis.Proofs.Acceptance
import CaseSynthesis.Proofs.Blanks
import CaseSynthesis.Proofs.CasePaths
import CaseSynthesis.Proofs.Cases
import CaseSynthesis.Proofs.Characters
import CaseSynthesis.Proofs.Conformances
import CaseSynthesis.Proofs.DeclarationOrder
import CaseSynthesis.Proofs.Diagnostics
import CaseSynthesis.Proofs.Dispatch
import CaseSynthesis.Proofs.DumpedSettings
import CaseSynthesis.Proofs.Escapes
import CaseSynthesis.Proofs.Expansion
import CaseSynthesis.Proofs.FallbackName
import CaseSynthesis.Proofs.FieldOrder
import CaseSynthesis.Proofs.FlatTables
import CaseSynthesis.Proofs.Forms
import CaseSynthesis.Proofs.Identifiers
import CaseSynthesis.Proofs.LateBinding
import CaseSynthesis.Proofs.Legible
import CaseSynthesis.Proofs.Lexed
import CaseSynthesis.Proofs.Lexing
import CaseSynthesis.Proofs.Literals
import CaseSynthesis.Proofs.Marks
import CaseSynthesis.Proofs.Numbers
import CaseSynthesis.Proofs.Parallel.Basic
import CaseSynthesis.Proofs.Parallel.Combinators
import CaseSynthesis.Proofs.Parallel.Declaration
import CaseSynthesis.Proofs.Parallel.Expr
import CaseSynthesis.Proofs.Parallel.Item
import CaseSynthesis.Proofs.Parallel.Path
import CaseSynthesis.Proofs.Parallel.Pattern
import CaseSynthesis.Proofs.Parallel.Phrases
import CaseSynthesis.Proofs.Parallel.Primitives
import CaseSynthesis.Proofs.Parallel.Statement
import CaseSynthesis.Proofs.Parallel.Type
import CaseSynthesis.Proofs.Parallel.Views
import CaseSynthesis.Proofs.Parsing
import CaseSynthesis.Proofs.Printing
import CaseSynthesis.Proofs.RawValues
import CaseSynthesis.Proofs.Readers
import CaseSynthesis.Proofs.Reading
import CaseSynthesis.Proofs.Reexpansion
import CaseSynthesis.Proofs.Refusals
import CaseSynthesis.Proofs.Relowering
import CaseSynthesis.Proofs.RenderedShapes
import CaseSynthesis.Proofs.Rendering
import CaseSynthesis.Proofs.Restoring
import CaseSynthesis.Proofs.Sites
import CaseSynthesis.Proofs.SourceTexts
import CaseSynthesis.Proofs.StringTypes
import CaseSynthesis.Proofs.Stringified
import CaseSynthesis.Proofs.Targets
import CaseSynthesis.Proofs.Trailing
import CaseSynthesis.Proofs.TypeShapes
import CaseSynthesis.Proofs.TypeTexts
import CaseSynthesis.Proofs.ValidSettings
import CaseSynthesis.Proofs.WrittenAttributes
import CaseSynthesis.Proofs.WrittenEnums
import CaseSynthesis.Proofs.WrittenStrings
import CaseSynthesis.Proofs.WrittenSwitches
import CaseSynthesis.Rule.Basic
import CaseSynthesis.Rule.Case
import CaseSynthesis.Rule.Codable
import CaseSynthesis.Rule.Enumeration
import CaseSynthesis.Rule.Nullable
import CaseSynthesis.Rule.Request
import CaseSynthesis.Rule.Simulation
import CaseSynthesis.Rule.Stringify
import CaseSynthesis.Settings.Basic
import CaseSynthesis.Settings.Document
import CaseSynthesis.Settings.Loading
import CaseSynthesis.Switch.Basic
import CaseSynthesis.Switch.Run
import CaseSynthesis.Text.Alphabetic
import CaseSynthesis.Text.Blank
import CaseSynthesis.Text.CharRange
import CaseSynthesis.Text.Decimal
import CaseSynthesis.Text.Hex
import CaseSynthesis.Text.IdentifierChar
import CaseSynthesis.Text.Numeric
import CaseSynthesis.Text.Printable
import CaseSynthesis.Text.Quoted
import CaseSynthesis.Text.Reader
import CaseSynthesis.Token.Basic
import CaseSynthesis.Token.Identifier
import CaseSynthesis.Token.Lexer
import CaseSynthesis.Token.Number
import CaseSynthesis.Token.StringLiteral
import CaseSynthesis.Toml.Basic
import CaseSynthesis.Toml.Reader
import CaseSynthesis.Toml.Scalar
import CaseSynthesis.Triage.Delivery
import CaseSynthesis.Triage.Summary
