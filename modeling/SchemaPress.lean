import SchemaPress.CommandLine.Commands
import SchemaPress.CommandLine.Options
import SchemaPress.Decimal.Double
import SchemaPress.Decimal.Fixed
import SchemaPress.Decimal.Shortest
import SchemaPress.Declaration.Analysis
import SchemaPress.Declaration.Basic
import SchemaPress.Files.Change
import SchemaPress.Files.Failure
import SchemaPress.Files.Path
import SchemaPress.Files.Text
import SchemaPress.Files.Tree
import SchemaPress.Files.Walk
import SchemaPress.Files.Writer
import SchemaPress.Json.Basic
import SchemaPress.Json.Height
import SchemaPress.Json.Members
import SchemaPress.Json.Parser
import SchemaPress.Json.Raw
import SchemaPress.Json.Writer
import SchemaPress.Keyword
import SchemaPress.Main
import SchemaPress.Manifest
import SchemaPress.Name
import SchemaPress.Program
import SchemaPress.Proofs.Analysis.Aliases
import SchemaPress.Proofs.Analysis.BackEdge
import SchemaPress.Proofs.Analysis.Composition
import SchemaPress.Proofs.Analysis.Definitions
import SchemaPress.Proofs.Analysis.Derivation
import SchemaPress.Proofs.Analysis.Inherited
import SchemaPress.Proofs.Analysis.Log
import SchemaPress.Proofs.Analysis.Naming
import SchemaPress.Proofs.Analysis.Order
import SchemaPress.Proofs.Analysis.Reservation
import SchemaPress.Proofs.Analysis.Sharing
import SchemaPress.Proofs.Analysis.Termination
import SchemaPress.Proofs.Analysis.Values
import SchemaPress.Proofs.Analysis.Wording
import SchemaPress.Proofs.Decimal.Neighbourhood
import SchemaPress.Proofs.Decimal.Rounding
import SchemaPress.Proofs.Decimal.Shortest
import SchemaPress.Proofs.Files.Place
import SchemaPress.Proofs.Files.Replacement
import SchemaPress.Proofs.Files.Task
import SchemaPress.Proofs.Files.Touched
import SchemaPress.Proofs.Files.Unlinked
import SchemaPress.Proofs.Files.Walk
import SchemaPress.Proofs.Files.Writable
import SchemaPress.Proofs.Files.Writer
import SchemaPress.Proofs.Json.Distinct
import SchemaPress.Proofs.Json.Lines
import SchemaPress.Proofs.Json.Narrowing
import SchemaPress.Proofs.Json.Number
import SchemaPress.Proofs.Json.Quoted
import SchemaPress.Proofs.Json.Reading
import SchemaPress.Proofs.Json.Regular
import SchemaPress.Proofs.Json.RoundTrip
import SchemaPress.Proofs.Json.Word
import SchemaPress.Proofs.Name.Characters
import SchemaPress.Proofs.Name.Fresh
import SchemaPress.Proofs.Name.Legal
import SchemaPress.Proofs.Name.Usable
import SchemaPress.Proofs.Name.Words
import SchemaPress.Proofs.Reference.Acyclic
import SchemaPress.Proofs.Reference.Agreement
import SchemaPress.Proofs.Reference.Canonical
import SchemaPress.Proofs.Reference.Context
import SchemaPress.Proofs.Reference.Documents
import SchemaPress.Proofs.Reference.Enclosing
import SchemaPress.Proofs.Reference.Failure
import SchemaPress.Proofs.Reference.Inlining
import SchemaPress.Proofs.Reference.Lookup
import SchemaPress.Proofs.Reference.Occurrence
import SchemaPress.Proofs.Reference.Position
import SchemaPress.Proofs.Reference.Resolution
import SchemaPress.Proofs.Reference.Termination
import SchemaPress.Proofs.Reference.Visits
import SchemaPress.Proofs.Reference.Walk
import SchemaPress.Proofs.Release.Aggregation
import SchemaPress.Proofs.Release.Artifacts
import SchemaPress.Proofs.Release.Changes
import SchemaPress.Proofs.Release.Embedding
import SchemaPress.Proofs.Release.Footprint
import SchemaPress.Proofs.Release.Gate
import SchemaPress.Proofs.Release.Healing
import SchemaPress.Proofs.Release.Idempotence
import SchemaPress.Proofs.Release.Independence
import SchemaPress.Proofs.Release.Inputs
import SchemaPress.Proofs.Release.ManifestLines
import SchemaPress.Proofs.Release.Outputs
import SchemaPress.Proofs.Release.Restamping
import SchemaPress.Proofs.Release.Settings
import SchemaPress.Proofs.Release.Settled
import SchemaPress.Proofs.Release.Written
import SchemaPress.Proofs.Schema.Composition
import SchemaPress.Proofs.Schema.Folding
import SchemaPress.Proofs.Schema.Proper
import SchemaPress.Proofs.Schema.Regular
import SchemaPress.Proofs.Source.Comments
import SchemaPress.Proofs.Source.GoFields
import SchemaPress.Proofs.Source.GoNames
import SchemaPress.Proofs.Source.Lines
import SchemaPress.Proofs.Source.MemberNames
import SchemaPress.Proofs.Source.PythonKeys
import SchemaPress.Proofs.Source.PythonScope
import SchemaPress.Proofs.Source.PythonStatements
import SchemaPress.Proofs.Source.PythonWords
import SchemaPress.Proofs.Source.Rendering
import SchemaPress.Proofs.Source.RustFields
import SchemaPress.Proofs.Source.RustReferences
import SchemaPress.Proofs.Source.RustVariants
import SchemaPress.Proofs.Source.TypeScriptKeys
import SchemaPress.Proofs.Structure.Outline
import SchemaPress.Proofs.Structure.Reordering
import SchemaPress.Proofs.Structure.Text
import SchemaPress.Proofs.Text.GoLiteral
import SchemaPress.Proofs.Text.Pieces
import SchemaPress.Proofs.Text.RustLiteral
import SchemaPress.Proofs.Text.StringLiteral
import SchemaPress.Reference.Inline
import SchemaPress.Reference.Library
import SchemaPress.Reference.Pointer
import SchemaPress.Release.Compiler
import SchemaPress.Release.Config
import SchemaPress.Release.Crash
import SchemaPress.Release.Emission
import SchemaPress.Release.Error
import SchemaPress.Release.Host
import SchemaPress.Release.Loading
import SchemaPress.Release.Plugin
import SchemaPress.Schema.Basic
import SchemaPress.Schema.Depth
import SchemaPress.Schema.Merge
import SchemaPress.Schema.Restrict
import SchemaPress.Shell.Arithmetic
import SchemaPress.Shell.Builtin
import SchemaPress.Shell.Command
import SchemaPress.Shell.Condition
import SchemaPress.Shell.Expansion
import SchemaPress.Shell.Format
import SchemaPress.Shell.Launch
import SchemaPress.Shell.Options
import SchemaPress.Shell.Pattern
import SchemaPress.Shell.Reading
import SchemaPress.Shell.Redirecting
import SchemaPress.Shell.Run
import SchemaPress.Shell.Script
import SchemaPress.Shell.Session
import SchemaPress.Shell.Source
import SchemaPress.Shell.Start
import SchemaPress.Shell.Variables
import SchemaPress.Source.Basic
import SchemaPress.Source.Go
import SchemaPress.Source.Python
import SchemaPress.Source.Render
import SchemaPress.Source.Rust
import SchemaPress.Source.TypeScript
import SchemaPress.SourceCheck.Expression
import SchemaPress.SourceCheck.Lexer
import SchemaPress.SourceCheck.Part
import SchemaPress.SourceCheck.Pattern
import SchemaPress.SourceCheck.Quoted
import SchemaPress.SourceCheck.Rule
import SchemaPress.SourceCheck.Statement
import SchemaPress.SourceCheck.Token
import SchemaPress.SourceCheck.Verdict
import SchemaPress.Text.Basic
import SchemaPress.Text.CharacterName
import SchemaPress.Text.CharacterName.FromA
import SchemaPress.Text.CharacterName.FromC
import SchemaPress.Text.CharacterName.FromD
import SchemaPress.Text.CharacterName.FromI
import SchemaPress.Text.CharacterName.FromM
import SchemaPress.Text.CharacterName.FromS
import SchemaPress.Text.CharacterName.FromT
import SchemaPress.Text.ControlSequence
import SchemaPress.Text.Identifier
import SchemaPress.Text.Literal
import SchemaPress.Text.Printable
import SchemaPress.Text.Quote
import SchemaPress.Text.Rest
import SchemaPress.Text.Upper
import SchemaPress.Text.Utf8
import SchemaPress.Text.Words
import SchemaPress.Toml.Assembly
import SchemaPress.Toml.Basic
import SchemaPress.Toml.Edit
import SchemaPress.Toml.Parser
import SchemaPress.Toml.Printer
import SchemaPress.Toml.Scalar
import SchemaPress.Utility.Basic
import SchemaPress.Utility.Editing
import SchemaPress.Utility.Files
import SchemaPress.Utility.Lines
import SchemaPress.Utility.Names
import SchemaPress.Utility.Regex
import SchemaPress.Utility.Search
