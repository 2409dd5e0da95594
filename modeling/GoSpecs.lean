import GoSpecs.Command.Arguments
import GoSpecs.Command.Help
import GoSpecs.Command.Run
import GoSpecs.Fault
import GoSpecs.Grammar.Cursor
import GoSpecs.Grammar.Declarations
import GoSpecs.Grammar.Expressions
import GoSpecs.Grammar.Fault
import GoSpecs.Grammar.File
import GoSpecs.Grammar.Rules
import GoSpecs.Grammar.Statements
import GoSpecs.Grammar.Types
import GoSpecs.Json.Basic
import GoSpecs.Json.Tree
import GoSpecs.Layout.Blocks
import GoSpecs.Layout.Columns
import GoSpecs.Layout.Declarations
import GoSpecs.Layout.File
import GoSpecs.Layout.Listing
import GoSpecs.Layout.Render
import GoSpecs.Layout.Spacing
import GoSpecs.Layout.Text
import GoSpecs.Main
import GoSpecs.Source.Lines
import GoSpecs.Source.Span
import GoSpecs.Spec.Container
import GoSpecs.Spec.Context
import GoSpecs.Spec.Conventions
import GoSpecs.Spec.Conversion
import GoSpecs.Spec.Imports
import GoSpecs.Spec.Native
import GoSpecs.Syntax.Build
import GoSpecs.Syntax.File
import GoSpecs.Syntax.Operator
import GoSpecs.Syntax.Retype
import GoSpecs.Syntax.Tree
import GoSpecs.Syntax.Walk
import GoSpecs.Text.Blank
import GoSpecs.Text.Digit
import GoSpecs.Text.Letter
import GoSpecs.Text.Lossy
import GoSpecs.Text.Quoted
import GoSpecs.Text.Range
import GoSpecs.Text.Split
import GoSpecs.Text.Uppercase
import GoSpecs.Text.Utf8
import GoSpecs.Text.Visible
import GoSpecs.Token.Basic
import GoSpecs.Token.Number
import GoSpecs.Token.Piece
import GoSpecs.Token.Stream
import GoSpecs.Workspace.Disk
import GoSpecs.Workspace.Error
import GoSpecs.Workspace.Host
import GoSpecs.Workspace.Package
import GoSpecs.Workspace.Path
import GoSpecs.Workspace.Run
import GoSpecs.Workspace.Suite
import GoSpecs.Proofs.Conversion.References
import GoSpecs.Proofs.Layout.Glyphs
import GoSpecs.Proofs.Grammar.Outcome
import GoSpecs.Proofs.Syntax.Erase
import GoSpecs.Proofs.Conversion.Twice
import GoSpecs.Proofs.Conversion.Substitution
import GoSpecs.Proofs.Conversion.Capture
import GoSpecs.Proofs.Syntax.Fill
import GoSpecs.Proofs.Conversion.Names
import GoSpecs.Proofs.Conversion.WellFormed
import GoSpecs.Proofs.Grammar.Comments
import GoSpecs.Proofs.Token.Lossless
import GoSpecs.Proofs.Workspace.Reach
import GoSpecs.Proofs.Workspace.Runs
import GoSpecs.Proofs.Workspace.Walked
import GoSpecs.Proofs.Workspace.Outputs
import GoSpecs.Proofs.Workspace.Effects
import GoSpecs.Proofs.Workspace.SecondRun
import GoSpecs.Proofs.Conversion.Exact
import GoSpecs.Proofs.Conversion.Leftovers
import GoSpecs.Proofs.Conversion.Retyped
import GoSpecs.Proofs.Conversion.ImportSet
import GoSpecs.Proofs.Syntax.Operation
import GoSpecs.Proofs.Grammar.Precedence
import GoSpecs.Proofs.Layout.Operators
import GoSpecs.Proofs.Workspace.Found
import GoSpecs.Proofs.Syntax.Extents
import GoSpecs.Proofs.Syntax.Relocate
import GoSpecs.Proofs.Grammar.Identifiers
import GoSpecs.Proofs.Grammar.Spans
import GoSpecs.Proofs.Grammar.Trace.File
import GoSpecs.Proofs.Token.Written
import GoSpecs.Proofs.Layout.Columns
import GoSpecs.Proofs.Layout.Level
import GoSpecs.Proofs.Workspace.Suites
import GoSpecs.Proofs.Source.Lookup
