import CSharpLayout.Spelling
import CSharpLayout.Number.Binary
import CSharpLayout.Number.Decimal
import CSharpLayout.Number.Shortest
import CSharpLayout.Text.Escape
import CSharpLayout.Text.Split
import CSharpLayout.Json.Value
import CSharpLayout.Json.Number
import CSharpLayout.Json.Reader
import CSharpLayout.Json.Writer
import CSharpLayout.Json.Row
import CSharpLayout.Syntax.Token
import CSharpLayout.Syntax.Name
import CSharpLayout.Syntax.Operator
import CSharpLayout.Syntax.Trivia
import CSharpLayout.Syntax.Literal
import CSharpLayout.Syntax.Tree
import CSharpLayout.Syntax.Declaration
import CSharpLayout.Syntax.Build
import CSharpLayout.Syntax.Writing
import CSharpLayout.Syntax.WritingDeclarations
import CSharpLayout.Syntax.Reading
import CSharpLayout.Syntax.ReadingFamilies
import CSharpLayout.Syntax.ReadingDeclarations
import CSharpLayout.Node.Kind
import CSharpLayout.Node.Basic
import CSharpLayout.Node.Children
import CSharpLayout.Node.Walk
import CSharpLayout.Node.Fragment
import CSharpLayout.Event.Basic
import CSharpLayout.Event.Page
import CSharpLayout.Event.Spaced
import CSharpLayout.Event.Spans
import CSharpLayout.Policy.Option
import CSharpLayout.Policy.Basic
import CSharpLayout.Error
import CSharpLayout.Layout.Frame
import CSharpLayout.Layout.Piece
import CSharpLayout.Layout.Type
import CSharpLayout.Layout.Expression
import CSharpLayout.Layout.Statement
import CSharpLayout.Layout.Declaration
import CSharpLayout.Layout.Plan
import CSharpLayout.Layout.Slots
import CSharpLayout.Layout.Trace
import CSharpLayout.Layout.Print
import CSharpLayout.Toml.Value
import CSharpLayout.Toml.Text
import CSharpLayout.Toml.Reader
import CSharpLayout.Toml.Writer
import CSharpLayout.Yaml.Text
import CSharpLayout.Yaml.Reader
import CSharpLayout.Yaml.Writer
import CSharpLayout.Config.Basic
import CSharpLayout.Config.Dialect
import CSharpLayout.Config.Json
import CSharpLayout.Config.Schema
import CSharpLayout.Config.Toml
import CSharpLayout.Config.Yaml
import CSharpLayout.Config.Loading
import CSharpLayout.File.Path
import CSharpLayout.File.Tree
import CSharpLayout.Command.Arguments
import CSharpLayout.Command.Summary
import CSharpLayout.Command.Run
import CSharpLayout.Main
import CSharpLayout.Proofs.Plans
import CSharpLayout.Proofs.Run
import CSharpLayout.Proofs.Pieces
import CSharpLayout.Proofs.Deliveries
import CSharpLayout.Proofs.Strokes
import CSharpLayout.Proofs.LineStarts
import CSharpLayout.Proofs.Reflow
import CSharpLayout.Proofs.PolicyFreedom
import CSharpLayout.Proofs.Nesting
import CSharpLayout.Proofs.Traversal
import CSharpLayout.Proofs.Indentation
import CSharpLayout.Proofs.Lexeme
import CSharpLayout.Proofs.Spread
import CSharpLayout.Proofs.Lexing
import CSharpLayout.Proofs.Problems
import CSharpLayout.Proofs.WellFormed
import CSharpLayout.Proofs.Failure
import CSharpLayout.Proofs.Coverage
import CSharpLayout.Proofs.Locations
import CSharpLayout.Proofs.QualifiedNames
import CSharpLayout.Proofs.Opening
import CSharpLayout.Proofs.Overhang
import CSharpLayout.Proofs.Transparency
import CSharpLayout.Proofs.Delimiters
import CSharpLayout.Proofs.Context
import CSharpLayout.Proofs.Composition
import CSharpLayout.Proofs.Identifiers
import CSharpLayout.Proofs.Naming
import CSharpLayout.Proofs.Settings
import CSharpLayout.Proofs.Inheritance
import CSharpLayout.Proofs.Paths
import CSharpLayout.Proofs.Places
import CSharpLayout.Proofs.WriteThenCheck
import CSharpLayout.Proofs.Fields
import CSharpLayout.Proofs.Forms
import CSharpLayout.Proofs.Exactness
import CSharpLayout.Proofs.Restoring
import CSharpLayout.Proofs.RestoringDeclarations
import CSharpLayout.Proofs.RoundTrip
import CSharpLayout.Proofs.NeededSpaces
import CSharpLayout.Proofs.Visits
import CSharpLayout.Proofs.Margins
import CSharpLayout.Proofs.Bodies
import CSharpLayout.Proofs.LineDiscipline
import CSharpLayout.Proofs.Beginnings
import CSharpLayout.Proofs.BraceStyles
import CSharpLayout.Proofs.BraceSpacing
import CSharpLayout.Proofs.LiteralTexts
import CSharpLayout.Proofs.OwnNames
import CSharpLayout.Proofs.KeywordEscaping
import CSharpLayout.Proofs.HeaderTerminators
import CSharpLayout.Proofs.Outline
import CSharpLayout.Proofs.Separators
import CSharpLayout.Proofs.OmittedDelimiters
import CSharpLayout.Proofs.Labels
