import PropertyCatalog.BoundValue
import PropertyCatalog.Catalog
import PropertyCatalog.Coercion
import PropertyCatalog.CommandLine.Command
import PropertyCatalog.CommandLine.Failure
import PropertyCatalog.CommandLine.Layers
import PropertyCatalog.CommandLine.Listing
import PropertyCatalog.CommandLine.Option
import PropertyCatalog.CommandLine.Run
import PropertyCatalog.CommandLine.Verdict
import PropertyCatalog.Decimal.Binary64
import PropertyCatalog.Decimal.Layout
import PropertyCatalog.Decimal.Shortest
import PropertyCatalog.Declaration
import PropertyCatalog.Declaration.Check
import PropertyCatalog.Declaration.Formats
import PropertyCatalog.Declaration.Reading
import PropertyCatalog.Declaration.Tree
import PropertyCatalog.Document.Flatten
import PropertyCatalog.Document.Json.Numeral
import PropertyCatalog.Document.Json.Printer
import PropertyCatalog.Document.Json.Syntax
import PropertyCatalog.Document.Toml.Moment
import PropertyCatalog.Document.Toml.QuotedText
import PropertyCatalog.Document.Toml.Scalar
import PropertyCatalog.Document.Toml.Statement
import PropertyCatalog.Document.Toml.Table
import PropertyCatalog.Document.Toml.Value
import PropertyCatalog.Document.Tree
import PropertyCatalog.Document.Yaml.Cursor
import PropertyCatalog.Document.Yaml.Node
import PropertyCatalog.Document.Yaml.Reading
import PropertyCatalog.Document.Yaml.Resolution
import PropertyCatalog.Document.Yaml.Scalar
import PropertyCatalog.Document.Yaml.Token
import PropertyCatalog.Duration
import PropertyCatalog.Environment
import PropertyCatalog.FileFormat
import PropertyCatalog.Files
import PropertyCatalog.Journal
import PropertyCatalog.Label
import PropertyCatalog.Load
import PropertyCatalog.Main
import PropertyCatalog.PathName
import PropertyCatalog.Precedence
import PropertyCatalog.Proofs.Catalog.Collision
import PropertyCatalog.Proofs.Catalog.Correspondence
import PropertyCatalog.Proofs.Catalog.DiscoveryOrder
import PropertyCatalog.Proofs.Catalog.GroupOrder
import PropertyCatalog.Proofs.Catalog.Index
import PropertyCatalog.Proofs.Catalog.Representation
import PropertyCatalog.Proofs.Coercion.Displayed
import PropertyCatalog.Proofs.Coercion.Integer
import PropertyCatalog.Proofs.CommandLine.Aliases
import PropertyCatalog.Proofs.CommandLine.Blanks
import PropertyCatalog.Proofs.CommandLine.ExitCode
import PropertyCatalog.Proofs.CommandLine.Flags
import PropertyCatalog.Proofs.CommandLine.Layers
import PropertyCatalog.Proofs.CommandLine.Output
import PropertyCatalog.Proofs.CommandLine.Rendering
import PropertyCatalog.Proofs.Declaration.Problems
import PropertyCatalog.Proofs.Declaration.RoundTrip
import PropertyCatalog.Proofs.Document.Flatten
import PropertyCatalog.Proofs.Document.Integer
import PropertyCatalog.Proofs.Document.KeyPath
import PropertyCatalog.Proofs.Document.Leaves
import PropertyCatalog.Proofs.Document.Toml.Distinct
import PropertyCatalog.Proofs.Document.Toml.Flatten
import PropertyCatalog.Proofs.Document.Toml.Leaves
import PropertyCatalog.Proofs.Duration.Words
import PropertyCatalog.Proofs.Duration.Written
import PropertyCatalog.Proofs.Environment.Name
import PropertyCatalog.Proofs.Environment.Written
import PropertyCatalog.Proofs.Example.RoundTrip
import PropertyCatalog.Proofs.Example.Verdict
import PropertyCatalog.Proofs.Files.Extension
import PropertyCatalog.Proofs.Files.Loading
import PropertyCatalog.Proofs.Files.Writing
import PropertyCatalog.Proofs.Label.Boundaries
import PropertyCatalog.Proofs.Label.Derived
import PropertyCatalog.Proofs.Label.Resolved
import PropertyCatalog.Proofs.Label.Shape
import PropertyCatalog.Proofs.Label.Walk
import PropertyCatalog.Proofs.Label.Words
import PropertyCatalog.Proofs.Markdown.Bars
import PropertyCatalog.Proofs.Markdown.Table
import PropertyCatalog.Proofs.Outcome
import PropertyCatalog.Proofs.Precedence.Changes
import PropertyCatalog.Proofs.PropertiesText.Image
import PropertyCatalog.Proofs.PropertiesText.Joined
import PropertyCatalog.Proofs.PropertiesText.Lines
import PropertyCatalog.Proofs.Scan.Agreement
import PropertyCatalog.Proofs.Scan.Checks
import PropertyCatalog.Proofs.Scan.Extension
import PropertyCatalog.Proofs.Scan.FirstFault
import PropertyCatalog.Proofs.Scan.Optional
import PropertyCatalog.Proofs.Scan.Padding
import PropertyCatalog.Proofs.Scan.RequiredRule
import PropertyCatalog.Proofs.Scan.Sound
import PropertyCatalog.Proofs.Scan.Success
import PropertyCatalog.Proofs.Scan.WellFormed
import PropertyCatalog.Proofs.Text.Ascii
import PropertyCatalog.Proofs.Text.Numeral
import PropertyCatalog.Proofs.Text.Words
import PropertyCatalog.Proofs.Text.Yields
import PropertyCatalog.Proofs.TextMap.Writes
import PropertyCatalog.Proofs.TypeRegistry.History
import PropertyCatalog.Proofs.Validation.Bound
import PropertyCatalog.Proofs.Validation.Growth
import PropertyCatalog.Proofs.Validation.Outline
import PropertyCatalog.Proofs.Validation.Report
import PropertyCatalog.Proofs.Validation.RequiredRule
import PropertyCatalog.Properties
import PropertyCatalog.Property
import PropertyCatalog.PropertyPath
import PropertyCatalog.Render.Example
import PropertyCatalog.Render.Markdown
import PropertyCatalog.Render.Table
import PropertyCatalog.Render.Trees
import PropertyCatalog.Scan
import PropertyCatalog.SemanticType
import PropertyCatalog.Text.Affix
import PropertyCatalog.Text.Blank
import PropertyCatalog.Text.Letter
import PropertyCatalog.Text.LetterCase
import PropertyCatalog.Text.LetterCase.Classes
import PropertyCatalog.Text.LetterCase.Mapping
import PropertyCatalog.Text.Numeral
import PropertyCatalog.Text.Quoted
import PropertyCatalog.Text.Reader
import PropertyCatalog.Text.Span
import PropertyCatalog.Text.Visible
import PropertyCatalog.TextMap
import PropertyCatalog.TypeRegistry
import PropertyCatalog.Validation
