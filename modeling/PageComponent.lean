import PageComponent.Command.Arguments
import PageComponent.Command.Request
import PageComponent.Command.Run
import PageComponent.Config
import PageComponent.Directive.Body
import PageComponent.Directive.Colour
import PageComponent.Directive.Pass
import PageComponent.Directive.Substitution
import PageComponent.Directive.TagStyle
import PageComponent.Directive.TopLevel
import PageComponent.Document
import PageComponent.Entries
import PageComponent.Explanation
import PageComponent.Expr.Basic
import PageComponent.Expr.Equality
import PageComponent.Expr.Error
import PageComponent.Expr.Evaluation
import PageComponent.Expr.Member
import PageComponent.Expr.Parser
import PageComponent.Expr.Place
import PageComponent.Expr.Printer
import PageComponent.Expr.Token
import PageComponent.Files
import PageComponent.Json.Reader
import PageComponent.Json.Writer
import PageComponent.Less.Item
import PageComponent.Less.Sheet
import PageComponent.Less.Value
import PageComponent.Live.Renderer
import PageComponent.Live.Session
import PageComponent.Live.View
import PageComponent.Main
import PageComponent.Markup.Event
import PageComponent.Markup.Nesting
import PageComponent.Markup.Node
import PageComponent.Markup.Printer
import PageComponent.Markup.Reference
import PageComponent.Markup.Reference.Names
import PageComponent.Markup.StartTag
import PageComponent.Markup.Tree
import PageComponent.Notice
import PageComponent.Number.Basic
import PageComponent.Number.Binary
import PageComponent.Number.Format
import PageComponent.Number.Literal
import PageComponent.Number.Shortest
import PageComponent.Proofs.Config
import PageComponent.Proofs.Directive.Attributes
import PageComponent.Proofs.Directive.ClassPairs
import PageComponent.Proofs.Directive.Membership
import PageComponent.Proofs.Directive.Overflow
import PageComponent.Proofs.Directive.Quotation
import PageComponent.Proofs.Directive.Segments
import PageComponent.Proofs.Directive.Settled
import PageComponent.Proofs.Directive.Steps
import PageComponent.Proofs.Directive.StyleMaps
import PageComponent.Proofs.Directive.Survival
import PageComponent.Proofs.Directive.TopLevel
import PageComponent.Proofs.Expr.Balance
import PageComponent.Proofs.Expr.Chains
import PageComponent.Proofs.Expr.Comparison
import PageComponent.Proofs.Expr.Confinement
import PageComponent.Proofs.Expr.Faults
import PageComponent.Proofs.Expr.Formed
import PageComponent.Proofs.Expr.Grammar
import PageComponent.Proofs.Expr.Integers
import PageComponent.Proofs.Expr.Items
import PageComponent.Proofs.Expr.Joining
import PageComponent.Proofs.Expr.Lookahead
import PageComponent.Proofs.Expr.Numerals
import PageComponent.Proofs.Expr.Parsing
import PageComponent.Proofs.Expr.Printing
import PageComponent.Proofs.Expr.Reading
import PageComponent.Proofs.Expr.Recognition
import PageComponent.Proofs.Expr.Scanning
import PageComponent.Proofs.Expr.Spelling
import PageComponent.Proofs.Expr.Tiling
import PageComponent.Proofs.Expr.Unambiguous
import PageComponent.Proofs.Json.Members
import PageComponent.Proofs.Live.Acceptance
import PageComponent.Proofs.Live.Closing
import PageComponent.Proofs.Live.Debounce
import PageComponent.Proofs.Live.Delivery
import PageComponent.Proofs.Live.Nested
import PageComponent.Proofs.Live.Objects
import PageComponent.Proofs.Live.Runs
import PageComponent.Proofs.Live.Sessions
import PageComponent.Proofs.Live.Views
import PageComponent.Proofs.Markup.Constructs
import PageComponent.Proofs.Markup.Escapes
import PageComponent.Proofs.Markup.Events
import PageComponent.Proofs.Markup.Marks
import PageComponent.Proofs.Markup.Outline
import PageComponent.Proofs.Markup.Readings
import PageComponent.Proofs.Markup.Retagging
import PageComponent.Proofs.Markup.RoundTrip
import PageComponent.Proofs.Markup.Scans
import PageComponent.Proofs.Markup.Searching
import PageComponent.Proofs.Markup.Shapes
import PageComponent.Proofs.Markup.Sources
import PageComponent.Proofs.Markup.StartTags
import PageComponent.Proofs.Markup.Texts
import PageComponent.Proofs.Markup.Transform
import PageComponent.Proofs.Number.Decimals
import PageComponent.Proofs.Number.Digits
import PageComponent.Proofs.Number.Halves
import PageComponent.Proofs.Number.Integers
import PageComponent.Proofs.Number.Layout
import PageComponent.Proofs.Number.Nearest
import PageComponent.Proofs.Number.Numerals
import PageComponent.Proofs.Number.Overflow
import PageComponent.Proofs.Number.Recovery
import PageComponent.Proofs.Number.Remainder
import PageComponent.Proofs.Number.Rounding
import PageComponent.Proofs.Outcome
import PageComponent.Proofs.Render.Outcome
import PageComponent.Proofs.Render.Root
import PageComponent.Proofs.Schema.Controls
import PageComponent.Proofs.Schema.Declared
import PageComponent.Proofs.Schema.Targets
import PageComponent.Proofs.Schema.WriteBack
import PageComponent.Proofs.Style.Arithmetic
import PageComponent.Proofs.Style.Blocks
import PageComponent.Proofs.Style.Flattening
import PageComponent.Proofs.Style.Folding
import PageComponent.Proofs.Style.Groups
import PageComponent.Proofs.Style.Literals
import PageComponent.Proofs.Style.Overflow
import PageComponent.Proofs.Style.Scope
import PageComponent.Proofs.Style.Spacing
import PageComponent.Proofs.Text.Characters
import PageComponent.Proofs.Text.Digits
import PageComponent.Proofs.Text.Lowercase
import PageComponent.Proofs.Text.Spans
import PageComponent.Proofs.Text.Trimming
import PageComponent.Proofs.Text.Words
import PageComponent.Proofs.Value.Merging
import PageComponent.Proofs.Value.Numerals
import PageComponent.Proofs.Value.Overrides
import PageComponent.Proofs.Value.Paths
import PageComponent.Proofs.Value.Showing
import PageComponent.Render.Component
import PageComponent.Render.Options
import PageComponent.Rest
import PageComponent.Schema.Control
import PageComponent.Schema.Declaration
import PageComponent.Schema.Defaults
import PageComponent.Schema.Document
import PageComponent.Schema.Edit
import PageComponent.Style.Compile
import PageComponent.Style.Fold
import PageComponent.Style.Printer
import PageComponent.Style.Source
import PageComponent.Style.Variables
import PageComponent.Text.Blank
import PageComponent.Text.Digit
import PageComponent.Text.Grouped
import PageComponent.Text.Letter
import PageComponent.Text.Lowercase
import PageComponent.Text.Printable
import PageComponent.Text.Quoted
import PageComponent.Text.Range
import PageComponent.Text.Replace
import PageComponent.Toml.Moment
import PageComponent.Toml.Reader
import PageComponent.Toml.Scalar
import PageComponent.Toml.Table
import PageComponent.Toml.Text
import PageComponent.Toml.Value
import PageComponent.Value.Basic
import PageComponent.Value.Conversion
import PageComponent.Value.Equality
import PageComponent.Value.Inspect
import PageComponent.Value.Merge
import PageComponent.Value.Path
import PageComponent.Version
