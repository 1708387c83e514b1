import ScopeAlgebra.Atom
import ScopeAlgebra.Atoms.Normal
import ScopeAlgebra.Atoms.Resolve
import ScopeAlgebra.Catalog.Families
import ScopeAlgebra.Catalog.Item
import ScopeAlgebra.Catalog.Provider
import ScopeAlgebra.Catalog.Reference
import ScopeAlgebra.Catalog.Registry
import ScopeAlgebra.Catalog.Snapshot
import ScopeAlgebra.Cli.Command
import ScopeAlgebra.Cli.Files
import ScopeAlgebra.Cli.Options
import ScopeAlgebra.Cli.Run
import ScopeAlgebra.Console.Block
import ScopeAlgebra.Console.Cells
import ScopeAlgebra.Console.Color
import ScopeAlgebra.Console.Columns
import ScopeAlgebra.Console.Emoji
import ScopeAlgebra.Console.EmojiTable
import ScopeAlgebra.Console.Fault
import ScopeAlgebra.Console.Highlight
import ScopeAlgebra.Console.Layout
import ScopeAlgebra.Console.Literal
import ScopeAlgebra.Console.Literal.Token
import ScopeAlgebra.Console.Marked
import ScopeAlgebra.Console.Markup
import ScopeAlgebra.Console.Style
import ScopeAlgebra.Diagnostics
import ScopeAlgebra.Digest.Sha256
import ScopeAlgebra.Engine.Basic
import ScopeAlgebra.Engine.Intent
import ScopeAlgebra.Engine.Membership
import ScopeAlgebra.Error
import ScopeAlgebra.File
import ScopeAlgebra.Json.Basic
import ScopeAlgebra.Json.Binary
import ScopeAlgebra.Json.Parser
import ScopeAlgebra.Json.Printer
import ScopeAlgebra.Main
import ScopeAlgebra.Manifest
import ScopeAlgebra.Module
import ScopeAlgebra.Noted
import ScopeAlgebra.Pattern.Basic
import ScopeAlgebra.Pattern.Fault
import ScopeAlgebra.Pattern.Glob
import ScopeAlgebra.Pattern.Parser
import ScopeAlgebra.Pattern.Reader
import ScopeAlgebra.Pattern.Wildcard
import ScopeAlgebra.Plan
import ScopeAlgebra.Policy
import ScopeAlgebra.Predicate.Basic
import ScopeAlgebra.Predicate.Split
import ScopeAlgebra.Program.Basic
import ScopeAlgebra.Program.Check
import ScopeAlgebra.Program.Machine
import ScopeAlgebra.Proofs.Atoms.Content
import ScopeAlgebra.Proofs.Atoms.Denotation
import ScopeAlgebra.Proofs.Atoms.FailureMode
import ScopeAlgebra.Proofs.Atoms.Identity
import ScopeAlgebra.Proofs.Atoms.Lacking
import ScopeAlgebra.Proofs.Atoms.Lenient
import ScopeAlgebra.Proofs.Atoms.Normal
import ScopeAlgebra.Proofs.Atoms.Payload
import ScopeAlgebra.Proofs.Atoms.Resolve
import ScopeAlgebra.Proofs.Atoms.Settled
import ScopeAlgebra.Proofs.Catalog.Collision
import ScopeAlgebra.Proofs.Catalog.Consistency
import ScopeAlgebra.Proofs.Catalog.Families
import ScopeAlgebra.Proofs.Catalog.Isolation
import ScopeAlgebra.Proofs.Catalog.Items
import ScopeAlgebra.Proofs.Catalog.NamedScopes
import ScopeAlgebra.Proofs.Catalog.Order
import ScopeAlgebra.Proofs.Catalog.Providers
import ScopeAlgebra.Proofs.Catalog.Ranking
import ScopeAlgebra.Proofs.Catalog.Redacted
import ScopeAlgebra.Proofs.Catalog.Reference
import ScopeAlgebra.Proofs.Catalog.Registry
import ScopeAlgebra.Proofs.Catalog.Removal
import ScopeAlgebra.Proofs.Diagnostics
import ScopeAlgebra.Proofs.Engine.Artifacts
import ScopeAlgebra.Proofs.Engine.Blame
import ScopeAlgebra.Proofs.Engine.Completion
import ScopeAlgebra.Proofs.Engine.Focus
import ScopeAlgebra.Proofs.Engine.Intent
import ScopeAlgebra.Proofs.Engine.Leniency
import ScopeAlgebra.Proofs.Engine.Listed
import ScopeAlgebra.Proofs.Engine.Membership
import ScopeAlgebra.Proofs.Engine.Recompile
import ScopeAlgebra.Proofs.Engine.Shape
import ScopeAlgebra.Proofs.Engine.Stored
import ScopeAlgebra.Proofs.Json.Layout
import ScopeAlgebra.Proofs.Json.Numbers
import ScopeAlgebra.Proofs.Json.Strings
import ScopeAlgebra.Proofs.Json.Values
import ScopeAlgebra.Proofs.Manifest
import ScopeAlgebra.Proofs.Manifest.Urls
import ScopeAlgebra.Proofs.Noted
import ScopeAlgebra.Proofs.Pattern.Advance
import ScopeAlgebra.Proofs.Pattern.Canonical
import ScopeAlgebra.Proofs.Pattern.Composition
import ScopeAlgebra.Proofs.Pattern.Derivation
import ScopeAlgebra.Proofs.Pattern.Glob
import ScopeAlgebra.Proofs.Pattern.Grammar
import ScopeAlgebra.Proofs.Pattern.Margins
import ScopeAlgebra.Proofs.Pattern.Parser
import ScopeAlgebra.Proofs.Pattern.Phrase
import ScopeAlgebra.Proofs.Pattern.Render
import ScopeAlgebra.Proofs.Pattern.Scan
import ScopeAlgebra.Proofs.Pattern.Segments
import ScopeAlgebra.Proofs.Pattern.Term
import ScopeAlgebra.Proofs.Plan
import ScopeAlgebra.Proofs.Predicate.Assembled
import ScopeAlgebra.Proofs.Predicate.Completeness
import ScopeAlgebra.Proofs.Predicate.Split
import ScopeAlgebra.Proofs.Program.Blame
import ScopeAlgebra.Proofs.Program.Check
import ScopeAlgebra.Proofs.Program.Completion
import ScopeAlgebra.Proofs.Program.Evaluation
import ScopeAlgebra.Proofs.Program.Expr
import ScopeAlgebra.Proofs.Program.Leniency
import ScopeAlgebra.Proofs.Program.Patterns
import ScopeAlgebra.Proofs.Program.Pruning
import ScopeAlgebra.Proofs.Program.Shape
import ScopeAlgebra.Proofs.Schema.Reader
import ScopeAlgebra.Proofs.Schema.Written
import ScopeAlgebra.Proofs.Settings
import ScopeAlgebra.Proofs.Text.Blank
import ScopeAlgebra.Proofs.Text.Slice
import ScopeAlgebra.Proofs.Wire.Artifacts
import ScopeAlgebra.Proofs.Workspace.Directories
import ScopeAlgebra.Proofs.Workspace.Nesting
import ScopeAlgebra.Proofs.Workspace.Reachable
import ScopeAlgebra.Schema.Checked
import ScopeAlgebra.Schema.Field
import ScopeAlgebra.Schema.Integer
import ScopeAlgebra.Settings
import ScopeAlgebra.Shape
import ScopeAlgebra.Standard
import ScopeAlgebra.Text.Blank
import ScopeAlgebra.Text.Cased
import ScopeAlgebra.Text.CharName
import ScopeAlgebra.Text.CharNameTable
import ScopeAlgebra.Text.Digits
import ScopeAlgebra.Text.Letter
import ScopeAlgebra.Text.Lines
import ScopeAlgebra.Text.Lowercase
import ScopeAlgebra.Text.Numeral
import ScopeAlgebra.Text.Printable
import ScopeAlgebra.Text.Quoted
import ScopeAlgebra.Text.Ranges
import ScopeAlgebra.Text.Regex
import ScopeAlgebra.Text.Slice
import ScopeAlgebra.Text.Suffix
import ScopeAlgebra.Text.Width
import ScopeAlgebra.Vocabulary
import ScopeAlgebra.Wire.Answer
import ScopeAlgebra.Wire.Atom
import ScopeAlgebra.Wire.Item
import ScopeAlgebra.Wire.Manifest
import ScopeAlgebra.Wire.Program
import ScopeAlgebra.Workspace.Basic
import ScopeAlgebra.Workspace.Modules
import ScopeAlgebra.Workspace.Scopes
import ScopeAlgebra.Yaml.BlockText
import ScopeAlgebra.Yaml.Document
import ScopeAlgebra.Yaml.Folding
import ScopeAlgebra.Yaml.Node
import ScopeAlgebra.Yaml.Node.Parser
import ScopeAlgebra.Yaml.Plain
import ScopeAlgebra.Yaml.Property
import ScopeAlgebra.Yaml.Quoted
import ScopeAlgebra.Yaml.Scalar
import ScopeAlgebra.Yaml.Spot
import ScopeAlgebra.Yaml.Token
import ScopeAlgebra.Yaml.Token.Lexer
