import PatternGrammar.CommandLine.Arguments
import PatternGrammar.CommandLine.Run
import PatternGrammar.Description.Reader
import PatternGrammar.Event
import PatternGrammar.Files
import PatternGrammar.Format.Registry
import PatternGrammar.Format.Tag
import PatternGrammar.Format.Treeviz
import PatternGrammar.Grammar.Basic
import PatternGrammar.Grammar.Compiled
import PatternGrammar.Grammar.Expansion
import PatternGrammar.Grammar.Explanation
import PatternGrammar.Grammar.Lines
import PatternGrammar.Grammar.Reader
import PatternGrammar.Json.Basic
import PatternGrammar.Json.Reader
import PatternGrammar.Json.Text
import PatternGrammar.Literal.Block
import PatternGrammar.Literal.Normal
import PatternGrammar.Main
import PatternGrammar.Number.Double
import PatternGrammar.Process
import PatternGrammar.Proofs.Grammar.Compiled
import PatternGrammar.Proofs.Grammar.Explanation
import PatternGrammar.Proofs.Grammar.Order
import PatternGrammar.Proofs.Literal.Scanning
import PatternGrammar.Proofs.Regex.Matching
import PatternGrammar.Proofs.Regex.Soundness
import PatternGrammar.Proofs.Regex.Spans
import PatternGrammar.Proofs.Text.Slices
import PatternGrammar.Proofs.Tree.Arena
import PatternGrammar.Proofs.Tree.Depth
import PatternGrammar.Proofs.Tree.Descent
import PatternGrammar.Proofs.Tree.Run
import PatternGrammar.Proofs.Tree.Spans
import PatternGrammar.Proofs.Tree.Traversal
import PatternGrammar.Regex.Basic
import PatternGrammar.Regex.Error
import PatternGrammar.Regex.Expr
import PatternGrammar.Regex.Pattern
import PatternGrammar.Regex.Place
import PatternGrammar.Regex.Program
import PatternGrammar.Regex.Reader
import PatternGrammar.Regex.Reader.Class
import PatternGrammar.Regex.Reader.Escape
import PatternGrammar.Regex.Reader.Group
import PatternGrammar.Regex.Reader.Lexical
import PatternGrammar.Regex.Resolve
import PatternGrammar.Regex.Search
import PatternGrammar.Regex.Size
import PatternGrammar.Rule.Basic
import PatternGrammar.Rule.Json
import PatternGrammar.Rule.Quantifier
import PatternGrammar.Settings.Basic
import PatternGrammar.Settings.Loader
import PatternGrammar.Settings.Path
import PatternGrammar.Text.Blank
import PatternGrammar.Text.Letter
import PatternGrammar.Text.Name
import PatternGrammar.Text.Printable
import PatternGrammar.Text.Quoted
import PatternGrammar.Text.Span
import PatternGrammar.Toml.Basic
import PatternGrammar.Toml.Document
import PatternGrammar.Toml.Reader
import PatternGrammar.Toml.Scalar
import PatternGrammar.Tree.Arena
import PatternGrammar.Tree.Basic
import PatternGrammar.Tree.Builder
import PatternGrammar.Tree.Json
import PatternGrammar.Tree.Worklist
import PatternGrammar.Unicode.Age
import PatternGrammar.Unicode.Binary
import PatternGrammar.Unicode.Break
import PatternGrammar.Unicode.ByteRow
import PatternGrammar.Unicode.Category
import PatternGrammar.Unicode.CharSet
import PatternGrammar.Unicode.Folding
import PatternGrammar.Unicode.Property
import PatternGrammar.Unicode.Script
import PatternGrammar.Unicode.ScriptExtension
import PatternGrammar.Unicode.Table
import PatternGrammar.Unicode.Word
import PatternGrammar.Yaml.Scalar
import PatternGrammar.Yaml.Text
import PatternGrammar.Proofs.Description.Counts
import PatternGrammar.Proofs.Literal.NormalForm
import PatternGrammar.Proofs.Description.RoundTrip
import PatternGrammar.Proofs.Grammar.RoundTrip
import PatternGrammar.Proofs.Tree.Guard
import PatternGrammar.Proofs.Regex.Building
import PatternGrammar.Proofs.Regex.Completeness
import PatternGrammar.Proofs.Regex.Reader.Class
import PatternGrammar.Proofs.Regex.Reader.Group
import PatternGrammar.Proofs.Regex.Renumbering
import PatternGrammar.Proofs.Regex.Embedding
import PatternGrammar.Proofs.Regex.Assembly
import PatternGrammar.Proofs.Regex.Quantifiers
import PatternGrammar.Proofs.Regex.Rows
import PatternGrammar.Proofs.Grammar.Expansion
import PatternGrammar.Proofs.Regex.Inlining
import PatternGrammar.Proofs.Grammar.Derivation
import PatternGrammar.Proofs.Grammar.Patterns
import PatternGrammar.Proofs.Regex.Recording
import PatternGrammar.Proofs.Grammar.Groups
import PatternGrammar.Proofs.Tree.Growth
import PatternGrammar.Proofs.Tree.Recursion
import PatternGrammar.Proofs.Tree.Agreement
import PatternGrammar.Proofs.Tree.Siblings
import PatternGrammar.Proofs.Grammar.Validity
import PatternGrammar.Proofs.Grammar.Reach
import PatternGrammar.Proofs.Regex.Leftmost
import PatternGrammar.Proofs.Regex.Lengths
import PatternGrammar.Proofs.Regex.AllMatches
import PatternGrammar.Proofs.Tree.Anatomy
import PatternGrammar.Proofs.Tree.Edges
import PatternGrammar.Proofs.Tree.Mirroring
import PatternGrammar.Proofs.Tree.Rounds
import PatternGrammar.Proofs.Tree.Limit
import PatternGrammar.Proofs.Grammar.Permutation
import PatternGrammar.Proofs.Grammar.Faults
import PatternGrammar.Proofs.Description.Shapes
import PatternGrammar.Proofs.Literal.Blocks
import PatternGrammar.Proofs.Literal.Classes
import PatternGrammar.Proofs.Grammar.Substitution
import PatternGrammar.Proofs.Regex.Anchoring
import PatternGrammar.Proofs.Regex.Preference
import PatternGrammar.Proofs.Grammar.WholeTexts
import PatternGrammar.Proofs.Regex.Renaming.Lexical
import PatternGrammar.Proofs.Regex.Renaming.Class
import PatternGrammar.Proofs.Regex.Renaming.Token
import PatternGrammar.Proofs.Regex.Renaming.Whole
import PatternGrammar.Proofs.Grammar.Exclusion
import PatternGrammar.Proofs.Text.Lines
import PatternGrammar.Proofs.Grammar.Bytes
import PatternGrammar.Proofs.Grammar.Concatenation
import PatternGrammar.Proofs.Tree.Height
import PatternGrammar.Proofs.Tree.Places
import PatternGrammar.Proofs.Format.Comparison
import PatternGrammar.Proofs.Format.Tag
import PatternGrammar.Proofs.Format.Nesting
import PatternGrammar.Proofs.Format.Treeviz
import PatternGrammar.Proofs.Format.Json
import PatternGrammar.Proofs.Grammar.Calls
import PatternGrammar.Proofs.Process
import PatternGrammar.Proofs.Tree.Walks
import PatternGrammar.Proofs.Json.RoundTrip
import PatternGrammar.Proofs.Tree.Assembly
