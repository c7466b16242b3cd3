import SourceDigest.Analysis.Analyzer
import SourceDigest.Analysis.Memo
import SourceDigest.Analysis.RollingHash
import SourceDigest.Analysis.Strategy
import SourceDigest.Analysis.Surface
import SourceDigest.Analysis.Traits
import SourceDigest.CommandLine.Arguments
import SourceDigest.CommandLine.Run
import SourceDigest.CommandLine.Status
import SourceDigest.Digest.Basic
import SourceDigest.Digest.Markdown
import SourceDigest.Digest.OfProject
import SourceDigest.Digest.Record
import SourceDigest.Files.Discovery
import SourceDigest.Files.Glob
import SourceDigest.Files.Ignore
import SourceDigest.Files.Language
import SourceDigest.Files.Project
import SourceDigest.Files.World
import SourceDigest.Graph.Basic
import SourceDigest.Graph.Build
import SourceDigest.Graph.Centrality
import SourceDigest.Graph.Resolve
import SourceDigest.Json
import SourceDigest.Keyed
import SourceDigest.Log
import SourceDigest.Main
import SourceDigest.Markup.Colour
import SourceDigest.Markup.Emoji
import SourceDigest.Markup.EmojiNames
import SourceDigest.Markup.Mark
import SourceDigest.Markup.Style
import SourceDigest.Metrics
import SourceDigest.Notice
import SourceDigest.Number.Amount
import SourceDigest.Number.Binary
import SourceDigest.Number.Layout
import SourceDigest.Number.Reading
import SourceDigest.Number.Scalar
import SourceDigest.Number.Shortest
import SourceDigest.Options.Basic
import SourceDigest.Options.Environment
import SourceDigest.Options.Layers
import SourceDigest.Options.Patterns
import SourceDigest.Options.Template
import SourceDigest.Path
import SourceDigest.Proofs.Analysis.Captures
import SourceDigest.Proofs.Analysis.Edits
import SourceDigest.Proofs.Analysis.Fallback
import SourceDigest.Proofs.Analysis.Objects
import SourceDigest.Proofs.Analysis.Polynomial
import SourceDigest.Proofs.Analysis.Requests
import SourceDigest.Proofs.Analysis.Transparency
import SourceDigest.Proofs.Analysis.Unseen
import SourceDigest.Proofs.Files.Discovered
import SourceDigest.Proofs.Files.Filtering
import SourceDigest.Proofs.Files.GlobLanguage
import SourceDigest.Proofs.Files.GlobParts
import SourceDigest.Proofs.Files.Listing
import SourceDigest.Proofs.Files.Narrowing
import SourceDigest.Proofs.Files.Relisting
import SourceDigest.Proofs.Graph.Acyclic
import SourceDigest.Proofs.Graph.Batch
import SourceDigest.Proofs.Graph.Conservation
import SourceDigest.Proofs.Graph.Contraction
import SourceDigest.Proofs.Graph.Directories
import SourceDigest.Proofs.Graph.Edges
import SourceDigest.Proofs.Graph.Flow
import SourceDigest.Proofs.Graph.History
import SourceDigest.Proofs.Graph.Insertion
import SourceDigest.Proofs.Graph.Mass
import SourceDigest.Proofs.Graph.Reordering
import SourceDigest.Proofs.Graph.Resolution
import SourceDigest.Proofs.Graph.Rounds
import SourceDigest.Proofs.Keyed
import SourceDigest.Proofs.Options.Accepted
import SourceDigest.Proofs.Ranking.Batch
import SourceDigest.Proofs.Ranking.Locality
import SourceDigest.Proofs.Ranking.Order
import SourceDigest.Proofs.Ranking.Outcome
import SourceDigest.Proofs.Ranking.Reordering
import SourceDigest.Proofs.Ranking.TreeEdges
import SourceDigest.Proofs.Score.Blend
import SourceDigest.Proofs.Syntax.Order
import SourceDigest.Proofs.Syntax.Typed
import SourceDigest.Proofs.Text.Cutting
import SourceDigest.Proofs.Text.Matching
import SourceDigest.Proofs.Text.Utf8
import SourceDigest.Ranking
import SourceDigest.Score.Heuristic
import SourceDigest.Score.Structural
import SourceDigest.Syntax.Node
import SourceDigest.Syntax.Walk
import SourceDigest.Text.Blank
import SourceDigest.Text.ControlSequence
import SourceDigest.Text.Cut
import SourceDigest.Text.Digit
import SourceDigest.Text.Lower
import SourceDigest.Text.Matcher
import SourceDigest.Text.Printable
import SourceDigest.Text.Quoted
import SourceDigest.Text.Ranges
import SourceDigest.Text.Utf8
import SourceDigest.Text.Width
import SourceDigest.Text.Word
import SourceDigest.Tokens
import SourceDigest.Toml.Document
import SourceDigest.Toml.Lexeme
import SourceDigest.Value
import SourceDigest.Proofs.Toml.DistinctKeys
import SourceDigest.Proofs.Options.Table
import SourceDigest.Proofs.Options.Layering
import SourceDigest.Proofs.Options.Loading
import SourceDigest.Proofs.CommandLine.Overrides
import SourceDigest.Proofs.Options.Faults
import SourceDigest.Proofs.Ranking.Loaded
import SourceDigest.Proofs.Text.Words
import SourceDigest.Proofs.Tokens.Estimate
import SourceDigest.Proofs.Digest.Budget
import SourceDigest.Proofs.Digest.Nesting
import SourceDigest.Proofs.Graph.Directories
import SourceDigest.Proofs.Number.Whole
import SourceDigest.Proofs.Syntax.Counters
import SourceDigest.Proofs.Files.DirectoryGlobs
import SourceDigest.Proofs.Files.IgnoreRules
import SourceDigest.Proofs.Files.Pruning
import SourceDigest.Proofs.Files.FolderNames
import SourceDigest.Proofs.Files.AnyDepth
import SourceDigest.Proofs.Digest.Indentation
import SourceDigest.Proofs.Digest.Selection
import SourceDigest.Proofs.Number.Unsigned
import SourceDigest.Proofs.Options.Routes
import SourceDigest.Proofs.Digest.Fences
import SourceDigest.Proofs.Score.Direction
import SourceDigest.Proofs.Digest.Enclosure
import SourceDigest.Proofs.Text.Scanning
import SourceDigest.Proofs.Text.WholeWords
import SourceDigest.Proofs.Tokens.Spacing
import SourceDigest.Proofs.Analysis.Keywords
import SourceDigest.Proofs.Analysis.ImportLines
