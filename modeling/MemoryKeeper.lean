import MemoryKeeper.Command.Basic
import MemoryKeeper.Command.Checks
import MemoryKeeper.Command.Error
import MemoryKeeper.Command.Grammar
import MemoryKeeper.Command.Literal
import MemoryKeeper.Command.Operation
import MemoryKeeper.Command.Token
import MemoryKeeper.CommandLine.Arguments
import MemoryKeeper.CommandLine.Run
import MemoryKeeper.Config.Loading
import MemoryKeeper.Config.Settings
import MemoryKeeper.Config.Toml
import MemoryKeeper.Document.Basic
import MemoryKeeper.Document.Header
import MemoryKeeper.Execution.Error
import MemoryKeeper.Execution.Outcome
import MemoryKeeper.Execution.Session
import MemoryKeeper.Files.Failure
import MemoryKeeper.Files.Path
import MemoryKeeper.Files.Tree
import MemoryKeeper.Git.Configuration
import MemoryKeeper.Git.Directory
import MemoryKeeper.Git.Error
import MemoryKeeper.Git.Invocation
import MemoryKeeper.Git.Output
import MemoryKeeper.Git.Reference
import MemoryKeeper.Git.ReferenceList
import MemoryKeeper.Git.ReferenceStore
import MemoryKeeper.Git.Repository
import MemoryKeeper.Git.State
import MemoryKeeper.Json.Basic
import MemoryKeeper.Json.Printer
import MemoryKeeper.Json.Reader
import MemoryKeeper.Main
import MemoryKeeper.Memory.Depth
import MemoryKeeper.Memory.Lock
import MemoryKeeper.Memory.ObjectId
import MemoryKeeper.Memory.Slug
import MemoryKeeper.Memory.Storage
import MemoryKeeper.Memory.Store
import MemoryKeeper.Memory.Symbol
import MemoryKeeper.Memory.Value
import MemoryKeeper.Number.Decimal
import MemoryKeeper.Number.Double
import MemoryKeeper.Number.Notation
import MemoryKeeper.Number.Scaled
import MemoryKeeper.Number.Shortest
import MemoryKeeper.Text.Blank
import MemoryKeeper.Text.Concealed
import MemoryKeeper.Text.Lines
import MemoryKeeper.Text.Quoted
import MemoryKeeper.Text.Utf8
import MemoryKeeper.Time.Date
import MemoryKeeper.Time.Reader
import MemoryKeeper.Time.Timestamp
import MemoryKeeper.World.Basic
import MemoryKeeper.World.Program
import MemoryKeeper.Yaml.Block
import MemoryKeeper.Yaml.Character
import MemoryKeeper.Yaml.Cursor
import MemoryKeeper.Yaml.Mapping
import MemoryKeeper.Yaml.Property
import MemoryKeeper.Yaml.Scalar
import MemoryKeeper.Yaml.Token
import MemoryKeeper.Proofs.HeaderTokens
import MemoryKeeper.Proofs.Headers
import MemoryKeeper.Proofs.Places
import MemoryKeeper.Proofs.Vocabulary
import MemoryKeeper.Proofs.Documents
import MemoryKeeper.Proofs.Tasks
import MemoryKeeper.Proofs.Trees
import MemoryKeeper.Proofs.Writes
import MemoryKeeper.Proofs.Sessions
import MemoryKeeper.Proofs.Calls
import MemoryKeeper.Proofs.Options
import MemoryKeeper.Proofs.Rollback
import MemoryKeeper.Proofs.Rounding
import MemoryKeeper.Proofs.Shortest
import MemoryKeeper.Proofs.Numerals
import MemoryKeeper.Proofs.Printing
import MemoryKeeper.Proofs.Responses
import MemoryKeeper.Proofs.Atomicity
import MemoryKeeper.Proofs.Contents
import MemoryKeeper.Proofs.Revisions
import MemoryKeeper.Proofs.Deletions
import MemoryKeeper.Proofs.Listings
import MemoryKeeper.Proofs.Enumerations
import MemoryKeeper.Proofs.Registers
import MemoryKeeper.Proofs.Readings
import MemoryKeeper.Proofs.Sights
import MemoryKeeper.Proofs.Blanks
import MemoryKeeper.Proofs.Expressions
import MemoryKeeper.Proofs.Derivations
import MemoryKeeper.Proofs.Tokens
import MemoryKeeper.Proofs.Layouts
import MemoryKeeper.Proofs.Displays
import MemoryKeeper.Proofs.Commits
import MemoryKeeper.Proofs.Holding
import MemoryKeeper.Proofs.Interleaving
import MemoryKeeper.Proofs.Spellings
import MemoryKeeper.Proofs.Transcripts
import MemoryKeeper.Proofs.Truncation
import MemoryKeeper.Proofs.Working
import MemoryKeeper.Proofs.Teams
import MemoryKeeper.Proofs.Phases
import MemoryKeeper.Proofs.Guards
import MemoryKeeper.Proofs.Suggestions
import MemoryKeeper.Proofs.Exclusion
import MemoryKeeper.Proofs.Errands
import MemoryKeeper.Proofs.Observers
import MemoryKeeper.Proofs.Searches
import MemoryKeeper.Proofs.Lines
import MemoryKeeper.Proofs.Instants
import MemoryKeeper.Proofs.Fences
import MemoryKeeper.Proofs.Layers
import MemoryKeeper.Proofs.Arguments
import MemoryKeeper.Proofs.Containment
import MemoryKeeper.Proofs.References
import MemoryKeeper.Proofs.Descents
import MemoryKeeper.Proofs.Positions
import MemoryKeeper.Proofs.Requirements
import MemoryKeeper.Proofs.Logs
import MemoryKeeper.Proofs.Patterns
import MemoryKeeper.Proofs.Drafts
