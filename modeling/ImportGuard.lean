import ImportGuard.Calendar
import ImportGuard.Checker
import ImportGuard.Command
import ImportGuard.Config
import ImportGuard.Decimal.Binary
import ImportGuard.Decimal.Text
import ImportGuard.Failure
import ImportGuard.Files.Disk
import ImportGuard.Files.Path
import ImportGuard.Guidance
import ImportGuard.Lint
import ImportGuard.Log
import ImportGuard.Main
import ImportGuard.Naming
import ImportGuard.Pattern
import ImportGuard.Project
import ImportGuard.Proofs.Run
import ImportGuard.Record
import ImportGuard.Regex.CharClass
import ImportGuard.Regex.Error
import ImportGuard.Regex.Escape
import ImportGuard.Regex.FullMatch
import ImportGuard.Regex.Group
import ImportGuard.Regex.Match
import ImportGuard.Regex.Node
import ImportGuard.Regex.Parser
import ImportGuard.Regex.Reader
import ImportGuard.Registry
import ImportGuard.Rule
import ImportGuard.Scope
import ImportGuard.Services
import ImportGuard.Source.Expression
import ImportGuard.Source.File
import ImportGuard.Text.Base64
import ImportGuard.Text.Blank
import ImportGuard.Text.Case
import ImportGuard.Text.CharacterName
import ImportGuard.Text.CharacterName.Blocks
import ImportGuard.Text.CodeSet
import ImportGuard.Text.Dotted
import ImportGuard.Text.Identifier
import ImportGuard.Text.Letter
import ImportGuard.Text.Lines
import ImportGuard.Text.Pieces
import ImportGuard.Text.Printable
import ImportGuard.Text.Quoted
import ImportGuard.Toml.Document
import ImportGuard.Toml.Draft
import ImportGuard.Toml.Lexeme
import ImportGuard.Toml.Scalar
import ImportGuard.Tree
import ImportGuard.Value
import ImportGuard.Yaml.Cursor
import ImportGuard.Yaml.Document
import ImportGuard.Yaml.Layout
import ImportGuard.Yaml.Mark
import ImportGuard.Yaml.Node
import ImportGuard.Yaml.Scalar
import ImportGuard.Yaml.Text
import ImportGuard.Yaml.Token
import ImportGuard.Proofs.History
import ImportGuard.Proofs.Walk
import ImportGuard.Proofs.Ledger
import ImportGuard.Proofs.Coverage
import ImportGuard.Proofs.Hooks
import ImportGuard.Proofs.Isolation
import ImportGuard.Proofs.Callee
import ImportGuard.Proofs.Enclosure
import ImportGuard.Proofs.Lifecycle
import ImportGuard.Proofs.Comparison
import ImportGuard.Proofs.Refusal
import ImportGuard.Proofs.Subscription
import ImportGuard.Proofs.Compilation
import ImportGuard.Proofs.Installation
import ImportGuard.Proofs.Dotted
import ImportGuard.Proofs.Resolution
import ImportGuard.Proofs.Configuration
import ImportGuard.Proofs.Warnings
import ImportGuard.Proofs.ProjectFile
import ImportGuard.Proofs.Lookup
import ImportGuard.Proofs.Messages
import ImportGuard.Proofs.Arguments
import ImportGuard.Proofs.EmptyText
import ImportGuard.Proofs.Slots
import ImportGuard.Proofs.BadPattern
import ImportGuard.Proofs.Queue
import ImportGuard.Proofs.Handover
