import GraphSchema.CommandLine.Arguments
import GraphSchema.CommandLine.Help
import GraphSchema.CommandLine.Run
import GraphSchema.Data.Checked
import GraphSchema.Data.Json
import GraphSchema.Data.Value
import GraphSchema.Delivery
import GraphSchema.Files.Disk
import GraphSchema.Files.Path
import GraphSchema.Graph.Basic
import GraphSchema.Graph.Document
import GraphSchema.Graph.Edit
import GraphSchema.Graph.File
import GraphSchema.Graph.Registry
import GraphSchema.Graph.Store
import GraphSchema.Graph.Validation
import GraphSchema.Logging.Event
import GraphSchema.Logging.Logger
import GraphSchema.Main
import GraphSchema.Number.Binary64
import GraphSchema.Number.Numeral
import GraphSchema.Number.Shortest
import GraphSchema.Schema.Diagnostics
import GraphSchema.Schema.Document
import GraphSchema.Schema.Field
import GraphSchema.Schema.Generation
import GraphSchema.Schema.Naming
import GraphSchema.Schema.Types
import GraphSchema.Settings.Basic
import GraphSchema.Settings.EnvFile
import GraphSchema.Settings.Sources
import GraphSchema.Text.Blank
import GraphSchema.Text.Case
import GraphSchema.Text.CaseTable
import GraphSchema.Text.CodePoint
import GraphSchema.Text.Digit
import GraphSchema.Text.Encoding
import GraphSchema.Text.Identifier
import GraphSchema.Text.Lines
import GraphSchema.Text.Printable
import GraphSchema.Text.Quoted
import GraphSchema.Text.Ranges
import GraphSchema.Proofs.Data.Inner
import GraphSchema.Proofs.Graph.Faults
import GraphSchema.Proofs.Graph.Keyed
import GraphSchema.Proofs.Graph.Effect
import GraphSchema.Proofs.Graph.Integrity
import GraphSchema.Proofs.Graph.Undoing
import GraphSchema.Proofs.Schema.Outline
import GraphSchema.Proofs.Schema.Printing
import GraphSchema.Proofs.Text.Collapse
import GraphSchema.Proofs.Text.Lines
import GraphSchema.Proofs.Text.Passages
import GraphSchema.Proofs.Text.Flush
import GraphSchema.Proofs.Text.Names
import GraphSchema.Proofs.Text.Identifiers
import GraphSchema.Proofs.Text.Whole
import GraphSchema.Proofs.Schema.Resolution
import GraphSchema.Proofs.Schema.Provenance
import GraphSchema.Proofs.Schema.References
import GraphSchema.Proofs.Schema.Collisions
import GraphSchema.Proofs.Schema.DistinctNames
import GraphSchema.Proofs.Graph.Validity
import GraphSchema.Proofs.Text.OneLine
import GraphSchema.Proofs.Schema.Reading
import GraphSchema.Proofs.Schema.Blocks
import GraphSchema.Proofs.Schema.Outcome
import GraphSchema.Proofs.Graph.Loading
import GraphSchema.Proofs.Graph.Validated
import GraphSchema.Proofs.Schema.PropertyText
import GraphSchema.Proofs.Graph.Renaming
import GraphSchema.Proofs.Schema.Renaming
import GraphSchema.Proofs.Schema.Growth
import GraphSchema.Proofs.Schema.WholeText
import GraphSchema.Proofs.Graph.Contents
import GraphSchema.Proofs.CommandLine.Sessions
import GraphSchema.Proofs.Delivery
import GraphSchema.Proofs.CommandLine.Agreement
import GraphSchema.Proofs.Schema.CollisionReport
import GraphSchema.Proofs.Graph.History
import GraphSchema.Proofs.CommandLine.FileLoading
import GraphSchema.Proofs.CommandLine.Streams
import GraphSchema.Proofs.Schema.Identifiers
import GraphSchema.Proofs.Text.Capitals
import GraphSchema.Proofs.Schema.InputTypes
import GraphSchema.Proofs.Schema.Repetition
import GraphSchema.Proofs.Schema.Assembly
import GraphSchema.Proofs.Schema.Recovery
import GraphSchema.Proofs.Schema.SettingsReach
import GraphSchema.Proofs.Schema.FreshLinks
import GraphSchema.Proofs.Graph.Refusals
import GraphSchema.Proofs.Graph.Atomicity
import GraphSchema.Proofs.Graph.Dump
import GraphSchema.Proofs.Text.Words
import GraphSchema.Proofs.Text.LetterCase
import GraphSchema.Proofs.Text.Stability
import GraphSchema.Proofs.Graph.FieldNames
import GraphSchema.Proofs.Graph.Respelling
import GraphSchema.Proofs.Files.Changes
import GraphSchema.Proofs.Files.Replacement
import GraphSchema.Proofs.Logging.Handlers
import GraphSchema.Proofs.Logging.Memory
